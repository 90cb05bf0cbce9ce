import ModuleDocs.Proofs.Docstring
import ModuleDocs.Proofs.Entries
import ModuleDocs.Proofs.Interface.Exported

/-!
# Comments of declarations

Which comment a name gets when several statements declare it: that of the last one that has a comment. This statement is
kept for the name, or the first one if none has a comment, and what stands inside it is documented in the same way.
-/

namespace ModuleDocs

open Source

namespace Source.Stmt

/-- The alias that an annotation without a value announces. It is not listed in the interface. -/
def announcedNames : Stmt → List String
  | .annotated (.name id) type none => if isAliasMark type then [id] else []
  | _ => []

/-- The names that a statement declares: those listed for it in the interface, and an announced alias. -/
def declaredNames (s : Stmt) : List String := s.typeNames ++ s.valueNames ++ s.announcedNames

/-- A statement gives a comment to the names it declares: a function or a class its own docstring, any other statement
that of the string literal after it, if such literals count. -/
inductive HasComment (env : Environment) (following : Option Stmt) : Stmt → Text → Prop where
  | ofFunction {head : FunctionHead} {body : List Stmt} {comment : Text} : Docstring.Opens body comment →
      HasComment env following (.function head body) comment
  | ofClass {head : ClassHead} {body : List Stmt} {comment : Text} : Docstring.Opens body comment →
      HasComment env following (.class head body) comment
  | attached {s : Stmt} {literal comment : Text} {marked : Bool} : (∀ head body, s ≠ .function head body) →
      (∀ head body, s ≠ .class head body) → env.attributeDocstrings = true →
      following = some (.expr (.constant (.str literal marked))) → Docstring.Cleaned literal comment →
      HasComment env following s comment

/-- The comment that is found for a statement. -/
def comment? (env : Environment) (following : Option Stmt) : Stmt → Option Text
  | .function _ body => Docstring.ofBody body
  | .class _ body => Docstring.ofBody body
  | _ => Comments.attached env following

theorem attached_eq_some {env : Environment} {following : Option Stmt} {t : Text} :
    Comments.attached env following = some t ↔ env.attributeDocstrings = true ∧ ∃ literal marked,
      following = some (.expr (.constant (.str literal marked))) ∧ Docstring.Cleaned literal t := by
  unfold Comments.attached
  cases env.attributeDocstrings with
  | false => simp
  | true =>
    simp only [if_true, Option.map_eq_some_iff, Option.bind_eq_some_iff, Docstring.literal?_eq_some, true_and]
    constructor
    · rintro ⟨literal, ⟨s, hs, marked, rfl⟩, rfl⟩
      exact ⟨literal, marked, hs, Docstring.cleaned_iff.mpr rfl⟩
    · rintro ⟨literal, marked, hs, hcleaned⟩
      exact ⟨literal, ⟨_, hs, marked, rfl⟩, (Docstring.cleaned_iff.mp hcleaned).symm⟩

theorem comment?_eq_some {env : Environment} {following : Option Stmt} {s : Stmt} {t : Text} :
    s.comment? env following = some t ↔ s.HasComment env following t := by
  constructor
  · intro h
    cases s with
    | function head body => exact .ofFunction (Docstring.ofBody_eq_some.mp h)
    | «class» head body => exact .ofClass (Docstring.ofBody_eq_some.mp h)
    | _ =>
      obtain ⟨hon, literal, marked, hfollowing, hcleaned⟩ := attached_eq_some.mp h
      exact .attached (by simp) (by simp) hon hfollowing hcleaned
  · intro h
    cases h with
    | ofFunction hopens => exact Docstring.ofBody_eq_some.mpr hopens
    | ofClass hopens => exact Docstring.ofBody_eq_some.mpr hopens
    | attached hfunction hclass hon hfollowing hcleaned =>
      have hattached := attached_eq_some.mpr ⟨hon, _, _, hfollowing, hcleaned⟩
      cases s with
      | function head body => exact absurd rfl (hfunction head body)
      | «class» head body => exact absurd rfl (hclass head body)
      | _ => exact hattached

theorem comment?_eq_none {env : Environment} {following : Option Stmt} {s : Stmt} :
    s.comment? env following = none ↔ ∀ t, ¬ s.HasComment env following t := by
  simp only [Option.eq_none_iff_forall_not_mem, Option.mem_def, comment?_eq_some]

/-- The statements inside a class. Those inside other statements declare no members. -/
def inner : Stmt → List Stmt
  | .class _ body => body
  | _ => []

theorem sizeOf_inner_le (s : Stmt) : sizeOf s.inner ≤ sizeOf s := by
  cases s with
  | «class» head body =>
    simp only [inner, Stmt.class.sizeOf_spec]
    omega
  | other => exact Nat.le_refl 1
  | _ =>
    simp only [inner, List.nil.sizeOf_spec, Stmt.function.sizeOf_spec, Stmt.annotated.sizeOf_spec,
      Stmt.assign.sizeOf_spec, Stmt.augmented.sizeOf_spec, Stmt.expr.sizeOf_spec]
    omega

end Source.Stmt

namespace Comments

open CommentTree (mk)

variable {env : Environment} {members : List (Text × Comments)}

/-! ### Members by name -/

theorem lookup_put (members : List (Text × Comments)) (name key : Text) (c : Comments) :
    (put members name c).lookup key = if key = name then some c else members.lookup key :=
  Entries.lookup_put members name key c

theorem keys_put (members : List (Text × Comments)) (name : Text) (c : Comments) :
    (put members name c).map Prod.fst =
      if name ∈ members.map Prod.fst then members.map Prod.fst else members.map Prod.fst ++ [name] := by
  rcases Entries.keys_put members name c with ⟨hname, hkeys⟩ | ⟨hname, hkeys⟩
  · rw [if_pos hname]
    exact hkeys
  · rw [if_neg hname]
    exact hkeys

theorem nodup_put (h : (members.map Prod.fst).Nodup) (name : Text) (c : Comments) :
    ((put members name c).map Prod.fst).Nodup :=
  Entries.nodup_put h c

/-! ### Declarations of one statement -/

/-- A declaration without a comment is put only where there is none of the name. -/
theorem declare_eq (members : List (Text × Comments)) (name : String) (c : Comments) :
    declare members name c =
      if Text.ofString name ∉ members.map Prod.fst ∨ c.comment.isSome = true then put members (Text.ofString name) c
      else members := by
  have hcondition : ((members.lookup (Text.ofString name)).isNone || c.comment.isSome) = true ↔
      Text.ofString name ∉ members.map Prod.fst ∨ c.comment.isSome = true := by
    rw [Bool.or_eq_true, ← Entries.lookup_isSome, Option.isNone_iff_eq_none, Bool.not_eq_true,
      Option.isSome_eq_false_iff, Option.isNone_iff_eq_none]
  exact if_congr hcondition rfl rfl

theorem lookup_declare (members : List (Text × Comments)) (name n : String) (c : Comments) :
    (declare members name c).lookup (Text.ofString n) =
      if n = name then (if c.comment.isSome = true then some c else (members.lookup (Text.ofString n)).or (some c))
      else members.lookup (Text.ofString n) := by
  rw [declare_eq]
  by_cases hn : n = name
  · subst hn
    rw [if_pos rfl]
    by_cases hcomment : c.comment.isSome = true
    · rw [if_pos (.inr hcomment), if_pos hcomment, lookup_put, if_pos rfl]
    · rw [if_neg hcomment]
      by_cases hkey : Text.ofString n ∈ members.map Prod.fst
      · obtain ⟨d, hd⟩ := Option.isSome_iff_exists.mp (Entries.lookup_isSome.mpr hkey)
        rw [if_neg (by simp [hkey, hcomment]), hd]
        rfl
      · rw [if_pos (.inl hkey), lookup_put, if_pos rfl, Entries.lookup_eq_none.mpr hkey]
        rfl
  · have hkey : Text.ofString n ≠ Text.ofString name := fun h => hn (Text.ofString_inj.mp h)
    rw [if_neg hn]
    split
    · rw [lookup_put, if_neg hkey]
    · rfl

theorem nodup_declare (h : (members.map Prod.fst).Nodup) (name : String) (c : Comments) :
    ((declare members name c).map Prod.fst).Nodup := by
  rw [declare_eq]
  split
  · exact nodup_put h _ c
  · exact h

theorem mem_keys_declare (members : List (Text × Comments)) (name : String) (c : Comments) (key : Text) :
    key ∈ (declare members name c).map Prod.fst ↔ key = Text.ofString name ∨ key ∈ members.map Prod.fst := by
  have hkeys : Text.ofString name ∈ members.map Prod.fst →
      (key ∈ members.map Prod.fst ↔ key = Text.ofString name ∨ key ∈ members.map Prod.fst) :=
    fun hname => ⟨.inr, fun h => h.elim (fun hkey => hkey ▸ hname) id⟩
  rw [declare_eq]
  split
  · rw [keys_put]
    split
    · rename_i hname
      exact hkeys hname
    · rw [List.mem_append, List.mem_singleton, or_comm]
  · rename_i hkept
    exact hkeys (not_not.mp fun hname => hkept (.inl hname))

/-- What a statement gives to each of the names it declares. -/
def ofDeclaration (env : Environment) (following : Option Stmt) (s : Stmt) : Comments :=
  mk (s.comment? env following) (ofStmts env [] s.inner)

theorem assignedNames_eq {s : Stmt} (hfunction : ∀ head body, s ≠ .function head body)
    (hclass : ∀ head body, s ≠ .class head body) : assignedNames s = s.declaredNames := by
  cases s with
  | function head body => exact absurd rfl (hfunction head body)
  | «class» head body => exact absurd rfl (hclass head body)
  | annotated target type value =>
    cases target with
    | name id =>
      -- The name is that of an alias with or without a value, or of a variable.
      cases hmark : isAliasMark type <;> cases value <;>
        simp [assignedNames, Stmt.declaredNames, Stmt.typeNames, Stmt.valueNames, Stmt.announcedNames, hmark]
    | _ => rfl
  | assign targets value => exact (List.append_nil _).symm
  | _ => rfl

theorem ofStmt_eq (env : Environment) (following : Option Stmt) (s : Stmt) :
    ofStmt env following s = s.declaredNames.map fun n => (n, ofDeclaration env following s) := by
  have hleaf : ofStmts env [] [] = [] := by rw [ofStmts]
  have hassigned : ∀ {s : Stmt}, (∀ head body, s ≠ .function head body) → (∀ head body, s ≠ .class head body) →
      (assignedNames s).map (fun n => (n, mk (attached env following) [])) =
        s.declaredNames.map fun n => (n, ofDeclaration env following s) := by
    intro s hfunction hclass
    have hinner : s.inner = [] ∧ s.comment? env following = attached env following := by
      cases s with
      | function head body => exact absurd rfl (hfunction head body)
      | «class» head body => exact absurd rfl (hclass head body)
      | _ => exact ⟨rfl, rfl⟩
    rw [assignedNames_eq hfunction hclass, ofDeclaration, hinner.1, hinner.2, hleaf]
  cases s with
  | function head body =>
    have hinner : (Stmt.function head body).inner = [] := rfl
    rw [ofStmt, ofDeclaration, hinner, hleaf]
    rfl
  | «class» head body =>
    rw [ofStmt]
    rfl
  | _ =>
    rw [ofStmt]
    · exact hassigned (by simp) (by simp)
    · simp
    · simp

/-- What a name is declared with after a statement. -/
theorem lookup_foldl_declare (members : List (Text × Comments)) (names : List String) (c : Comments) (n : String) :
    ((names.map fun m => (m, c)).foldl (fun ms p => declare ms p.1 p.2) members).lookup (Text.ofString n) =
      if n ∈ names then (if c.comment.isSome = true then some c else (members.lookup (Text.ofString n)).or (some c))
      else members.lookup (Text.ofString n) := by
  induction names generalizing members with
  | nil => simp
  | cons name names ih =>
    rw [List.map_cons, List.foldl_cons, ih, lookup_declare]
    by_cases hn : n = name
    · by_cases hcomment : c.comment.isSome = true
      · simp [hn, hcomment]
      · simp [hn, hcomment]
    · simp [hn]

theorem foldl_declare_keys (members : List (Text × Comments)) (names : List String) (c : Comments) (key : Text) :
    key ∈ ((names.map fun m => (m, c)).foldl (fun ms p => declare ms p.1 p.2) members).map Prod.fst ↔
      key ∈ names.map Text.ofString ∨ key ∈ members.map Prod.fst := by
  induction names generalizing members with
  | nil => simp
  | cons name names ih =>
    rw [List.map_cons, List.foldl_cons, ih, mem_keys_declare, List.map_cons, List.mem_cons, or_left_comm, or_assoc]

theorem foldl_declare_nodup (h : (members.map Prod.fst).Nodup) (names : List String) (c : Comments) :
    (((names.map fun m => (m, c)).foldl (fun ms p => declare ms p.1 p.2) members).map Prod.fst).Nodup := by
  induction names generalizing members with
  | nil => exact h
  | cons name names ih => exact ih (nodup_declare h name c)

/-! ### Declarations of a body -/

theorem ofStmts_cons (env : Environment) (members : List (Text × Comments)) (s : Stmt) (rest : List Stmt) :
    ofStmts env members (s :: rest) =
      ofStmts env ((s.declaredNames.map fun n => (n, ofDeclaration env rest.head? s)).foldl
        (fun ms p => declare ms p.1 p.2) members) rest := by
  rw [ofStmts, ofStmt_eq]

theorem ofStmts_nodup (h : (members.map Prod.fst).Nodup) (body : List Stmt) :
    ((ofStmts env members body).map Prod.fst).Nodup := by
  induction body generalizing members with
  | nil => rwa [ofStmts]
  | cons s rest ih =>
    rw [ofStmts_cons]
    exact ih (foldl_declare_nodup h _ _)

theorem ofStmts_keys (members : List (Text × Comments)) (body : List Stmt) (key : Text) :
    key ∈ (ofStmts env members body).map Prod.fst ↔
      (∃ n, key = Text.ofString n ∧ ∃ s ∈ body, n ∈ s.declaredNames) ∨ key ∈ members.map Prod.fst := by
  induction body generalizing members with
  | nil =>
    rw [ofStmts]
    simp
  | cons s rest ih =>
    rw [ofStmts_cons, ih, foldl_declare_keys, ← or_assoc]
    refine or_congr_left ?_
    simp only [List.mem_map, List.exists_mem_cons_iff, and_or_left, exists_or]
    rw [or_comm]
    refine or_congr_left ⟨?_, ?_⟩
    · rintro ⟨n, hn, rfl⟩
      exact ⟨n, rfl, hn⟩
    · rintro ⟨n, rfl, hn⟩
      exact ⟨n, hn, rfl⟩

/-- The last statement to declare a name with a comment, and the comment. -/
def lastDocumented? (env : Environment) (n : String) : List Stmt → Option (Stmt × Text)
  | [] => none
  | s :: rest =>
    (lastDocumented? env n rest).or
      (if n ∈ s.declaredNames then (s.comment? env rest.head?).map (s, ·) else none)

def firstDeclaring? (n : String) (body : List Stmt) : Option Stmt := body.find? fun s => n ∈ s.declaredNames

theorem firstDeclaring?_cons (n : String) (s : Stmt) (rest : List Stmt) :
    firstDeclaring? n (s :: rest) = if n ∈ s.declaredNames then some s else firstDeclaring? n rest := by
  rw [firstDeclaring?, List.find?_cons]
  by_cases hn : n ∈ s.declaredNames <;> simp [hn, firstDeclaring?]

/-- A name has the comment and the members of the last statement with a comment, and otherwise those it had before or
those of the first statement. -/
theorem lookup_ofStmts (members : List (Text × Comments)) (body : List Stmt) (n : String) :
    (ofStmts env members body).lookup (Text.ofString n) =
      ((lastDocumented? env n body).map fun p => mk (some p.2) (ofStmts env [] p.1.inner)).or
        ((members.lookup (Text.ofString n)).or
          ((firstDeclaring? n body).map fun s => mk none (ofStmts env [] s.inner))) := by
  induction body generalizing members with
  | nil =>
    rw [ofStmts]
    simp [lastDocumented?, firstDeclaring?]
  | cons s rest ih =>
    rw [ofStmts_cons, ih, lookup_foldl_declare, lastDocumented?, firstDeclaring?_cons]
    cases hlast : lastDocumented? env n rest with
    | some p => simp
    | none =>
      by_cases hn : n ∈ s.declaredNames
      · cases hcomment : s.comment? env rest.head? with
        | some t => simp [hn, hcomment, ofDeclaration, CommentTree.comment]
        | none =>
          cases hlookup : members.lookup (Text.ofString n) with
          | some d => simp [hn, hcomment, ofDeclaration, CommentTree.comment]
          | none => simp [hn, hcomment, ofDeclaration, CommentTree.comment]
      · simp [hn]

end Comments

/-! ### The statement kept for a name -/

/-- No statement that declares the name has a comment. -/
def Undocumented (env : Environment) (body : List Stmt) (n : String) : Prop :=
  ∀ earlier s later, body = earlier ++ s :: later → n ∈ s.declaredNames →
    ∀ t, ¬ s.HasComment env later.head? t

/-- The statement that is kept for a name, with its comment: the last one with a comment, or the first one if none has
a comment. -/
inductive Kept (env : Environment) (body : List Stmt) (n : String) : Stmt → Option Text → Prop where
  | documented {earlier later : List Stmt} {s : Stmt} {t : Text} : body = earlier ++ s :: later →
      n ∈ s.declaredNames → s.HasComment env later.head? t → Undocumented env later n →
      Kept env body n s (some t)
  | undocumented {earlier later : List Stmt} {s : Stmt} : body = earlier ++ s :: later → n ∈ s.declaredNames →
      (∀ s' ∈ earlier, n ∉ s'.declaredNames) → Undocumented env body n → Kept env body n s none

/-- Members document the statements of a body: there is one for each name that is declared, with the comment of the
statement kept for the name, and its own members document what stands inside this statement. -/
inductive Documents (env : Environment) : List Stmt → List (Text × Comments) → Prop where
  | mk {body : List Stmt} {members : List (Text × Comments)} (kept : String → Stmt) :
      (members.map Prod.fst).Nodup →
      (∀ key, key ∈ members.map Prod.fst ↔ ∃ n, key = Text.ofString n ∧ ∃ s ∈ body, n ∈ s.declaredNames) →
      (∀ n c, members.lookup (Text.ofString n) = some c → Kept env body n (kept n) c.comment) →
      (∀ n c, members.lookup (Text.ofString n) = some c → Documents env (kept n).inner c.members) →
      Documents env body members

variable {env : Environment} {body : List Stmt} {n : String}

theorem undocumented_cons {s : Stmt} {rest : List Stmt} : Undocumented env (s :: rest) n ↔
    (n ∈ s.declaredNames → ∀ t, ¬ s.HasComment env rest.head? t) ∧ Undocumented env rest n := by
  constructor
  · intro h
    exact ⟨h [] s rest rfl, fun earlier s' later hrest => h (s :: earlier) s' later (by rw [hrest]; rfl)⟩
  · rintro ⟨hs, hrest⟩ earlier s' later hbody
    cases earlier with
    | nil =>
      cases hbody
      exact hs
    | cons e earlier =>
      cases hbody
      exact hrest earlier s' later rfl

namespace Comments

theorem lastDocumented?_eq_none : lastDocumented? env n body = none ↔ Undocumented env body n := by
  induction body with
  | nil => simp [lastDocumented?, Undocumented]
  | cons s rest ih =>
    rw [lastDocumented?, Option.or_eq_none_iff, ih, undocumented_cons, and_comm]
    refine and_congr_left fun _ => ?_
    rw [← Stmt.comment?_eq_none]
    by_cases hn : n ∈ s.declaredNames <;> simp [hn]

theorem lastDocumented?_kept {s : Stmt} {t : Text} (h : lastDocumented? env n body = some (s, t)) :
    Kept env body n s (some t) := by
  induction body with
  | nil => cases h
  | cons first rest ih =>
    rw [lastDocumented?] at h
    cases hrest : lastDocumented? env n rest with
    | some p =>
      rw [hrest] at h
      cases h
      cases ih hrest with
      | @documented earlier later _ _ hbody hn hcomment hlater =>
        have hsplit : first :: rest = (first :: earlier) ++ s :: later := by rw [hbody, List.cons_append]
        exact .documented hsplit hn hcomment hlater
    | none =>
      rw [hrest, Option.none_or] at h
      by_cases hn : n ∈ first.declaredNames
      · rw [if_pos hn, Option.map_eq_some_iff] at h
        obtain ⟨t', hcomment, ⟨⟩⟩ := h
        exact .documented (List.nil_append _).symm hn (Stmt.comment?_eq_some.mp hcomment)
          (lastDocumented?_eq_none.mp hrest)
      · rw [if_neg hn] at h
        cases h

theorem firstDeclaring?_kept {s : Stmt} (h : firstDeclaring? n body = some s) (hnone : Undocumented env body n) :
    Kept env body n s none := by
  obtain ⟨hn, earlier, later, hbody, hearlier⟩ := List.find?_eq_some_iff_append.mp h
  exact .undocumented hbody (by simpa using hn) (by simpa using hearlier) hnone

/-- Every name that is looked up has the comment and the members of the statement kept for it. -/
theorem lookup_ofStmts_kept {c : Comments} (h : (ofStmts env [] body).lookup (Text.ofString n) = some c) :
    ∃ s, Kept env body n s c.comment ∧ c.members = ofStmts env [] s.inner := by
  rw [lookup_ofStmts, List.lookup_nil, Option.none_or] at h
  cases hlast : lastDocumented? env n body with
  | some p =>
    rw [hlast] at h
    cases h
    exact ⟨p.1, lastDocumented?_kept hlast, rfl⟩
  | none =>
    rw [hlast] at h
    obtain ⟨s, hs, rfl⟩ := Option.map_eq_some_iff.mp h
    exact ⟨s, firstDeclaring?_kept hs (lastDocumented?_eq_none.mp hlast), rfl⟩

end Comments

theorem Kept.mem {s : Stmt} {t : Option Text} (h : Kept env body n s t) : s ∈ body := by
  cases h with
  | documented hbody => rw [hbody]; exact List.mem_append_right _ List.mem_cons_self
  | undocumented hbody => rw [hbody]; exact List.mem_append_right _ List.mem_cons_self

theorem Documents.eq_nil {members : List (Text × Comments)} (h : Documents env [] members) : members = [] := by
  cases h with
  | mk kept _ hkeys =>
    have hnone : ∀ key, key ∉ members.map Prod.fst := fun key hkey => by simpa using (hkeys key).mp hkey
    exact List.map_eq_nil_iff.mp (List.eq_nil_iff_forall_not_mem.mpr hnone)

theorem ofStmts_documents (env : Environment) (body : List Stmt) :
    Documents env body (Comments.ofStmts env [] body) := by
  -- By size: what is kept for a name is one of the statements, and those inside a class are smaller.
  induction hsize : sizeOf body using Nat.strong_induction_on generalizing body with
  | _ size ih =>
    have hkept : ∀ n, ∃ s, ∀ c, (Comments.ofStmts env [] body).lookup (Text.ofString n) = some c →
        Kept env body n s c.comment ∧ c.members = Comments.ofStmts env [] s.inner := by
      intro n
      cases hlookup : (Comments.ofStmts env [] body).lookup (Text.ofString n) with
      | none => exact ⟨.other, fun c hc => (nomatch hc)⟩
      | some c =>
        obtain ⟨s, hs⟩ := Comments.lookup_ofStmts_kept hlookup
        exact ⟨s, fun c' hc' => by cases hc'; exact hs⟩
    choose kept hkept using hkept
    refine .mk kept (Comments.ofStmts_nodup (by simp) body) ?_ (fun n c hc => (hkept n c hc).1) ?_
    · intro key
      rw [Comments.ofStmts_keys]
      simp
    · intro n c hc
      obtain ⟨hstatement, hmembers⟩ := hkept n c hc
      rw [hmembers]
      have hsmaller : sizeOf (kept n).inner < size := by
        have hmem := List.sizeOf_lt_of_mem hstatement.mem
        have hinner := (kept n).sizeOf_inner_le
        omega
      exact ih _ hsmaller _ rfl

theorem declared_of_entry {entries : List Entry} {names : Stmt → List String}
    (hentries : entries.map Entry.name = (body.flatMap names).map Text.ofString)
    (hnames : ∀ s, ∀ n ∈ names s, n ∈ s.declaredNames) {e : Entry} (he : e ∈ entries) :
    ∃ n, e.name = Text.ofString n ∧ ∃ s ∈ body, n ∈ s.declaredNames := by
  have hmem : e.name ∈ entries.map Entry.name := List.mem_map_of_mem he
  rw [hentries] at hmem
  obtain ⟨n, hn, heq⟩ := List.mem_map.mp hmem
  obtain ⟨s, hs, hdeclared⟩ := List.mem_flatMap.mp hn
  exact ⟨n, heq.symm, s, hs, hnames s n hdeclared⟩

namespace Environment

/-- The comments of an accepted module document its statements, at every depth, and the module has its own docstring as
its comment. The names that a statement declares are those of its entries, apart from announced aliases, so every entry
has a member, with the comment of the statement kept for its name. -/
theorem interface_documented {env : Environment} {body : List Stmt} {i : Interface} (h : env.interface body = .ok i) :
    (∀ module source, Parses source body →
      (Checker.python env).check module source = .ok (i, Comments.ofBody env body)) ∧
    (∀ s ∈ body, ∃ k types values k', Declares (Aliases.ofBody body) k s types values k' ∧
      s.declaredNames.map Text.ofString =
        types.map Entry.name ++ values.map Entry.name ++ s.announcedNames.map Text.ofString) ∧
    (∀ t, (Comments.ofBody env body).comment = some t ↔ Docstring.Opens body t) ∧
    Documents env body (Comments.ofBody env body).members ∧
    ∀ e ∈ i.types ++ i.values, ∃ n s c, e.name = Text.ofString n ∧
      (Comments.ofBody env body).members.lookup e.name = some c ∧ Kept env body n s c.comment ∧
      (Comments.ofBody env body).commentFor e.name = c.comment.getD [] ∧
      Documents env s.inner c.members ∧ (s.inner = [] → c.members = []) := by
  obtain ⟨types, values, k, hdeclares, rfl⟩ := interface_eq_ok h
  have hdocuments : Documents env body (Comments.ofBody env body).members := ofStmts_documents env body
  refine ⟨fun module _ hparses => Checker.python_check_of_interface hparses h module, ?_,
    fun t => Docstring.ofBody_eq_some, hdocuments, ?_⟩
  · intro s hs
    obtain ⟨k₁, types₁, values₁, k₂, hstatement⟩ := hdeclares.mem hs
    refine ⟨k₁, types₁, values₁, k₂, hstatement, ?_⟩
    rw [hstatement.names.1, hstatement.names.2, Stmt.declaredNames, List.map_append, List.map_append]
  · intro e he
    obtain ⟨htypes, hvalues⟩ := hdeclares.names
    have hname : ∃ n, e.name = Text.ofString n ∧ ∃ s ∈ body, n ∈ s.declaredNames := by
      rcases List.mem_append.mp he with he | he
      · exact declared_of_entry htypes (fun s n hn => by simp [Stmt.declaredNames, hn]) (List.mem_filter.mp he).1
      · exact declared_of_entry hvalues (fun s n hn => by simp [Stmt.declaredNames, hn]) (List.mem_filter.mp he).1
    cases hdocuments with
    | mk kept hnodup hkeys hkept hinner =>
      obtain ⟨c, hc⟩ := Option.isSome_iff_exists.mp (Entries.lookup_isSome.mpr ((hkeys e.name).mpr hname))
      obtain ⟨n, hn, -⟩ := hname
      have hbelow := hinner n c (hn ▸ hc)
      refine ⟨n, kept n, c, hn, hc, hkept n c (hn ▸ hc), ?_, hbelow, fun hnil => ?_⟩
      · rw [Comments.commentFor, hc]
        rfl
      · rw [hnil] at hbelow
        exact hbelow.eq_nil

/-- A variable with a comment, a function, and a class with the name of the variable. The docstrings of the function and
the class have several lines, and so has that of the method. -/
def redeclared : List Stmt :=
  [.expr (.constant (.str "  About all.\n" false)),
    .assign [.name "f"] (.constant (.int 1)), .expr (.constant (.str "About f." false)),
    .function ⟨"g", false, .empty, none⟩ [.expr (.constant (.str "\n\tRuns.\n\n\t  Twice.\n\t" false))],
    .class ⟨"f", [], []⟩
      [.expr (.constant (.str "A class.\n    With\n      lines.\n    " true)), .assign [.name "x"] (.constant .none),
        .function ⟨"m", false, .empty, none⟩ [.expr (.constant (.str " Does.\n   So." false))]]]

theorem interface_documented_redeclared :
    ∃ i members, (Environment.mk false true).interface redeclared = .ok i ∧
      Comments.ofBody ⟨false, true⟩ redeclared = .mk (some (Text.ofString "About all.")) members ∧
      i.types.map Entry.name = [Text.ofString "f"] ∧ i.values.map Entry.name = [Text.ofString "f", Text.ofString "g"] ∧
      members.lookup (Text.ofString "f") = some (.mk (some (Text.ofString "A class.\nWith\n  lines."))
        [(Text.ofString "x", .mk none []), (Text.ofString "m", .mk (some (Text.ofString "Does.\nSo.")) [])]) ∧
      members.lookup (Text.ofString "g") = some (.mk (some (Text.ofString "Runs.\n\n  Twice.")) []) ∧
      Docstring.Opens redeclared (Text.ofString "About all.") ∧
      (∃ s, Kept ⟨false, true⟩ redeclared "g" s (some (Text.ofString "Runs.\n\n  Twice."))) ∧
      Documents ⟨false, true⟩ redeclared members := by
  have hinterface : (Environment.mk false true).interface redeclared =
      .ok ⟨[⟨Text.ofString "f", Text.ofString "class f", Text.ofString "class f"⟩],
        [⟨Text.ofString "f", Text.ofString "int", Text.ofString "int"⟩,
          ⟨Text.ofString "g", Text.ofString "()", Text.ofString "()"⟩]⟩ := by cbv
  have hcomments : Comments.ofBody ⟨false, true⟩ redeclared = .mk (some (Text.ofString "About all."))
      [(Text.ofString "f", .mk (some (Text.ofString "A class.\nWith\n  lines."))
        [(Text.ofString "x", .mk none []), (Text.ofString "m", .mk (some (Text.ofString "Does.\nSo.")) [])]),
        (Text.ofString "g", .mk (some (Text.ofString "Runs.\n\n  Twice.")) [])] := by cbv
  obtain ⟨-, -, hopens, hdocuments, hentries⟩ := interface_documented hinterface
  obtain ⟨n, s, c, hname, hlookup, hkept, -⟩ :=
    hentries _ (List.mem_append_right _ (List.mem_cons_of_mem _ List.mem_cons_self))
  rw [hcomments] at hopens hdocuments hlookup
  obtain rfl : n = "g" := (Text.ofString_inj.mp hname).symm
  have hc : c = .mk (some (Text.ofString "Runs.\n\n  Twice.")) [] := (Option.some.inj hlookup).symm
  rw [hc] at hkept
  exact ⟨_, _, hinterface, hcomments, rfl, rfl, rfl, rfl, (hopens _).mp rfl, ⟨s, hkept⟩, hdocuments⟩

end Environment

end ModuleDocs
