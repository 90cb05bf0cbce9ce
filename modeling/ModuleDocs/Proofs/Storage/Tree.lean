import ModuleDocs.Proofs.Entries
import ModuleDocs.Proofs.Path
import ModuleDocs.Storage.Disk

/-!
# Places in a file tree

What stands at a place of a tree, apart from what is below it. A file or an empty directory put where nothing
stood, and a file put in the place of a file, change the tree at that place only. Trees in which every
directory has its entries under names of their own stay so.
-/

namespace ModuleDocs

namespace Node

/-! ### Nodes below a node -/

theorem get?_nil (n : Node) : n.get? [] = some n := by
  cases n <;> rfl

theorem get?_dir_cons (es : List (Text × Node)) (name : Text) (rest : List Text) :
    (dir es).get? (name :: rest) = (es.lookup name).bind fun n => n.get? rest := by
  rw [get?]

theorem get?_file_cons (c : List UInt8) (name : Text) (rest : List Text) :
    (file c).get? (name :: rest) = none := by
  rw [get?]
  intro es h
  cases h

theorem get?_link_cons (t : Text) (name : Text) (rest : List Text) :
    (link t).get? (name :: rest) = none := by
  rw [get?]
  intro es h
  cases h

theorem get?_append (n : Node) (place rest : List Text) :
    n.get? (place ++ rest) = (n.get? place).bind fun m => m.get? rest := by
  induction place generalizing n with
  | nil => rw [List.nil_append, get?_nil, Option.bind_some]
  | cons name place ih =>
    cases n with
    | file c => rw [List.cons_append, get?_file_cons, get?_file_cons, Option.bind_none]
    | link t => rw [List.cons_append, get?_link_cons, get?_link_cons, Option.bind_none]
    | dir es =>
      rw [List.cons_append, get?_dir_cons, get?_dir_cons]
      cases es.lookup name with
      | none => rfl
      | some m => exact ih m

/-- The way to a node leads through a directory that has the last name. -/
theorem get?_snoc {n m : Node} {place : List Text} {name : Text} (h : n.get? (place ++ [name]) = some m) :
    ∃ es, n.get? place = some (dir es) ∧ es.lookup name = some m := by
  rw [get?_append] at h
  obtain ⟨k, hk, hm⟩ := Option.bind_eq_some_iff.mp h
  cases k with
  | file c => rw [get?_file_cons] at hm; cases hm
  | link t => rw [get?_link_cons] at hm; cases hm
  | dir es =>
    rw [get?_dir_cons] at hm
    obtain ⟨k', hk', hm'⟩ := Option.bind_eq_some_iff.mp hm
    rw [get?_nil] at hm'
    cases hm'
    exact ⟨es, hk, hk'⟩

/-- Everything above a node is a directory. -/
theorem get?_above {n m : Node} {place : List Text} {name : Text} {rest : List Text}
    (h : n.get? (place ++ name :: rest) = some m) : ∃ es, n.get? place = some (dir es) := by
  have hs : place ++ name :: rest = (place ++ [name]) ++ rest := by simp
  rw [hs, get?_append] at h
  obtain ⟨k, hk, _⟩ := Option.bind_eq_some_iff.mp h
  obtain ⟨es, hes, _⟩ := get?_snoc hk
  exact ⟨es, hes⟩

/-! ### What stands at a place -/

/-- A node without what is below it. -/
inductive Kind where
  | file (content : List UInt8)
  | dir
  | link (target : Text)
  deriving Repr, DecidableEq

def kind : Node → Kind
  | file c => .file c
  | dir _ => .dir
  | link t => .link t

def at? (n : Node) (place : List Text) : Option Kind := (n.get? place).map kind

theorem at?_eq_none {n : Node} {place : List Text} : n.at? place = none ↔ n.get? place = none :=
  Option.map_eq_none_iff

theorem at?_eq_dir {n : Node} {place : List Text} :
    n.at? place = some .dir ↔ ∃ es, n.get? place = some (dir es) := by
  unfold at?
  constructor
  · intro h
    obtain ⟨m, hm, hk⟩ := Option.map_eq_some_iff.mp h
    cases m with
    | file c => cases hk
    | link t => cases hk
    | dir es => exact ⟨es, hm⟩
  · rintro ⟨es, h⟩
    rw [h]
    rfl

theorem at?_eq_file {n : Node} {place : List Text} {c : List UInt8} :
    n.at? place = some (.file c) ↔ n.get? place = some (file c) := by
  unfold at?
  constructor
  · intro h
    obtain ⟨m, hm, hk⟩ := Option.map_eq_some_iff.mp h
    cases m with
    | file c' => cases hk; exact hm
    | link t => cases hk
    | dir es => cases hk
  · intro h
    rw [h]
    rfl

theorem at?_eq_link {n : Node} {place : List Text} {t : Text} :
    n.at? place = some (.link t) ↔ n.get? place = some (link t) := by
  unfold at?
  constructor
  · intro h
    obtain ⟨m, hm, hk⟩ := Option.map_eq_some_iff.mp h
    cases m with
    | file c' => cases hk
    | link t => cases hk; exact hm
    | dir es => cases hk
  · intro h
    rw [h]
    rfl

theorem at?_nil (n : Node) : n.at? [] = some n.kind := by
  unfold at?
  rw [get?_nil]
  rfl

theorem at?_dir_cons (es : List (Text × Node)) (name : Text) (rest : List Text) :
    (dir es).at? (name :: rest) = (es.lookup name).bind fun n => n.at? rest := by
  unfold at?
  rw [get?_dir_cons]
  cases es.lookup name <;> rfl

theorem at?_dir_cons_eq_some {es : List (Text × Node)} {name : Text} {rest : List Text} {k : Kind}
    (h : (dir es).at? (name :: rest) = some k) : ∃ n, es.lookup name = some n ∧ n.at? rest = some k := by
  rw [at?_dir_cons] at h
  exact Option.bind_eq_some_iff.mp h

/-- The entries of a directory are what is right below its place. -/
theorem get?_entry {n : Node} {place : List Text} {es : List (Text × Node)}
    (h : n.get? place = some (dir es)) (name : Text) : n.get? (place ++ [name]) = es.lookup name := by
  rw [get?_append, h, Option.bind_some, get?_dir_cons]
  cases es.lookup name with
  | none => rfl
  | some m => rw [Option.bind_some, get?_nil]

/-! ### Putting a leaf -/

theorem lookup_putEntry_self (es : List (Text × Node)) (name : Text) (n : Node) :
    (putEntry es name n).lookup name = some n :=
  (Entries.lookup_put es name name n).trans (if_pos rfl)

theorem lookup_putEntry_ne (es : List (Text × Node)) {name other : Text} (n : Node) (h : other ≠ name) :
    (putEntry es name n).lookup other = es.lookup other :=
  (Entries.lookup_put es name other n).trans (if_neg h)

theorem put_snoc_nil (new : Node) (name : Text) (es : List (Text × Node)) :
    put new [name] (dir es) = dir (putEntry es name new) := by
  rw [put, put]

theorem put_cons_dir (new : Node) (name : Text) (rest : List Text) (es : List (Text × Node)) :
    put new (name :: rest) (dir es) =
      dir (putEntry es name (put new rest ((es.lookup name).getD (dir [])))) := by
  rw [put]

/-- Nothing is below the node. -/
def IsLeaf (n : Node) : Prop := ∀ name rest, n.get? (name :: rest) = none

theorem isLeaf_file (c : List UInt8) : (file c).IsLeaf := fun name rest => get?_file_cons c name rest

theorem isLeaf_dir_nil : (dir []).IsLeaf := by
  intro name rest
  rw [get?_dir_cons]
  rfl

theorem IsLeaf.at?_cons {n : Node} (h : n.IsLeaf) (name : Text) (rest : List Text) :
    n.at? (name :: rest) = none := at?_eq_none.mpr (h name rest)

/-- A leaf put into a directory, where nothing is below its place, changes the tree at that place only. -/
theorem at?_put {new : Node} (hnew : new.IsLeaf) {n : Node} {place : List Text} {name : Text}
    (hdir : n.at? place = some .dir) (hbelow : ∀ x rest, n.get? (place ++ name :: x :: rest) = none)
    (q : List Text) :
    (put new (place ++ [name]) n).at? q = if q = place ++ [name] then some new.kind else n.at? q := by
  induction place generalizing n q with
  | nil =>
    obtain ⟨es, hes⟩ := at?_eq_dir.mp hdir
    rw [get?_nil] at hes
    cases hes
    rw [List.nil_append, put_snoc_nil]
    cases q with
    | nil => simp [at?_nil, kind]
    | cons x rest =>
      rw [at?_dir_cons, at?_dir_cons]
      by_cases hx : x = name
      · subst hx
        rw [lookup_putEntry_self, Option.bind_some]
        cases rest with
        | nil => rw [if_pos rfl, at?_nil]
        | cons y rest =>
          have hold : (es.lookup x).bind (fun m => m.at? (y :: rest)) = none := by
            rw [← at?_dir_cons]
            exact at?_eq_none.mpr (hbelow y rest)
          rw [hnew.at?_cons, hold, if_neg (by simp)]
      · rw [lookup_putEntry_ne es new hx, if_neg (by simp [hx])]
  | cons a place ih =>
    obtain ⟨es, hes⟩ : ∃ es, n = dir es := by
      obtain ⟨es, hes⟩ := at?_eq_dir.mp hdir
      rw [← List.nil_append (a :: place)] at hes
      obtain ⟨es', hes'⟩ := get?_above hes
      rw [get?_nil] at hes'
      exact ⟨es', Option.some.inj hes'⟩
    subst hes
    rw [at?_dir_cons] at hdir
    obtain ⟨m, hm, hmdir⟩ := Option.bind_eq_some_iff.mp hdir
    have hmbelow : ∀ x rest, m.get? (place ++ name :: x :: rest) = none := by
      intro x rest
      have h := hbelow x rest
      rw [List.cons_append, get?_dir_cons, hm, Option.bind_some] at h
      exact h
    rw [List.cons_append, put_cons_dir, hm, Option.getD_some]
    cases q with
    | nil => simp [at?_nil, kind]
    | cons x rest =>
      rw [at?_dir_cons, at?_dir_cons]
      by_cases hx : x = a
      · subst hx
        rw [lookup_putEntry_self, hm, Option.bind_some, Option.bind_some, ih hmdir hmbelow rest]
        simp
      · rw [lookup_putEntry_ne es _ hx, if_neg (by simp [hx])]

/-! ### Well-formed trees -/

theorem mem_of_lookup {es : List (Text × Node)} {name : Text} {n : Node} (h : es.lookup name = some n) :
    (name, n) ∈ es := Entries.mem_of_lookup h

/-- Every directory has its entries under different names, which are names that a path can hold. -/
inductive WellFormed : Node → Prop where
  | file (c : List UInt8) : WellFormed (.file c)
  | link (t : Text) : WellFormed (.link t)
  | dir {es : List (Text × Node)} : (es.map Prod.fst).Nodup → (∀ e ∈ es, Path.isName e.1 = true) →
      (∀ e ∈ es, WellFormed e.2) → WellFormed (.dir es)

mutual

def isWellFormed : Node → Bool
  | .file _ => true
  | .link _ => true
  | .dir es => decide (es.map Prod.fst).Nodup && es.all (fun e => Path.isName e.1) && areWellFormed es

def areWellFormed : List (Text × Node) → Bool
  | [] => true
  | e :: es => isWellFormed e.2 && areWellFormed es

end

theorem areWellFormed_iff {es : List (Text × Node)} :
    areWellFormed es = true ↔ ∀ e ∈ es, e.2.isWellFormed = true := by
  induction es with
  | nil => simp [areWellFormed]
  | cons e es ih => simp [areWellFormed, ih]

theorem isWellFormed_iff : (n : Node) → (n.isWellFormed = true ↔ n.WellFormed)
  | .file c => ⟨fun _ => .file c, fun _ => by simp [isWellFormed]⟩
  | .link t => ⟨fun _ => .link t, fun _ => by simp [isWellFormed]⟩
  | .dir es => by
    have hsub : ∀ e ∈ es, (e.2.isWellFormed = true ↔ e.2.WellFormed) := fun e _ => isWellFormed_iff e.2
    simp only [isWellFormed, Bool.and_eq_true, decide_eq_true_eq, List.all_eq_true, areWellFormed_iff]
    constructor
    · rintro ⟨⟨hkeys, hnames⟩, hnodes⟩
      exact .dir hkeys hnames fun e he => (hsub e he).mp (hnodes e he)
    · intro h
      cases h with
      | dir hkeys hnames hnodes => exact ⟨⟨hkeys, hnames⟩, fun e he => (hsub e he).mpr (hnodes e he)⟩
termination_by n => sizeOf n
decreasing_by
  have hlt := List.sizeOf_lt_of_mem ‹e ∈ es›
  cases e
  simp only [Prod.mk.sizeOf_spec, Node.dir.sizeOf_spec] at hlt ⊢
  omega

instance : DecidablePred Node.WellFormed := fun n => decidable_of_iff _ n.isWellFormed_iff

theorem WellFormed.get? {n m : Node} (h : n.WellFormed) {place : List Text} (hm : n.get? place = some m) :
    m.WellFormed ∧ ∀ name ∈ place, Path.isName name = true := by
  induction place generalizing n with
  | nil =>
    rw [get?_nil] at hm
    cases hm
    exact ⟨h, fun name hn => absurd hn List.not_mem_nil⟩
  | cons name place ih =>
    cases h with
    | file c => rw [get?_file_cons] at hm; cases hm
    | link t => rw [get?_link_cons] at hm; cases hm
    | dir hkeys hnames hnodes =>
      rw [get?_dir_cons] at hm
      obtain ⟨k, hk, hm'⟩ := Option.bind_eq_some_iff.mp hm
      have hmem := mem_of_lookup hk
      obtain ⟨hwf, hrest⟩ := ih (hnodes _ hmem) hm'
      refine ⟨hwf, fun x hx => ?_⟩
      rcases List.mem_cons.mp hx with hx | hx
      · rw [hx]
        exact hnames _ hmem
      · exact hrest x hx

theorem mem_putEntry {es : List (Text × Node)} {name : Text} {n : Node} {e : Text × Node}
    (h : e ∈ putEntry es name n) : e = (name, n) ∨ e ∈ es := by
  unfold putEntry at h
  split at h
  · obtain ⟨e', he', rfl⟩ := List.mem_map.mp h
    split
    · exact Or.inl rfl
    · exact Or.inr he'
  · rcases List.mem_append.mp h with h | h
    · exact Or.inr h
    · exact Or.inl (List.mem_singleton.mp h)

theorem putEntry_keys (es : List (Text × Node)) (name : Text) (n : Node) :
    (putEntry es name n).map Prod.fst = es.map Prod.fst ∨
      name ∉ es.map Prod.fst ∧ (putEntry es name n).map Prod.fst = es.map Prod.fst ++ [name] := by
  rcases Entries.keys_put es name n with ⟨_, hkeys⟩ | hnew
  · exact .inl hkeys
  · exact .inr hnew

theorem WellFormed.putEntry {es : List (Text × Node)} (h : (Node.dir es).WellFormed) {name : Text} {n : Node}
    (hname : Path.isName name = true) (hn : n.WellFormed) : (Node.dir (Node.putEntry es name n)).WellFormed := by
  cases h with
  | dir hkeys hnames hnodes =>
    refine .dir ?_ ?_ ?_
    · rcases putEntry_keys es name n with hsame | ⟨hnew, hmore⟩
      · rw [hsame]
        exact hkeys
      · rw [hmore, List.nodup_append]
        refine ⟨hkeys, List.nodup_cons.mpr ⟨List.not_mem_nil, List.nodup_nil⟩, ?_⟩
        intro a ha b hb hab
        rw [List.mem_singleton] at hb
        exact hnew (hb ▸ hab ▸ ha)
    · intro e he
      rcases mem_putEntry he with rfl | he
      · exact hname
      · exact hnames e he
    · intro e he
      rcases mem_putEntry he with rfl | he
      · exact hn
      · exact hnodes e he

theorem WellFormed.dir_nil : (Node.dir []).WellFormed :=
  .dir List.nodup_nil (fun _ h => absurd h List.not_mem_nil) (fun _ h => absurd h List.not_mem_nil)

/-- Putting a node at a place spelled in names keeps a tree well-formed. -/
theorem WellFormed.put {new n : Node} (hnew : new.WellFormed) (h : n.WellFormed) {place : List Text}
    (hplace : ∀ name ∈ place, Path.isName name = true) : (Node.put new place n).WellFormed := by
  induction place generalizing n with
  | nil => rw [Node.put]; exact hnew
  | cons name rest ih =>
    have hname := hplace name (List.mem_cons_self ..)
    have hrest : ∀ x ∈ rest, Path.isName x = true := fun x hx => hplace x (List.mem_cons_of_mem _ hx)
    -- A directory keeps its entries; anything else makes way for a directory with this one entry.
    cases n with
    | dir es =>
      rw [put_cons_dir]
      refine h.putEntry hname (ih ?_ hrest)
      cases hl : es.lookup name with
      | none => exact .dir_nil
      | some m =>
        cases h with
        | dir _ _ hnodes => exact hnodes _ (mem_of_lookup hl)
    | file c =>
      rw [Node.put]
      · exact WellFormed.dir_nil.putEntry hname (ih .dir_nil hrest)
      · intro es he
        cases he
    | link t =>
      rw [Node.put]
      · exact WellFormed.dir_nil.putEntry hname (ih .dir_nil hrest)
      · intro es he
        cases he

end Node

end ModuleDocs
