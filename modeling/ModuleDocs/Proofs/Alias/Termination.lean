import ModuleDocs.Proofs.Alias.Expands
import ModuleDocs.Proofs.Source.Bounded

/-!
# Expansions end

The expansion leaves a reference unread when what it holds is no shorter than its text. Here is the same expansion
without that precaution, to a bounded depth, and the visits that it goes on to from each expression. If every text holds
only shorter strings, each visit makes the measure of the expansion smaller, so no chain of visits goes on for ever: at
some depth the expansion is finished, with the answer of the cautious one. The texts of references are such texts, so
the precaution is never needed.
-/

namespace ModuleDocs

open Source

namespace Source.Expr

theorem longest_le_longestOf {c : Expr} {cs : List Expr} (h : c ∈ cs) : c.longest ≤ longestOf cs := by
  induction cs with
  | nil => cases h
  | cons d ds ih =>
    rw [longestOf]
    rcases List.mem_cons.mp h with rfl | h
    · omega
    · have := ih h
      omega

end Source.Expr

namespace Alias

/-- What is read from a text has only strings shorter than the text. An empty text holds no expression. -/
def Shortens (read : Reader) : Prop := ∀ t e, read t = .ok (some e) → e.longest < t.length

/-- The expansion by visits nested at most as deep as the first number says, or nothing if they go deeper. -/
def expandWithin (read : Reader) (aliases : Aliases) : Nat → List String → Expr → ExceptT ReferenceFault Option Expr
  | 0, _, _ => .mk none
  | n + 1, active, .name id =>
    match aliases.get? id with
    | none => return .name id
    | some body => if id ∈ active then return .name id else expandWithin read aliases n (id :: active) body
  | n + 1, active, .constant (.str t marked) =>
    match read t with
    | .error f => throw f
    | .ok none => return .constant (.str t marked)
    | .ok (some e) => expandWithin read aliases n active e
  | _ + 1, _, .constant c => return .constant c
  | n + 1, active, .member v attr => return .member (← expandWithin read aliases n active v) attr
  | n + 1, active, .subscript v s => do
    let w ← expandWithin read aliases n active v
    if w.baseName? = some "Literal" then return .subscript w s
    else if w.baseName? = some "Annotated" then
      match s with
      | .node .tuple (e :: es) =>
        return .subscript w (.node .tuple ((← expandWithin read aliases n active e) :: es))
      | other => return .subscript w (← expandWithin read aliases n active other)
    else return .subscript w (← expandWithin read aliases n active s)
  | n + 1, active, .node shape cs => return .node shape (← cs.mapM (expandWithin read aliases n active))

/-- The names being expanded, and the expression at hand. -/
abbrev Visit := List String × Expr

/-- The arguments of a subscript that are types for some base or other. -/
def arguments (s : Expr) : List Expr :=
  match s with
  | .node .tuple (e :: _) => [s, e]
  | _ => [s]

def visits (read : Reader) (aliases : Aliases) : Visit → List Visit
  | (active, .name id) =>
    match aliases.get? id with
    | none => []
    | some body => if id ∈ active then [] else [(id :: active, body)]
  | (active, .constant (.str t _)) =>
    match read t with
    | .ok (some e) => [(active, e)]
    | _ => []
  | (_, .constant _) => []
  | (active, .member v _) => [(active, v)]
  | (active, .subscript v s) => (active, v) :: (arguments s).map (active, ·)
  | (active, .node _ cs) => cs.map (active, ·)

variable {read : Reader} {aliases : Aliases}

/-! ### Every visit makes the measure smaller -/

/-- The order of the measure: the number of aliases not being expanded, the length of the longest string constant, the
size of the expression. -/
def Smaller (aliases : Aliases) (q p : Visit) : Prop :=
  Prod.Lex (· < ·) (Prod.Lex (· < ·) (· < ·))
    (aliases.idle q.1, q.2.longest, sizeOf q.2) (aliases.idle p.1, p.2.longest, sizeOf p.2)

theorem smaller_wellFounded (aliases : Aliases) : WellFounded (Smaller aliases) :=
  InvImage.wf (fun p : Visit => (aliases.idle p.1, p.2.longest, sizeOf p.2))
    (Prod.lex ⟨_, Nat.lt_wfRel.wf⟩ (Prod.lex ⟨_, Nat.lt_wfRel.wf⟩ ⟨_, Nat.lt_wfRel.wf⟩)).wf

theorem mem_arguments_self (s : Expr) : s ∈ arguments s := by
  unfold arguments
  split <;> exact List.mem_cons_self

theorem arguments_le {s e : Expr} (he : e ∈ arguments s) : e.longest ≤ s.longest ∧ sizeOf e ≤ sizeOf s := by
  unfold arguments at he
  split at he
  · rcases List.mem_cons.mp he with rfl | he
    · exact ⟨Nat.le_refl _, Nat.le_refl _⟩
    · cases List.mem_singleton.mp he
      simp only [Expr.longest, Expr.longestOf, Expr.node.sizeOf_spec, List.cons.sizeOf_spec]
      omega
  · cases List.mem_singleton.mp he
    exact ⟨Nat.le_refl _, Nat.le_refl _⟩

theorem smaller_of_mem_visits (hshort : Shortens read) {p q : Visit} (h : q ∈ visits read aliases p) :
    Smaller aliases q p := by
  obtain ⟨active, e⟩ := p
  cases e with
  | name id =>
    cases hget : aliases.get? id with
    | none => simp [visits, hget] at h
    | some body =>
      by_cases hactive : id ∈ active
      · simp [visits, hget, hactive] at h
      · obtain rfl : q = (id :: active, body) := by simpa [visits, hget, hactive] using h
        exact .left _ _ (Aliases.idle_cons_lt hget hactive)
  | constant c =>
    cases c with
    | str t marked =>
      simp only [visits] at h
      split at h
      · rename_i e hread
        obtain rfl := List.mem_singleton.mp h
        have hlt := hshort t e hread
        exact .right _ (.left _ _ (by simpa [Expr.longest] using hlt))
      · cases h
    | _ => simp [visits] at h
  | member v attr =>
    obtain rfl : q = (active, v) := by simpa [visits] using h
    exact lex_step (by simp [Expr.longest]) (by simp; omega)
  | subscript v s =>
    rcases List.mem_cons.mp h with rfl | h
    · exact lex_step (by simp only [Expr.longest]; omega) (by simp; omega)
    · obtain ⟨e, he, rfl⟩ := List.mem_map.mp h
      have hle := arguments_le he
      exact lex_step (by simp only [Expr.longest]; omega) (by simp; omega)
  | node shape cs =>
    obtain ⟨c, hc, rfl⟩ := List.mem_map.mp h
    have hlongest := Expr.longest_le_longestOf hc
    have hsize := List.sizeOf_lt_of_mem hc
    exact lex_step (by simpa [Expr.longest] using hlongest) (by simp; omega)

/-- No visit goes on and on. -/
theorem visits_wellFounded (aliases : Aliases) (hshort : Shortens read) :
    WellFounded fun q p => q ∈ visits read aliases p :=
  Subrelation.wf (smaller_of_mem_visits hshort) (smaller_wellFounded aliases)

/-! ### A visit ends once the visits that it goes on to have ended -/

/-- The visit ends within a depth, with the answer of the cautious expansion. -/
def EndsWithin (read : Reader) (aliases : Aliases) (n : Nat) (p : Visit) : Prop :=
  (expandWithin read aliases n p.1 p.2).run = some (expand read aliases p.1 p.2)

theorem endsWithin_name {n : Nat} {active : List String} {id : String}
    (h : ∀ q ∈ visits read aliases (active, .name id), EndsWithin read aliases n q) :
    EndsWithin read aliases (n + 1) (active, .name id) := by
  cases hget : aliases.get? id with
  | none =>
    simp only [EndsWithin, expandWithin, hget, expand_foreign hget]
    rfl
  | some body =>
    by_cases hactive : id ∈ active
    · simp only [EndsWithin, expandWithin, hget, if_pos hactive, expand_cyclic hactive]
      rfl
    · have hbody : EndsWithin read aliases n (id :: active, body) := h _ (by simp [visits, hget, hactive])
      simp only [EndsWithin, expandWithin, hget, if_neg hactive, expand_definition hget hactive]
      exact hbody

theorem endsWithin_str (hshort : Shortens read) {n : Nat} {active : List String} {t : Text} {marked : Bool}
    (h : ∀ q ∈ visits read aliases (active, .constant (.str t marked)), EndsWithin read aliases n q) :
    EndsWithin read aliases (n + 1) (active, .constant (.str t marked)) := by
  simp only [EndsWithin, expandWithin, expand]
  cases hread : read t with
  | error f => rfl
  | ok o =>
    cases o with
    | none => rfl
    | some e =>
      have he : EndsWithin read aliases n (active, e) := h _ (by simp [visits, hread])
      dsimp only
      rw [dif_pos (hshort t e hread)]
      exact he

/-- Steps that end one after the other end with the answer of the two steps. -/
theorem run_bind_eq_some {α β : Type} {x : ExceptT ReferenceFault Option α} {y : Except ReferenceFault α}
    {f : α → ExceptT ReferenceFault Option β} {g : α → Except ReferenceFault β} (hx : x.run = some y)
    (hf : ∀ a, y = .ok a → (f a).run = some (g a)) : (x >>= f).run = some (y >>= g) := by
  rw [ExceptT.run_bind, hx]
  cases y with
  | error e => rfl
  | ok a => exact hf a rfl

theorem endsWithin_subscript {n : Nat} {active : List String} {v s : Expr}
    (h : ∀ q ∈ visits read aliases (active, .subscript v s), EndsWithin read aliases n q) :
    EndsWithin read aliases (n + 1) (active, .subscript v s) := by
  have hv : EndsWithin read aliases n (active, v) := h _ List.mem_cons_self
  have hs : ∀ e ∈ arguments s, EndsWithin read aliases n (active, e) :=
    fun e he => h _ (List.mem_cons_of_mem _ (List.mem_map_of_mem he))
  simp only [EndsWithin, expandWithin, expand]
  refine run_bind_eq_some hv fun w _ => ?_
  by_cases hliteral : w.baseName? = some "Literal"
  · rw [if_pos hliteral, if_pos hliteral]
    rfl
  · rw [if_neg hliteral, if_neg hliteral]
    have hwhole : (expandWithin read aliases n active s >>= fun t => pure (Expr.subscript w t)).run =
        some (expand read aliases active s >>= fun t => pure (Expr.subscript w t)) :=
      run_bind_eq_some (hs s (mem_arguments_self s)) fun _ _ => rfl
    by_cases hannotated : w.baseName? = some "Annotated"
    · rw [if_pos hannotated, if_pos hannotated]
      by_cases htuple : ∃ e es, s = .node .tuple (e :: es)
      · obtain ⟨e, es, rfl⟩ := htuple
        exact run_bind_eq_some (hs e (by simp [arguments])) fun _ _ => rfl
      · have hother : ∀ e es, s = .node .tuple (e :: es) → False := fun e es heq => htuple ⟨e, es, heq⟩
        -- Both matches take their last branch, by what was just said.
        simp only
        exact hwhole
    · rw [if_neg hannotated, if_neg hannotated]
      exact hwhole

theorem mapM_expandWithin {n : Nat} {active : List String} {cs : List Expr}
    (h : ∀ c ∈ cs, EndsWithin read aliases n (active, c)) :
    (cs.mapM (expandWithin read aliases n active)).run = some (expandAll read aliases active cs) := by
  induction cs with
  | nil =>
    rw [List.mapM_nil, expandAll]
    rfl
  | cons c cs ih =>
    rw [List.mapM_cons, expandAll]
    refine run_bind_eq_some (h c List.mem_cons_self) fun d _ => ?_
    have hrest := ih fun c' hc' => h c' (List.mem_cons_of_mem _ hc')
    exact run_bind_eq_some hrest fun _ _ => rfl

theorem endsWithin_step (hshort : Shortens read) {n : Nat} {p : Visit}
    (h : ∀ q ∈ visits read aliases p, EndsWithin read aliases n q) : EndsWithin read aliases (n + 1) p := by
  obtain ⟨active, e⟩ := p
  cases e with
  | name id => exact endsWithin_name h
  | constant c =>
    cases c with
    | str t marked => exact endsWithin_str hshort h
    | _ =>
      simp only [EndsWithin, expandWithin, expand]
      rfl
  | member v attr =>
    simp only [EndsWithin, expandWithin, expand]
    exact run_bind_eq_some (h _ List.mem_cons_self) fun _ _ => rfl
  | subscript v s => exact endsWithin_subscript h
  | node shape cs =>
    have hall : ∀ c ∈ cs, EndsWithin read aliases n (active, c) := fun c hc => h _ (List.mem_map_of_mem hc)
    simp only [EndsWithin, expandWithin, expand]
    exact run_bind_eq_some (mapM_expandWithin hall) fun _ _ => rfl

/-- A depth that is enough for each of several visits. -/
theorem exists_common_depth {P : Nat → Visit → Prop} {l : List Visit} (h : ∀ q ∈ l, ∃ depth, ∀ n ≥ depth, P n q) :
    ∃ depth, ∀ n ≥ depth, ∀ q ∈ l, P n q := by
  induction l with
  | nil => exact ⟨0, fun n _ q hq => by cases hq⟩
  | cons q l ih =>
    obtain ⟨d, hd⟩ := h q List.mem_cons_self
    obtain ⟨ds, hds⟩ := ih fun q' hq' => h q' (List.mem_cons_of_mem _ hq')
    refine ⟨max d ds, fun n hn q' hq' => ?_⟩
    rcases List.mem_cons.mp hq' with rfl | hq'
    · exact hd n (by omega)
    · exact hds n (by omega) q' hq'

theorem exists_endsWithin (hshort : Shortens read) (p : Visit) : ∃ depth, ∀ n ≥ depth, EndsWithin read aliases n p := by
  induction p using (visits_wellFounded aliases hshort).induction with
  | h p ih =>
    obtain ⟨depth, hdepth⟩ := exists_common_depth ih
    refine ⟨depth + 1, fun n hn => ?_⟩
    obtain ⟨m, rfl⟩ : ∃ m, n = m + 1 := ⟨n - 1, by omega⟩
    exact endsWithin_step hshort (hdepth m (by omega))

/-! ### What a reference holds is shorter -/

theorem readReference_shortens : Shortens readReference := by
  intro t e h
  unfold readReference at h
  dsimp only at h
  split at h
  · cases h
  · cases h
  · rename_i chars _ hchars
    split at h
    · cases h
    · cases hparse : Expr.parse chars with
      | error line =>
        rw [hparse] at h
        cases h
      | ok e' =>
        rw [hparse] at h
        cases h
        have hlt := Expr.longest_lt_of_parse hparse
        have hlength := congrArg List.length (Text.map_ofChar_of_toChars? hchars)
        have hstrip := Text.length_strip_le t
        rw [List.length_map] at hlength
        omega

/-- Aliases are resolved by the expansion without the precaution, at some depth and from there on. -/
theorem resolve_eq_expandWithin (aliases : Aliases) (e : Expr) :
    ∃ depth, ∀ n ≥ depth, (expandWithin readReference aliases n [] e).run = some (aliases.resolve e) :=
  exists_endsWithin readReference_shortens ([], e)

/-! ### Every expansion ends -/

/-- Whatever the aliases and the expression, the visits bottom out, and from some depth on the expansion has its
answer. -/
theorem expansion_terminates {read : Reader} (hshort : Shortens read) (aliases : Aliases) :
    (WellFounded fun q p => q ∈ visits read aliases p) ∧
    ∀ active e, ∃ depth, ∀ n ≥ depth,
      (expandWithin read aliases n active e).run = some (expand read aliases active e) :=
  ⟨visits_wellFounded aliases hshort, fun active e => exists_endsWithin hshort (active, e)⟩

/-- A reader of two texts, a name and the same name in quotes. -/
def quotedReader : Reader := fun t =>
  if t = Text.ofString "B" then .ok (some (.name "B"))
  else if t = Text.ofString "'B'" then .ok (some (.constant (.str (Text.ofString "B") false)))
  else .ok none

/-- An alias that refers to another by a string within a string, and the other back to it. -/
def quotedLoop : Aliases where
  entries :=
    [("A", .subscript (.name "list") (.constant (.str (Text.ofString "'B'") false))),
     ("B", .subscript (.name "dict") (.node .tuple [.name "A", .name "B"]))]

theorem quotedReader_shortens : Shortens quotedReader := by
  intro t e h
  unfold quotedReader at h
  split at h
  · rename_i ht
    cases h
    subst ht
    decide
  · split at h
    · rename_i ht
      cases h
      subst ht
      decide
    · cases h

theorem expansion_terminates_loop :
    Shortens quotedReader ∧
    ∃ depth, ∀ n ≥ depth, (expandWithin quotedReader quotedLoop n [] (.name "A")).run =
      some (.ok (.subscript (.name "list")
        (.subscript (.name "dict") (.node .tuple [.name "A", .name "B"])))) := by
  have hexpand : expand quotedReader quotedLoop [] (.name "A") = .ok (.subscript (.name "list")
      (.subscript (.name "dict") (.node .tuple [.name "A", .name "B"]))) := by cbv
  have hends := (expansion_terminates quotedReader_shortens quotedLoop).2 [] (.name "A")
  rw [hexpand] at hends
  exact ⟨quotedReader_shortens, hends⟩

end Alias

end ModuleDocs
