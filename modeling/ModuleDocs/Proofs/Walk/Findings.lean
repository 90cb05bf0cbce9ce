import ModuleDocs.Walk

/-!
# Findings of a walk

A walk on files that stay as they are only takes down what it finds. What it found before does not matter to it, so
the findings in a directory are those in its entries, one after the other.
-/

namespace ModuleDocs

namespace Walk

/-- The act of a walk that only takes down the files. -/
def collect (p : Path) (found : List Path) : Outcome (List Path) := .next (found ++ [p])

/-- Findings that come after earlier ones. -/
def after (before : List Path) (o : Outcome (List Path)) : Outcome (List Path) := ⟨before ++ o.state, o.halt⟩

/-- Findings of two visits one after the other. -/
def followedBy (o o' : Outcome (List Path)) : Outcome (List Path) := o.andThen fun found => after found o'

variable {rules : WalkRules} {d : Disk}

theorem after_followedBy (before : List Path) (o o' : Outcome (List Path)) :
    (after before o).andThen (fun found => after found o') = after before (followedBy o o') := by
  cases o with
  | mk found halt =>
    cases halt with
    | some h => rfl
    | none => simp [after, followedBy, Outcome.andThen]

/-- Earlier findings do not matter. -/
def Independent (visit : List Path → Outcome (List Path)) : Prop :=
  ∀ before, visit before = after before (visit [])

theorem visitEntry_independent {enter : Path → List Path → Outcome (List Path)} {p : Path} {name : Text}
    (henter : Independent (enter (p.child name))) :
    Independent (visitEntry rules (fun _ => d) collect enter p name) := by
  intro before
  unfold visitEntry
  by_cases hskip : rules.skips name = true
  · simp [hskip, after, Outcome.next]
  · simp only [hskip]
    cases hnode : d.node false (p.child name) with
    | error f =>
      by_cases habs : f.isAbsence = true <;> simp [habs, after, Outcome.next]
    | ok n =>
      cases n with
      | dir es => simpa using henter before
      | file c =>
        by_cases hsuf : (p.child name).suffix = rules.suffix <;> simp [hsuf, after, collect, Outcome.next]
      | link t => simp [after, Outcome.next]

theorem visitEntries_independent {enter : Path → List Path → Outcome (List Path)} {p : Path}
    (henter : ∀ q, Independent (enter q)) (names : List Text) :
    Independent (visitEntries rules (fun _ => d) collect enter p names) := by
  induction names with
  | nil =>
    intro before
    simp [visitEntries, after, Outcome.next]
  | cons name names ih =>
    intro before
    have hall : visitEntries rules (fun _ => d) collect enter p names =
        fun found => after found (visitEntries rules (fun _ => d) collect enter p names []) := funext ih
    rw [visitEntries, visitEntry_independent (henter _) before, hall, after_followedBy, visitEntries, hall]
    rfl

theorem visitDirectory_independent (levels : Nat) (p : Path) :
    Independent (visitDirectory rules (fun _ => d) collect levels p) := by
  induction levels generalizing p with
  | zero =>
    intro before
    simp [visitDirectory, after]
  | succ levels ih =>
    intro before
    unfold visitDirectory
    cases d.list p with
    | error f => simp [after]
    | ok names => exact visitEntries_independent ih names before

/-- The findings among the entries of a directory are those in the first entry, then those in the others. -/
theorem visitEntries_cons (levels : Nat) (p : Path) (name : Text) (names : List Text) :
    visitEntries rules (fun _ => d) collect (visitDirectory rules (fun _ => d) collect levels) p (name :: names) [] =
      followedBy (visitEntry rules (fun _ => d) collect (visitDirectory rules (fun _ => d) collect levels) p name [])
        (visitEntries rules (fun _ => d) collect (visitDirectory rules (fun _ => d) collect levels) p names []) := by
  rw [visitEntries, funext (visitEntries_independent (visitDirectory_independent levels) names)]
  rfl

end Walk

end ModuleDocs
