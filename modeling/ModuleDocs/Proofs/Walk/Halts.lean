import ModuleDocs.Proofs.Walk.Trail

/-!
# What can stop a walk

A walk is stopped by a missing root, by a directory that cannot be listed, by an entry that cannot be examined, or by an
act on one of the files it comes to.
-/

namespace ModuleDocs

open ModuleDocs.Path (isName)

namespace Walk

variable {σ : Type} {rules : WalkRules} {disk : σ → Disk} {act : Path → σ → Outcome σ} {root : Path} {Inv : σ → Prop}
  {Q : σ → Halt → Prop}

/-- What is known of a state as long as a walk goes on, and of the state and the reason where it is stopped. -/
structure Watched (disk : σ → Disk) (act : Path → σ → Outcome σ) (root : Path) (Inv : σ → Prop)
    (Q : σ → Halt → Prop) : Prop where
  wellFormed : ∀ s, Inv s → (disk s).WellFormed
  acted : ∀ s, Inv s → ∀ rel, rel ≠ [] → (∀ x ∈ rel, isName x = true) → (act (root.below rel) s).halt = none →
    Inv (act (root.below rel) s).state
  stopped : ∀ s, Inv s → ∀ rel, rel ≠ [] → (∀ x ∈ rel, isName x = true) → ∀ h,
    (act (root.below rel) s).halt = some h → Q (act (root.below rel) s).state h
  noRoot : ∀ s, Inv s → Q s (.failure (rootFailure root))
  unlisted : ∀ s, Inv s → ∀ p f, Q s (.failure (listingFailure p f))
  refused : ∀ s, Inv s → ∀ rel, (∀ x ∈ rel, isName x = true) → ∀ follow f,
    (disk s).node follow (root.below rel) = .error f → f.isAbsence = false → Q s (.system f (root.below rel).text)

/-- A walk that goes on, or is stopped for a known reason. -/
structure Ends (Inv : σ → Prop) (Q : σ → Halt → Prop) (o : Outcome σ) : Prop where
  next : o.halt = none → Inv o.state
  halt : ∀ h, o.halt = some h → Q o.state h

theorem Ends.of_next {s : σ} (hs : Inv s) : Ends Inv Q (.next s) := ⟨fun _ => hs, fun _ h => (by cases h)⟩

theorem Ends.of_halt {s : σ} {h : Halt} (hs : Q s h) : Ends Inv Q ⟨s, some h⟩ :=
  ⟨fun h => (by cases h), fun _ h => (by cases h; exact hs)⟩

theorem Ends.andThen {o : Outcome σ} {f : σ → Outcome σ} (ho : Ends Inv Q o) (hf : ∀ s, Inv s → Ends Inv Q (f s)) :
    Ends Inv Q (o.andThen f) := by
  unfold Outcome.andThen
  cases hhalt : o.halt with
  | none => exact hf o.state (ho.next hhalt)
  | some h => exact ho

theorem visitEntry_ends (hw : Watched disk act root Inv Q) {enter : Path → σ → Outcome σ} {rel : List Text}
    {name : Text} (hrel : ∀ x ∈ rel ++ [name], isName x = true)
    (henter : ∀ s, Inv s → Ends Inv Q (enter (root.below (rel ++ [name])) s)) (s : σ) (hs : Inv s) :
    Ends Inv Q (visitEntry rules disk act enter (root.below rel) name s) := by
  unfold visitEntry
  rw [Path.below_child]
  dsimp only
  split
  · exact .of_next hs
  · split
    · exact henter s hs
    · split
      · have hne : rel ++ [name] ≠ [] := by simp
        exact ⟨hw.acted s hs _ hne hrel, hw.stopped s hs _ hne hrel⟩
      · exact .of_next hs
    · exact .of_next hs
    · rename_i f hnode
      split
      · exact .of_next hs
      · rename_i habsent
        exact .of_halt (hw.refused s hs _ hrel _ f hnode (by simpa using habsent))

theorem visitEntries_ends (hw : Watched disk act root Inv Q) {enter : Path → σ → Outcome σ} {rel names : List Text}
    (hrel : ∀ x ∈ rel, isName x = true) (hnames : ∀ x ∈ names, isName x = true)
    (henter : ∀ name ∈ names, ∀ s, Inv s → Ends Inv Q (enter (root.below (rel ++ [name])) s)) (s : σ) (hs : Inv s) :
    Ends Inv Q (visitEntries rules disk act enter (root.below rel) names s) := by
  induction names generalizing s with
  | nil => exact .of_next hs
  | cons name names ih =>
    rw [visitEntries]
    obtain ⟨hname, hrest⟩ := List.forall_mem_cons.mp hnames
    have hentry : ∀ x ∈ rel ++ [name], isName x = true :=
      List.forall_mem_append.mpr ⟨hrel, List.forall_mem_singleton.mpr hname⟩
    exact (visitEntry_ends hw hentry (henter name (List.mem_cons_self ..)) s hs).andThen
      (ih hrest fun x hx => henter x (List.mem_cons_of_mem _ hx))

theorem visitDirectory_ends (hw : Watched disk act root Inv Q) (levels : Nat) {rel : List Text}
    (hrel : ∀ x ∈ rel, isName x = true) (s : σ) (hs : Inv s) :
    Ends Inv Q (visitDirectory rules disk act levels (root.below rel) s) := by
  -- On the levels that are left; below an entry the path has one name more, which is a name since it was listed.
  induction levels generalizing rel s with
  | zero => exact .of_halt (hw.unlisted s hs _ _)
  | succ levels ih =>
    rw [visitDirectory]
    cases hlist : (disk s).list (root.below rel) with
    | error f => exact .of_halt (hw.unlisted s hs _ f)
    | ok names =>
      obtain ⟨_, place, es, hloc, rfl⟩ := Disk.list_eq_ok.mp hlist
      obtain ⟨hnames, _⟩ := (hw.wellFormed s hs).listed (Disk.locate_holds hloc)
      refine visitEntries_ends hw hrel hnames (fun name hname t ht => ih ?_ t ht) s hs
      exact List.forall_mem_append.mpr ⟨hrel, List.forall_mem_singleton.mpr (hnames name hname)⟩

theorem visit_ends (hw : Watched disk act root Inv Q) (s : σ) (hs : Inv s) :
    Ends Inv Q (visit rules disk act root s) := by
  have hnames : ∀ x ∈ ([] : List Text), isName x = true := fun _ h => absurd h List.not_mem_nil
  unfold visit
  cases hdir : (disk s).isDirectory root with
  | error f =>
    have hnode := Disk.isDirectory_eq_error hdir
    have hrefused := hw.refused s hs [] hnames true f
    rw [Path.below_nil] at hrefused
    exact .of_halt (hrefused hnode.1 hnode.2)
  | ok b =>
    cases b with
    | false => exact .of_halt (hw.noRoot s hs)
    | true =>
      have hvisit : Ends Inv Q (visitDirectory rules disk act Disk.pathLimit (root.below []) s) :=
        visitDirectory_ends hw Disk.pathLimit hnames s hs
      rw [Path.below_nil] at hvisit
      exact hvisit

end Walk

end ModuleDocs
