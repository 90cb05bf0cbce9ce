import ModuleDocs.Proofs.Walk.Exact
import ModuleDocs.Proofs.Walk.Trail

/-!
# Walks that are not disturbed

A walk lists each directory when it reaches it, and its acts may have added to the tree by then. If they leave the
source files as they are and add none, the walk acts on the files that are found on the tree as it was at the
start, one after the other. What is new is passed over, unless it is below the root at a path that is too long.
-/

namespace ModuleDocs

open ModuleDocs.Path (isName)

namespace Walk

variable {σ : Type} {rules : WalkRules} {disk : σ → Disk} {act : Path → σ → Outcome σ}

/-! ### Acts on a list of files -/

theorem andThen_next {s : σ} {f : σ → Outcome σ} : (Outcome.next s).andThen f = f s := rfl

theorem actAll_append (ps qs : List Path) (s : σ) :
    actAll act (ps ++ qs) s = (actAll act ps s).andThen (actAll act qs) := by
  induction ps generalizing s with
  | nil => rfl
  | cons p ps ih =>
    rw [List.cons_append, actAll, actAll]
    cases ho : act p s with
    | mk t halt =>
      cases halt with
      | none => exact ih t
      | some h => rfl

/-- Acts on the files found by a walk, then the way that walk ended. -/
def replay (act : Path → σ → Outcome σ) (found : Outcome (List Path)) (s : σ) : Outcome σ :=
  (actAll act found.state s).andThen fun t => ⟨t, found.halt⟩

/-! ### What holds at the end holds on the way -/

variable {P : σ → Prop}

theorem visitEntry_reflects {enter : Path → σ → Outcome σ} (hact : ∀ p s, P (act p s).state → P s)
    (henter : ∀ p s, P (enter p s).state → P s) {p : Path} {name : Text} {s : σ}
    (h : P (visitEntry rules disk act enter p name s).state) : P s := by
  unfold visitEntry at h
  dsimp only at h
  by_cases hskip : rules.skips name = true
  · rw [if_pos hskip] at h
    exact h
  · rw [if_neg hskip] at h
    cases hnode : (disk s).node false (p.child name) with
    | error f =>
      rw [hnode] at h
      dsimp only at h
      split at h
      · exact h
      · exact h
    | ok n =>
      rw [hnode] at h
      cases n with
      | dir es => exact henter _ s h
      | link t => exact h
      | file c =>
        dsimp only at h
        split at h
        · exact hact _ s h
        · exact h

theorem andThen_reflects {o : Outcome σ} {f : σ → Outcome σ} (hf : ∀ t, P (f t).state → P t)
    (h : P (o.andThen f).state) : P o.state := by
  cases o with
  | mk t halt =>
    cases halt with
    | none => exact hf t h
    | some h' => exact h

theorem visitEntries_reflects {enter : Path → σ → Outcome σ} (hact : ∀ p s, P (act p s).state → P s)
    (henter : ∀ p s, P (enter p s).state → P s) {p : Path} {names : List Text} {s : σ}
    (h : P (visitEntries rules disk act enter p names s).state) : P s := by
  induction names generalizing s with
  | nil => exact h
  | cons name names ih =>
    rw [visitEntries] at h
    exact visitEntry_reflects hact henter (andThen_reflects (fun t => ih) h)

theorem visitDirectory_reflects (hact : ∀ p s, P (act p s).state → P s) {levels : Nat} {p : Path} {s : σ}
    (h : P (visitDirectory rules disk act levels p s).state) : P s := by
  induction levels generalizing p s with
  | zero => exact h
  | succ levels ih =>
    unfold visitDirectory at h
    cases hlist : (disk s).list p with
    | error f =>
      rw [hlist] at h
      exact h
    | ok names =>
      rw [hlist] at h
      exact visitEntries_reflects hact (fun q t => ih) h

theorem actAll_reflects (hact : ∀ p s, P (act p s).state → P s) {ps : List Path} {s : σ}
    (h : P (actAll act ps s).state) : P s := by
  induction ps generalizing s with
  | nil => exact h
  | cons p ps ih => exact hact p s (andThen_reflects (fun t => ih) h)

/-! ### Trees that have grown -/

def NotSource (rules : WalkRules) (place : List Text) : Prop :=
  ∀ name, place.getLast? = some name → (Path.splitSuffix name).2 ≠ rules.suffix

/-- A tree that has grown out of another one without links, with the same source files. -/
structure Grown (rules : WalkRules) (d₀ d : Disk) : Prop where
  wellFormed : d.WellFormed
  grows : d₀.Extends d
  sources : d₀.KeepsFiles d (NotSource rules)
  linkFree : ∀ q t, d.at? q ≠ some (.link t)

/-- A place below the root of a walk that is new and too far down. -/
structure LongNew (d₀ d : Disk) (root : Path) (place rel : List Text) : Prop where
  new : d₀.at? (place ++ rel) = none
  present : d.at? (place ++ rel) ≠ none
  long : Disk.pathLimit ≤ (root.below rel).text.fileNameLength

/-- A visit that changes nothing, or is stopped at once by something new that is too far down. -/
def Silent (disk : σ → Disk) (d₀ : Disk) (root : Path) (place : List Text) (s : σ) (o : Outcome σ) : Prop :=
  o = .next s ∨ ∃ rel, LongNew d₀ (disk s) root place rel ∧
    o = ⟨s, some (.system .nameTooLong (root.below rel).text)⟩

variable {d₀ d : Disk} {root : Path} {place : List Text}

theorem Grown.barred {rel : List Text} {f : SystemFault} (h : Grown rules d₀ d) :
    Barred d root place rel f ↔ Barred d₀ root place rel f := by
  simp only [Barred, h.grows.entryFault?]

theorem Grown.entered {rel : List Text} {es : List (Text × Node)} (h : Grown rules d₀ d)
    (hdir : Entered rules d₀ root place rel es) : ∃ es', Entered rules d root place rel es' := by
  obtain ⟨es', hes'⟩ := h.grows.get?_dir hdir.get?
  exact ⟨es', h.grows.locate_found hdir.located hes', hdir.names, hdir.unskipped,
    fun f hf => hdir.clear f (h.barred.mp hf)⟩

/-- A new file is not a source file. -/
theorem Grown.suffix_ne {above : List Text} {name : Text} {c : List UInt8} (h : Grown rules d₀ d)
    (hnew : d₀.at? (above ++ [name]) = none) (hfile : d.at? (above ++ [name]) = some (.file c)) :
    (Path.splitSuffix name).2 ≠ rules.suffix := by
  intro hsuf
  have hkept := h.sources (above ++ [name]) c fun hno => hno name List.getLast?_concat hsuf
  have hold := hkept.mp hfile
  rw [hnew] at hold
  cases hold

/-- Below a place where nothing was, nothing was. -/
theorem at?_below_none {rel : List Text} (h : d.at? (place ++ rel) = none) (name : Text) :
    d.at? (place ++ (rel ++ [name])) = none := by
  rw [← List.append_assoc]
  refine Node.at?_eq_none.mpr ?_
  rw [Node.get?_append, Node.at?_eq_none.mp h]
  rfl

/-! ### What is new is passed over -/

theorem visitEntry_silent {rel : List Text} {es : List (Text × Node)} {s : σ} (hs : Grown rules d₀ (disk s))
    (hdir : Entered rules (disk s) root place rel es) {name : Text} (hname : isName name = true)
    (hnew : d₀.at? (place ++ (rel ++ [name])) = none) {n : Node} (hn : es.lookup name = some n)
    {enter : Path → σ → Outcome σ}
    (henter : ∀ es', Entered rules (disk s) root place (rel ++ [name]) es' →
      Silent disk d₀ root place s (enter (root.below (rel ++ [name])) s)) :
    Silent disk d₀ root place s (visitEntry rules disk act enter (root.below rel) name s) := by
  have hup := Path.isName_ne_above hname
  have hat : (disk s).root.get? (place ++ (rel ++ [name])) = some n := by
    rw [← List.append_assoc, Node.get?_entry hdir.get? name, hn]
  have hhere : (disk s).at? (place ++ (rel ++ [name])) = some n.kind := by
    rw [Disk.at?, Node.at?, hat]
    rfl
  by_cases hskip : rules.skips name = true
  · left
    simp [visitEntry, hskip, Outcome.next]
  · have hno : rules.skips name = false := by simpa using hskip
    unfold visitEntry
    dsimp only
    rw [if_neg hskip]
    have hpresent : (disk s).at? (place ++ (rel ++ [name])) ≠ none := by
      rw [hhere]
      exact Option.some_ne_none _
    cases hfault : (disk s).entryFault? (root.below rel) (place ++ rel) name with
    | some f =>
      right
      -- What was made has a name that is not too long, in a directory that may be searched.
      obtain ⟨hshort, hallowed⟩ := hs.grows.fresh (place ++ rel) name
        (by rwa [List.append_assoc]) (by rwa [List.append_assoc])
      obtain ⟨rfl, hlong⟩ : f = .nameTooLong ∧ Disk.pathLimit ≤ ((root.below rel).child name).text.fileNameLength := by
        rw [hs.grows.entryFault?, Disk.entryFault?, hallowed] at hfault
        by_cases hlong : Disk.pathLimit ≤ ((root.below rel).child name).text.fileNameLength
        · rw [if_pos hlong] at hfault
          cases hfault
          exact ⟨rfl, hlong⟩
        · simp [hlong, Nat.not_lt.mpr hshort] at hfault
      rw [Path.below_child] at hlong
      refine ⟨rel ++ [name], ⟨hnew, hpresent, hlong⟩, ?_⟩
      rw [Disk.node_child_fault hdir.located hup hfault, Path.below_child]
      rfl
    | none =>
      rw [Disk.node_child hdir.located hup hn hfault, Path.below_child]
      cases n with
      | dir es' => exact henter es' (hdir.child hname hno hn hfault)
      | link t => exact absurd hhere (hs.linkFree _ t)
      | file c =>
        left
        rw [← List.append_assoc] at hnew hhere
        have hsuf := hs.suffix_ne hnew hhere
        rw [← Path.below_snoc_suffix root rel name] at hsuf
        exact if_neg hsuf

theorem visitEntries_silent {rel : List Text} {enter : Path → σ → Outcome σ} {names : List Text} {s : σ}
    (h : ∀ name ∈ names, Silent disk d₀ root place s (visitEntry rules disk act enter (root.below rel) name s)) :
    Silent disk d₀ root place s (visitEntries rules disk act enter (root.below rel) names s) := by
  induction names with
  | nil => exact Or.inl rfl
  | cons name names ih =>
    rw [visitEntries]
    rcases h name (List.mem_cons_self ..) with hnext | ⟨rel', hlong, hstop⟩
    · rw [hnext, andThen_next]
      exact ih fun x hx => h x (List.mem_cons_of_mem _ hx)
    · rw [hstop]
      exact Or.inr ⟨rel', hlong, rfl⟩

/-- A new directory is passed over with all that is in it, if it can be listed. -/
theorem visitDirectory_silent {s : σ} (hs : Grown rules d₀ (disk s))
    (hlistable : ∀ rel, (disk s).at? (place ++ rel) = some .dir → d₀.at? (place ++ rel) = none →
      d₀.locked.contains (root.below rel).text = false) {levels : Nat} {rel : List Text} {es : List (Text × Node)}
    (hdir : Entered rules (disk s) root place rel es) (hnew : d₀.at? (place ++ rel) = none)
    (hlevels : rel.length + levels = Disk.pathLimit) :
    Silent disk d₀ root place s (visitDirectory rules disk act levels (root.below rel) s) := by
  induction levels generalizing rel es with
  | zero =>
    have hlong := length_le_fileNameLength_below root hdir.names
    have hshort := (Disk.locate_eq_ok.mp hdir.located).1
    omega
  | succ levels ih =>
    have hlist : (disk s).list (root.below rel) = .ok ((es.map Prod.fst).mergeSort fun a b => !Text.lt b a) := by
      refine Disk.list_eq_ok.mpr ⟨?_, _, es, hdir.located, rfl⟩
      rw [hs.grows.locked]
      exact hlistable rel (Node.at?_eq_dir.mpr ⟨es, hdir.get?⟩) hnew
    unfold visitDirectory
    simp only [hlist]
    refine visitEntries_silent fun name hname => ?_
    obtain ⟨n, hn⟩ := Disk.mem_listed.mp hname
    refine visitEntry_silent hs hdir ((hs.wellFormed.listed hdir.get?).1 name hname) (at?_below_none hnew name) hn ?_
    intro es' hsub
    refine ih hsub (at?_below_none hnew name) ?_
    rw [List.length_append, List.length_singleton]
    omega

/-! ### What was there is acted on -/

/-- What is asked of the acts of a walk and of a condition on the states they lead to: they only add to the tree,
the condition holds of a state if it holds after a further act, and as long as it holds the tree keeps its source
files and what is new can be listed. -/
structure Steady (rules : WalkRules) (disk : σ → Disk) (act : Path → σ → Outcome σ) (root : Path)
    (place : List Text) (d₀ : Disk) (P : σ → Prop) : Prop where
  wellFormed : d₀.WellFormed
  grows : ∀ p s, (disk s).Extends (disk (act p s).state)
  reflects : ∀ p s, P (act p s).state → P s
  keeps : ∀ rel, (∀ x ∈ rel, isName x = true) → ∀ s t, Grown rules d₀ (disk s) →
    act (root.below rel) s = .next t → P t → Grown rules d₀ (disk t)
  listable : ∀ s, P s → ∀ rel, (disk s).at? (place ++ rel) = some .dir → d₀.at? (place ++ rel) = none →
    d₀.locked.contains (root.below rel).text = false

/-- A visit from a state does what acts on the findings of another one do, or it is cut short by something new that
is too far down. -/
def Replays (disk : σ → Disk) (act : Path → σ → Outcome σ) (d₀ : Disk) (root : Path) (place : List Text)
    (s : σ) (o : Outcome σ) (found : Outcome (List Path)) : Prop :=
  o = replay act found s ∨ ∃ done rest t rel, found.state = done ++ rest ∧ actAll act done s = .next t ∧
    LongNew d₀ (disk t) root place rel ∧ o = ⟨t, some (.system .nameTooLong (root.below rel).text)⟩

variable {s : σ} {o : Outcome σ} {later : σ → Outcome σ} {found found' : Outcome (List Path)}

theorem Replays.afterSilent (h : Silent disk d₀ root place s o)
    (h' : o = .next s → Replays disk act d₀ root place s (later s) found) :
    Replays disk act d₀ root place s (o.andThen later) found := by
  rcases h with hnext | ⟨rel, hlong, hstop⟩
  · have hvisit := h' hnext
    rw [hnext]
    exact hvisit
  · refine Or.inr ⟨[], found.state, s, rel, rfl, rfl, hlong, ?_⟩
    rw [hstop]
    rfl

theorem followedBy_of_none (h : found.halt = none) :
    followedBy found found' = ⟨found.state ++ found'.state, found'.halt⟩ := by
  simp [followedBy, Outcome.andThen, after, h]

theorem followedBy_of_some {h₀ : Halt} (h : found.halt = some h₀) : followedBy found found' = found := by
  simp [followedBy, Outcome.andThen, h]

theorem replay_followedBy_stopped {t : σ} {h₀ : Halt} (hacts : actAll act found.state s = ⟨t, some h₀⟩) :
    replay act (followedBy found found') s = ⟨t, some h₀⟩ := by
  unfold replay
  cases hhalt : found.halt with
  | none =>
    rw [followedBy_of_none hhalt, actAll_append, hacts]
    rfl
  | some h₁ =>
    rw [followedBy_of_some hhalt, hacts]
    rfl

/-- Visits one after the other replay the findings one after the other. -/
theorem Replays.followedBy (h : Replays disk act d₀ root place s o found)
    (h' : ∀ t, o = .next t → actAll act found.state s = .next t →
      Replays disk act d₀ root place t (later t) found') :
    Replays disk act d₀ root place s (o.andThen later) (followedBy found found') := by
  rcases h with heq | ⟨done, rest, t, rel, hdone, hacts, hlong, hstop⟩
  · cases hacts : actAll act found.state s with
    | mk t halt =>
      rw [replay, hacts] at heq
      cases halt with
      | some h₀ =>
        left
        rw [replay_followedBy_stopped hacts, heq]
        rfl
      | none =>
        cases hhalt : found.halt with
        | some h₀ =>
          left
          rw [followedBy_of_some hhalt, replay, hacts, heq, hhalt]
          rfl
        | none =>
          rw [hhalt] at heq
          have hvisit := h' t heq hacts
          rw [followedBy_of_none hhalt, heq]
          rcases hvisit with heq' | ⟨done, rest, u, rel, hdone, hacts', hlong, hstop⟩
          · left
            rw [replay, actAll_append, hacts]
            exact heq'
          · refine Or.inr ⟨found.state ++ done, rest, u, rel, ?_, ?_, hlong, hstop⟩
            · rw [List.append_assoc, hdone]
            · rw [actAll_append, hacts]
              exact hacts'
  · have hmore : ∃ more, (Walk.followedBy found found').state = found.state ++ more := by
      cases hhalt : found.halt with
      | none => exact ⟨found'.state, by rw [followedBy_of_none hhalt]⟩
      | some h₀ => exact ⟨[], by rw [followedBy_of_some hhalt, List.append_nil]⟩
    obtain ⟨more, hmore⟩ := hmore
    refine Or.inr ⟨done, rest ++ more, t, rel, ?_, hacts, hlong, ?_⟩
    · rw [hmore, hdone, List.append_assoc]
    · rw [hstop]
      rfl

theorem actAll_extends (hgrows : ∀ p s, (disk s).Extends (disk (act p s).state)) (ps : List Path) (s : σ) :
    (disk s).Extends (disk (actAll act ps s).state) := by
  induction ps generalizing s with
  | nil => exact .refl _
  | cons p ps ih =>
    have hp := hgrows p s
    rw [actAll]
    cases ho : act p s with
    | mk t halt =>
      rw [ho] at hp
      cases halt with
      | none => exact hp.trans (ih t)
      | some h => exact hp

/-- The source files stay while files below the root are acted on. -/
theorem Steady.actAll (h : Steady rules disk act root place d₀ P) {ps : List Path}
    (hps : ∀ p ∈ ps, ∃ rel, (∀ x ∈ rel, isName x = true) ∧ p = root.below rel) {t : σ}
    (hs : Grown rules d₀ (disk s)) (hacts : actAll act ps s = .next t) (ht : P t) : Grown rules d₀ (disk t) := by
  induction ps generalizing s with
  | nil =>
    cases hacts
    exact hs
  | cons p ps ih =>
    obtain ⟨rel, hnames, rfl⟩ := hps p (List.mem_cons_self ..)
    rw [Walk.actAll] at hacts
    cases ho : act (root.below rel) s with
    | mk u halt =>
      rw [ho] at hacts
      cases halt with
      | some h₀ => cases hacts
      | none =>
        have hrest : Walk.actAll act ps u = .next t := hacts
        have hend : P (Walk.actAll act ps u).state := by
          rw [hrest]
          exact ht
        have hu : P u := actAll_reflects h.reflects hend
        exact ih (fun q hq => hps q (List.mem_cons_of_mem _ hq)) (h.keeps rel hnames s u hs ho hu) hrest

/-- Findings on a well-formed tree are below the root by names. -/
theorem Surveys.names {region : List Text → Prop} (h : Surveys rules d root place region found)
    (hd : d.WellFormed) : ∀ p ∈ found.state, ∃ rel, (∀ x ∈ rel, isName x = true) ∧ p = root.below rel := by
  intro p hp
  obtain ⟨rel, he, _, hs, _⟩ := (h.mem p).mp hp
  obtain ⟨n, hn, _⟩ := hs.isSome
  exact ⟨rel, fun x hx => (hd.get? hn).2 x (List.mem_append_right _ hx), he⟩

theorem visitEntry_replays {rel : List Text} {es : List (Text × Node)} (hdir : Entered rules d₀ root place rel es)
    {name : Text} (hname : isName name = true) {n : Node} (hn : es.lookup name = some n)
    (hs : Grown rules d₀ (disk s)) {enter : Path → σ → Outcome σ} {enter₀ : Path → List Path → Outcome (List Path)}
    (henter : ∀ es', Entered rules d₀ root place (rel ++ [name]) es' →
      P (enter (root.below (rel ++ [name])) s).state →
      Replays disk act d₀ root place s (enter (root.below (rel ++ [name])) s)
        (enter₀ (root.below (rel ++ [name])) []))
    (hP : P (visitEntry rules disk act enter (root.below rel) name s).state) :
    Replays disk act d₀ root place s (visitEntry rules disk act enter (root.below rel) name s)
      (visitEntry rules (fun _ => d₀) collect enter₀ (root.below rel) name []) := by
  obtain ⟨es', hdir'⟩ := hs.entered hdir
  have hup := Path.isName_ne_above hname
  have hat : d₀.root.get? ((place ++ rel) ++ [name]) = some n := (Node.get?_entry hdir.get? name).trans hn
  unfold visitEntry at hP ⊢
  dsimp only at hP ⊢
  by_cases hskip : rules.skips name = true
  · rw [if_pos hskip, if_pos hskip]
    exact Or.inl rfl
  · have hno : rules.skips name = false := by simpa using hskip
    rw [if_neg hskip] at hP
    rw [if_neg hskip, if_neg hskip]
    have hsame := hs.grows.entryFault? (root.below rel) (place ++ rel) name
    cases hfault : d₀.entryFault? (root.below rel) (place ++ rel) name with
    | some f =>
      have habsent : ¬ f.isAbsence = true := by simp [Disk.entryFault?_not_absence hfault]
      rw [Disk.node_child_fault hdir.located hup hfault,
        Disk.node_child_fault hdir'.located hup (hsame.trans hfault)]
      dsimp only
      rw [if_neg habsent, if_neg habsent]
      exact Or.inl rfl
    | none =>
      have hfault' := hsame.trans hfault
      rw [Disk.node_child hdir.located hup hn hfault, Path.below_child]
      rw [Path.below_child] at hP
      -- The entry is of the same kind now.
      cases n with
      | link t => exact absurd ((hs.grows.link _ t).mpr (Node.at?_eq_link.mpr hat)) (hs.linkFree _ t)
      | dir es₀ =>
        obtain ⟨es₁, hes₁⟩ := hs.grows.get?_dir hat
        rw [Node.get?_entry hdir'.get?] at hes₁
        have hnode := Disk.node_child hdir'.located hup hes₁ hfault'
        rw [Path.below_child] at hnode
        rw [hnode] at hP ⊢
        exact henter es₀ (hdir.child hname hno hn hfault) hP
      | file c =>
        obtain ⟨c', hc'⟩ := hs.grows.file _ c (Node.at?_eq_file.mpr hat)
        have hnode := Disk.node_child hdir'.located hup
          ((Node.get?_entry hdir'.get? name).symm.trans (Node.at?_eq_file.mp hc')) hfault'
        rw [Path.below_child] at hnode
        rw [hnode]
        dsimp only
        split
        · refine Or.inl ?_
          show act (root.below (rel ++ [name])) s = ((act (root.below (rel ++ [name])) s).andThen .next).andThen .next
          cases act (root.below (rel ++ [name])) s with
          | mk t halt => cases halt <;> rfl
        · exact Or.inl rfl

theorem visitEntries_replays (h : Steady rules disk act root place d₀ P) {levels : Nat} {rel : List Text}
    {es : List (Text × Node)} (hdir : Entered rules d₀ root place rel es)
    (hlevels : rel.length + (levels + 1) = Disk.pathLimit)
    (henter : ∀ name es' s, Entered rules d₀ root place (rel ++ [name]) es' → Grown rules d₀ (disk s) →
      P (visitDirectory rules disk act levels (root.below (rel ++ [name])) s).state →
      Replays disk act d₀ root place s (visitDirectory rules disk act levels (root.below (rel ++ [name])) s)
        (visitDirectory rules (fun _ => d₀) collect levels (root.below (rel ++ [name])) []))
    {names : List Text} (hnames : ∀ x ∈ names, isName x = true) (hs : Grown rules d₀ (disk s))
    (hpresent : ∀ x ∈ names, (disk s).at? (place ++ (rel ++ [x])) ≠ none)
    (hP : P (visitEntries rules disk act (visitDirectory rules disk act levels) (root.below rel) names s).state) :
    Replays disk act d₀ root place s
      (visitEntries rules disk act (visitDirectory rules disk act levels) (root.below rel) names s)
      (visitEntries rules (fun _ => d₀) collect (visitDirectory rules (fun _ => d₀) collect levels) (root.below rel)
        (names.filter fun x => (es.lookup x).isSome) []) := by
  induction names generalizing s with
  | nil => exact Or.inl rfl
  | cons name names ih =>
    have hlength : (rel ++ [name]).length + levels = Disk.pathLimit := by
      rw [List.length_append, List.length_singleton]
      omega
    have hname := hnames name (List.mem_cons_self ..)
    have hnames' : ∀ x ∈ names, isName x = true := fun x hx => hnames x (List.mem_cons_of_mem _ hx)
    have hback : ∀ t, P (visitEntries rules disk act (visitDirectory rules disk act levels) (root.below rel)
        names t).state → P t := fun t => visitEntries_reflects h.reflects fun q u => visitDirectory_reflects h.reflects
    rw [visitEntries] at hP ⊢
    have hfirst := andThen_reflects hback hP
    have hnext : ∀ t, visitEntry rules disk act (visitDirectory rules disk act levels) (root.below rel) name s =
        .next t → P (visitEntries rules disk act (visitDirectory rules disk act levels) (root.below rel)
          names t).state := by
      intro t ht
      rw [ht] at hP
      exact hP
    cases hl : es.lookup name with
    | none =>
      -- The entry is new.
      have hnew : d₀.at? (place ++ (rel ++ [name])) = none := by
        rw [← List.append_assoc]
        exact Node.at?_eq_none.mpr ((Node.get?_entry hdir.get? name).trans hl)
      obtain ⟨es', hdir'⟩ := hs.entered hdir
      have hthere : ∃ n, es'.lookup name = some n := by
        have hat := hpresent name (List.mem_cons_self ..)
        rw [← List.append_assoc] at hat
        rw [← Node.get?_entry hdir'.get? name]
        exact Option.ne_none_iff_exists'.mp fun hn => hat (Node.at?_eq_none.mpr hn)
      obtain ⟨n, hn⟩ := hthere
      have hPs : P s := visitEntry_reflects h.reflects (fun q u => visitDirectory_reflects h.reflects) hfirst
      rw [List.filter_cons_of_neg (by rw [hl]; exact Bool.false_ne_true)]
      refine .afterSilent (visitEntry_silent hs hdir' hname hnew hn fun es₁ hsub => ?_) fun ht => ?_
      · exact visitDirectory_silent hs (h.listable s hPs) hsub hnew hlength
      · exact ih hnames' hs (fun x hx => hpresent x (List.mem_cons_of_mem _ hx)) (hnext s ht)
    | some n =>
      rw [List.filter_cons_of_pos (by rw [hl]; rfl), visitEntries_cons]
      have hsurvey := visitEntry_surveys hdir hname hl fun es' hsub =>
        visitDirectory_surveys h.wellFormed hsub hlength
      refine .followedBy (visitEntry_replays hdir hname hl hs (fun es' hsub => henter name es' s hsub hs) hfirst) ?_
      intro t ht hacts
      have hPt := hnext t ht
      have hgrown := h.actAll (hsurvey.names h.wellFormed) hs hacts (hback t hPt)
      have hext := actAll_extends h.grows
        (visitEntry rules (fun _ => d₀) collect (visitDirectory rules (fun _ => d₀) collect levels) (root.below rel)
          name []).state s
      rw [hacts] at hext
      exact ih hnames' hgrown (fun x hx => hext.isSome (hpresent x (List.mem_cons_of_mem _ hx))) hPt

theorem visitDirectory_replays (h : Steady rules disk act root place d₀ P) {levels : Nat} {rel : List Text}
    {es : List (Text × Node)} (hdir : Entered rules d₀ root place rel es)
    (hlevels : rel.length + levels = Disk.pathLimit) (hs : Grown rules d₀ (disk s))
    (hP : P (visitDirectory rules disk act levels (root.below rel) s).state) :
    Replays disk act d₀ root place s (visitDirectory rules disk act levels (root.below rel) s)
      (visitDirectory rules (fun _ => d₀) collect levels (root.below rel) []) := by
  induction levels generalizing rel es s with
  | zero => exact Or.inl rfl
  | succ levels ih =>
    obtain ⟨es', hdir'⟩ := hs.entered hdir
    unfold visitDirectory at hP ⊢
    cases hlocked : d₀.locked.contains (root.below rel).text with
    | true =>
      have hlist₀ : d₀.list (root.below rel) = .error .denied := by rw [Disk.list, if_pos hlocked]
      have hlist : (disk s).list (root.below rel) = .error .denied := by
        rw [Disk.list, hs.grows.locked, if_pos hlocked]
      rw [hlist₀, hlist]
      exact Or.inl rfl
    | false =>
      have hlist₀ := Disk.list_eq_ok.mpr ⟨hlocked, _, es, hdir.located, rfl⟩
      have hlist := Disk.list_eq_ok.mpr ⟨hs.grows.locked ▸ hlocked, _, es', hdir'.located, rfl⟩
      rw [hlist] at hP ⊢
      rw [hlist₀]
      obtain ⟨_, hsorted₀⟩ := h.wellFormed.listed hdir.get?
      obtain ⟨hnames, hsorted⟩ := hs.wellFormed.listed hdir'.get?
      have hsub : ∀ x ∈ (es.map Prod.fst).mergeSort fun a b => !Text.lt b a,
          x ∈ (es'.map Prod.fst).mergeSort fun a b => !Text.lt b a := by
        intro x hx
        obtain ⟨n, hn⟩ := Disk.mem_listed.mp hx
        have hat : d₀.at? ((place ++ rel) ++ [x]) ≠ none := by
          rw [Disk.at?, Node.at?, Node.get?_entry hdir.get? x, hn]
          exact Option.some_ne_none _
        have hat' := hs.grows.isSome hat
        rw [Disk.at?, Node.at?, Node.get?_entry hdir'.get? x] at hat'
        refine Disk.mem_listed.mpr (Option.ne_none_iff_exists'.mp fun hnone => hat' ?_)
        rw [hnone]
        rfl
      -- The names from the start are a selection of the names now.
      have hselect : ((es'.map Prod.fst).mergeSort fun a b => !Text.lt b a).filter (fun x => (es.lookup x).isSome) =
          (es.map Prod.fst).mergeSort fun a b => !Text.lt b a := by
        rw [Text.eq_filter_of_subset hsorted₀ hsorted hsub]
        refine List.filter_congr fun x _ => ?_
        rw [Bool.eq_iff_iff, decide_eq_true_iff, Disk.mem_listed, Option.isSome_iff_exists]
      rw [← hselect]
      refine visitEntries_replays h hdir hlevels (fun name es₁ t hsub' ht hPt => ih hsub' ?_ ht hPt) hnames hs
        (fun x hx => ?_) hP
      · rw [List.length_append, List.length_singleton]
        omega
      · obtain ⟨n, hn⟩ := Disk.mem_listed.mp hx
        rw [← List.append_assoc, Disk.at?, Node.at?, Node.get?_entry hdir'.get? x, hn]
        exact Option.some_ne_none _

/-- A walk whose acts leave the source files as they are does what acts on the files found at the start do, one
after the other, unless it is cut short by something new that is too far down. -/
theorem visit_replays (h : Steady rules disk act root place (disk s) P)
    (hfree : ∀ q t, (disk s).at? q ≠ some (.link t)) (hname : root.text.nameFault? = none)
    {es : List (Text × Node)} (hroot : (disk s).locate true root = .ok (.found place (.dir es)))
    (hP : P (visit rules disk act root s).state) :
    Replays disk act (disk s) root place s (visit rules disk act root s) (files rules (disk s) root) := by
  have hvisit : visit rules disk act root s = visitDirectory rules disk act Disk.pathLimit (root.below []) s := by
    unfold visit
    rw [Disk.isDirectory_eq_true.mpr ⟨hname, place, es, hroot⟩, Path.below_nil]
  have hstart : Grown rules (disk s) (disk s) := ⟨h.wellFormed, .refl _, .refl _ _, hfree⟩
  rw [hvisit] at hP ⊢
  rw [files_eq hname hroot]
  exact visitDirectory_replays h (entered_root hroot) (Nat.zero_add _) hstart hP

/-- Where there is no directory, a walk stops at once. -/
theorem visit_no_directory (h : (disk s).isDirectory root ≠ .ok true) :
    ∃ halt, visit rules disk act root s = ⟨s, some halt⟩ ∧ files rules (disk s) root = ⟨[], some halt⟩ := by
  unfold files visit
  cases hdir : (disk s).isDirectory root with
  | error f => exact ⟨_, rfl, rfl⟩
  | ok b =>
    cases b with
    | false => exact ⟨_, rfl, rfl⟩
    | true => exact absurd hdir h

end Walk

end ModuleDocs
