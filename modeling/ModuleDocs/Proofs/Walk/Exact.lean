import ModuleDocs.Proofs.Storage.Entry
import ModuleDocs.Proofs.Walk.Findings

/-!
# What a walk finds

On files that stay as they are, a walk finds the source files below its root in the order of their paths, up to
the first entry that stops it: a directory that cannot be listed, or an entry that cannot be examined, because its
path is too long or its directory may not be searched.
-/

namespace ModuleDocs

open ModuleDocs.Path (isName)

namespace Walk

/-! ### Sources and obstacles -/

/-- An entry at a place below the root of a walk that the walk can come to: no part of its path is skipped, and
neither it nor a directory above it is a link. -/
structure Admissible (rules : WalkRules) (d : Disk) (place rel : List Text) (n : Node) : Prop where
  entry : d.root.get? (place ++ rel) = some n
  unskipped : ∀ name ∈ rel, rules.skips name = false
  notLink : ∀ t, n ≠ .link t

/-- An admissible file with the suffix of source files. -/
def SourceAt (rules : WalkRules) (d : Disk) (root : Path) (place rel : List Text) : Prop :=
  ∃ c, Admissible rules d place rel (.file c) ∧ (root.below rel).suffix = rules.suffix

/-- An entry below the root that cannot be asked for in its directory. -/
def Barred (d : Disk) (root : Path) (place rel : List Text) (f : SystemFault) : Prop :=
  ∃ above name, rel = above ++ [name] ∧ d.entryFault? (root.below above) (place ++ above) name = some f

theorem barred_snoc {d : Disk} {root : Path} {place rel : List Text} {name : Text} {f : SystemFault} :
    Barred d root place (rel ++ [name]) f ↔ d.entryFault? (root.below rel) (place ++ rel) name = some f := by
  constructor
  · rintro ⟨above, x, he, hf⟩
    obtain ⟨rfl, hx⟩ := List.append_inj' he rfl
    cases hx
    exact hf
  · exact fun hf => ⟨rel, name, rfl, hf⟩

theorem not_barred_nil {d : Disk} {root : Path} {place : List Text} (f : SystemFault) : ¬ Barred d root place [] f := by
  rintro ⟨above, name, he, _⟩
  exact absurd he (by simp)

/-- What stops a walk, and how. -/
inductive StopsAt (rules : WalkRules) (d : Disk) (root : Path) (place : List Text) : List Text → Halt → Prop where
  /-- An admissible directory that cannot be listed. -/
  | unlisted {rel : List Text} {es : List (Text × Node)} {f : SystemFault} :
      Admissible rules d place rel (.dir es) → (∀ g, ¬ Barred d root place rel g) →
      d.list (root.below rel) = .error f → StopsAt rules d root place rel (.failure (listingFailure (root.below rel) f))
  /-- An entry that cannot be examined, be it a link. -/
  | barred {rel : List Text} {n : Node} {f : SystemFault} : d.root.get? (place ++ rel) = some n →
      (∀ name ∈ rel, rules.skips name = false) → Barred d root place rel f →
      StopsAt rules d root place rel (.system f (root.below rel).text)

variable {rules : WalkRules} {d : Disk} {root : Path} {place : List Text}

theorem SourceAt.isSome {rel : List Text} (h : SourceAt rules d root place rel) :
    ∃ n, d.root.get? (place ++ rel) = some n ∧ ∀ name ∈ rel, rules.skips name = false := by
  obtain ⟨c, hadm, _⟩ := h
  exact ⟨_, hadm.entry, hadm.unskipped⟩

theorem StopsAt.isSome {rel : List Text} {h : Halt} (hs : StopsAt rules d root place rel h) :
    ∃ n, d.root.get? (place ++ rel) = some n ∧ ∀ name ∈ rel, rules.skips name = false := by
  cases hs with
  | unlisted hadm _ _ => exact ⟨_, hadm.entry, hadm.unskipped⟩
  | barred hn hskip _ => exact ⟨_, hn, hskip⟩

/-- At one entry a walk is stopped in one way. -/
theorem StopsAt.unique {rel : List Text} {h h' : Halt} (hs : StopsAt rules d root place rel h)
    (hs' : StopsAt rules d root place rel h') : h = h' := by
  cases hs with
  | unlisted _ hclear hlist =>
    cases hs' with
    | unlisted _ _ hlist' =>
      rw [hlist] at hlist'
      cases hlist'
      rfl
    | barred _ _ hbarred => exact absurd hbarred (hclear _)
  | barred _ _ hbarred =>
    cases hs' with
    | unlisted _ hclear _ => exact absurd hbarred (hclear _)
    | barred _ _ hbarred' =>
      obtain ⟨above, name, rfl, hf⟩ := hbarred
      rw [barred_snoc, hf] at hbarred'
      cases hbarred'
      rfl

/-- Findings in a part of the tree below the root: its sources, in order and up to its first obstacle. -/
structure Surveys (rules : WalkRules) (d : Disk) (root : Path) (place : List Text) (region : List Text → Prop)
    (o : Outcome (List Path)) : Prop where
  sorted : o.state.Pairwise fun a b => a.parts < b.parts
  mem : ∀ q, q ∈ o.state ↔ ∃ rel, q = root.below rel ∧ region rel ∧ SourceAt rules d root place rel ∧
    ∀ rel' h, region rel' → StopsAt rules d root place rel' h → rel < rel'
  clear : o.halt = none → ∀ rel h, region rel → ¬ StopsAt rules d root place rel h
  least : ∀ h, o.halt = some h → ∃ rel, region rel ∧ StopsAt rules d root place rel h ∧
    ∀ rel' h', region rel' → StopsAt rules d root place rel' h' → rel ≤ rel'

/-! ### Findings in parts of the tree -/

theorem le_append (a b : List Text) : a ≤ a ++ b := by
  cases b with
  | nil => rw [List.append_nil]
  | cons x b =>
    have hlt : a ++ [] < a ++ x :: b := List.append_left_lt (List.nil_lt_cons x b)
    rw [List.append_nil] at hlt
    exact le_of_lt hlt

theorem below_lt_below {rel rel' : List Text} (h : rel < rel') : (root.below rel).parts < (root.below rel').parts :=
  List.append_left_lt h

variable {region region' : List Text → Prop} {o o' : Outcome (List Path)}

/-- Only the sources and obstacles in a part of the tree matter. -/
theorem Surveys.congr (h : Surveys rules d root place region o)
    (hregion : ∀ rel, SourceAt rules d root place rel ∨ (∃ h, StopsAt rules d root place rel h) →
      (region rel ↔ region' rel)) : Surveys rules d root place region' o := by
  have hsource : ∀ rel, SourceAt rules d root place rel → (region rel ↔ region' rel) :=
    fun rel hs => hregion rel (Or.inl hs)
  have hstop : ∀ rel h, StopsAt rules d root place rel h → (region rel ↔ region' rel) :=
    fun rel h hs => hregion rel (Or.inr ⟨h, hs⟩)
  refine ⟨h.sorted, fun q => ?_, fun hnone rel h' hr hs => ?_, fun h' hh => ?_⟩
  · rw [h.mem]
    constructor
    · rintro ⟨rel, hq, hr, hs, hbefore⟩
      exact ⟨rel, hq, (hsource rel hs).mp hr, hs, fun rel' h' hr' hs' =>
        hbefore rel' h' ((hstop rel' h' hs').mpr hr') hs'⟩
    · rintro ⟨rel, hq, hr, hs, hbefore⟩
      exact ⟨rel, hq, (hsource rel hs).mpr hr, hs, fun rel' h' hr' hs' =>
        hbefore rel' h' ((hstop rel' h' hs').mp hr') hs'⟩
  · exact h.clear hnone rel h' ((hstop rel h' hs).mpr hr) hs
  · obtain ⟨rel, hr, hs, hleast⟩ := h.least h' hh
    exact ⟨rel, (hstop rel h' hs).mp hr, hs, fun rel' h'' hr' hs' =>
      hleast rel' h'' ((hstop rel' h'' hs').mpr hr') hs'⟩

theorem Surveys.nothing (hsource : ∀ rel, region rel → ¬ SourceAt rules d root place rel)
    (hstop : ∀ rel h, region rel → ¬ StopsAt rules d root place rel h) :
    Surveys rules d root place region (.next []) := by
  refine ⟨List.Pairwise.nil, fun q => ?_, fun _ => hstop, fun h hh => ?_⟩
  · constructor
    · intro hq
      exact absurd hq List.not_mem_nil
    · rintro ⟨rel, _, hr, hs, _⟩
      exact absurd hs (hsource rel hr)
  · cases hh

theorem Surveys.single {rel : List Text} (hr : region rel) (hs : SourceAt rules d root place rel)
    (honly : ∀ rel', region rel' → SourceAt rules d root place rel' → rel' = rel)
    (hstop : ∀ rel h, region rel → ¬ StopsAt rules d root place rel h) :
    Surveys rules d root place region (.next [root.below rel]) := by
  refine ⟨List.pairwise_singleton _ _, fun q => ?_, fun _ => hstop, fun h hh => ?_⟩
  · constructor
    · intro hq
      exact ⟨rel, List.mem_singleton.mp hq, hr, hs, fun rel' h hr' hs' => absurd hs' (hstop rel' h hr')⟩
    · rintro ⟨rel', rfl, hr', hs', _⟩
      rw [honly rel' hr' hs']
      exact List.mem_singleton_self _
  · cases hh

/-- An obstacle before everything else in a part of the tree. -/
theorem Surveys.stopped {rel : List Text} {h : Halt} (hr : region rel) (hs : StopsAt rules d root place rel h)
    (hfirst : ∀ rel', region rel' → rel ≤ rel') : Surveys rules d root place region ⟨[], some h⟩ := by
  refine ⟨List.Pairwise.nil, fun q => ?_, fun hh => ?_, fun h' hh => ?_⟩
  · constructor
    · intro hq
      exact absurd hq List.not_mem_nil
    · rintro ⟨rel', _, hr', _, hbefore⟩
      exact absurd (hbefore rel h hr hs) (not_lt.mpr (hfirst rel' hr'))
  · cases hh
  · cases hh
    exact ⟨rel, hr, hs, fun rel' _ hr' _ => hfirst rel' hr'⟩

/-- Findings in two parts of the tree, one before the other. -/
theorem Surveys.followedBy (h : Surveys rules d root place region o) (h' : Surveys rules d root place region' o')
    (hlt : ∀ rel rel', region rel → region' rel' → rel < rel') :
    Surveys rules d root place (fun rel => region rel ∨ region' rel) (followedBy o o') := by
  cases ho : o.halt with
  | none =>
    have hclear := h.clear ho
    have hboth : Walk.followedBy o o' = ⟨o.state ++ o'.state, o'.halt⟩ := by
      simp [Walk.followedBy, Outcome.andThen, after, ho]
    rw [hboth]
    refine ⟨?_, fun q => ?_, fun hnone rel h₁ hr hs => ?_, fun h₁ hh => ?_⟩
    · rw [List.pairwise_append]
      refine ⟨h.sorted, h'.sorted, fun p hp q hq => ?_⟩
      obtain ⟨rel, rfl, hr, _, _⟩ := (h.mem p).mp hp
      obtain ⟨rel', rfl, hr', _, _⟩ := (h'.mem q).mp hq
      exact below_lt_below (hlt rel rel' hr hr')
    · rw [List.mem_append, h.mem, h'.mem]
      constructor
      · rintro (⟨rel, hq, hr, hs, hbefore⟩ | ⟨rel, hq, hr, hs, hbefore⟩)
        · refine ⟨rel, hq, Or.inl hr, hs, fun rel' h₁ hr' hs' => ?_⟩
          rcases hr' with hr' | hr'
          · exact hbefore rel' h₁ hr' hs'
          · exact hlt rel rel' hr hr'
        · refine ⟨rel, hq, Or.inr hr, hs, fun rel' h₁ hr' hs' => ?_⟩
          rcases hr' with hr' | hr'
          · exact absurd hs' (hclear rel' h₁ hr')
          · exact hbefore rel' h₁ hr' hs'
      · rintro ⟨rel, hq, hr, hs, hbefore⟩
        rcases hr with hr | hr
        · exact Or.inl ⟨rel, hq, hr, hs, fun rel' h₁ hr' hs' => hbefore rel' h₁ (Or.inl hr') hs'⟩
        · exact Or.inr ⟨rel, hq, hr, hs, fun rel' h₁ hr' hs' => hbefore rel' h₁ (Or.inr hr') hs'⟩
    · rcases hr with hr | hr
      · exact hclear rel h₁ hr hs
      · exact h'.clear hnone rel h₁ hr hs
    · obtain ⟨rel, hr, hs, hleast⟩ := h'.least h₁ hh
      refine ⟨rel, Or.inr hr, hs, fun rel' h₂ hr' hs' => ?_⟩
      rcases hr' with hr' | hr'
      · exact absurd hs' (hclear rel' h₂ hr')
      · exact hleast rel' h₂ hr' hs'
  | some h₀ =>
    -- The first part has an obstacle, and everything in the second part comes after it.
    obtain ⟨first, hfirst, hstop, hleast⟩ := h.least h₀ ho
    have hone : Walk.followedBy o o' = o := by
      simp [Walk.followedBy, Outcome.andThen, ho]
    rw [hone]
    refine ⟨h.sorted, fun q => ?_, fun hnone => ?_, fun h₁ hh => ?_⟩
    · rw [h.mem]
      constructor
      · rintro ⟨rel, hq, hr, hs, hbefore⟩
        refine ⟨rel, hq, Or.inl hr, hs, fun rel' h₁ hr' hs' => ?_⟩
        rcases hr' with hr' | hr'
        · exact hbefore rel' h₁ hr' hs'
        · exact hlt rel rel' hr hr'
      · rintro ⟨rel, hq, hr, hs, hbefore⟩
        rcases hr with hr | hr
        · exact ⟨rel, hq, hr, hs, fun rel' h₁ hr' hs' => hbefore rel' h₁ (Or.inl hr') hs'⟩
        · exact absurd (hbefore first h₀ (Or.inl hfirst) hstop) (lt_asymm (hlt first rel hfirst hr))
    · rw [ho] at hnone
      cases hnone
    · rw [ho] at hh
      cases hh
      refine ⟨first, Or.inl hfirst, hstop, fun rel' h₂ hr' hs' => ?_⟩
      rcases hr' with hr' | hr'
      · exact hleast rel' h₂ hr' hs'
      · exact le_of_lt (hlt first rel' hfirst hr')

/-! ### Visits -/

def BelowEntry (rel : List Text) (name : Text) (rel' : List Text) : Prop := ∃ more, rel' = rel ++ name :: more

def BelowEntries (rel names rel' : List Text) : Prop := ∃ name ∈ names, BelowEntry rel name rel'

/-- A directory below the root of a walk that the walk enters. -/
structure Entered (rules : WalkRules) (d : Disk) (root : Path) (place rel : List Text)
    (es : List (Text × Node)) : Prop where
  located : d.locate true (root.below rel) = .ok (.found (place ++ rel) (.dir es))
  names : ∀ x ∈ rel, isName x = true
  unskipped : ∀ name ∈ rel, rules.skips name = false
  clear : ∀ f, ¬ Barred d root place rel f

theorem Entered.get? {rel : List Text} {es : List (Text × Node)} (h : Entered rules d root place rel es) :
    d.root.get? (place ++ rel) = some (.dir es) := Disk.locate_holds h.located

/-- The walk enters a directory in a directory it has entered, unless its name is skipped or it cannot be examined. -/
theorem Entered.child {rel : List Text} {es es' : List (Text × Node)} (h : Entered rules d root place rel es)
    {name : Text} (hname : isName name = true) (hskip : rules.skips name = false)
    (hn : es.lookup name = some (.dir es'))
    (hclear : d.entryFault? (root.below rel) (place ++ rel) name = none) :
    Entered rules d root place (rel ++ [name]) es' := by
  refine ⟨?_, ?_, ?_, fun f hf => ?_⟩
  · rw [← Path.below_child, ← List.append_assoc]
    exact Disk.locate_child h.located (Path.isName_ne_above hname) hn hclear (Or.inr fun t ht => by cases ht)
  · exact List.forall_mem_append.mpr ⟨h.names, List.forall_mem_singleton.mpr hname⟩
  · exact List.forall_mem_append.mpr ⟨h.unskipped, List.forall_mem_singleton.mpr hskip⟩
  · rw [barred_snoc, hclear] at hf
    cases hf

theorem get?_entry_below {rel : List Text} {name : Text} {n : Node}
    (hn : d.root.get? (place ++ (rel ++ [name])) = some n) (more : List Text) :
    d.root.get? (place ++ (rel ++ name :: more)) = n.get? more := by
  have hsplit : place ++ (rel ++ name :: more) = (place ++ (rel ++ [name])) ++ more := by simp
  rw [hsplit, Node.get?_append, hn, Option.bind_some]

/-- Nothing is below a file or a link. -/
theorem eq_of_belowEntry_leaf {rel : List Text} {name : Text} {n : Node}
    (hn : d.root.get? (place ++ (rel ++ [name])) = some n) (hleaf : ∀ x more, n.get? (x :: more) = none)
    {r : List Text} (hr : BelowEntry rel name r) {m : Node} (hm : d.root.get? (place ++ r) = some m) :
    r = rel ++ [name] ∧ m = n := by
  obtain ⟨more, rfl⟩ := hr
  rw [get?_entry_below hn] at hm
  cases more with
  | nil =>
    rw [Node.get?_nil] at hm
    cases hm
    exact ⟨rfl, rfl⟩
  | cons x more =>
    rw [hleaf] at hm
    cases hm

theorem surveys_skipped {rel : List Text} {name : Text} (hskip : rules.skips name = true) :
    Surveys rules d root place (BelowEntry rel name) (.next []) := by
  have hno : ∀ r, BelowEntry rel name r → ¬ ∀ x ∈ r, rules.skips x = false := by
    rintro r ⟨more, rfl⟩ hall
    have hx := hall name (List.mem_append_right _ (List.mem_cons_self ..))
    rw [hskip] at hx
    cases hx
  refine .nothing (fun r hr hs => ?_) (fun r h hr hs => ?_)
  · obtain ⟨_, _, hall⟩ := hs.isSome
    exact hno r hr hall
  · obtain ⟨_, _, hall⟩ := hs.isSome
    exact hno r hr hall

theorem surveys_link {rel : List Text} {name t : Text}
    (hn : d.root.get? (place ++ (rel ++ [name])) = some (.link t))
    (hclear : ∀ f, ¬ Barred d root place (rel ++ [name]) f) :
    Surveys rules d root place (BelowEntry rel name) (.next []) := by
  have hleaf := @eq_of_belowEntry_leaf d place rel name _ hn (Node.get?_link_cons t)
  refine .nothing (fun r hr hs => ?_) (fun r h hr hs => ?_)
  · obtain ⟨c, hadm, _⟩ := hs
    cases (hleaf hr hadm.entry).2
  · cases hs with
    | unlisted hadm _ _ => cases (hleaf hr hadm.entry).2
    | barred hm _ hb => exact hclear _ ((hleaf hr hm).1 ▸ hb)

theorem surveys_file {rel : List Text} {name : Text} {c : List UInt8}
    (hn : d.root.get? (place ++ (rel ++ [name])) = some (.file c))
    (hskip : ∀ x ∈ rel ++ [name], rules.skips x = false) (hclear : ∀ f, ¬ Barred d root place (rel ++ [name]) f) :
    Surveys rules d root place (BelowEntry rel name)
      (if (root.below (rel ++ [name])).suffix = rules.suffix then .next [root.below (rel ++ [name])]
        else .next []) := by
  have hleaf := @eq_of_belowEntry_leaf d place rel name _ hn (Node.get?_file_cons c)
  have hstop : ∀ r h, BelowEntry rel name r → ¬ StopsAt rules d root place r h := by
    intro r h hr hs
    cases hs with
    | unlisted hadm _ _ => cases (hleaf hr hadm.entry).2
    | barred hm _ hb => exact hclear _ ((hleaf hr hm).1 ▸ hb)
  split
  · rename_i hsuf
    have hhere : BelowEntry rel name (rel ++ [name]) := ⟨[], rfl⟩
    refine .single hhere ⟨c, ⟨hn, hskip, fun t ht => by cases ht⟩, hsuf⟩ (fun r hr hs => ?_) hstop
    obtain ⟨c', hadm, _⟩ := hs
    exact (hleaf hr hadm.entry).1
  · rename_i hsuf
    refine .nothing (fun r hr hs => ?_) hstop
    obtain ⟨c', hadm, hsuf'⟩ := hs
    rw [(hleaf hr hadm.entry).1] at hsuf'
    exact hsuf hsuf'

theorem visitEntry_surveys {rel : List Text} {es : List (Text × Node)} (hdir : Entered rules d root place rel es)
    {name : Text} (hname : isName name = true) {n : Node} (hn : es.lookup name = some n)
    {enter : Path → List Path → Outcome (List Path)}
    (henter : ∀ es', Entered rules d root place (rel ++ [name]) es' →
      Surveys rules d root place (fun r => ∃ more, r = (rel ++ [name]) ++ more)
        (enter (root.below (rel ++ [name])) [])) :
    Surveys rules d root place (BelowEntry rel name)
      (visitEntry rules (fun _ => d) collect enter (root.below rel) name []) := by
  have hat : d.root.get? (place ++ (rel ++ [name])) = some n := by
    rw [← List.append_assoc, Node.get?_entry hdir.get? name, hn]
  have hbelow : ∀ r, BelowEntry rel name r ↔ ∃ more, r = (rel ++ [name]) ++ more := by
    intro r
    simp [BelowEntry]
  have hup := Path.isName_ne_above hname
  unfold visitEntry
  by_cases hskip : rules.skips name = true
  · simp only [hskip, if_true]
    exact surveys_skipped hskip
  · have hno : rules.skips name = false := by simpa using hskip
    have hunskipped : ∀ x ∈ rel ++ [name], rules.skips x = false :=
      List.forall_mem_append.mpr ⟨hdir.unskipped, List.forall_mem_singleton.mpr hno⟩
    simp only [hskip]
    cases hfault : d.entryFault? (root.below rel) (place ++ rel) name with
    | some f =>
      have hhere : BelowEntry rel name (rel ++ [name]) := ⟨[], rfl⟩
      have habsent : ¬ f.isAbsence = true := by simp [Disk.entryFault?_not_absence hfault]
      rw [Disk.node_child_fault hdir.located hup hfault, Path.below_child]
      dsimp only
      rw [if_neg habsent]
      refine .stopped hhere (.barred hat hunskipped (barred_snoc.mpr hfault)) (fun r hr => ?_)
      obtain ⟨more, rfl⟩ := (hbelow r).mp hr
      exact le_append _ more
    | none =>
      have hclear : ∀ f, ¬ Barred d root place (rel ++ [name]) f := by
        intro f hf
        rw [barred_snoc, hfault] at hf
        cases hf
      rw [Disk.node_child hdir.located hup hn hfault, Path.below_child]
      cases n with
      | dir es' => exact (henter es' (hdir.child hname hno hn hfault)).congr fun r _ => (hbelow r).symm
      | file c => exact surveys_file hat hunskipped hclear
      | link t => exact surveys_link hat hclear

theorem visitEntries_surveys {rel : List Text} {es : List (Text × Node)} (hdir : Entered rules d root place rel es)
    {levels : Nat} (henter : ∀ name es', Entered rules d root place (rel ++ [name]) es' →
      Surveys rules d root place (fun r => ∃ more, r = (rel ++ [name]) ++ more)
        (visitDirectory rules (fun _ => d) collect levels (root.below (rel ++ [name])) []))
    {names : List Text} (hnames : ∀ x ∈ names, isName x = true) (hsorted : names.Pairwise (· < ·))
    (hlisted : ∀ x ∈ names, ∃ n, es.lookup x = some n) :
    Surveys rules d root place (BelowEntries rel names)
      (visitEntries rules (fun _ => d) collect (visitDirectory rules (fun _ => d) collect levels) (root.below rel)
        names []) := by
  induction names with
  | nil =>
    have hno : ∀ r, ¬ BelowEntries rel [] r := by
      rintro r ⟨name, hname, _⟩
      exact absurd hname List.not_mem_nil
    exact .nothing (fun r hr => absurd hr (hno r)) (fun r h hr => absurd hr (hno r))
  | cons name names ih =>
    obtain ⟨hlt, hsorted'⟩ := List.pairwise_cons.mp hsorted
    obtain ⟨n, hn⟩ := hlisted name (List.mem_cons_self ..)
    have hfirst := visitEntry_surveys hdir (hnames name (List.mem_cons_self ..)) hn (henter name)
    have hothers := ih (fun x hx => hnames x (List.mem_cons_of_mem _ hx)) hsorted'
      (fun x hx => hlisted x (List.mem_cons_of_mem _ hx))
    rw [visitEntries_cons]
    refine (hfirst.followedBy hothers ?_).congr (fun r _ => ?_)
    · rintro _ _ ⟨more, rfl⟩ ⟨x, hx, more', rfl⟩
      exact List.append_left_lt (List.Lex.rel (hlt x hx))
    · simp [BelowEntries]

theorem visitDirectory_surveys (hd : d.WellFormed) {levels : Nat} {rel : List Text} {es : List (Text × Node)}
    (hdir : Entered rules d root place rel es) (hlevels : rel.length + levels = Disk.pathLimit) :
    Surveys rules d root place (fun r => ∃ more, r = rel ++ more)
      (visitDirectory rules (fun _ => d) collect levels (root.below rel) []) := by
  induction levels generalizing rel es with
  | zero =>
    -- A path with that many parts would be too long.
    have hlong := length_le_fileNameLength_below root hdir.names
    have hshort := (Disk.locate_eq_ok.mp hdir.located).1
    omega
  | succ levels ih =>
    unfold visitDirectory
    have hadm : Admissible rules d place rel (.dir es) :=
      ⟨hdir.get?, hdir.unskipped, fun t ht => by cases ht⟩
    cases hlist : d.list (root.below rel) with
    | error f =>
      have hhere : ∃ more, rel = rel ++ more := ⟨[], by simp⟩
      refine .stopped hhere (.unlisted hadm hdir.clear hlist) ?_
      rintro _ ⟨more, rfl⟩
      exact le_append rel more
    | ok names =>
      obtain ⟨_, place', es', hloc, rfl⟩ := Disk.list_eq_ok.mp hlist
      rw [hdir.located] at hloc
      cases hloc
      obtain ⟨hnames, hsorted⟩ := hd.listed hdir.get?
      refine (visitEntries_surveys hdir (fun name es' hsub => ih hsub ?_) hnames hsorted
        (fun x hx => Disk.mem_listed.mp hx)).congr (fun r hrel => ⟨?_, ?_⟩)
      · rw [List.length_append, List.length_singleton]
        omega
      · rintro ⟨name, _, more, rfl⟩
        exact ⟨name :: more, rfl⟩
      · -- The directory itself is no source, and it is not what stops the walk.
        rintro ⟨more, rfl⟩
        cases more with
        | cons name more =>
          have hsome : ∃ n, d.root.get? (place ++ (rel ++ name :: more)) = some n := by
            rcases hrel with hs | ⟨h, hs⟩
            · obtain ⟨n, hn, _⟩ := hs.isSome
              exact ⟨n, hn⟩
            · obtain ⟨n, hn, _⟩ := hs.isSome
              exact ⟨n, hn⟩
          obtain ⟨n, hn⟩ := hsome
          rw [← List.append_assoc, Node.get?_append, hdir.get?, Option.bind_some, Node.get?_dir_cons] at hn
          obtain ⟨m, hm, _⟩ := Option.bind_eq_some_iff.mp hn
          exact ⟨name, Disk.mem_listed.mpr ⟨m, hm⟩, more, rfl⟩
        | nil =>
          rw [List.append_nil] at hrel
          rcases hrel with ⟨c, hadm', _⟩ | ⟨h, hs⟩
          · have hentry := hadm'.entry
            rw [hdir.get?] at hentry
            cases hentry
          · cases hs with
            | unlisted _ _ hlist' =>
              rw [hlist] at hlist'
              cases hlist'
            | barred _ _ hbarred => exact absurd hbarred (hdir.clear _)

theorem entered_root {es : List (Text × Node)} (hroot : d.locate true root = .ok (.found place (.dir es))) :
    Entered rules d root place [] es := by
  refine ⟨?_, fun _ h => absurd h List.not_mem_nil, fun _ h => absurd h List.not_mem_nil, not_barred_nil⟩
  rw [Path.below_nil, List.append_nil]
  exact hroot

theorem files_eq {es : List (Text × Node)} (hname : root.text.nameFault? = none)
    (hroot : d.locate true root = .ok (.found place (.dir es))) :
    files rules d root = visitDirectory rules (fun _ => d) collect Disk.pathLimit (root.below []) [] := by
  unfold files visit
  rw [Disk.isDirectory_eq_true.mpr ⟨hname, place, es, hroot⟩, Path.below_nil]
  rfl

theorem files_surveys (hd : d.WellFormed) {es : List (Text × Node)} (hname : root.text.nameFault? = none)
    (hroot : d.locate true root = .ok (.found place (.dir es))) :
    Surveys rules d root place (fun _ => True) (files rules d root) := by
  rw [files_eq hname hroot]
  refine (visitDirectory_surveys hd (entered_root hroot) (Nat.zero_add _)).congr fun r _ => ?_
  exact ⟨fun _ => trivial, fun _ => ⟨r, rfl⟩⟩

theorem below_le_below {rel rel' : List Text} : (root.below rel).parts ≤ (root.below rel').parts ↔ rel ≤ rel' := by
  rw [← not_lt, ← not_lt]
  constructor
  · intro h hlt
    exact h (below_lt_below hlt)
  · intro h hlt
    rcases lt_trichotomy rel rel' with hc | hc | hc
    · exact lt_asymm hlt (below_lt_below hc)
    · rw [hc] at hlt
      exact lt_irrefl _ hlt
    · exact h hc

/-- A walk from a directory finds every source file below it that comes before the first obstacle, and nothing
else, in strictly increasing order of the parts of paths. It is stopped by the first obstacle, if there is one: a
directory that cannot be listed, which is reported, or an entry that cannot be examined, which is not. -/
theorem files_exact (rules : WalkRules) {d : Disk} (hd : d.WellFormed) {root : Path}
    (hname : root.text.nameFault? = none) {place : List Text} {es : List (Text × Node)}
    (hroot : d.locate true root = .ok (.found place (.dir es))) :
    ((files rules d root).state.Pairwise fun p q => p.parts < q.parts) ∧
    (∀ q, q ∈ (files rules d root).state ↔
      ∃ rel, q = root.below rel ∧ SourceAt rules d root place rel ∧
        ∀ rel' h, StopsAt rules d root place rel' h → q.parts < (root.below rel').parts) ∧
    (∀ h, (files rules d root).halt = some h ↔
      ∃ rel, StopsAt rules d root place rel h ∧
        ∀ rel' h', StopsAt rules d root place rel' h' → (root.below rel).parts ≤ (root.below rel').parts) ∧
    ((files rules d root).halt = none ↔ ∀ rel h, ¬ StopsAt rules d root place rel h) := by
  have hs : Surveys rules d root place (fun _ => True) (files rules d root) := files_surveys hd hname hroot
  have hsome : ∀ h, (files rules d root).halt = some h → ∃ rel, StopsAt rules d root place rel h ∧
      ∀ rel' h', StopsAt rules d root place rel' h' → rel ≤ rel' := by
    intro h hh
    obtain ⟨rel, _, hstop, hleast⟩ := hs.least h hh
    exact ⟨rel, hstop, fun rel' h' => hleast rel' h' trivial⟩
  refine ⟨hs.sorted, fun q => ?_, fun h => ⟨fun hh => ?_, ?_⟩, fun hnone rel h => hs.clear hnone rel h trivial, ?_⟩
  · rw [hs.mem]
    constructor
    · rintro ⟨rel, rfl, _, hsource, hbefore⟩
      exact ⟨rel, rfl, hsource, fun rel' h hstop => below_lt_below (hbefore rel' h trivial hstop)⟩
    · rintro ⟨rel, rfl, hsource, hbefore⟩
      refine ⟨rel, rfl, trivial, hsource, fun rel' h _ hstop => ?_⟩
      exact not_le.mp fun hle => not_lt.mpr (below_le_below.mpr hle) (hbefore rel' h hstop)
  · obtain ⟨rel, hstop, hleast⟩ := hsome h hh
    exact ⟨rel, hstop, fun rel' h' hstop' => below_le_below.mpr (hleast rel' h' hstop')⟩
  · rintro ⟨rel, hstop, hleast⟩
    cases hhalt : (files rules d root).halt with
    | none => exact absurd hstop (hs.clear hhalt rel h trivial)
    | some h₀ =>
      obtain ⟨rel₀, hstop₀, hleast₀⟩ := hsome h₀ hhalt
      have heq : rel = rel₀ := le_antisymm (below_le_below.mp (hleast rel₀ h₀ hstop₀)) (hleast₀ rel h hstop)
      rw [hstop.unique (heq ▸ hstop₀)]
  · intro hno
    cases hhalt : (files rules d root).halt with
    | none => rfl
    | some h =>
      obtain ⟨rel, hstop, _⟩ := hsome h hhalt
      exact absurd hstop (hno rel h)

/-- A directory with a source file in it and one further below. -/
def barredEntries : List (Text × Node) :=
  [("a.py", .file []), ("b", .dir [("c.py", .file [])])]

/-- A tree in which the directory further below can be listed, but not searched. -/
def barredTree : Disk := ⟨.dir [("in", .dir barredEntries)], [], { withheld := [(.search, ["in", "b"])] }⟩

theorem files_exact_barred :
    barredTree.WellFormed ∧ (Path.ofText "in").text.nameFault? = none ∧
    barredTree.locate true (Path.ofText "in") = .ok (.found ["in"] (.dir barredEntries)) ∧
    Path.ofText "in/b/c.py" ∉ (files ⟨".py", []⟩ barredTree (Path.ofText "in")).state ∧
    (files ⟨".py", []⟩ barredTree (Path.ofText "in")).halt ≠ none := by
  have hd : barredTree.WellFormed := by
    refine .dir (by decide) (by decide) fun e he => ?_
    rw [List.mem_singleton.mp he]
    refine .dir (by decide) (by decide) fun e he => ?_
    rcases List.mem_cons.mp he with rfl | he
    · exact .file []
    · rw [List.mem_singleton.mp he]
      refine .dir (by decide) (by decide) fun e he => ?_
      rw [List.mem_singleton.mp he]
      exact .file []
  have hname : (Path.ofText "in").text.nameFault? = none := by cbv
  have hroot : barredTree.locate true (Path.ofText "in") = .ok (.found ["in"] (.dir barredEntries)) :=
    Disk.locate_eq_ok.mpr ⟨by decide, .down ⟨rfl, rfl⟩ (by decide) (by decide) rfl (.here rfl)⟩
  have hstop : StopsAt ⟨".py", []⟩ barredTree (Path.ofText "in") ["in"] [Text.ofString "b", Text.ofString "c.py"]
      (.system .denied "in/b/c.py") :=
    .barred rfl (fun _ _ => rfl) ⟨[Text.ofString "b"], Text.ofString "c.py", rfl, by cbv⟩
  obtain ⟨_, hmem, _, hnone⟩ := files_exact ⟨".py", []⟩ hd hname hroot
  refine ⟨hd, hname, hroot, fun hin => ?_, fun h => hnone.mp h _ _ hstop⟩
  obtain ⟨_, _, _, hbefore⟩ := (hmem _).mp hin
  exact absurd (hbefore _ _ hstop) (by decide)

end Walk

end ModuleDocs
