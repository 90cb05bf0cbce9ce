import ModuleDocs.Proofs.Storage.Entry
import ModuleDocs.Proofs.Walk.Findings

/-!
# The trail of a walk

A walk acts on the source files it comes to, one after the other, and the first file on which it cannot act ends
it. Whatever the acts do to the tree meanwhile, as long as it stays well-formed the files come in increasing
order and each of them once.
-/

namespace ModuleDocs

open ModuleDocs.Path (isName)

namespace Walk

variable {σ : Type}

/-! ### Trails -/

/-- Acts on files one after the other, until an act is stopped. -/
def actAll (act : Path → σ → Outcome σ) : List Path → σ → Outcome σ
  | [], s => .next s
  | p :: ps, s => (act p s).andThen (actAll act ps)

/-- A file that a walk acts on where it comes to it. -/
def IsSource (rules : WalkRules) (d : Disk) (p : Path) : Prop :=
  (∃ c, d.node false p = .ok (.file c)) ∧ p.suffix = rules.suffix

/-- How a walk goes on from a state: the files that it acts on, and how it ends. -/
inductive Trail (rules : WalkRules) (disk : σ → Disk) (act : Path → σ → Outcome σ) :
    σ → List Path → Outcome σ → Prop where
  /-- No more files: the walk is over, or it is stopped on its way to the next one. -/
  | done (s : σ) (h : Option Halt) : Trail rules disk act s [] ⟨s, h⟩
  /-- The act on a file is stopped. -/
  | failed {p : Path} {s t : σ} {h : Halt} : IsSource rules (disk s) p → act p s = ⟨t, some h⟩ →
      Trail rules disk act s [p] ⟨t, some h⟩
  /-- The act on a file succeeds. -/
  | step {p : Path} {ps : List Path} {s t : σ} {o : Outcome σ} : IsSource rules (disk s) p →
      act p s = .next t → Trail rules disk act t ps o → Trail rules disk act s (p :: ps) o

variable {rules : WalkRules} {disk : σ → Disk} {act : Path → σ → Outcome σ}

theorem Trail.append {s t : σ} {ps qs : List Path} {o : Outcome σ} (h : Trail rules disk act s ps (.next t))
    (ht : Trail rules disk act t qs o) : Trail rules disk act s (ps ++ qs) o := by
  generalize he : Outcome.next t = o' at h
  induction h with
  | done s h =>
    cases he
    exact ht
  | failed => cases he
  | step hsource hact _ ih => exact .step hsource hact (ih he)

theorem Trail.single {p : Path} {s : σ} (h : IsSource rules (disk s) p) :
    Trail rules disk act s [p] (act p s) := by
  cases ho : act p s with
  | mk t halt =>
    cases halt with
    | none => exact .step h ho (.done t none)
    | some h' => exact .failed h ho

/-- A property of states that the acts preserve holds at the end of a trail. -/
theorem Trail.preserves {Inv : σ → Prop} {s : σ} {ps : List Path} {o : Outcome σ}
    (h : Trail rules disk act s ps o) (hact : ∀ p ∈ ps, ∀ s, Inv s → Inv (act p s).state) (hs : Inv s) :
    Inv o.state := by
  induction h with
  | done => exact hs
  | @failed p s t h _ ho =>
    have hp := hact p (List.mem_cons_self ..) s hs
    rw [ho] at hp
    exact hp
  | @step p ps s t o _ ho _ ih =>
    have hp := hact p (List.mem_cons_self ..) s hs
    rw [ho] at hp
    exact ih (fun q hq => hact q (List.mem_cons_of_mem _ hq)) hp

theorem Trail.suffix {s : σ} {ps : List Path} {o : Outcome σ} (h : Trail rules disk act s ps o) :
    ∀ p ∈ ps, p.suffix = rules.suffix := by
  induction h with
  | done => exact fun _ h => absurd h List.not_mem_nil
  | failed hsource _ =>
    intro p hp
    rw [List.mem_singleton.mp hp]
    exact hsource.2
  | step hsource _ _ ih =>
    intro p hp
    rcases List.mem_cons.mp hp with rfl | hp
    · exact hsource.2
    · exact ih p hp

/-! ### The files that are reached -/

/-- The act, with a note of the file. -/
def noting (act : Path → σ → Outcome σ) (p : Path) (t : σ × List Path) : Outcome (σ × List Path) :=
  ⟨((act p t.1).state, t.2 ++ [p]), (act p t.1).halt⟩

/-- The files that a walk acts on, in order. -/
def reached (rules : WalkRules) (disk : σ → Disk) (act : Path → σ → Outcome σ) (root : Path) (s : σ) :
    List Path :=
  (visit rules (fun t => disk t.1) (noting act) root (s, [])).state.2

/-- A way to go on from a state, with the files noted and without: the notes are a trail. -/
def Noted (rules : WalkRules) (disk : σ → Disk) (act : Path → σ → Outcome σ) (plain : σ → Outcome σ)
    (noted : σ × List Path → Outcome (σ × List Path)) (s : σ) (P : List Path → Prop) : Prop :=
  ∀ before, ∃ ps, noted (s, before) = ⟨((plain s).state, before ++ ps), (plain s).halt⟩ ∧
    Trail rules disk act s ps (plain s) ∧ P ps

/-- Files below a path, by names of entries, in increasing order. -/
structure Ordered (root : Path) (rel : List Text) (ps : List Path) : Prop where
  sorted : ps.Pairwise fun a b => a.parts < b.parts
  below : ∀ p ∈ ps, ∃ more, more ≠ [] ∧ (∀ x ∈ more, isName x = true) ∧ p = root.below (rel ++ more)

theorem Ordered.nil (root : Path) (rel : List Text) : Ordered root rel [] :=
  ⟨List.Pairwise.nil, fun _ h => absurd h List.not_mem_nil⟩

theorem parts_lt_parts (root : Path) (rel : List Text) {x y : Text} (h : x < y) (xs ys : List Text) :
    (root.below (rel ++ x :: xs)).parts < (root.below (rel ++ y :: ys)).parts := by
  show root.parts ++ (rel ++ x :: xs) < root.parts ++ (rel ++ y :: ys)
  exact List.Lex.append_left _ (List.Lex.append_left _ (List.Lex.rel h) rel) root.parts

/-- Files that one of some entries of a directory is, or has below it. -/
def Among (root : Path) (rel names : List Text) (ps : List Path) : Prop :=
  ∀ p ∈ ps, ∃ name ∈ names, ∃ more, (∀ x ∈ more, isName x = true) ∧ p = root.below (rel ++ name :: more)

theorem Among.below {root : Path} {rel names : List Text} {ps : List Path} (h : Among root rel names ps)
    (hnames : ∀ x ∈ names, isName x = true) :
    ∀ p ∈ ps, ∃ more, more ≠ [] ∧ (∀ x ∈ more, isName x = true) ∧ p = root.below (rel ++ more) := by
  intro p hp
  obtain ⟨name, hname, more, hmore, he⟩ := h p hp
  refine ⟨name :: more, List.cons_ne_nil _ _, fun x hx => ?_, he⟩
  rcases List.mem_cons.mp hx with hx | hx
  · rw [hx]
    exact hnames name hname
  · exact hmore x hx

/-- The files of one entry come before the files of later ones. -/
theorem Among.sorted_append {root : Path} {rel names : List Text} {name : Text} {ps qs : List Path}
    (hp : Among root rel [name] ps) (hq : Among root rel names qs) (hlt : ∀ x ∈ names, name < x)
    (hps : ps.Pairwise fun a b => a.parts < b.parts) (hqs : qs.Pairwise fun a b => a.parts < b.parts) :
    (ps ++ qs).Pairwise fun a b => a.parts < b.parts := by
  rw [List.pairwise_append]
  refine ⟨hps, hqs, fun p hp' q hq' => ?_⟩
  obtain ⟨x, hx, more, _, rfl⟩ := hp p hp'
  obtain ⟨y, hy, more', _, rfl⟩ := hq q hq'
  rw [List.mem_singleton.mp hx]
  exact parts_lt_parts root rel (hlt y hy) more more'

/-! ### Visits leave trails -/

/-- What is known of a state on the way, and kept by acts on files below the root. -/
structure Keeps (disk : σ → Disk) (act : Path → σ → Outcome σ) (root : Path) (Inv : σ → Prop) : Prop where
  wellFormed : ∀ s, Inv s → (disk s).WellFormed
  act : ∀ rel, (∀ x ∈ rel, isName x = true) → ∀ s, Inv s → Inv (act (root.below rel) s).state

variable {root : Path} {Inv : σ → Prop}

theorem Noted.nothing {plain : σ → Outcome σ} {noted : σ × List Path → Outcome (σ × List Path)} {s : σ}
    {P : List Path → Prop} (h : Option Halt) (hplain : plain s = ⟨s, h⟩)
    (hnoted : ∀ before, noted (s, before) = ⟨(s, before), h⟩) (hP : P []) :
    Noted rules disk act plain noted s P := by
  intro before
  refine ⟨[], ?_, ?_, hP⟩
  · rw [hnoted, hplain, List.append_nil]
  · rw [hplain]
    exact .done s h

theorem visitEntry_noted {enter : Path → σ → Outcome σ}
    {enter' : Path → σ × List Path → Outcome (σ × List Path)} {rel : List Text} {name : Text} {s : σ}
    (henter : Noted rules disk act (enter (root.below (rel ++ [name]))) (enter' (root.below (rel ++ [name]))) s
      fun ps => Ordered root (rel ++ [name]) ps) :
    Noted rules disk act (visitEntry rules disk act enter (root.below rel) name)
      (visitEntry rules (fun t => disk t.1) (noting act) enter' (root.below rel) name) s fun ps =>
        (ps.Pairwise fun a b => a.parts < b.parts) ∧ Among root rel [name] ps := by
  have hnone : ([] : List Path).Pairwise (fun a b => a.parts < b.parts) ∧ Among root rel [name] [] :=
    ⟨List.Pairwise.nil, fun _ h => absurd h List.not_mem_nil⟩
  by_cases hskip : rules.skips name = true
  · exact .nothing none (by simp [visitEntry, hskip, Outcome.next])
      (fun before => by simp [visitEntry, hskip, Outcome.next]) hnone
  · unfold visitEntry
    simp only [hskip, Path.below_child]
    cases hnode : (disk s).node false (root.below (rel ++ [name])) with
    | error f =>
      by_cases habs : f.isAbsence = true
      · exact .nothing none (by simp [hnode, habs, Outcome.next])
          (fun before => by simp [hnode, habs, Outcome.next]) hnone
      · exact .nothing (some (.system f (root.below (rel ++ [name])).text)) (by simp [hnode, habs])
          (fun before => by simp [hnode, habs]) hnone
    | ok n =>
      cases n with
      | link t =>
        exact .nothing none (by simp [hnode, Outcome.next]) (fun before => by simp [hnode, Outcome.next]) hnone
      | dir es =>
        intro before
        obtain ⟨ps, hnoted, htrail, hord⟩ := henter before
        refine ⟨ps, ?_, ?_, hord.sorted, fun p hp => ?_⟩
        · simpa [hnode] using hnoted
        · simpa [hnode] using htrail
        · obtain ⟨more, _, hmore, he⟩ := hord.below p hp
          refine ⟨name, List.mem_singleton_self _, more, hmore, ?_⟩
          rw [he, List.append_assoc]
          rfl
      | file c =>
        by_cases hsuf : (root.below (rel ++ [name])).suffix = rules.suffix
        · intro before
          have htrail : Trail rules disk act s [root.below (rel ++ [name])] (act (root.below (rel ++ [name])) s) :=
            .single ⟨⟨c, hnode⟩, hsuf⟩
          refine ⟨[root.below (rel ++ [name])], ?_, ?_, List.pairwise_singleton _ _, fun p hp => ?_⟩
          · simp [hnode, hsuf, noting]
          · simpa [hnode, hsuf] using htrail
          · rw [List.mem_singleton.mp hp]
            exact ⟨name, List.mem_singleton_self _, [], fun _ h => absurd h List.not_mem_nil, rfl⟩
        · exact .nothing none (by simp [hnode, hsuf, Outcome.next])
            (fun before => by simp [hnode, hsuf, Outcome.next]) hnone

theorem visitEntries_noted (hkeeps : Keeps disk act root Inv) {enter : Path → σ → Outcome σ}
    {enter' : Path → σ × List Path → Outcome (σ × List Path)} {rel names : List Text}
    (hrel : ∀ x ∈ rel, isName x = true) (hnames : ∀ x ∈ names, isName x = true)
    (hsorted : names.Pairwise (· < ·))
    (henter : ∀ name ∈ names, ∀ s, Inv s →
      Noted rules disk act (enter (root.below (rel ++ [name]))) (enter' (root.below (rel ++ [name]))) s
        fun ps => Ordered root (rel ++ [name]) ps) (s : σ) (hs : Inv s) :
    Noted rules disk act (visitEntries rules disk act enter (root.below rel) names)
      (visitEntries rules (fun t => disk t.1) (noting act) enter' (root.below rel) names) s fun ps =>
        (ps.Pairwise fun a b => a.parts < b.parts) ∧ Among root rel names ps := by
  induction names generalizing s with
  | nil =>
    exact .nothing none rfl (fun _ => rfl) ⟨List.Pairwise.nil, fun _ h => absurd h List.not_mem_nil⟩
  | cons name names ih =>
    intro before
    obtain ⟨hlt, hsorted'⟩ := List.pairwise_cons.mp hsorted
    obtain ⟨ps, hnoted, htrail, hps, hamong⟩ :=
      visitEntry_noted (henter name (List.mem_cons_self ..) s hs) before
    have hwiden : Among root rel (name :: names) ps := by
      intro p hp
      obtain ⟨x, hx, more⟩ := hamong p hp
      rw [List.mem_singleton.mp hx] at more
      exact ⟨name, List.mem_cons_self .., more⟩
    rw [visitEntries, visitEntries, hnoted]
    cases ho : visitEntry rules disk act enter (root.below rel) name s with
    | mk t halt =>
      rw [ho] at htrail
      cases halt with
      | some h => exact ⟨ps, rfl, htrail, hps, hwiden⟩
      | none =>
        -- The acts on the way to the next entry keep what is known of the state.
        have ht : Inv t := by
          refine htrail.preserves (fun p hp s hs => ?_) hs
          obtain ⟨more, _, hmore, rfl⟩ := hamong.below (fun x hx => by
            rw [List.mem_singleton.mp hx]
            exact hnames name (List.mem_cons_self ..)) p hp
          refine hkeeps.act _ (fun x hx => ?_) s hs
          rcases List.mem_append.mp hx with hx | hx
          · exact hrel x hx
          · exact hmore x hx
        obtain ⟨qs, hnoted', htrail', hqs, hamong'⟩ := ih (fun x hx => hnames x (List.mem_cons_of_mem _ hx))
          hsorted' (fun x hx => henter x (List.mem_cons_of_mem _ hx)) t ht (before ++ ps)
        refine ⟨ps ++ qs, ?_, htrail.append htrail', hamong.sorted_append hamong' hlt hps hqs, fun p hp => ?_⟩
        · rw [← List.append_assoc]
          exact hnoted'
        · rcases List.mem_append.mp hp with hp | hp
          · exact hwiden p hp
          · obtain ⟨x, hx, more⟩ := hamong' p hp
            exact ⟨x, List.mem_cons_of_mem _ hx, more⟩

theorem visitDirectory_noted (hkeeps : Keeps disk act root Inv) (levels : Nat) {rel : List Text}
    (hrel : ∀ x ∈ rel, isName x = true) (s : σ) (hs : Inv s) :
    Noted rules disk act (visitDirectory rules disk act levels (root.below rel))
      (visitDirectory rules (fun t => disk t.1) (noting act) levels (root.below rel)) s
        fun ps => Ordered root rel ps := by
  induction levels generalizing rel s with
  | zero =>
    exact .nothing (some (.failure (listingFailure (root.below rel) .nameTooLong))) rfl (fun _ => rfl)
      (.nil root rel)
  | succ levels ih =>
    cases hlist : (disk s).list (root.below rel) with
    | error f =>
      exact .nothing (some (.failure (listingFailure (root.below rel) f))) (by simp [visitDirectory, hlist])
        (fun before => by simp [visitDirectory, hlist]) (.nil root rel)
    | ok names =>
      obtain ⟨_, place, es, hloc, rfl⟩ := Disk.list_eq_ok.mp hlist
      obtain ⟨hnames, hsorted⟩ := (hkeeps.wellFormed s hs).listed (Disk.locate_holds hloc)
      intro before
      obtain ⟨ps, hnoted, htrail, hps, hamong⟩ := visitEntries_noted hkeeps hrel hnames hsorted
        (fun name hname t ht => ih (fun x hx => by
          rcases List.mem_append.mp hx with hx | hx
          · exact hrel x hx
          · rw [List.mem_singleton.mp hx]
            exact hnames name hname) t ht) s hs before
      refine ⟨ps, ?_, ?_, hps, hamong.below hnames⟩
      · simpa [visitDirectory, hlist] using hnoted
      · simpa [visitDirectory, hlist] using htrail

theorem visit_noted (hkeeps : Keeps disk act root Inv) (s : σ) (hs : Inv s) :
    Noted rules disk act (visit rules disk act root) (visit rules (fun t => disk t.1) (noting act) root) s
      fun ps => Ordered root [] ps := by
  cases hdir : (disk s).isDirectory root with
  | error f =>
    exact .nothing (some (.system f root.text)) (by simp [visit, hdir]) (fun before => by simp [visit, hdir])
      (.nil root [])
  | ok b =>
    cases b with
    | false =>
      exact .nothing (some (.failure (rootFailure root))) (by simp [visit, hdir])
        (fun before => by simp [visit, hdir]) (.nil root [])
    | true =>
      intro before
      have hnames : ∀ x ∈ ([] : List Text), isName x = true := fun _ h => absurd h List.not_mem_nil
      have hvisit : Noted rules disk act (visitDirectory rules disk act Disk.pathLimit (root.below [])) _ s _ :=
        visitDirectory_noted hkeeps Disk.pathLimit hnames s hs
      obtain ⟨ps, hnoted, htrail, hord⟩ := hvisit before
      rw [Path.below_nil] at hnoted htrail
      refine ⟨ps, ?_, ?_, hord⟩
      · simpa [visit, hdir] using hnoted
      · simpa [visit, hdir] using htrail

/-- A walk acts on the files it reaches, in increasing order, whatever the acts do to the tree. -/
theorem visit_trail (hkeeps : Keeps disk act root Inv) (s : σ) (hs : Inv s) :
    Trail rules disk act s (reached rules disk act root s) (visit rules disk act root s) ∧
      Ordered root [] (reached rules disk act root s) := by
  obtain ⟨ps, hnoted, htrail, hord⟩ :
      ∃ ps, visit rules (fun t => disk t.1) (noting act) root (s, []) =
          ⟨((visit rules disk act root s).state, [] ++ ps), (visit rules disk act root s).halt⟩ ∧
        Trail rules disk act s ps (visit rules disk act root s) ∧ Ordered root [] ps :=
    visit_noted hkeeps s hs []
  have hreached : reached rules disk act root s = ps := by rw [reached, hnoted, List.nil_append]
  rw [hreached]
  exact ⟨htrail, hord⟩

/-- Noting the files does not change how a walk ends. -/
theorem visit_noting (hkeeps : Keeps disk act root Inv) (s : σ) (hs : Inv s) :
    (visit rules (fun t => disk t.1) (noting act) root (s, [])).halt = (visit rules disk act root s).halt ∧
      (visit rules (fun t => disk t.1) (noting act) root (s, [])).state.1 = (visit rules disk act root s).state := by
  have hvisit : Noted rules disk act (visit rules disk act root) _ s _ := visit_noted hkeeps s hs
  obtain ⟨ps, hnoted, _⟩ := hvisit []
  rw [hnoted]
  exact ⟨rfl, rfl⟩

/-! ### Walks that only take down files -/

theorem Trail.collected {disk : List Path → Disk} {found ps : List Path} {o : Outcome (List Path)}
    (h : Trail rules disk collect found ps o) : o.state = found ++ ps := by
  induction h with
  | done => exact (List.append_nil _).symm
  | failed _ ho => cases ho
  | step _ ho _ ih =>
    cases ho
    rw [ih, List.append_assoc]
    rfl

theorem files_ordered (rules : WalkRules) {d : Disk} (hd : d.WellFormed) (root : Path) :
    (∀ p ∈ (files rules d root).state, p.suffix = rules.suffix) ∧ Ordered root [] (files rules d root).state := by
  have hkeeps : Keeps (fun _ => d) collect root fun _ => True := ⟨fun _ _ => hd, fun _ _ _ _ => trivial⟩
  obtain ⟨htrail, hord⟩ :
      Trail rules (fun _ => d) collect [] (reached rules (fun _ => d) collect root []) (files rules d root) ∧ _ :=
    visit_trail hkeeps [] trivial
  have hfound : (files rules d root).state = [] ++ reached rules (fun _ => d) collect root [] := htrail.collected
  rw [hfound, List.nil_append]
  exact ⟨htrail.suffix, hord⟩

end Walk

end ModuleDocs
