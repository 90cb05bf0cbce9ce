import ModuleDocs.Naming
import ModuleDocs.Proofs.Text.Pieces

/-!
# Parts of paths

Which texts are parts of paths and names of entries, paths below a path, suffixes of names, and the place of a
page below the output directory.
-/

namespace ModuleDocs

namespace Path

/-! ### Parts and names -/

/-- The part that leads to the directory above. -/
def above : Text := Text.ofString ".."

/-- Whether a text can be a part of a path that is read: not void and without a slash. -/
def isPart (part : Text) : Bool := !isVoid part && !part.contains slash

def isName (part : Text) : Bool := isPart part && part != above

/-- A path whose parts are all as in a path that is read. -/
def Plain (p : Path) : Prop := ∀ part ∈ p.parts, isPart part = true

theorem isName_isPart {part : Text} (h : isName part = true) : isPart part = true :=
  (Bool.and_eq_true_iff.mp h).1

theorem isName_ne_above {part : Text} (h : isName part = true) : part ≠ above := by
  have h' := (Bool.and_eq_true_iff.mp h).2
  simpa using h'

theorem isPart_not_void {part : Text} (h : isPart part = true) : isVoid part = false := by
  have h' := (Bool.and_eq_true_iff.mp h).1
  simpa using h'

theorem isPart_not_slash {part : Text} (h : isPart part = true) : slash ∉ part := by
  have h' := (Bool.and_eq_true_iff.mp h).2
  simpa using h'

theorem isPart_ne_nil {part : Text} (h : isPart part = true) : part ≠ [] := by
  have h' := isPart_not_void h
  intro he
  subst he
  cases h'

/-- A path that is read is plain. -/
theorem plain_ofText (t : Text) : (ofText t).Plain := by
  intro part h
  obtain ⟨hmem, hvoid⟩ := List.mem_filter.mp h
  have hslash := Text.not_mem_of_mem_splitOn hmem
  simp only [isPart, hvoid, Bool.true_and, Bool.not_eq_true']
  simpa using hslash

/-! ### Paths below a path -/

def below (p : Path) (rel : List Text) : Path := { p with parts := p.parts ++ rel }

theorem below_nil (p : Path) : p.below [] = p := by
  simp [below]

theorem below_child (p : Path) (rel : List Text) (name : Text) :
    (p.below rel).child name = p.below (rel ++ [name]) := by
  simp [below, child]

theorem below_inj {p : Path} {r r' : List Text} (h : p.below r = p.below r') : r = r' := by
  have hp : p.parts ++ r = p.parts ++ r' := congrArg Path.parts h
  exact List.append_cancel_left hp

theorem child_name (p : Path) (name : Text) : (p.child name).name = name := by
  simp [child, Path.name]

theorem child_suffix (p : Path) (name : Text) : (p.child name).suffix = (splitSuffix name).2 := by
  rw [suffix, child_name]

theorem below_snoc_suffix (p : Path) (rel : List Text) (name : Text) :
    (p.below (rel ++ [name])).suffix = (splitSuffix name).2 := by
  rw [← below_child, child_suffix]

/-! ### Stems and suffixes -/

/-- The last dot of a name, before what `splitSuffix` takes for the tail. -/
theorem eq_append_last_dot {name : Text} (h : dot ∈ name) :
    ∃ before, name = before ++ dot :: (name.reverse.takeWhile (· != dot)).reverse := by
  obtain ⟨tail, before, hname, htail⟩ := List.eq_append_cons_of_mem (List.mem_reverse.mpr h)
  have hcut : name.reverse.takeWhile (· != dot) = tail := by
    rw [hname, List.takeWhile_append_of_pos]
    · simp
    · intro c hc
      have hne : c ≠ dot := fun e => htail (e ▸ hc)
      simpa using hne
  refine ⟨before.reverse, ?_⟩
  have hrev := congrArg List.reverse hname
  rw [hcut]
  simpa using hrev

/-- How a name is cut: either there is no suffix, or the suffix is what follows the last dot, with text on both
sides of the dot. -/
theorem splitSuffix_cases (name : Text) :
    splitSuffix name = (name, []) ∨
      ∃ stem tail, stem ≠ [] ∧ tail ≠ [] ∧ dot ∉ tail ∧ name = stem ++ dot :: tail ∧
        splitSuffix name = (stem, dot :: tail) := by
  unfold splitSuffix
  dsimp only
  split
  · rename_i h
    simp only [Bool.and_eq_true, Bool.not_eq_true', List.isEmpty_eq_false_iff] at h
    obtain ⟨⟨hdot, htail⟩, hstem⟩ := h
    obtain ⟨before, hname⟩ := eq_append_last_dot (by simpa using hdot)
    have hcut : ∀ tail : Text, name = before ++ dot :: tail →
        name.take (name.length - tail.length - 1) = before := by
      intro tail he
      have hlen : name.length - tail.length - 1 = before.length := by
        have := congrArg List.length he
        simp only [List.length_append, List.length_cons] at this
        omega
      rw [hlen, he]
      exact List.take_left
    rw [hcut _ hname] at hstem ⊢
    refine Or.inr ⟨before, _, hstem, htail, ?_, hname, rfl⟩
    intro hmem
    have hpass := List.all_eq_true.mp List.all_takeWhile dot (List.mem_reverse.mp hmem)
    simp at hpass
  · exact Or.inl rfl

/-- A name is its stem with its suffix after it. -/
theorem splitSuffix_append (name : Text) : (splitSuffix name).1 ++ (splitSuffix name).2 = name := by
  rcases splitSuffix_cases name with h | ⟨stem, tail, _, _, _, hname, h⟩
  · rw [h]
    exact List.append_nil name
  · rw [h]
    exact hname.symm

/-- A text is cut at its last dot, if there is text on both sides of it. -/
theorem splitSuffix_stem_append {stem tail : Text} (hstem : stem ≠ []) (htail : tail ≠ []) (hdot : dot ∉ tail) :
    splitSuffix (stem ++ dot :: tail) = (stem, dot :: tail) := by
  have hcut : (stem ++ dot :: tail).reverse.takeWhile (· != dot) = tail.reverse := by
    have hrev : (stem ++ dot :: tail).reverse = tail.reverse ++ dot :: stem.reverse := by simp
    rw [hrev, List.takeWhile_append_of_pos]
    · simp
    · intro c hc
      have hne : c ≠ dot := fun e => hdot (e ▸ List.mem_reverse.mp hc)
      simpa using hne
  have hlen : (stem ++ dot :: tail).length - tail.length - 1 = stem.length := by
    simp only [List.length_append, List.length_cons]
    omega
  unfold splitSuffix
  dsimp only
  rw [hcut, List.reverse_reverse, hlen, List.take_left]
  simp [hstem, htail]

theorem splitSuffix_stem_ne_nil {name : Text} (h : name ≠ []) : (splitSuffix name).1 ≠ [] := by
  rcases splitSuffix_cases name with hs | ⟨stem, tail, hstem, _, _, _, hs⟩
  · rw [hs]
    exact h
  · rw [hs]
    exact hstem

theorem isName_ne_nil {part : Text} (h : isName part = true) : part ≠ [] := isPart_ne_nil (isName_isPart h)

/-! ### Pages -/

/-- What the last name of a source becomes in the path of its page: nothing if a void part is left. -/
def pageParts (name suffix : Text) : List Text :=
  [(splitSuffix name).1 ++ suffix].filter fun part => !isVoid part

/-- The void part is a dot, and it is left only if the page has no suffix. -/
theorem pageParts_eq {name suffix : Text} (hname : name ≠ []) (hsuffix : suffix ≠ []) :
    pageParts name suffix = [(splitSuffix name).1 ++ suffix] := by
  have hstem := splitSuffix_stem_ne_nil hname
  have hvoid : isVoid ((splitSuffix name).1 ++ suffix) = false := by
    cases hs : (splitSuffix name).1 with
    | nil => exact absurd hs hstem
    | cons c cs =>
      cases suffix with
      | nil => exact absurd rfl hsuffix
      | cons x xs => simp [isVoid]
  simp [pageParts, hvoid]

theorem filter_names {rel : List Text} (h : ∀ part ∈ rel, isName part = true) :
    (rel.filter fun part => !isVoid part) = rel := by
  rw [List.filter_eq_self]
  intro part hp
  rw [isPart_not_void (isName_isPart (h part hp))]
  rfl

theorem withSuffix_eq_ok {p q : Path} {suffix : Text} :
    p.withSuffix suffix = .ok q ↔
      isSuffix suffix = true ∧ p.name ≠ [] ∧ q = { p with parts := p.parts.dropLast ++ [p.stem ++ suffix] } := by
  unfold withSuffix
  cases hs : isSuffix suffix with
  | false =>
    constructor
    · intro h
      cases h
    · intro h
      cases h.1
  | true =>
    cases hname : p.name with
    | nil =>
      constructor
      · intro h
        cases h
      · intro h
        exact absurd rfl h.2.1
    | cons c cs =>
      constructor
      · intro h
        cases h
        exact ⟨rfl, List.cons_ne_nil c cs, rfl⟩
      · rintro ⟨_, _, rfl⟩
        rfl

end Path

open ModuleDocs.Path

theorem pagePath_eq_append {output source target : Path} {suffix : Text} :
    pagePath output source suffix = .ok target ↔
      ∃ q, source.withSuffix suffix = .ok q ∧ target = output.append q := by
  unfold pagePath
  cases source.withSuffix suffix with
  | error f =>
    constructor
    · intro h
      cases h
    · rintro ⟨q, hq, _⟩
      cases hq
  | ok q =>
    constructor
    · intro h
      cases h
      exact ⟨q, rfl, rfl⟩
    · rintro ⟨_, hq, rfl⟩
      cases hq
      rfl

/-- The page of a source below the input directory: its directories below the output directory, then its name
with another suffix. -/
theorem pagePath_eq_ok {output target : Path} {dirs : List Text} {name suffix : Text}
    (hdirs : ∀ part ∈ dirs, isName part = true) (hname : name ≠ []) :
    pagePath output ⟨.none, dirs ++ [name]⟩ suffix = .ok target ↔
      isSuffix suffix = true ∧ target = output.below (dirs ++ pageParts name suffix) := by
  have hlast : Path.name ⟨.none, dirs ++ [name]⟩ = name := by simp [Path.name]
  have happend : output.append ⟨.none, dirs ++ [(splitSuffix name).1 ++ suffix]⟩ =
      output.below (dirs ++ pageParts name suffix) := by
    simp only [append, below, pageParts, List.filter_append, filter_names hdirs]
  rw [pagePath_eq_append]
  constructor
  · rintro ⟨q, hq, rfl⟩
    obtain ⟨hs, _, rfl⟩ := withSuffix_eq_ok.mp hq
    refine ⟨hs, ?_⟩
    rw [← happend]
    simp [stem, hlast]
  · rintro ⟨hs, rfl⟩
    refine ⟨_, withSuffix_eq_ok.mpr ⟨hs, ?_, rfl⟩, ?_⟩
    · rw [hlast]
      exact hname
    · rw [← happend]
      simp [stem, hlast]

/-- Two sources with one suffix have different pages, unless pages have no suffix. -/
theorem pagePath_inj {output target : Path} {dirs dirs' : List Text} {name name' suffix : Text}
    (hdirs : ∀ part ∈ dirs, isName part = true) (hdirs' : ∀ part ∈ dirs', isName part = true)
    (hname : name ≠ []) (hname' : name' ≠ []) (hsuffix : suffix ≠ [])
    (hsame : (splitSuffix name).2 = (splitSuffix name').2)
    (h : pagePath output ⟨.none, dirs ++ [name]⟩ suffix = .ok target)
    (h' : pagePath output ⟨.none, dirs' ++ [name']⟩ suffix = .ok target) :
    dirs ++ [name] = dirs' ++ [name'] := by
  obtain ⟨_, ht⟩ := (pagePath_eq_ok hdirs hname).mp h
  obtain ⟨_, ht'⟩ := (pagePath_eq_ok hdirs' hname').mp h'
  have hparts := below_inj (ht.symm.trans ht')
  rw [pageParts_eq hname hsuffix, pageParts_eq hname' hsuffix] at hparts
  obtain ⟨hd, hn⟩ := List.append_inj' hparts rfl
  have hstem : (splitSuffix name).1 = (splitSuffix name').1 :=
    List.append_cancel_right (List.cons.inj hn).1
  rw [hd, ← splitSuffix_append name, ← splitSuffix_append name', hstem, hsame]

theorem slash_not_mem_withSuffix {p q : Path} {suffix : Text} (hp : ∀ part ∈ p.parts, slash ∉ part)
    (h : p.withSuffix suffix = .ok q) : ∀ part ∈ q.parts, slash ∉ part := by
  obtain ⟨hs, _, rfl⟩ := withSuffix_eq_ok.mp h
  have hsuffix : slash ∉ suffix := by
    have hno := (Bool.and_eq_true_iff.mp hs).1
    simpa using hno
  intro part hpart
  rcases List.mem_append.mp hpart with hpart | hpart
  · exact hp part (List.dropLast_subset _ hpart)
  · rw [List.mem_singleton.mp hpart]
    intro hm
    rcases List.mem_append.mp hm with hm | hm
    · -- The stem is a piece of the last part, which has no slash.
      have hname : slash ∈ p.name := by
        rw [← splitSuffix_append p.name]
        exact List.mem_append_left _ hm
      unfold Path.name at hname
      cases hlast : p.parts.getLast? with
      | none => rw [hlast] at hname; cases hname
      | some last =>
        rw [hlast] at hname
        exact hp last (List.mem_of_getLast? hlast) hname
    · exact hsuffix hm

/-- The path of a page is plain if the output directory is and the source has no slash in a part. -/
theorem pagePath_plain {output source target : Path} {suffix : Text} (hout : output.Plain)
    (hsource : ∀ part ∈ source.parts, slash ∉ part) (h : pagePath output source suffix = .ok target) :
    target.Plain := by
  obtain ⟨q, hq, rfl⟩ := pagePath_eq_append.mp h
  have hslash := slash_not_mem_withSuffix hsource hq
  have hkept : ∀ part ∈ q.parts.filter (fun part => !isVoid part), isPart part = true := by
    intro part hpart
    obtain ⟨hmem, hvoid⟩ := List.mem_filter.mp hpart
    have hs := hslash part hmem
    simp only [isPart, hvoid, Bool.true_and, Bool.not_eq_true']
    simpa using hs
  unfold append
  cases q.anchor with
  | none =>
    intro part hpart
    rcases List.mem_append.mp hpart with hpart | hpart
    · exact hout part hpart
    · exact hkept part hpart
  | root => exact hkept
  | doubleRoot => exact hkept

/-! ### Paths that files can have -/

namespace CodePoint

def isNameable (c : CodePoint) : Bool := !(c.isSurrogate && !Utf8.isEscapedByte c) && c != ofNat 0

end CodePoint

namespace Text

/-- All code points of the text can be in the name of a file. -/
def Nameable (t : Text) : Prop := ∀ c ∈ t, c.isNameable = true

theorem nameable_append {t u : Text} : (t ++ u).Nameable ↔ t.Nameable ∧ u.Nameable := List.forall_mem_append

theorem strayFrom_eq_none (position : Nat) {t : Text} :
    Utf8.strayFrom position t = none ↔ ∀ c ∈ t, (c.isSurrogate && !Utf8.isEscapedByte c) = false := by
  induction t generalizing position with
  | nil => simp [Utf8.strayFrom]
  | cons c t ih =>
    rw [Utf8.strayFrom, List.forall_mem_cons]
    cases c.isSurrogate && !Utf8.isEscapedByte c with
    | true => simp
    | false => simpa using ih (position + 1)

theorem nameFault?_eq_none {t : Text} : t.nameFault? = none ↔ t.Nameable := by
  have hnull : t.contains (CodePoint.ofNat 0) = false ↔ ∀ c ∈ t, c ≠ CodePoint.ofNat 0 := by
    rw [List.contains_eq_mem, decide_eq_false_iff_not]
    exact ⟨fun h c hc he => h (he ▸ hc), fun h hc => h _ hc rfl⟩
  have hsplit : t.Nameable ↔ (∀ c ∈ t, (c.isSurrogate && !Utf8.isEscapedByte c) = false) ∧
      ∀ c ∈ t, c ≠ CodePoint.ofNat 0 := by
    simp only [Nameable, CodePoint.isNameable, Bool.and_eq_true, Bool.not_eq_true', bne_iff_ne]
    exact ⟨fun h => ⟨fun c hc => (h c hc).1, fun c hc => (h c hc).2⟩, fun h c hc => ⟨h.1 c hc, h.2 c hc⟩⟩
  rw [hsplit, ← strayFrom_eq_none 0, ← hnull, nameFault?]
  cases Utf8.strayFrom 0 t with
  | some f => simp
  | none => cases t.contains (CodePoint.ofNat 0) <;> simp

theorem nameable_join {sep : Text} (hsep : sep.Nameable) {ts : List Text} :
    (join sep ts).Nameable ↔ ∀ t ∈ ts, t.Nameable := by
  induction ts with
  | nil => simp [join, Nameable]
  | cons t ts ih =>
    cases ts with
    | nil => simp [join_singleton]
    | cons u us =>
      rw [join_cons sep t (List.cons_ne_nil u us), nameable_append, nameable_append, ih, List.forall_mem_cons]
      simp [hsep]

end Text

namespace Path

/-- A file can have a path exactly if it can have all its parts. -/
theorem nameFault?_text {p : Path} : p.text.nameFault? = none ↔ ∀ part ∈ p.parts, part.Nameable := by
  rw [Text.nameFault?_eq_none]
  unfold text
  split
  · rename_i h
    rw [h.2]
    simp only [List.not_mem_nil, false_implies, implies_true, iff_true]
    exact List.forall_mem_singleton.mpr rfl
  · have hslash : Text.Nameable [slash] := List.forall_mem_singleton.mpr rfl
    have hanchor : p.anchor.text.Nameable := by
      cases p.anchor with
      | none => exact fun _ h => absurd h List.not_mem_nil
      | root => exact hslash
      | doubleRoot => exact List.forall_mem_cons.mpr ⟨rfl, hslash⟩
    rw [Text.nameable_append, Text.nameable_join hslash]
    simp [hanchor]

theorem stem_nameable {p : Path} (h : ∀ part ∈ p.parts, part.Nameable) : p.stem.Nameable := by
  have hname : p.name.Nameable := by
    unfold name
    cases hlast : p.parts.getLast? with
    | none => exact fun _ hc => absurd hc List.not_mem_nil
    | some last => exact h last (List.mem_of_getLast? hlast)
  rw [← splitSuffix_append p.name] at hname
  exact (Text.nameable_append.mp hname).1

theorem nameFault?_parent {p : Path} (h : p.text.nameFault? = none) : p.parent.text.nameFault? = none := by
  rw [nameFault?_text] at h ⊢
  exact fun part hpart => h part (List.dropLast_subset _ hpart)

end Path

end ModuleDocs
