import ModuleDocs.Proofs.Entries
import ModuleDocs.Proofs.Faults
import ModuleDocs.Settings.Load

/-!
# Sources of settings

Names count without regard to case, so a source may have several entries for one setting, in several spellings. What
it supplies depends on these entries alone, and putting other entries into the source does not change that.
In a variable file, a value depends on other entries and on the environment only through the variables that it refers
to, directly or by way of others. All this is said of readers that keep a few laws: `SettingReaders.Lawful`.
-/

namespace ModuleDocs

open Entries (put)
open Text (ofString)

/-! ### Entries for a name -/

variable {α : Type}

/-- The entries whose name is the given one without regard to case. -/
def named (name : Text) (es : List (Text × α)) : List (Text × α) := es.filter fun e => nameLower e.1 == name

theorem lastNamed?_eq (name : Text) (es : List (Text × α)) :
    lastNamed? name es = (named name es).getLast?.map Prod.snd := by
  rw [lastNamed?, named, List.getLast?_eq_head?_reverse, ← List.filter_reverse, List.head?_filter]

theorem mem_named {name : Text} {es : List (Text × α)} {e : Text × α} :
    e ∈ named name es ↔ e ∈ es ∧ nameLower e.1 = name := by
  simp [named]

theorem named_named (name : Text) (es : List (Text × α)) : named name (named name es) = named name es := by
  rw [named, named, List.filter_filter]
  simp

/-- Of entries that are put one after the other, those for a name alone count for it. -/
theorem named_foldl_put (name : Text) (more es : List (Text × α)) :
    named name (more.foldl (fun es e => put es e.1 e.2) es) =
      (named name more).foldl (fun es e => put es e.1 e.2) (named name es) :=
  Entries.filter_putAll (fun key => nameLower key == name) es more

/-! ### Variable files -/

namespace VariableFile

def RefersTo (t name : Text) : Prop := ∃ rest default after, rest <:+ t ∧ reference? rest = some (name, default, after)

theorem RefersTo.of_suffix {t rest name : Text} (h : RefersTo rest name) (hrest : rest <:+ t) : RefersTo t name := by
  obtain ⟨here, default, after, hhere, href⟩ := h
  exact ⟨here, default, after, hhere.trans hrest, href⟩

theorem reference?_suffix {t name default after : Text} (h : reference? t = some (name, default, after)) :
    after <:+ t := by
  unfold reference? at h
  dsimp only at h
  split at h
  · cases h
  · split at h
    · cases h
      exact (List.drop_suffix _ _).trans (List.drop_suffix _ _)
    · split at h
      · split at h
        · cases h
          exact (List.drop_suffix _ _).trans ((List.drop_suffix _ _).trans (List.drop_suffix _ _))
        · cases h
      · cases h

/-- Of the variables that are known, only those that a value refers to reach it. -/
theorem interpolate_congr {known known' : List (Text × Option Text)} {t : Text}
    (h : ∀ name, RefersTo t name → known.lookup name = known'.lookup name) (fuel : Nat) :
    interpolate known fuel t = interpolate known' fuel t := by
  induction fuel generalizing t with
  | zero => rfl
  | succ fuel ih =>
    cases t with
    | nil => rfl
    | cons c cs =>
      have hstep : ∀ rest, rest <:+ c :: cs → interpolate known fuel rest = interpolate known' fuel rest := by
        intro rest hrest
        exact ih fun name hname => h name (hname.of_suffix hrest)
      rw [interpolate, interpolate]
      cases href : reference? (c :: cs) with
      | none =>
        dsimp only
        rw [hstep cs (List.suffix_cons c cs)]
      | some r =>
        obtain ⟨name, default, after⟩ := r
        dsimp only
        rw [h name ⟨_, default, after, List.suffix_refl _, href⟩, hstep after (reference?_suffix href)]

/-- What entries under some names refer to is under these names too. -/
def Closed (reach : Text → Bool) (es : List (Text × Option Text)) : Prop :=
  ∀ name t, (name, some t) ∈ es → reach name = true → ∀ other, RefersTo t other → reach other = true

/-- The entries under some names. -/
def within (reach : Text → Bool) (es : List (Text × α)) : List (Text × α) := es.filter fun e => reach e.1

theorem within_cons (reach : Text → Bool) (key : Text) (a : α) (es : List (Text × α)) :
    within reach ((key, a) :: es) = if reach key = true then (key, a) :: within reach es else within reach es :=
  List.filter_cons

theorem mem_within {reach : Text → Bool} {es : List (Text × α)} {e : Text × α} :
    e ∈ within reach es ↔ e ∈ es ∧ reach e.1 = true := List.mem_filter

theorem Closed.tail {reach : Text → Bool} {e : Text × Option Text} {es : List (Text × Option Text)}
    (h : Closed reach (e :: es)) : Closed reach es :=
  fun name t hmem => h name t (List.mem_cons_of_mem _ hmem)

theorem lookup_cons_append {key name : Text} {v : Option Text} {seen known : List (Text × Option Text)} :
    ((key, v) :: seen ++ known).lookup name = if name = key then some v else (seen ++ known).lookup name := by
  rw [List.cons_append, List.lookup_cons]
  by_cases hname : name = key
  · simp [hname]
  · have hne : (name == key) = false := beq_eq_false_iff_ne.mpr hname
    simp only [hne, hname, if_false]

/-- A value depends on the variables that it refers to, and on no others. -/
def Referring (expand : List (Text × Option Text) → Text → Text) : Prop :=
  ∀ {known known' : List (Text × Option Text)} {t : Text},
    (∀ name, RefersTo t name → known.lookup name = known'.lookup name) → expand known t = expand known' t

theorem expand_referring : Referring expand := fun h => interpolate_congr h _

section Reading

variable {expand : List (Text × Option Text) → Text → Text}

/-- Entries under other names do not reach those under names that are closed under references. -/
theorem within_resolve (hexpand : Referring expand) {reach : Text → Bool}
    {es environment environment' : List (Text × Option Text)} (hclosed : Closed reach es)
    {seen seen' : List (Text × Option Text)}
    (hknown : ∀ name, reach name = true → (seen ++ environment).lookup name = (seen' ++ environment').lookup name) :
    within reach (resolve expand environment seen es) = resolve expand environment' seen' (within reach es) := by
  induction es generalizing seen seen' with
  | nil => rfl
  | cons e es ih =>
    obtain ⟨key, value⟩ := e
    rw [resolve]
    by_cases hkey : reach key = true
    · have hvalue : value.map (expand (seen ++ environment)) = value.map (expand (seen' ++ environment')) := by
        cases value with
        | none => rfl
        | some t =>
          have hreached : ∀ name, RefersTo t name → reach name = true := hclosed key t List.mem_cons_self hkey
          exact congrArg some (hexpand fun name hname => hknown name (hreached name hname))
      rw [within_cons, if_pos hkey, within_cons, if_pos hkey, resolve, hvalue]
      refine congrArg _ (ih hclosed.tail fun name hname => ?_)
      rw [lookup_cons_append, lookup_cons_append, hknown name hname]
    · rw [within_cons, if_neg hkey, within_cons, if_neg hkey]
      refine ih hclosed.tail fun name hname => ?_
      have hne : name ≠ key := fun heq => hkey (heq ▸ hname)
      rw [lookup_cons_append, if_neg hne, hknown name hname]

theorem named_read (name : Text) (environment : List (Text × Text)) (es : List (Text × Option Text)) :
    named name (read expand environment es) =
      (named name (resolve expand (environment.map fun e => (e.1, some e.2)) [] es)).foldl
        (fun es e => put es e.1 e.2) [] := by
  have hread : read expand environment es = (resolve expand (environment.map fun e => (e.1, some e.2)) [] es).foldl
      (fun es e => put es e.1 e.2) [] := rfl
  rw [hread, named_foldl_put]
  rfl

theorem lookup_environment (environment : List (Text × Text)) (name : Text) :
    (environment.map fun e => (e.1, some e.2)).lookup name = (environment.lookup name).map some := by
  induction environment with
  | nil => rfl
  | cons e environment ih =>
    rw [List.map_cons, List.lookup_cons, List.lookup_cons, ih]
    cases name == e.1 <;> rfl

theorem named_within {name : Text} {reach : Text → Bool} (hown : ∀ key, nameLower key = name → reach key = true)
    (es : List (Text × α)) : named name (within reach es) = named name es := by
  unfold named within
  rw [List.filter_filter]
  refine List.filter_congr fun e _ => ?_
  by_cases he : nameLower e.1 = name
  · simp [he, hown e.1 he]
  · simp [he]

/-- A variable file has for a name what its entries for the name make of it, together with what they refer to. -/
theorem named_read_congr (hexpand : Referring expand) {name : Text} {es es' : List (Text × Option Text)}
    {environment environment' : List (Text × Text)} {reach : Text → Bool}
    (hown : ∀ key, nameLower key = name → reach key = true) (hclosed : Closed reach es)
    (hentries : within reach es = within reach es')
    (hknown : ∀ key, reach key = true → environment.lookup key = environment'.lookup key) :
    named name (read expand environment es) = named name (read expand environment' es') := by
  have hclosed' : Closed reach es' := by
    intro key value hmem hkey
    have hkept : (key, some value) ∈ within reach es' := mem_within.mpr ⟨hmem, hkey⟩
    rw [← hentries] at hkept
    exact hclosed key value (mem_within.mp hkept).1 hkey
  have hleft : within reach (resolve expand (environment.map fun e => (e.1, some e.2)) [] es) =
      resolve expand (environment'.map fun e => (e.1, some e.2)) [] (within reach es) := by
    refine within_resolve hexpand hclosed fun key hkey => ?_
    rw [List.nil_append, List.nil_append, lookup_environment, lookup_environment, hknown key hkey]
  have hright : within reach (resolve expand (environment'.map fun e => (e.1, some e.2)) [] es') =
      resolve expand (environment'.map fun e => (e.1, some e.2)) [] (within reach es') :=
    within_resolve hexpand hclosed' fun _ _ => rfl
  rw [named_read, named_read, ← named_within hown (resolve expand _ [] es), hleft, hentries, ← hright,
    named_within hown]

end Reading

end VariableFile

/-! ### Laws of readers -/

namespace SettingReaders

/-- What is asked of readers. Nothing is asked of how texts are taken apart. -/
structure Lawful (readers : SettingReaders) : Prop where
  /-- A value in a variable file depends on the variables that it refers to, and on no others. -/
  expand : VariableFile.Referring readers.expand
  /-- A keyword that is spelled like a setting counts for it. -/
  own : ∀ (given : List (Text × Value)) (n : Setting) (v : Value),
    readers.keyword? (put given (ofString n.name) v) n = some v
  /-- Keywords for other names do not count for a setting. -/
  apart : ∀ {given given' : List (Text × Value)} {n : Setting},
    named (ofString n.name) given = named (ofString n.name) given' →
      readers.keyword? given n = readers.keyword? given' n
  /-- What counts for a setting is the value of a keyword, if there is one. -/
  found : ∀ (given : List (Text × Value)) (n : Setting),
    (readers.keyword? given n = none ∧ named (ofString n.name) given = []) ∨
      ∃ e ∈ named (ofString n.name) given, readers.keyword? given n = some e.2

theorem givenIn?_named (given : List (Text × Value)) (n : Setting) :
    n.givenIn? (named (ofString n.name) given) = n.givenIn? given := by
  have hname : (nameLower (ofString n.name) == ofString n.name) = true := by cases n <;> decide
  have hlast : lastNamed? (ofString n.name) (named (ofString n.name) given) = lastNamed? (ofString n.name) given := by
    rw [lastNamed?_eq, lastNamed?_eq, named_named]
  unfold Setting.givenIn?
  dsimp only
  rw [hlast, named, Entries.lookup_filter_of_pos (p := fun key => nameLower key == ofString n.name) hname]

theorem mem_of_givenIn? {given : List (Text × Value)} {n : Setting} {v : Value} (h : n.givenIn? given = some v) :
    ∃ e ∈ given, v = e.2 := by
  rcases Option.or_eq_some_iff.mp h with hown | ⟨_, hlast⟩
  · exact ⟨_, Entries.mem_of_lookup hown, rfl⟩
  · obtain ⟨e, he, rfl⟩ := Option.map_eq_some_iff.mp (lastNamed?_eq _ given ▸ hlast)
    exact ⟨e, (mem_named.mp (List.mem_of_getLast? he)).1, rfl⟩

theorem standard_lawful : standard.Lawful where
  expand := VariableFile.expand_referring
  own given n v := by
    change n.givenIn? _ = _
    rw [Setting.givenIn?, Entries.lookup_put, if_pos rfl]
    rfl
  apart {given given' n} h := by
    change n.givenIn? given = n.givenIn? given'
    rw [← givenIn?_named given, ← givenIn?_named given', h]
  found given n := by
    change (n.givenIn? given = none ∧ _) ∨ ∃ e ∈ _, n.givenIn? given = _
    cases hfound : n.givenIn? given with
    | some v =>
      rw [← givenIn?_named] at hfound
      obtain ⟨e, he, rfl⟩ := mem_of_givenIn? hfound
      exact Or.inr ⟨e, he, rfl⟩
    | none =>
      refine Or.inl ⟨rfl, ?_⟩
      have hlast := (Option.or_eq_none_iff.mp hfound).2
      rw [lastNamed?_eq, Option.map_eq_none_iff, List.getLast?_eq_none_iff] at hlast
      exact hlast

end SettingReaders

end ModuleDocs
