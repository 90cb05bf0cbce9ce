import ModuleDocs.Text.Basic

/-!
# Entries under names

Lists of entries under names, as directories, comments and mappings have them. An entry that is put under a name takes
the place of what is there, or comes last: `lookup_put` and `keys_put` say what is found afterwards, and under which
names. Of entries that are put one after the other the last one under a name counts, and the entries for some names do
not depend on those for others: `lookup_putAll` and `filter_putAll`.
-/

namespace ModuleDocs

namespace Entries

variable {α : Type} {es : List (Text × α)}

/-- Puts an entry under a name: a name that is present keeps its place. -/
def put (es : List (Text × α)) (name : Text) (a : α) : List (Text × α) :=
  if es.any fun e => e.1 == name then es.map fun e => if e.1 == name then (name, a) else e else es ++ [(name, a)]

/-! ### Names -/

theorem lookup_isSome {key : Text} : (es.lookup key).isSome = true ↔ key ∈ es.map Prod.fst := by
  rw [List.lookup_isSome_iff, List.mem_map]
  simp only [beq_iff_eq, @eq_comm _ key]

theorem lookup_eq_none {key : Text} : es.lookup key = none ↔ key ∉ es.map Prod.fst := by
  rw [← lookup_isSome, Bool.not_eq_true, Option.isSome_eq_false_iff, Option.isNone_iff_eq_none]

theorem mem_of_lookup {name : Text} {a : α} (h : es.lookup name = some a) : (name, a) ∈ es := by
  obtain ⟨before, after, rfl, _⟩ := List.lookup_eq_some_iff.mp h
  simp

theorem any_key {name : Text} : (es.any fun e => e.1 == name) = true ↔ name ∈ es.map Prod.fst := by
  simp

theorem lookup_singleton (name key : Text) (a : α) :
    [(name, a)].lookup key = if key = name then some a else none := by
  by_cases hkey : key = name
  · simp [hkey]
  · have hne : (key == name) = false := beq_eq_false_iff_ne.mpr hkey
    simp [hkey, hne, List.lookup_cons]

/-- Entries under other names do not matter to what is found under a name. -/
theorem lookup_filter_of_pos {p : Text → Bool} {key : Text} (h : p key = true) (es : List (Text × α)) :
    (es.filter fun e => p e.1).lookup key = es.lookup key := by
  induction es with
  | nil => rfl
  | cons e es ih =>
    by_cases he : p e.1 = true
    · rw [List.filter_cons, if_pos he, List.lookup_cons, List.lookup_cons, ih]
    · have hne : (key == e.1) = false := beq_eq_false_iff_ne.mpr fun hkey => he (hkey ▸ h)
      rw [List.filter_cons, if_neg he, List.lookup_cons, hne, ih]

/-! ### Putting an entry -/

theorem put_of_mem {name : Text} (h : name ∈ es.map Prod.fst) (a : α) :
    put es name a = es.map fun e => if e.1 == name then (name, a) else e := if_pos (any_key.mpr h)

theorem put_of_not_mem {name : Text} (h : name ∉ es.map Prod.fst) (a : α) : put es name a = es ++ [(name, a)] :=
  if_neg fun hany => h (any_key.mp hany)

theorem lookup_replace (es : List (Text × α)) (name key : Text) (a : α) :
    (es.map fun e => if e.1 == name then (name, a) else e).lookup key =
      if key = name then (es.lookup name).map fun _ => a else es.lookup key := by
  induction es with
  | nil => simp
  | cons e es ih =>
    obtain ⟨n, b⟩ := e
    rw [List.map_cons]
    by_cases hn : n = name
    · subst hn
      by_cases hkey : key = n
      · simp [hkey]
      · have hne : (key == n) = false := beq_eq_false_iff_ne.mpr hkey
        simp only [beq_self_eq_true, if_true, List.lookup_cons, hne, ih, hkey, if_false]
    · have hother : (n == name) = false := beq_eq_false_iff_ne.mpr hn
      simp only [hother, Bool.false_eq_true, if_false]
      by_cases hkey : key = name
      · have hne : (name == n) = false := beq_eq_false_iff_ne.mpr (Ne.symm hn)
        subst hkey
        rw [List.lookup_cons, List.lookup_cons, hne, ih]
      · simp only [List.lookup_cons, ih, hkey, if_false]

theorem lookup_put (es : List (Text × α)) (name key : Text) (a : α) :
    (put es name a).lookup key = if key = name then some a else es.lookup key := by
  by_cases hname : name ∈ es.map Prod.fst
  · obtain ⟨b, hb⟩ := Option.isSome_iff_exists.mp (lookup_isSome.mpr hname)
    rw [put_of_mem hname, lookup_replace, hb]
    rfl
  · rw [put_of_not_mem hname, List.lookup_append, lookup_singleton]
    by_cases hkey : key = name
    · rw [hkey, lookup_eq_none.mpr hname, if_pos rfl, Option.none_or]
    · rw [if_neg hkey, if_neg hkey, Option.or_none]

/-- A name that is put comes last, unless it is present. -/
theorem keys_put (es : List (Text × α)) (name : Text) (a : α) :
    name ∈ es.map Prod.fst ∧ (put es name a).map Prod.fst = es.map Prod.fst ∨
      name ∉ es.map Prod.fst ∧ (put es name a).map Prod.fst = es.map Prod.fst ++ [name] := by
  by_cases hname : name ∈ es.map Prod.fst
  · refine Or.inl ⟨hname, ?_⟩
    rw [put_of_mem hname, List.map_map]
    refine List.map_congr_left fun e _ => ?_
    by_cases he : e.1 = name <;> simp [he]
  · refine Or.inr ⟨hname, ?_⟩
    rw [put_of_not_mem hname, List.map_append]
    rfl

theorem mem_keys_put {name key : Text} {a : α} :
    key ∈ (put es name a).map Prod.fst ↔ key = name ∨ key ∈ es.map Prod.fst := by
  rw [← lookup_isSome, lookup_put, ← lookup_isSome]
  by_cases hkey : key = name <;> simp [hkey]

theorem nodup_put {name : Text} (h : (es.map Prod.fst).Nodup) (a : α) : ((put es name a).map Prod.fst).Nodup := by
  rcases keys_put es name a with ⟨_, hkeys⟩ | ⟨hname, hkeys⟩
  · rw [hkeys]
    exact h
  · rw [hkeys]
    refine List.nodup_append.mpr ⟨h, by simp, ?_⟩
    rintro key hkey other hother rfl
    exact hname (List.mem_singleton.mp hother ▸ hkey)

/-- Entries are put among those with some names as if there were no others. -/
theorem filter_put (p : Text → Bool) (es : List (Text × α)) (name : Text) (a : α) :
    (put es name a).filter (fun e => p e.1) =
      if p name = true then put (es.filter fun e => p e.1) name a else es.filter fun e => p e.1 := by
  by_cases hname : name ∈ es.map Prod.fst
  · have hkeep : ∀ e : Text × α, p (if e.1 == name then (name, a) else e).1 = p e.1 := by
      intro e
      by_cases he : e.1 = name <;> simp [he]
    have hreplaced : (put es name a).filter (fun e => p e.1) =
        (es.filter fun e => p e.1).map fun e => if e.1 == name then (name, a) else e := by
      rw [put_of_mem hname, List.filter_map]
      congr 1
      exact List.filter_congr fun e _ => hkeep e
    rw [hreplaced]
    by_cases hp : p name = true
    · have hfiltered : name ∈ (es.filter fun e => p e.1).map Prod.fst := by
        obtain ⟨e, he, rfl⟩ := List.mem_map.mp hname
        exact List.mem_map_of_mem (List.mem_filter.mpr ⟨he, hp⟩)
      rw [if_pos hp, put_of_mem hfiltered]
    · have hsame : ∀ e ∈ es.filter fun e => p e.1, (if e.1 == name then (name, a) else e) = id e := by
        intro e he
        have hne : e.1 ≠ name := fun heq => hp (heq ▸ (List.mem_filter.mp he).2)
        simp [hne]
      rw [if_neg hp, List.map_congr_left hsame, List.map_id]
  · rw [put_of_not_mem hname, List.filter_append]
    by_cases hp : p name = true
    · have hfiltered : name ∉ (es.filter fun e => p e.1).map Prod.fst := by
        intro h
        obtain ⟨e, he, rfl⟩ := List.mem_map.mp h
        exact hname (List.mem_map_of_mem (List.mem_filter.mp he).1)
      rw [if_pos hp, put_of_not_mem hfiltered]
      simp [hp]
    · rw [if_neg hp]
      simp [hp]

/-! ### Putting entries one after the other -/

def last? (es : List (Text × α)) (name : Text) : Option α := es.reverse.lookup name

def putAll (es more : List (Text × α)) : List (Text × α) := more.foldl (fun es e => put es e.1 e.2) es

theorem last?_cons (e : Text × α) (es : List (Text × α)) (name : Text) :
    last? (e :: es) name = (last? es name).or (if name = e.1 then some e.2 else none) := by
  rw [last?, List.reverse_cons, List.lookup_append, lookup_singleton]
  rfl

theorem last?_isSome {name : Text} : (last? es name).isSome = true ↔ name ∈ es.map Prod.fst := by
  rw [last?, lookup_isSome, List.map_reverse, List.mem_reverse]

theorem mem_of_last? {name : Text} {a : α} (h : last? es name = some a) : (name, a) ∈ es :=
  List.mem_reverse.mp (mem_of_lookup h)

theorem putAll_cons (es : List (Text × α)) (e : Text × α) (more : List (Text × α)) :
    putAll es (e :: more) = putAll (put es e.1 e.2) more := rfl

theorem lookup_putAll (es more : List (Text × α)) (name : Text) :
    (putAll es more).lookup name = (last? more name).or (es.lookup name) := by
  induction more generalizing es with
  | nil => rfl
  | cons e more ih =>
    rw [putAll_cons, ih, lookup_put, last?_cons, Option.or_assoc]
    by_cases hname : name = e.1
    · rw [if_pos hname, if_pos hname, Option.some_or]
    · rw [if_neg hname, if_neg hname, Option.none_or]

theorem mem_keys_putAll {more : List (Text × α)} {name : Text} :
    name ∈ (putAll es more).map Prod.fst ↔ name ∈ more.map Prod.fst ∨ name ∈ es.map Prod.fst := by
  rw [← lookup_isSome, lookup_putAll, Option.isSome_or, Bool.or_eq_true, last?_isSome, lookup_isSome]

theorem forall_putAll_nil {P : Text → Prop} {more : List (Text × α)} (h : ∀ e ∈ more, P e.1) :
    ∀ e ∈ putAll [] more, P e.1 := by
  intro e he
  have hkey : e.1 ∈ (putAll [] more).map Prod.fst := List.mem_map_of_mem he
  rcases mem_keys_putAll.mp hkey with hgiven | hnone
  · obtain ⟨f, hf, hkey⟩ := List.mem_map.mp hgiven
    exact hkey ▸ h f hf
  · cases hnone

theorem nodup_putAll (h : (es.map Prod.fst).Nodup) (more : List (Text × α)) :
    ((putAll es more).map Prod.fst).Nodup := by
  induction more generalizing es with
  | nil => exact h
  | cons e more ih => exact ih (nodup_put h e.2)

theorem filter_putAll (p : Text → Bool) (es more : List (Text × α)) :
    (putAll es more).filter (fun e => p e.1) =
      putAll (es.filter fun e => p e.1) (more.filter fun e => p e.1) := by
  induction more generalizing es with
  | nil => rfl
  | cons e more ih =>
    rw [putAll_cons, ih, filter_put]
    by_cases hp : p e.1 = true
    · rw [if_pos hp, List.filter_cons_of_pos (by simpa using hp), putAll_cons]
    · rw [if_neg hp, List.filter_cons_of_neg (by simpa using hp)]

/-- Entries under new names are added at the end. -/
theorem putAll_eq_append {more : List (Text × α)} (h : ((es ++ more).map Prod.fst).Nodup) :
    putAll es more = es ++ more := by
  induction more generalizing es with
  | nil => simp [putAll]
  | cons e more ih =>
    have hnew : e.1 ∉ es.map Prod.fst := by
      rw [List.map_append, List.nodup_append] at h
      intro hmem
      exact h.2.2 e.1 hmem e.1 (by simp) rfl
    have hsplit : es ++ [(e.1, e.2)] ++ more = es ++ e :: more := by simp
    rw [putAll_cons, put_of_not_mem hnew, ih (by rwa [hsplit]), hsplit]

theorem last?_eq_lookup (h : (es.map Prod.fst).Nodup) (name : Text) : last? es name = es.lookup name := by
  have hself : putAll [] es = es := putAll_eq_append h
  calc last? es name = (last? es name).or (([] : List (Text × α)).lookup name) := (Option.or_none ..).symm
    _ = (putAll [] es).lookup name := (lookup_putAll [] es name).symm
    _ = es.lookup name := by rw [hself]

/-- Entries in one go, each name once, count as they do one after the other. -/
theorem last?_putAll_nil (more : List (Text × α)) (name : Text) : last? (putAll [] more) name = last? more name := by
  have hkeys : ((putAll [] more).map Prod.fst).Nodup := nodup_putAll (by simp) more
  rw [last?_eq_lookup hkeys, lookup_putAll]
  exact Option.or_none ..

/-! ### Entries without some names -/

/-- The entries that are not under one of some names. -/
def without (names : List Text) (es : List (Text × α)) : List (Text × α) := es.filter fun e => !names.contains e.1

theorem without_nil (es : List (Text × α)) : without [] es = es := by
  simp [without]

theorem without_without (names more : List Text) (es : List (Text × α)) :
    without names (without more es) = without (more ++ names) es := by
  unfold without
  rw [List.filter_filter]
  refine List.filter_congr fun e _ => ?_
  simp [Bool.and_comm]

theorem without_comm (names more : List Text) (es : List (Text × α)) :
    without names (without more es) = without more (without names es) := by
  unfold without
  rw [List.filter_filter, List.filter_filter]
  refine List.filter_congr fun e _ => ?_
  rw [Bool.and_comm]

theorem without_eq_self {names : List Text} : without names es = es ↔ ∀ name ∈ names, name ∉ es.map Prod.fst := by
  unfold without
  rw [List.filter_eq_self]
  simp only [Bool.not_eq_true', List.contains_eq_mem, decide_eq_false_iff_not, List.mem_map, not_exists, not_and]
  constructor
  · rintro h name hname e he rfl
    exact h e he hname
  · intro h e he hname
    exact h e.1 hname e he rfl

theorem lookup_without_of_mem {names : List Text} {key : Text} (h : key ∈ names) (es : List (Text × α)) :
    (without names es).lookup key = none := by
  rw [lookup_eq_none]
  intro hmem
  obtain ⟨e, he, rfl⟩ := List.mem_map.mp hmem
  have hkept := (List.mem_filter.mp he).2
  simp only [Bool.not_eq_true', List.contains_eq_mem, decide_eq_false_iff_not] at hkept
  exact hkept h

theorem lookup_without_of_not_mem {names : List Text} {key : Text} (h : key ∉ names) (es : List (Text × α)) :
    (without names es).lookup key = es.lookup key :=
  lookup_filter_of_pos (p := fun name => !names.contains name) (by simpa using h) es

/-- What is put under one of the names does not remain. -/
theorem without_put {names : List Text} {name : Text} (h : name ∈ names) (es : List (Text × α)) (a : α) :
    without names (put es name a) = without names es := by
  have hdropped : ¬ (!names.contains name) = true := by simpa using h
  exact (filter_put (fun key => !names.contains key) es name a).trans (if_neg hdropped)

end Entries

end ModuleDocs
