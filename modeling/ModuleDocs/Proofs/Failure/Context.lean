import ModuleDocs.Failure.Basic
import ModuleDocs.Proofs.Entries
import ModuleDocs.Proofs.Faults
import ModuleDocs.Proofs.Text.Encoding

/-!
# The context of a failure

Entries are added to the context of a failure call by call. Some keys stand for what a context has of its own, the
others go into its further entries, and the listing puts these over the former. Further entries are never under a key
of the former, so nothing is hidden: of every key that value is reported which was given last.
-/

namespace ModuleDocs

open Entries (last? putAll)

namespace FailureContext

variable {c d : FailureContext} {key : Text} {value : Value} {es : List (Text × Value)}

/-- The keys that stand for what a context has of its own. -/
def attributeKeys : List Text := [Text.ofString "path", Text.ofString "module", Text.ofString "stage"]

/-- The names that a context keeps for itself. -/
def reserved : List Text := listingKey :: ownNames

/-- A value, unless it is null. -/
def present : Value → Option Value
  | .null => none
  | v => some v

/-- What is reported of a value that is given under a key. -/
def reportedAs (key : Text) (value : Value) : Option Value :=
  if key = Text.ofString "path" then some (.str (Cause.plain value))
  else if key = Text.ofString "module" ∨ key = Text.ofString "stage" then present value
  else some value

theorem mem_attributeKeys : key ∈ attributeKeys ↔
    key = Text.ofString "path" ∨ key = Text.ofString "module" ∨ key = Text.ofString "stage" := by
  simp [attributeKeys]

theorem nodup_attributeKeys : attributeKeys.Nodup := by decide

theorem present_injective : Function.Injective present := by
  intro a b h
  cases a <;> cases b <;> simp_all [present]

/-! ### Setting one entry -/

/-- What setting an entry does to a context, if its key is not one that the context keeps for itself. -/
inductive Sets (c : FailureContext) (value : Value) : Text → FailureContext → Prop where
  | path : Sets c value (Text.ofString "path") { c with path := some (Cause.plain value) }
  | module : Sets c value (Text.ofString "module") { c with module := value }
  | stage : Sets c value (Text.ofString "stage") { c with stage := value }
  | further {key : Text} : key ∉ attributeKeys → Sets c value key { c with extra := Entries.put c.extra key value }

theorem sets (h : key ∉ reserved) (c : FailureContext) (value : Value) : Sets c value key (c.set key value) := by
  obtain ⟨hlisting, hown⟩ : key ≠ listingKey ∧ key ∉ ownNames := by
    simpa [reserved] using h
  unfold set
  by_cases hpath : key = Text.ofString "path"
  · subst hpath
    exact .path
  by_cases hmodule : key = Text.ofString "module"
  · subst hmodule
    exact .module
  by_cases hstage : key = Text.ofString "stage"
  · subst hstage
    exact .stage
  rw [if_neg hpath, if_neg hmodule, if_neg hstage, if_neg hlisting, if_neg (by simpa using hown)]
  exact .further (by simp [mem_attributeKeys, hpath, hmodule, hstage])

/-- What a context has under a key: a value of its own, or a further entry. -/
def value? (c : FailureContext) (key : Text) : Option Value :=
  if key = Text.ofString "path" then c.path.map .str
  else if key = Text.ofString "module" then present c.module
  else if key = Text.ofString "stage" then present c.stage
  else c.extra.lookup key

def isFurther (key : Text) : Bool := !attributeKeys.contains key

/-- A context that lists what it has: no value is in the place of the listing, and the further entries have distinct
keys, none of them a key of what the context has of its own. -/
structure Plain (c : FailureContext) : Prop where
  listing : c.obstacle = none
  apart : ∀ key ∈ c.extra.map Prod.fst, key ∉ attributeKeys
  distinct : (c.extra.map Prod.fst).Nodup

namespace Sets

theorem plain (h : Sets c value key d) (hc : c.Plain) : d.Plain := by
  cases h with
  | path => exact ⟨hc.listing, hc.apart, hc.distinct⟩
  | module => exact ⟨hc.listing, hc.apart, hc.distinct⟩
  | stage => exact ⟨hc.listing, hc.apart, hc.distinct⟩
  | further hkey =>
    refine ⟨hc.listing, fun other hother => ?_, Entries.nodup_put hc.distinct value⟩
    rcases Entries.mem_keys_put.mp hother with rfl | hold
    · exact hkey
    · exact hc.apart other hold

theorem value?_eq (h : Sets c value key d) (other : Text) :
    d.value? other = if other = key then reportedAs key value else c.value? other := by
  by_cases hother : other = key
  · subst hother
    rw [if_pos rfl]
    cases h with
    | path => simp [value?, reportedAs]
    | module => simp [value?, reportedAs, Text.ofString_inj]
    | stage => simp [value?, reportedAs, Text.ofString_inj]
    | further hkey =>
      rw [mem_attributeKeys, not_or, not_or] at hkey
      simp [value?, reportedAs, hkey, Entries.lookup_put]
  · rw [if_neg hother]
    cases h with
    | path => simp [value?, hother]
    | module => simp [value?, hother]
    | stage => simp [value?, hother]
    | further _ => simp [value?, Entries.lookup_put, hother]

theorem extra_eq (h : Sets c value key d) :
    d.extra = if isFurther key = true then Entries.put c.extra key value else c.extra := by
  cases h with
  | path => rfl
  | module => rfl
  | stage => rfl
  | further hkey => rw [if_pos (by simpa [isFurther] using hkey)]

end Sets

/-! ### Setting entries one after the other -/

theorem setAll_cons (c : FailureContext) (e : Text × Value) (es : List (Text × Value)) :
    c.setAll (e :: es) = (c.set e.1 e.2).setAll es := rfl

theorem setAll_append (c : FailureContext) (es more : List (Text × Value)) :
    c.setAll (es ++ more) = (c.setAll es).setAll more := List.foldl_append

theorem plain_setAll (hc : c.Plain) (h : ∀ e ∈ es, e.1 ∉ reserved) : (c.setAll es).Plain := by
  induction es generalizing c with
  | nil => exact hc
  | cons e es ih =>
    have hset := (sets (h e (List.mem_cons_self ..)) c e.2).plain hc
    exact ih hset fun e he => h e (List.mem_cons_of_mem _ he)

/-- Of the values that are given under a key the last one counts. -/
theorem value?_setAll (h : ∀ e ∈ es, e.1 ∉ reserved) (c : FailureContext) (key : Text) :
    (c.setAll es).value? key = (last? es key).elim (c.value? key) (reportedAs key) := by
  induction es generalizing c with
  | nil => rfl
  | cons e es ih =>
    have hset := (sets (h e (List.mem_cons_self ..)) c e.2).value?_eq key
    rw [setAll_cons, ih (fun e he => h e (List.mem_cons_of_mem _ he)), hset, Entries.last?_cons]
    cases last? es key with
    | some v => rfl
    | none =>
      by_cases hkey : key = e.1
      · subst hkey
        simp
      · simp [hkey]

theorem extra_setAll (h : ∀ e ∈ es, e.1 ∉ reserved) (c : FailureContext) :
    (c.setAll es).extra = putAll c.extra (es.filter fun e => isFurther e.1) := by
  induction es generalizing c with
  | nil => rfl
  | cons e es ih =>
    have hset := (sets (h e (List.mem_cons_self ..)) c e.2).extra_eq
    rw [setAll_cons, ih fun e he => h e (List.mem_cons_of_mem _ he), hset]
    by_cases hkey : isFurther e.1 = true
    · rw [if_pos hkey, List.filter_cons_of_pos (by exact hkey), Entries.putAll_cons]
    · rw [if_neg hkey, List.filter_cons_of_neg (by exact hkey)]

/-- Contexts that list what they have are equal if they have the same under every key, in the same order. -/
theorem eq_of_value? (hc : c.Plain) (hd : d.Plain) (hextra : c.extra = d.extra)
    (hvalue : ∀ key, c.value? key = d.value? key) : c = d := by
  have hpath : c.path = d.path :=
    Option.map_injective (fun _ _ h => Value.str.inj h) (hvalue (Text.ofString "path"))
  have hmodule : c.module = d.module := present_injective (hvalue (Text.ofString "module"))
  have hstage : c.stage = d.stage := present_injective (hvalue (Text.ofString "stage"))
  have hlisting : c.obstacle = d.obstacle := hc.listing.trans hd.listing.symm
  cases c
  cases d
  simp_all

/-- Entries that are given one after the other count as they do in one go, each key once. -/
theorem setAll_putAll (hc : c.Plain) (hextra : c.extra = []) (h : ∀ e ∈ es, e.1 ∉ reserved) :
    c.setAll (putAll [] es) = c.setAll es := by
  have hmerged : ∀ e ∈ putAll [] es, e.1 ∉ reserved := Entries.forall_putAll_nil (P := (· ∉ reserved)) h
  refine eq_of_value? (plain_setAll hc hmerged) (plain_setAll hc h) ?_ fun key => ?_
  · -- Each further key keeps the place it got when it was first given.
    have hkeys : ((putAll [] es).map Prod.fst).Nodup := Entries.nodup_putAll (by simp) es
    have hfurther : (((putAll [] es).filter fun e => isFurther e.1).map Prod.fst).Nodup :=
      hkeys.sublist (List.filter_sublist.map Prod.fst)
    calc (c.setAll (putAll [] es)).extra
        = putAll [] ((putAll [] es).filter fun e => isFurther e.1) := by rw [extra_setAll hmerged, hextra]
      _ = (putAll [] es).filter fun e => isFurther e.1 := Entries.putAll_eq_append hfurther
      _ = putAll [] (es.filter fun e => isFurther e.1) := Entries.filter_putAll isFurther [] es
      _ = (c.setAll es).extra := by rw [extra_setAll h, hextra]
  · rw [value?_setAll hmerged, value?_setAll h, Entries.last?_putAll_nil]

/-! ### The listing -/

theorem lookup_entry (name : String) (value : Value) (key : Text) :
    (entry name value).lookup key = if key = Text.ofString name then present value else none := by
  cases value with
  | null => simp [entry, present]
  | _ => exact Entries.lookup_singleton ..

theorem present_pathValue (c : FailureContext) : present c.pathValue = c.path.map .str := by
  unfold pathValue
  cases c.path <;> rfl

/-- What a context has is what it lists. -/
theorem Plain.lookup_entries (hc : c.Plain) (key : Text) : c.entries.lookup key = c.value? key := by
  have hput : c.entries =
      putAll (entry "path" c.pathValue ++ entry "module" c.module ++ entry "stage" c.stage) c.extra := rfl
  rw [hput, Entries.lookup_putAll, Entries.last?_eq_lookup hc.distinct, List.lookup_append, List.lookup_append,
    lookup_entry, lookup_entry, lookup_entry, present_pathValue]
  -- The further entries are put over what the context has of its own, but hide none of it.
  have hhidden : key ∈ attributeKeys → c.extra.lookup key = none := fun hkey =>
    Entries.lookup_eq_none.mpr fun hmem => hc.apart key hmem hkey
  rw [mem_attributeKeys] at hhidden
  unfold value?
  by_cases hpath : key = Text.ofString "path"
  · rw [hhidden (.inl hpath)]
    subst hpath
    simp [Text.ofString_inj]
  by_cases hmodule : key = Text.ofString "module"
  · rw [hhidden (.inr (.inl hmodule))]
    subst hmodule
    simp [Text.ofString_inj]
  by_cases hstage : key = Text.ofString "stage"
  · rw [hhidden (.inr (.inr hstage))]
    subst hstage
    simp [Text.ofString_inj]
  simp [hpath, hmodule, hstage]

theorem keys_entry (name : String) (value : Value) :
    ((entry name value).map Prod.fst).Sublist [Text.ofString name] := by
  cases value with
  | null => exact List.nil_sublist _
  | _ => exact List.Sublist.refl _

theorem nodup_entries (c : FailureContext) : (c.entries.map Prod.fst).Nodup := by
  refine Entries.nodup_putAll ?_ c.extra
  rw [List.map_append, List.map_append]
  have hkeys := ((keys_entry "path" c.pathValue).append (keys_entry "module" c.module)).append
    (keys_entry "stage" c.stage)
  exact nodup_attributeKeys.sublist hkeys

theorem plain_of_path (path : Option Text) : Plain ⟨path, .null, .null, [], none⟩ :=
  ⟨rfl, fun _ h => (by cases h), List.nodup_nil⟩

end FailureContext

namespace Failure

open FailureContext (attributeKeys present reportedAs reserved)

variable {f g : Failure} {es : List (Text × Value)} {calls : List (List (Text × Value))}

/-! ### Calls -/

def annotateAll (f : Failure) (calls : List (List (Text × Value))) : Failure := calls.foldl withContext f

theorem withContext_append (f : Failure) (es more : List (Text × Value)) :
    f.withContext (es ++ more) = (f.withContext es).withContext more :=
  congrArg (fun context => { f with context }) (FailureContext.setAll_append f.context es more)

/-- Calls come to one call that is given all entries in order. -/
theorem annotateAll_eq (f : Failure) (calls : List (List (Text × Value))) :
    f.annotateAll calls = f.withContext calls.flatten := by
  induction calls generalizing f with
  | nil => rfl
  | cons call calls ih =>
    have hstep : f.annotateAll (call :: calls) = (f.withContext call).annotateAll calls := rfl
    rw [hstep, ih, List.flatten_cons, withContext_append]

/-! ### Reports -/

/-- The context in a report, without entries if there is none. -/
def contextIn (report : List (Text × Value)) : List (Text × Value) :=
  match Value.get? report "context" with
  | some (.map es) => es
  | _ => []

theorem contextIn_entries (f : Failure) : contextIn f.entries = f.context.entries := by
  unfold contextIn entries Value.get?
  cases hcontext : f.context.entries with
  | nil => cases f.cause <;> rfl
  | cons e es => cases f.cause <;> rfl

/-- What is reported of a failure that was given some entries: under every key the last value, the path as a text and
null values of the module and the stage not at all. -/
structure Annotated (made : Failure) (given : List (Text × Value)) (f : Failure) (report : List (Text × Value)) :
    Prop where
  distinct : ((contextIn report).map Prod.fst).Nodup
  path : (contextIn report).lookup (Text.ofString "path") =
    (((last? given (Text.ofString "path")).map Cause.plain).or made.context.path).map .str
  module : (contextIn report).lookup (Text.ofString "module") = (last? given (Text.ofString "module")).bind present
  stage : (contextIn report).lookup (Text.ofString "stage") = (last? given (Text.ofString "stage")).bind present
  further : ∀ key, key ∉ attributeKeys → (contextIn report).lookup key = last? given key
  /-- The path that is reported is the path of the failure. -/
  located : (contextIn report).lookup (Text.ofString "path") = f.context.path.map .str
  /-- The same failure comes of one call with all keys. -/
  merged : made.withContext (putAll [] given) = f
  unchanged : f.kind = made.kind ∧ f.category = made.category ∧ f.message = made.message ∧ f.cause = made.cause

theorem plain_withContext (hf : f.context.Plain) (hkeys : ∀ e ∈ es, e.1 ∉ reserved) :
    (f.withContext es).context.Plain := FailureContext.plain_setAll hf hkeys

theorem report_of_plain (hf : f.context.Plain) : f.report = .ok f.entries := by
  simp only [report, hf.listing]

/-- The reported context after some entries, key by key. -/
theorem lookup_contextIn_withContext (hf : f.context.Plain) (hkeys : ∀ e ∈ es, e.1 ∉ reserved) (key : Text) :
    (contextIn (f.withContext es).entries).lookup key =
      (last? es key).elim (f.context.value? key) (reportedAs key) := by
  rw [contextIn_entries, (plain_withContext hf hkeys).lookup_entries]
  exact FailureContext.value?_setAll hkeys f.context key

theorem annotated_withContext {made : Failure} {path : Option Text}
    (hmade : made.context = ⟨path, .null, .null, [], none⟩) (hkeys : ∀ e ∈ es, e.1 ∉ reserved) :
    Annotated made es (made.withContext es) (made.withContext es).entries := by
  have hplain : made.context.Plain := hmade ▸ FailureContext.plain_of_path path
  have hlookup := lookup_contextIn_withContext hplain hkeys
  refine ⟨?_, ?_, ?_, ?_, fun key hkey => ?_, ?_, ?_, rfl, rfl, rfl, rfl⟩
  · rw [contextIn_entries]
    exact FailureContext.nodup_entries _
  · rw [hlookup, hmade]
    cases last? es (Text.ofString "path") <;> rfl
  · rw [hlookup, hmade]
    cases last? es (Text.ofString "module") <;> rfl
  · rw [hlookup, hmade]
    cases last? es (Text.ofString "stage") <;> rfl
  · rw [FailureContext.mem_attributeKeys, not_or, not_or] at hkey
    rw [hlookup, hmade]
    cases last? es key with
    | none => simp [FailureContext.value?, hkey]
    | some v => simp [reportedAs, hkey]
  · rw [contextIn_entries, (plain_withContext hplain hkeys).lookup_entries]
    rfl
  · have hextra : made.context.extra = [] := by rw [hmade]
    rw [withContext, withContext, FailureContext.setAll_putAll hplain hextra hkeys]

/-- A failure is made without a context, and entries are added in calls, under any keys but those that a context keeps
for itself. It can be reported, and what is reported of every key is what was given last. -/
theorem annotateAll_reports (kind : FailureKind) (message : Text) (path : Option Text) (category : Option Category)
    (cause : Option Cause) (calls : List (List (Text × Value)))
    (hkeys : ∀ call ∈ calls, ∀ e ∈ call, e.1 ∉ reserved) :
    ∃ report, ((make kind message path category .empty cause).annotateAll calls).report = .ok report ∧
      Annotated (make kind message path category .empty cause) calls.flatten
        ((make kind message path category .empty cause).annotateAll calls) report := by
  have hmade : (make kind message path category .empty cause).context = ⟨path.or none, .null, .null, [], none⟩ := rfl
  have hgiven : ∀ e ∈ calls.flatten, e.1 ∉ reserved := by
    intro e he
    obtain ⟨call, hcall, he⟩ := List.mem_flatten.mp he
    exact hkeys call hcall e he
  have hplain := plain_withContext (hmade ▸ FailureContext.plain_of_path _) hgiven
  rw [annotateAll_eq]
  exact ⟨_, report_of_plain hplain, annotated_withContext hmade hgiven⟩

/-- Two calls that give a path, a module and two further entries, the second with a null module. -/
def repeatedCalls : List (List (Text × Value)) :=
  [[(Text.ofString "path", .null), (Text.ofString "module", .ofString "m"), (Text.ofString "metadata", .int 1)],
    [(Text.ofString "module", .null), (Text.ofString "metadata", .int 2), (Text.ofString "line", .null)]]

theorem annotateAll_reports_repeated :
    (∀ call ∈ repeatedCalls, ∀ e ∈ call, e.1 ∉ reserved) ∧
    ∃ report, ((make .typecheck "bad" (some "m.py") none .empty none).annotateAll repeatedCalls).report = .ok report ∧
      (contextIn report).lookup (Text.ofString "path") = some (.ofString "None") ∧
      (contextIn report).lookup (Text.ofString "module") = none ∧
      (contextIn report).lookup (Text.ofString "metadata") = some (.int 2) ∧
      (contextIn report).lookup (Text.ofString "line") = some .null := by
  have hkeys : ∀ call ∈ repeatedCalls, ∀ e ∈ call, e.1 ∉ reserved := by decide
  obtain ⟨report, hreport, hannotated⟩ :=
    annotateAll_reports .typecheck "bad" (some "m.py") none none repeatedCalls hkeys
  refine ⟨hkeys, report, hreport, ?_, ?_, ?_, ?_⟩
  · rw [hannotated.path]
    rfl
  · rw [hannotated.module]
    rfl
  · rw [hannotated.further _ (by decide)]
    rfl
  · rw [hannotated.further _ (by decide)]
    rfl

end Failure

end ModuleDocs
