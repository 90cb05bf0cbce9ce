import Mathlib
import ModuleDocs.Log
import ModuleDocs.Proofs.Entries

/-!
# Contexts of the log

Contexts are entered, events are emitted in them, and they are left again, the innermost first. Leaving a context
unbinds its names, whatever was bound under them before. So a context leaves the fields behind that were bound under
other names, and an event carries the fields of its context except those whose names a context inside it has used up.
-/

namespace ModuleDocs

namespace Log

/-! ### Steps -/

/-- What is done with a log. -/
inductive Step where
  | enter (fields : List (Text × Value))
  | emit (level : Level) (name : Text) (fields : List (Text × Value))
  | leave

/-- Takes a step. A context can be left only if one has been entered. -/
def perform? (log : Log) : Step → Option Log
  | .enter fields => some (log.enter fields)
  | .emit level name fields => some (log.emit level name fields)
  | .leave => log.leave?

def performAll? (log : Log) : List Step → Option Log
  | [] => some log
  | step :: steps => (log.perform? step).bind fun next => next.performAll? steps

/-- Steps that leave every context they enter, and no other. -/
inductive WellNested : List Step → Prop where
  | nil : WellNested []
  | emit {level : Level} {name : Text} {fields : List (Text × Value)} {rest : List Step} : WellNested rest →
      WellNested (.emit level name fields :: rest)
  | context {fields : List (Text × Value)} {body rest : List Step} : WellNested body → WellNested rest →
      WellNested (.enter fields :: (body ++ .leave :: rest))

def Step.names : Step → List Text
  | .enter fields => fields.map Prod.fst
  | _ => []

def namesIn (steps : List Step) : List Text := steps.flatMap Step.names

theorem performAll?_append (log : Log) (before after : List Step) :
    log.performAll? (before ++ after) = (log.performAll? before).bind fun next => next.performAll? after := by
  induction before generalizing log with
  | nil => rfl
  | cons step before ih =>
    rw [List.cons_append, performAll?, performAll?]
    cases log.perform? step with
    | none => rfl
    | some next => exact ih next

/-! ### Fields -/

def last? (fields : List (Text × Value)) (name : Text) : Option Value := fields.reverse.lookup name

/-- Fields that take the place of others. -/
def override (bound fields : List (Text × Value)) : List (Text × Value) :=
  fields.foldl (fun b f => Value.set b f.1 f.2) bound

theorem lookup_override (bound fields : List (Text × Value)) (name : Text) :
    (override bound fields).lookup name = (last? fields name).or (bound.lookup name) :=
  Entries.lookup_putAll bound fields name

theorem without_override {names : List Text} (bound : List (Text × Value)) {fields : List (Text × Value)}
    (h : ∀ f ∈ fields, f.1 ∈ names) : Entries.without names (override bound fields) = Entries.without names bound := by
  induction fields generalizing bound with
  | nil => rfl
  | cons f fields ih =>
    have hset : Entries.without names (Value.set bound f.1 f.2) = Entries.without names bound :=
      Entries.without_put (h f (List.mem_cons_self ..)) bound f.2
    have hstep : override bound (f :: fields) = override (Value.set bound f.1 f.2) fields := rfl
    rw [hstep, ih _ fun g hg => h g (List.mem_cons_of_mem _ hg), hset]

/-! ### What a step changes -/

theorem emit_bound (log : Log) (level : Level) (name : Text) (fields : List (Text × Value)) :
    (log.emit level name fields).bound = log.bound ∧ (log.emit level name fields).contexts = log.contexts ∧
      (log.emit level name fields).format = log.format := by
  unfold emit
  split <;> exact ⟨rfl, rfl, rfl⟩

theorem emit_emitted {log : Log} {level : Level} (h : log.accepts level = true) (name : Text)
    (fields : List (Text × Value)) :
    (log.emit level name fields).emitted = log.emitted ++ [⟨level, name, override log.bound fields⟩] := by
  rw [emit, if_pos h]
  rfl

theorem perform?_emitted {log next : Log} {step : Step} (h : log.perform? step = some next) :
    log.emitted <+: next.emitted := by
  cases step with
  | enter fields =>
    cases h
    exact List.prefix_refl _
  | emit level name fields =>
    cases h
    unfold emit
    split
    · exact List.prefix_append ..
    · exact List.prefix_refl _
  | leave =>
    unfold perform? leave? at h
    cases hc : log.contexts with
    | nil => rw [hc] at h; cases h
    | cons names outer =>
      rw [hc] at h
      cases h
      exact List.prefix_refl _

theorem performAll?_emitted {log after : Log} {steps : List Step} (h : log.performAll? steps = some after) :
    log.emitted <+: after.emitted := by
  induction steps generalizing log with
  | nil =>
    cases h
    exact List.prefix_refl _
  | cons step steps ih =>
    obtain ⟨next, hnext, hrest⟩ := Option.bind_eq_some_iff.mp h
    exact (perform?_emitted hnext).trans (ih hrest)

/-! ### What well-nested steps change -/

/-- The log after some steps: the same contexts are open, and what was bound is bound except under some names. -/
structure Unwound (log after : Log) (names : List Text) : Prop where
  format : after.format = log.format
  contexts : after.contexts = log.contexts
  bound : after.bound = Entries.without names log.bound

theorem Unwound.accepts {log after : Log} {names : List Text} (h : Unwound log after names) (level : Level) :
    after.accepts level = log.accepts level := by
  unfold Log.accepts
  rw [h.format]

theorem Unwound.trans {a b c : Log} {names more : List Text} (hab : Unwound a b names) (hbc : Unwound b c more) :
    Unwound a c (names ++ more) where
  format := hbc.format.trans hab.format
  contexts := hbc.contexts.trans hab.contexts
  bound := by rw [hbc.bound, hab.bound, Entries.without_without]

/-- A context is left with its names and those used up inside it unbound. -/
theorem leave?_unwound {log inside : Log} {fields : List (Text × Value)} {names : List Text}
    (h : Unwound (log.enter fields) inside names) :
    ∃ after, inside.leave? = some after ∧ Unwound log after (fields.map Prod.fst ++ names) := by
  have hcontexts : inside.contexts = fields.map Prod.fst :: log.contexts := h.contexts
  refine ⟨{ inside with bound := Entries.without (fields.map Prod.fst) inside.bound, contexts := log.contexts }, ?_, ?_⟩
  · rw [leave?, hcontexts]
    rfl
  · refine ⟨h.format, rfl, ?_⟩
    have hown : ∀ f ∈ fields, f.1 ∈ fields.map Prod.fst := fun f hf => List.mem_map_of_mem hf
    calc Entries.without (fields.map Prod.fst) inside.bound
        = Entries.without (fields.map Prod.fst) (Entries.without names (override log.bound fields)) :=
          congrArg (Entries.without _) h.bound
      _ = Entries.without names (Entries.without (fields.map Prod.fst) (override log.bound fields)) :=
          Entries.without_comm ..
      _ = Entries.without names (Entries.without (fields.map Prod.fst) log.bound) := by
          rw [without_override log.bound hown]
      _ = Entries.without (fields.map Prod.fst ++ names) log.bound := Entries.without_without ..

theorem WellNested.unwound {steps : List Step} (h : WellNested steps) (log : Log) :
    ∃ after, log.performAll? steps = some after ∧ Unwound log after (namesIn steps) := by
  induction h generalizing log with
  | nil => exact ⟨log, rfl, rfl, rfl, (Entries.without_nil _).symm⟩
  | @emit level name fields rest _ ih =>
    obtain ⟨hbound, hcontexts, hformat⟩ := log.emit_bound level name fields
    obtain ⟨after, hafter, hunwound⟩ := ih (log.emit level name fields)
    refine ⟨after, hafter, hunwound.format.trans hformat, hunwound.contexts.trans hcontexts, ?_⟩
    rw [hunwound.bound, hbound]
    rfl
  | @context fields body rest _ _ ihbody ihrest =>
    obtain ⟨inside, hinside, hbody⟩ := ihbody (log.enter fields)
    obtain ⟨left, hleft, hcontext⟩ := leave?_unwound hbody
    obtain ⟨after, hafter, hrest⟩ := ihrest left
    refine ⟨after, ?_, ?_⟩
    · have hsteps : log.performAll? (.enter fields :: (body ++ .leave :: rest)) =
          (log.enter fields).performAll? (body ++ .leave :: rest) := rfl
      have hleave : inside.performAll? (.leave :: rest) = (inside.leave?).bind fun next => next.performAll? rest := rfl
      rw [hsteps, performAll?_append, hinside, Option.bind_some, hleave, hleft, Option.bind_some, hafter]
    · have hnames : namesIn (.enter fields :: (body ++ .leave :: rest)) =
          (fields.map Prod.fst ++ namesIn body) ++ namesIn rest := by
        simp [namesIn, Step.names]
      rw [hnames]
      exact hcontext.trans hrest

/-! ### Contexts -/

/-! ### What goes out -/

end Log

namespace LogEvent

/-- The keys that mean something to the log itself. -/
def ownKeys (e : LogEvent) : List Text := nameKey :: levelKey :: e.withheld

/-- Under its own keys the log puts name and level, and of the fields nothing. -/
structure Headed (e : LogEvent) : Prop where
  name : e.entries.lookup nameKey = some (.str e.name)
  level : e.entries.lookup levelKey = some (.ofString e.level.name)
  withheld : ∀ key ∈ e.withheld, e.entries.lookup key = none

theorem lookup_entries (e : LogEvent) (key : Text) : e.entries.lookup key =
    if key = levelKey then some (.ofString e.level.name)
    else if key = nameKey then some (.str e.name)
    else (Entries.without e.withheld e.fields).lookup key := by
  have hset := fun (es : List (Text × Value)) name key value => Entries.lookup_put es name key value
  exact (hset _ _ _ _).trans (if_congr Iff.rfl rfl (hset _ _ _ _))

theorem lookup_entries_of_not_mem {e : LogEvent} {key : Text} (h : key ∉ e.ownKeys) :
    e.entries.lookup key = e.fields.lookup key := by
  obtain ⟨hname, hlevel, hwithheld⟩ : key ≠ nameKey ∧ key ≠ levelKey ∧ key ∉ e.withheld := by
    simpa [ownKeys] using h
  rw [lookup_entries, if_neg hlevel, if_neg hname, Entries.lookup_without_of_not_mem hwithheld]

theorem headed (e : LogEvent) : e.Headed where
  name := by
    rw [lookup_entries, if_neg (by decide), if_pos rfl]
  level := by rw [lookup_entries, if_pos rfl]
  withheld := by
    intro key hkey
    have hapart : ∀ key ∈ e.withheld, key ≠ levelKey ∧ key ≠ nameKey := by
      unfold LogEvent.withheld
      cases e.traced <;> decide
    obtain ⟨hlevel, hname⟩ := hapart key hkey
    rw [lookup_entries, if_neg hlevel, if_neg hname, Entries.lookup_without_of_mem hkey]

end LogEvent

namespace Log

/-- The event of a step inside a context, as it goes out. Apart from the log's own keys it has its own fields, and of
the fields of the context and of those that were bound before it those under names that no inner context has used up. -/
structure EmittedInside (log : Log) (fields : List (Text × Value)) (before : List Step)
    (own : List (Text × Value)) (e : LogEvent) : Prop where
  headed : e.Headed
  fields_eq : ∀ key, key ∉ e.ownKeys → e.entries.lookup key =
    (last? own key).or (if key ∈ namesIn before then none else (last? fields key).or (log.bound.lookup key))
  /-- A trace goes out if it is asked for by the event, or by a context where the request has not been used up. -/
  traced : e.traced = (((last? own LogEvent.traceRequestKey).or (if LogEvent.traceRequestKey ∈ namesIn before then none
    else (last? fields LogEvent.traceRequestKey).or (log.bound.lookup LogEvent.traceRequestKey))).any
      fun v => !v.isVoid)
  /-- A field of the context goes out exactly if its key is not the log's own and its name has not been used up. -/
  carries : ∀ key value, last? fields key = some value → last? own key = none → key ∉ e.ownKeys →
    (e.entries.lookup key = some value ↔ key ∉ namesIn before)

theorem emittedInside {log inside : Log} {fields : List (Text × Value)} {before : List Step} {level : Level}
    {name : Text} {own : List (Text × Value)} (h : Unwound (log.enter fields) inside (namesIn before)) :
    EmittedInside log fields before own ⟨level, name, override inside.bound own⟩ := by
  have hbound : inside.bound = Entries.without (namesIn before) (override log.bound fields) := h.bound
  have hfields : ∀ key, (override inside.bound own).lookup key =
      (last? own key).or (if key ∈ namesIn before then none else (last? fields key).or (log.bound.lookup key)) := by
    intro key
    rw [lookup_override, hbound]
    by_cases hused : key ∈ namesIn before
    · rw [if_pos hused, Entries.lookup_without_of_mem hused]
    · rw [if_neg hused, Entries.lookup_without_of_not_mem hused, lookup_override]
  have hsent : ∀ key, key ∉ LogEvent.ownKeys ⟨level, name, override inside.bound own⟩ →
      (LogEvent.entries ⟨level, name, override inside.bound own⟩).lookup key =
        (last? own key).or (if key ∈ namesIn before then none else (last? fields key).or (log.bound.lookup key)) :=
    fun key hkey => (LogEvent.lookup_entries_of_not_mem hkey).trans (hfields key)
  refine ⟨LogEvent.headed _, hsent, ?_, fun key value hvalue hown hkey => ?_⟩
  · unfold LogEvent.traced
    rw [hfields]
  · rw [hsent key hkey, hown, hvalue, Option.none_or, Option.some_or]
    by_cases hused : key ∈ namesIn before
    · simp [hused]
    · simp [hused]

/-- A context with well-nested steps in it is left, and then what was bound before is bound except under its names and
those of the contexts in it. So the fields are as they were exactly if none of these names was bound, and an event of
the context goes out with a field of it, if the key is not the log's own, exactly if no context inside it that was left
before has used the name. -/
theorem context_bindings {body : List Step} (hbody : WellNested body) (log : Log) (fields : List (Text × Value)) :
    ∃ after, log.performAll? (.enter fields :: (body ++ [.leave])) = some after ∧
      Unwound log after (fields.map Prod.fst ++ namesIn body) ∧
      (after.bound = log.bound ↔ ∀ name ∈ fields.map Prod.fst ++ namesIn body, name ∉ log.bound.map Prod.fst) ∧
      ∀ before level name own rest, body = before ++ .emit level name own :: rest → WellNested before →
        log.accepts level = true → ∃ inside e, log.performAll? (.enter fields :: before) = some inside ∧
          e.level = level ∧ e.name = name ∧ inside.emitted ++ [e] <+: after.emitted ∧
          EmittedInside log fields before own e := by
  have hcontext : WellNested (.enter fields :: (body ++ [.leave])) := .context hbody .nil
  obtain ⟨after, hafter, hunwound⟩ := hcontext.unwound log
  have hnames : namesIn (.enter fields :: (body ++ [.leave])) = fields.map Prod.fst ++ namesIn body := by
    simp [namesIn, Step.names]
  rw [hnames] at hunwound
  refine ⟨after, hafter, hunwound, ?_, ?_⟩
  · rw [hunwound.bound, Entries.without_eq_self]
  · rintro before level name own rest rfl hbefore haccepts
    obtain ⟨inside, hinside, hwound⟩ := hbefore.unwound (log.enter fields)
    have hready : inside.accepts level = true := (hwound.accepts level).trans haccepts
    refine ⟨inside, ⟨level, name, override inside.bound own⟩, hinside, rfl, rfl, ?_, emittedInside hwound⟩
    -- The steps after the event only add to what is emitted.
    have hsplit : log.performAll? (.enter fields :: ((before ++ .emit level name own :: rest) ++ [.leave])) =
        (inside.emit level name own).performAll? (rest ++ [.leave]) := by
      have hsteps : log.performAll? (.enter fields :: ((before ++ .emit level name own :: rest) ++ [.leave])) =
          (log.enter fields).performAll? (before ++ (.emit level name own :: (rest ++ [.leave]))) := by
        simp [performAll?, perform?]
      rw [hsteps, performAll?_append, hinside, Option.bind_some]
      rfl
    rw [hsplit] at hafter
    have hmore := performAll?_emitted hafter
    rwa [emit_emitted hready] at hmore

def listening : Log := ⟨some ⟨Level.info.rank, true⟩, [], [], []⟩

def sourceField (path : String) : List (Text × Value) := [(Text.ofString "source", .ofString path)]

/-- The steps inside a context: an inner context under the same name, and an event after it. -/
def shadowing : List Step := [.enter (sourceField "b.py"), .leave, .emit .info "inside" []]

theorem context_bindings_shadowed :
    WellNested shadowing ∧ listening.accepts .info = true ∧
    ∃ after e, listening.performAll? (.enter (sourceField "a.py") :: (shadowing ++ [.leave])) = some after ∧
      after.bound = [] ∧ e ∈ after.emitted ∧ e.name = Text.ofString "inside" ∧
      e.entries.lookup (Text.ofString "source") ≠ some (.ofString "a.py") := by
  have hbefore : WellNested [.enter (sourceField "b.py"), .leave] := .context .nil .nil
  have hbody : WellNested shadowing := .context .nil (.emit .nil)
  obtain ⟨after, hafter, _, hrestored, hinside⟩ := context_bindings hbody listening (sourceField "a.py")
  obtain ⟨inside, e, _, _, hname, hprefix, hemitted⟩ := hinside _ .info "inside" [] [] rfl hbefore rfl
  refine ⟨hbody, rfl, after, e, hafter, hrestored.mpr ?_, ?_, hname, ?_⟩
  · intro name _ hbound
    cases hbound
  · exact hprefix.subset (List.mem_append_right _ (List.mem_singleton_self e))
  · intro hcarried
    have hplain : Text.ofString "source" ∉ e.ownKeys := by
      unfold LogEvent.ownKeys LogEvent.withheld
      cases e.traced <;> decide
    have hused := (hemitted.carries (Text.ofString "source") (.ofString "a.py") rfl rfl hplain).mp hcarried
    exact hused (List.mem_singleton_self _)

end Log

end ModuleDocs
