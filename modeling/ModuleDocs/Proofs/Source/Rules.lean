import ModuleDocs.Proofs.Source.Words
import ModuleDocs.Source.Grammar.Parameters
import ModuleDocs.Source.Grammar.Reading

/-!
# What rules give

`Yields` says of a rule what its values are where it matches, and that it keeps a property of what reading leaves
behind. It follows how rules are put together, so what a rule of the grammar gives is found from what its parts give.
-/

namespace ModuleDocs.Source.Grammar

open Compatibility (Unmarked)
open Rule

variable {α β : Type} {I : Trace → Prop} {ctx : Context} {P Q : α → Prop} {R : β → Prop}

/-- A rule keeps the property `I` of traces, and where it matches, its value has the property `Q`. -/
def Yields (I : Trace → Prop) (ctx : Context) (p : Rule α) (Q : α → Prop) : Prop :=
  ∀ (mark : Nat) (trace : Trace), I trace →
    I (p ctx mark trace).2 ∧ ∀ a after, (p ctx mark trace).1 = .ok (a, after) → Q a

/-- The number of tokens that have been looked at does not matter. -/
class IgnoresReach (I : Trace → Prop) : Prop where
  reached : ∀ (trace : Trace) (reach : Nat), I trace → I { trace with reach }

/-- No condition on what reading leaves behind. -/
def Trace.Any : Trace → Prop := fun _ => True

instance : IgnoresReach Trace.Any := ⟨fun _ _ _ => trivial⟩

theorem run_bind (p : Rule α) (f : α → Rule β) (mark : Nat) (trace : Trace) :
    (p >>= f) ctx mark trace =
      match p ctx mark trace with
      | (.ok (a, mid), trace) => f a ctx mid trace
      | (.error e, trace) => (.error e, trace) := by
  rcases h : p ctx mark trace with ⟨_ | ⟨a, mid⟩, trace₁⟩
  · simp only [bind, ReaderT.bind, StateT.bind, ExceptT.bind, ExceptT.mk, ExceptT.bindCont, h]
    rfl
  · simp only [bind, ReaderT.bind, StateT.bind, ExceptT.bind, ExceptT.mk, ExceptT.bindCont, h]

namespace Yields

/-! ### Putting rules together -/

theorem mono {p : Rule α} (h : Yields I ctx p P) (hPQ : ∀ a, P a → Q a) : Yields I ctx p Q :=
  fun mark trace hI => ⟨(h mark trace hI).1, fun a after hok => hPQ a ((h mark trace hI).2 a after hok)⟩

/-- A value of a rule comes from a match of it. -/
theorem self (p : Rule α) :
    Yields Trace.Any ctx p fun a => ∃ mark trace after trace', p ctx mark trace = (.ok (a, after), trace') := by
  intro mark trace _
  exact ⟨trivial, fun a after hok => ⟨mark, trace, after, (p ctx mark trace).2, Prod.ext hok rfl⟩⟩

theorem any (p : Rule α) : Yields Trace.Any ctx p fun _ => True :=
  fun _ _ _ => ⟨trivial, fun _ _ _ => trivial⟩

theorem pure {a : α} (h : Q a) : Yields I ctx (Pure.pure a) Q := by
  intro mark trace hI
  refine ⟨hI, fun b after hok => ?_⟩
  cases hok
  exact h

theorem stop (e : Stop) : Yields I ctx (throw e : Rule α) Q :=
  fun _ _ hI => ⟨hI, fun _ _ hok => nomatch hok⟩

theorem mismatch : Yields I ctx (Rule.mismatch : Rule α) Q := stop _

theorem fault (line : Nat) : Yields I ctx (Rule.fault line : Rule α) Q := stop _

theorem bind {p : Rule α} {f : α → Rule β} (hp : Yields I ctx p P) (hf : ∀ a, P a → Yields I ctx (f a) R) :
    Yields I ctx (p >>= f) R := by
  intro mark trace hI
  obtain ⟨hkeeps, hvalue⟩ := hp mark trace hI
  rw [run_bind]
  rcases h : p ctx mark trace with ⟨_ | ⟨a, mid⟩, trace₁⟩
  · rw [h] at hkeeps
    exact ⟨hkeeps, fun _ _ hok => nomatch hok⟩
  · rw [h] at hkeeps hvalue
    exact hf a (hvalue a mid rfl) mid trace₁ hkeeps

/-- After a rule whose value does not matter. -/
theorem after {p : Rule α} {f : α → Rule β} (hp : Yields I ctx p P) (hf : ∀ a, Yields I ctx (f a) R) :
    Yields I ctx (p >>= f) R :=
  hp.bind fun a _ => hf a

/-- After any rule, where it does not matter what that leaves behind. -/
theorem past {p : Rule α} {f : α → Rule β} (hf : ∀ a, Yields Trace.Any ctx (f a) R) :
    Yields Trace.Any ctx (p >>= f) R :=
  (any p).after hf

theorem orElse {p q : Rule α} (hp : Yields I ctx p Q) (hq : Yields I ctx q Q) : Yields I ctx (Rule.orElse p q) Q := by
  intro mark trace hI
  obtain ⟨hkeeps, hvalue⟩ := hp mark trace hI
  unfold Rule.orElse
  split
  · rename_i trace₁ h
    rw [h] at hkeeps
    exact hq mark trace₁ hkeeps
  · exact ⟨hkeeps, hvalue⟩

theorem choice {ps : List (Rule α)} (h : ∀ p ∈ ps, Yields I ctx p Q) : Yields I ctx (Rule.choice ps) Q := by
  induction ps with
  | nil => exact mismatch
  | cons p ps ih =>
    cases ps with
    | nil => exact h p List.mem_cons_self
    | cons q qs => exact orElse (h p List.mem_cons_self) (ih fun r hr => h r (List.mem_cons_of_mem _ hr))

theorem commit {head : Rule α} {body : α → Rule β} {alternative : Rule β} (hhead : Yields I ctx head P)
    (hbody : ∀ a, P a → Yields I ctx (body a) R) (halternative : Yields I ctx alternative R) :
    Yields I ctx (Rule.commit head body alternative) R := by
  intro mark trace hI
  obtain ⟨hkeeps, hvalue⟩ := hhead mark trace hI
  unfold Rule.commit
  split
  · rename_i trace₁ h
    rw [h] at hkeeps
    exact halternative mark trace₁ hkeeps
  · rename_i e trace₁ _ h
    rw [h] at hkeeps
    exact ⟨hkeeps, fun _ _ hok => nomatch hok⟩
  · rename_i a mid trace₁ h
    rw [h] at hkeeps hvalue
    exact hbody a (hvalue a mid rfl) mid trace₁ hkeeps

theorem optional {p : Rule α} (h : Yields I ctx p Q) : Yields I ctx (Rule.optional p) fun o => ∀ a ∈ o, Q a := by
  refine orElse (h.bind fun a ha => pure ?_) (pure ?_)
  · intro b hb
    cases hb
    exact ha
  · intro b hb
    cases hb

theorem read : Yields I ctx (MonadReader.read : Rule Context) (· = ctx) := by
  intro mark trace hI
  refine ⟨hI, fun c after hok => ?_⟩
  cases hok
  rfl

theorem many {p : Rule α} (h : Yields I ctx p Q) : Yields I ctx (Rule.many p) fun as => ∀ a ∈ as, Q a := by
  have hupTo : ∀ fuel, Yields I ctx (Rule.manyUpTo p fuel) fun as => ∀ a ∈ as, Q a := by
    intro fuel
    induction fuel with
    | zero => exact pure fun a ha => absurd ha List.not_mem_nil
    | succ fuel ih =>
      unfold Rule.manyUpTo
      refine h.optional.bind fun o ho => ?_
      cases o with
      | none => exact pure fun a ha => absurd ha List.not_mem_nil
      | some b => exact ih.bind fun as has => pure (List.forall_mem_cons.mpr ⟨ho b rfl, has⟩)
  exact read.after fun _ => hupTo _

theorem many1 {p : Rule α} (h : Yields I ctx p Q) : Yields I ctx (Rule.many1 p) fun as => ∀ a ∈ as, Q a :=
  h.bind fun _ hb => h.many.bind fun _ has => pure (List.forall_mem_cons.mpr ⟨hb, has⟩)

/-- A step is taken any number of times. -/
theorem extend {step : α → Rule α} {a : α} (ha : Q a) (h : ∀ a, Q a → Yields I ctx (step a) Q) :
    Yields I ctx (Rule.extend step a) Q := by
  have hupTo : ∀ fuel a, Q a → Yields I ctx (Rule.extendUpTo step fuel a) Q := by
    intro fuel
    induction fuel with
    | zero => exact fun a ha => pure ha
    | succ fuel ih =>
      intro a ha
      unfold Rule.extendUpTo
      refine (h a ha).optional.bind fun o ho => ?_
      cases o with
      | none => exact pure ha
      | some b => exact ih b (ho b rfl)
  exact read.after fun _ => hupTo _ a ha

theorem matchesHere {p : Rule α} (h : Yields I ctx p Q) : Yields I ctx (Rule.matchesHere p) fun _ => True := by
  intro mark trace hI
  have hkeeps := (h mark trace hI).1
  unfold Rule.matchesHere
  refine ⟨?_, fun _ _ _ => trivial⟩
  split
  all_goals
    rename_i heq
    rw [heq] at hkeeps
    exact hkeeps

theorem ahead {p : Rule α} (h : Yields I ctx p Q) : Yields I ctx (Rule.ahead p) fun _ => True := by
  refine h.matchesHere.after fun here => ?_
  split
  · exact pure trivial
  · exact mismatch

theorem notAhead {p : Rule α} (h : Yields I ctx p Q) : Yields I ctx (Rule.notAhead p) fun _ => True := by
  refine h.matchesHere.after fun here => ?_
  split
  · exact mismatch
  · exact pure trivial

/-- Rules for mistakes do not match in the first round. -/
theorem diagnosis (hround : ctx.diagnosing = false) (alternatives : List (Rule (Rule α))) :
    Yields I ctx (Rule.diagnosis alternatives) Q := by
  refine read.bind fun c hc => ?_
  rw [hc, hround, if_neg Bool.false_ne_true]
  exact mismatch

/-! ### Tokens -/

section

variable [IgnoresReach I]

theorem peek : Yields I ctx Rule.peek fun t => t ∈ ctx.stream.tokens := by
  intro mark trace hI
  unfold Rule.peek
  split
  · rename_i t ht
    refine ⟨?_, fun u after hok => ?_⟩
    · change I (look mark trace)
      unfold look
      split
      · exact IgnoresReach.reached trace _ hI
      · exact hI
    · cases hok
      exact Array.mem_of_getElem? ht
  · split
    · exact ⟨hI, fun _ _ hok => nomatch hok⟩
    · exact ⟨hI, fun _ _ hok => nomatch hok⟩

theorem line : Yields I ctx Rule.line fun _ => True := peek.after fun _ => pure trivial

theorem satisfy (p : Token → Bool) :
    Yields I ctx (Rule.satisfy p) fun t => t ∈ ctx.stream.tokens ∧ p t = true := by
  refine peek.bind fun t ht => ?_
  split
  · rename_i hp
    have hmodify : Yields I ctx (modify (· + 1) : Rule Unit) fun _ => True :=
      fun _ _ hI => ⟨hI, fun _ _ _ => trivial⟩
    exact hmodify.after fun _ => pure ⟨ht, hp⟩
  · exact mismatch

theorem kind (k : TokenKind) : Yields I ctx (Rule.kind k) fun _ => True := (satisfy _).mono fun _ _ => trivial

theorem op (text : String) : Yields I ctx (Rule.op text) fun _ => True := (satisfy _).mono fun _ _ => trivial

theorem kw (text : String) : Yields I ctx (Rule.kw text) fun _ => True := (satisfy _).mono fun _ _ => trivial

theorem commaSeparated {p : Rule α} (h : Yields I ctx p Q) :
    Yields I ctx (Rule.commaSeparated p) fun as => ∀ a ∈ as, Q a := by
  have hmore : Yields I ctx (do let _ ← Rule.op ","; p) Q := (op ",").after fun _ => h
  exact h.bind fun _ hb => hmore.many.bind fun _ has => pure (List.forall_mem_cons.mpr ⟨hb, has⟩)

theorem commaList {p : Rule α} (h : Yields I ctx p Q) :
    Yields I ctx (Rule.commaList p) fun as => ∀ a ∈ as, Q a :=
  h.commaSeparated.bind fun _ has => (op ",").optional.after fun _ => pure has

/-- Names that are read are words. -/
theorem name (hwords : Worded ctx.stream.tokens) :
    Yields I ctx Rule.name fun t => Unmarked (Token.identifier t) :=
  (satisfy _).mono fun t ⟨ht, hkind⟩ => (hwords t ht).identifier (beq_iff_eq.mp hkind)

end

/-- Only the first round gives a value. -/
theorem readStream {nested : List Char → Nat → Except Nat Expr} {rule : Rule α} {stream : TokenStream} {a : α}
    (hrule : Yields I ⟨stream, false, nested⟩ rule Q) (hI : I (Trace.start 0))
    (h : Grammar.readStream nested rule stream = .ok a) : Q a := by
  unfold Grammar.readStream at h
  split at h
  · rename_i hrun
    cases h
    exact (hrule 0 _ hI).2 _ _ (congrArg Prod.fst hrun)
  · cases h
  · cases h
  · split at h <;> cases h

end Yields

end ModuleDocs.Source.Grammar
