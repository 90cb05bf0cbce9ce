import Mathlib.Data.List.Forall2
import ModuleDocs.Proofs.Faults
import ModuleDocs.Proofs.Source.Parameters
import ModuleDocs.Interface.Signature

/-!
# What signatures show

A signature shows every parameter once, in order, with its own annotation and default, and the markers between them say
what kind of parameter each is: read from left to right they give the kinds back. Only the texts of annotations and of
the result depend on how these are written.
-/

namespace ModuleDocs

open Source
open Compatibility (Unmarked)

/-! ### Related parameters -/

namespace Source.Params

variable {α β : Type}

/-- Parameters of the same shape, related one by one. -/
structure Related (R : α → β → Prop) (ps : Params α) (qs : Params β) : Prop where
  positionalOnly : List.Forall₂ R ps.positionalOnly qs.positionalOnly
  positional : List.Forall₂ R ps.positional qs.positional
  rest : Option.Rel R ps.rest qs.rest
  keywordOnly : List.Forall₂ R ps.keywordOnly qs.keywordOnly
  extra : Option.Rel R ps.extra qs.extra

theorem Related.each {R : α → β → Prop} {P : α → Prop} {Q : β → Prop} (hstep : ∀ a b, R a b → P a → Q b) {ps : Params α}
    {qs : Params β} (h : ps.Related R qs) (hps : ps.Each P) : qs.Each Q := by
  have hlist : ∀ {as : List α} {bs : List β}, List.Forall₂ R as bs → (∀ a ∈ as, P a) → ∀ b ∈ bs, Q b := by
    intro as bs hrel has b hb
    induction hrel with
    | nil => cases hb
    | cons hab _ ih =>
      rcases List.mem_cons.mp hb with rfl | hb
      · exact hstep _ _ hab (has _ List.mem_cons_self)
      · exact ih (fun a ha => has a (List.mem_cons_of_mem _ ha)) hb
  have hoption : ∀ {a : Option α} {b : Option β}, Option.Rel R a b → (∀ x ∈ a, P x) → ∀ y ∈ b, Q y := by
    intro a b hrel ha y hy
    cases hrel with
    | none => cases hy
    | some hab =>
      cases hy
      exact hstep _ _ hab (ha _ rfl)
  exact ⟨hlist h.positionalOnly hps.positionalOnly, hlist h.positional hps.positional, hoption h.rest hps.rest,
    hlist h.keywordOnly hps.keywordOnly, hoption h.extra hps.extra⟩

end Source.Params

namespace Signature

/-! ### Shown parameters -/

/-- A parameter as it is shown. -/
structure Shown where
  name : String
  type : Option String
  default : Option String

def Shown.text (q : Shown) : String :=
  match q.type, q.default with
  | some t, some d => q.name ++ ": " ++ t ++ " = " ++ d
  | some t, none => q.name ++ ": " ++ t
  | none, some d => q.name ++ "=" ++ d
  | none, none => q.name

/-- A parameter is shown under its name, with the texts of its own annotation and default. -/
structure ShownAs (write : Writer) (p : Param) (q : Shown) : Prop where
  name : q.name = p.name
  type : Option.Rel (fun e t => write e = .ok t) p.type q.type
  default : Option.Rel (fun e t => asWritten e = .ok t) p.default q.default

theorem param_eq_ok {write : Writer} {mark : String} {p : Param} {s : String} :
    param write mark p = .ok s ↔ ∃ q, ShownAs write p q ∧ s = mark ++ q.text := by
  obtain ⟨name, type, default⟩ := p
  constructor
  · intro h
    cases type with
    | none =>
      cases default with
      | none =>
        cases h
        exact ⟨⟨name, none, none⟩, ⟨rfl, .none, .none⟩, rfl⟩
      | some d =>
        obtain ⟨dt, hd, h⟩ := bind_eq_ok.mp h
        cases h
        refine ⟨⟨name, none, some dt⟩, ⟨rfl, .none, .some hd⟩, ?_⟩
        simp only [Shown.text, String.append_assoc]
    | some a =>
      cases default with
      | none =>
        obtain ⟨at_, ha, h⟩ := bind_eq_ok.mp h
        cases h
        refine ⟨⟨name, some at_, none⟩, ⟨rfl, .some ha, .none⟩, ?_⟩
        simp only [Shown.text, String.append_assoc]
      | some d =>
        obtain ⟨at_, ha, h⟩ := bind_eq_ok.mp h
        obtain ⟨dt, hd, h⟩ := bind_eq_ok.mp h
        cases h
        refine ⟨⟨name, some at_, some dt⟩, ⟨rfl, .some ha, .some hd⟩, ?_⟩
        simp only [Shown.text, String.append_assoc]
  · rintro ⟨⟨qname, qtype, qdefault⟩, ⟨hname, htype, hdefault⟩, rfl⟩
    cases hname
    cases htype with
    | none =>
      cases hdefault with
      | none => rfl
      | some hd => simp only [param, hd, Shown.text, String.append_assoc]; rfl
    | some ha =>
      cases hdefault with
      | none => simp only [param, ha, Shown.text, String.append_assoc]; rfl
      | some hd => simp only [param, ha, hd, Shown.text, String.append_assoc]; rfl

theorem mapM_eq_ok_iff {ε α β γ : Type} {f : α → Except ε β} {R : α → γ → Prop} {g : γ → β}
    (hf : ∀ a b, f a = .ok b ↔ ∃ c, R a c ∧ b = g c) {xs : List α} {ys : List β} :
    xs.mapM f = .ok ys ↔ ∃ cs, List.Forall₂ R xs cs ∧ ys = cs.map g := by
  induction xs generalizing ys with
  | nil =>
    constructor
    · intro h
      cases h
      exact ⟨[], .nil, rfl⟩
    · rintro ⟨cs, hcs, rfl⟩
      cases hcs
      rfl
  | cons x xs ih =>
    rw [List.mapM_cons]
    constructor
    · intro h
      obtain ⟨y, hy, h⟩ := bind_eq_ok.mp h
      obtain ⟨rest, hrest, h⟩ := bind_eq_ok.mp h
      cases h
      obtain ⟨c, hc, rfl⟩ := (hf x y).mp hy
      obtain ⟨cs, hcs, rfl⟩ := ih.mp hrest
      exact ⟨c :: cs, .cons hc hcs, rfl⟩
    · rintro ⟨cs, hcs, rfl⟩
      cases hcs with
      | cons hc hcs =>
        refine bind_eq_ok.mpr ⟨_, (hf x _).mpr ⟨_, hc, rfl⟩, ?_⟩
        exact bind_eq_ok.mpr ⟨_, ih.mpr ⟨_, hcs, rfl⟩, rfl⟩

theorem isEmpty_eq_of_forall₂ {α β : Type} {R : α → β → Prop} {as : List α} {bs : List β} (h : List.Forall₂ R as bs) :
    as.isEmpty = bs.isEmpty := by
  cases h with
  | nil => rfl
  | cons _ _ => rfl

theorem isSome_eq_of_rel {α β : Type} {R : α → β → Prop} {a : Option α} {b : Option β} (h : Option.Rel R a b) :
    a.isSome = b.isSome := by
  cases h with
  | none => rfl
  | some _ => rfl

theorem forall₂_toList {α β : Type} {R : α → β → Prop} {o : Option α} {ys : List β} :
    List.Forall₂ R o.toList ys ↔ ∃ o', Option.Rel R o o' ∧ ys = o'.toList := by
  cases o with
  | none =>
    rw [Option.toList_none, List.forall₂_nil_left_iff]
    constructor
    · rintro rfl
      exact ⟨none, .none, rfl⟩
    · rintro ⟨o', ho', rfl⟩
      cases ho'
      rfl
  | some a =>
    rw [Option.toList_some]
    constructor
    · intro h
      cases h with
      | cons hb hnil =>
        cases hnil
        exact ⟨some _, .some hb, rfl⟩
    · rintro ⟨o', ho', rfl⟩
      cases ho' with
      | some hb => exact .cons hb .nil

/-- What stands between the positional and the keyword-only parameters: the parameter that takes the remaining
positional arguments, or a star if there are keyword-only ones. -/
def middle (rest : Option Shown) (keywordOnly : List Shown) : List String :=
  match rest with
  | some q => ["*" ++ q.text]
  | none => if keywordOnly.isEmpty then [] else ["*"]

def layout (qs : Params Shown) : List String :=
  qs.positionalOnly.map Shown.text ++ (if qs.positionalOnly.isEmpty then [] else ["/"]) ++
    qs.positional.map Shown.text ++ middle qs.rest qs.keywordOnly ++ qs.keywordOnly.map Shown.text ++
    qs.extra.toList.map fun q => "**" ++ q.text

/-! ### Defaults -/

theorem map_some_filterMap {α β : Type} {f : α → Option β} {xs : List α} (h : ∀ a ∈ xs, (f a).isSome = true) :
    (xs.filterMap f).map some = xs.map f := by
  induction xs with
  | nil => rfl
  | cons a as ih =>
    obtain ⟨b, hb⟩ := Option.isSome_iff_exists.mp (h a List.mem_cons_self)
    rw [List.filterMap_cons_some hb, List.map_cons, List.map_cons, hb, ih fun a ha => h a (List.mem_cons_of_mem _ ha)]

/-- The default that the index of a positional parameter leads to is its own. -/
theorem defaultAt_arguments {ps : Params Param} (h : ps.Legal) {i : Nat} {p : Param}
    (hp : (ps.positionalOnly ++ ps.positional)[i]? = some p) :
    defaultAt ps.arguments.defaults (ps.positionalOnly ++ ps.positional).length i = p.default := by
  obtain ⟨bare, filled, hsplit, hbare, hfilled⟩ := h.stepped
  have hdefaults : ps.arguments.defaults = (ps.positionalOnly ++ ps.positional).filterMap Param.default := rfl
  rw [hdefaults]
  rw [hsplit] at hp ⊢
  have hnone : bare.filterMap Param.default = [] := List.filterMap_eq_nil_iff.mpr hbare
  have hsome := map_some_filterMap hfilled
  have hlength : (filled.filterMap Param.default).length = filled.length := by
    simpa using congrArg List.length hsome
  rw [List.filterMap_append, hnone, List.nil_append, defaultAt, hlength, List.length_append, Nat.add_sub_cancel]
  by_cases hi : bare.length ≤ i
  · rw [List.getElem?_append_right hi] at hp
    have hat := congrArg (fun l => l[i - bare.length]?) hsome
    simp only [List.getElem?_map, hp, Option.map_some] at hat
    obtain ⟨d, hd, hdefault⟩ := Option.map_eq_some_iff.mp hat
    rw [if_pos hi, hd, hdefault]
  · rw [List.getElem?_append_left (Nat.lt_of_not_le hi)] at hp
    rw [if_neg hi]
    exact (hbare p (List.mem_of_getElem? hp)).symm

theorem zip_keywordDefaults (ps : Params Param) : ps.arguments.keywordOnly.zip ps.arguments.keywordDefaults =
    ps.keywordOnly.map fun p => (p.argument, p.default) := List.zip_map'

/-! ### Parameters kind by kind -/

theorem mapM_congr_mem {ε α β : Type} {f g : α → Except ε β} {xs : List α} (h : ∀ a ∈ xs, f a = g a) :
    xs.mapM f = xs.mapM g := by
  induction xs with
  | nil => rfl
  | cons x xs ih =>
    rw [List.mapM_cons, List.mapM_cons, h x List.mem_cons_self, ih fun a ha => h a (List.mem_cons_of_mem _ ha)]

theorem length_of_mapM {ε α β : Type} {f : α → Except ε β} {xs : List α} {ys : List β} (h : xs.mapM f = .ok ys) :
    ys.length = xs.length := by
  induction xs generalizing ys with
  | nil =>
    cases h
    rfl
  | cons x xs ih =>
    rw [List.mapM_cons] at h
    obtain ⟨y, _, h⟩ := bind_eq_ok.mp h
    obtain ⟨rest, hrest, h⟩ := bind_eq_ok.mp h
    cases h
    rw [List.length_cons, List.length_cons, ih hrest]

/-- What is done with every text by its index can be done afterwards. -/
theorem mapM_zipIdx {ε α β γ : Type} (f : α → Except ε β) (g : Nat → β → γ) (xs : List α) (start : Nat) :
    ((xs.zipIdx start).mapM fun x => f x.1 >>= fun b => pure (g x.2 b)) =
      xs.mapM f >>= fun bs => pure ((bs.zipIdx start).map fun y => g y.2 y.1) := by
  induction xs generalizing start with
  | nil => rfl
  | cons x xs ih =>
    rw [List.zipIdx_cons, List.mapM_cons, List.mapM_cons, ih]
    simp only [bind_assoc, pure_bind, List.zipIdx_cons, List.map_cons]

/-- A text with a slash after it if it is the last of the positional-only ones, of which there are `count`. -/
def marked (count index : Nat) (text : String) : List String :=
  if !(count == 0) && index == count - 1 then [text, "/"] else [text]

theorem marked_of_ne {count index : Nat} (h : index + 1 ≠ count) (text : String) :
    marked count index text = [text] := by
  unfold marked
  rw [if_neg]
  simp only [Bool.and_eq_true, Bool.not_eq_true', beq_eq_false_iff_ne, beq_iff_eq]
  omega

theorem flatten_marked_plain {count : Nat} (start : Nat) (texts : List String)
    (h : ∀ index, start ≤ index → index < start + texts.length → index + 1 ≠ count) :
    ((texts.zipIdx start).map fun y => marked count y.2 y.1).flatten = texts := by
  induction texts generalizing start with
  | nil => rfl
  | cons t texts ih =>
    have htail := ih (start + 1) fun index hstart hindex =>
      h index (by omega) (by simp only [List.length_cons]; omega)
    rw [List.zipIdx_cons, List.map_cons, List.flatten_cons, htail,
      marked_of_ne (h start (Nat.le_refl _) (by simp only [List.length_cons]; omega))]
    rfl

theorem flatten_marked {only positional : List String} :
    (((only ++ positional).zipIdx).map fun y => marked only.length y.2 y.1).flatten =
      only ++ (if only.isEmpty then [] else ["/"]) ++ positional := by
  have hpositional := flatten_marked_plain (0 + only.length) positional fun index hstart _ =>
    (by omega : index + 1 ≠ only.length)
  rw [List.zipIdx_append, List.map_append, List.flatten_append, hpositional]
  congr 1
  rcases List.eq_nil_or_concat only with rfl | ⟨before, last, rfl⟩
  · rfl
  · rw [List.concat_eq_append]
    have hbefore := flatten_marked_plain 0 before fun index _ hindex =>
      (by simp only [List.length_append, List.length_singleton]; omega : index + 1 ≠ (before ++ [last]).length)
    rw [List.zipIdx_append, List.map_append, List.flatten_append, hbefore]
    simp [marked]

section

variable {write : Writer} {ps : Params Param}

/-- The parameters with their own defaults, kind by kind. -/
def inTurn (write : Writer) (ps : Params Param) : Except AnnotationFault (List String) := do
  let only ← ps.positionalOnly.mapM (param write "")
  let positional ← ps.positional.mapM (param write "")
  let star ← middleParts write ps.arguments
  let keywordOnly ← ps.keywordOnly.mapM (param write "")
  let extra ← ps.extra.toList.mapM (param write "**")
  return only ++ (if only.isEmpty then [] else ["/"]) ++ positional ++ star ++ keywordOnly ++ extra

theorem positionalParts_arguments (h : ps.Legal) : positionalParts write ps.arguments = do
    let only ← ps.positionalOnly.mapM (param write "")
    let positional ← ps.positional.mapM (param write "")
    return only ++ (if only.isEmpty then [] else ["/"]) ++ positional := by
  have hrow : ps.arguments.positionalOnly ++ ps.arguments.positional =
      (ps.positionalOnly ++ ps.positional).map Param.argument := List.map_append.symm
  have hempty : ps.arguments.positionalOnly.isEmpty = (ps.positionalOnly.length == 0) := by
    cases hps : ps.positionalOnly <;> simp [Params.arguments, hps]
  have hlength : ps.arguments.positionalOnly.length = ps.positionalOnly.length := List.length_map _
  -- Each parameter gets its own default, and the slash depends on the index alone.
  have hown : ∀ x ∈ (ps.positionalOnly ++ ps.positional).zipIdx,
      x.1.argument.withDefault (defaultAt ps.arguments.defaults (ps.positionalOnly ++ ps.positional).length x.2) =
        x.1 := by
    intro x hx
    rw [defaultAt_arguments h (List.mem_zipIdx_iff_getElem?.mp hx)]
    rfl
  unfold positionalParts
  dsimp only
  rw [hrow, List.zipIdx_map, List.mapM_map, List.length_map]
  rw [mapM_congr_mem (g := fun x => param write "" x.1 >>= fun t => pure (marked ps.positionalOnly.length x.2 t))]
  · rw [mapM_zipIdx, List.mapM_append]
    simp only [bind_assoc, pure_bind]
    cases honly : ps.positionalOnly.mapM (param write "") with
    | error e => rfl
    | ok only =>
      rw [← length_of_mapM honly]
      simp only [bind, Except.bind, pure, Except.pure, flatten_marked]
  · intro x hx
    simp only [Function.comp_apply, Prod.map_fst, Prod.map_snd, id_eq, hown x hx, hempty, hlength]
    rfl

/-- The lists of the syntax tree show every parameter with its own default. -/
theorem parts_arguments (h : ps.Legal) : parts write ps.arguments = inTurn write ps := by
  have hextra : (ps.arguments.extra.toList.mapM fun arg => param write "**" (arg.withDefault none)) =
      ps.extra.toList.mapM (param write "**") := by
    have hlist : ps.arguments.extra.toList = ps.extra.toList.map Param.argument := by
      cases hps : ps.extra <;> simp [Params.arguments, hps]
    rw [hlist, List.mapM_map]
    refine mapM_congr_mem fun p hp => ?_
    have hnone := h.extra p (Option.mem_toList.mp hp)
    simp only [Function.comp_apply, Argument.withDefault, Param.argument, ← hnone]
  have hkeyword : ∀ paired : Argument × Option Expr → Except AnnotationFault String,
      (∀ p : Param, paired (p.argument, p.default) = param write "" p) →
      (ps.arguments.keywordOnly.zip ps.arguments.keywordDefaults).mapM paired =
        ps.keywordOnly.mapM (param write "") := by
    intro paired hshow
    rw [zip_keywordDefaults, List.mapM_map]
    exact mapM_congr_mem fun p _ => hshow p
  unfold parts inTurn
  rw [positionalParts_arguments h, hextra, hkeyword _ fun _ => rfl]
  simp only [bind_assoc, pure_bind]

theorem middleParts_eq_ok (h : ∀ p ∈ ps.rest, p.default = none) {ks : List Shown}
    (hks : List.Forall₂ (ShownAs write) ps.keywordOnly ks) {texts : List String} :
    middleParts write ps.arguments = .ok texts ↔
      ∃ q, Option.Rel (ShownAs write) ps.rest q ∧ texts = middle q ks := by
  have hempty : ps.arguments.keywordOnly.isEmpty = ks.isEmpty := by
    rw [← isEmpty_eq_of_forall₂ hks]
    exact List.isEmpty_map
  unfold middleParts
  have hargument : ps.arguments.rest = ps.rest.map Param.argument := rfl
  rw [hargument]
  cases hrest : ps.rest with
  | none =>
    constructor
    · intro ht
      cases ht
      exact ⟨none, .none, by rw [middle, hempty]⟩
    · rintro ⟨q, hq, rfl⟩
      cases hq
      simp only [Option.map_none, middle, hempty]
      rfl
  | some p =>
    have hparam : p.argument.withDefault none = p := by
      rw [← h p hrest]
      rfl
    rw [Option.map_some]
    dsimp only
    rw [hparam]
    constructor
    · intro h
      obtain ⟨t, ht, heq⟩ := bind_eq_ok.mp h
      cases heq
      obtain ⟨q, hq, rfl⟩ := param_eq_ok.mp ht
      exact ⟨some q, .some hq, rfl⟩
    · rintro ⟨q, hq, rfl⟩
      cases hq with
      | some hq => exact bind_eq_ok.mpr ⟨_, param_eq_ok.mpr ⟨_, hq, rfl⟩, rfl⟩

theorem param_plain_eq_ok (p : Param) (s : String) :
    param write "" p = .ok s ↔ ∃ q, ShownAs write p q ∧ s = q.text := by
  rw [param_eq_ok]
  simp only [String.empty_append]

/-- The parts exist if and only if all annotations and defaults have texts, and show these. -/
theorem parts_eq_ok (h : ps.Legal) {texts : List String} :
    parts write ps.arguments = .ok texts ↔ ∃ qs, ps.Related (ShownAs write) qs ∧ texts = layout qs := by
  rw [parts_arguments h]
  constructor
  · intro ht
    obtain ⟨only, honly, ht⟩ := bind_eq_ok.mp ht
    obtain ⟨positional, hpositional, ht⟩ := bind_eq_ok.mp ht
    obtain ⟨star, hstar, ht⟩ := bind_eq_ok.mp ht
    obtain ⟨keywordOnly, hkeywordOnly, ht⟩ := bind_eq_ok.mp ht
    obtain ⟨extra, hextra, ht⟩ := bind_eq_ok.mp ht
    cases ht
    obtain ⟨os, hos, rfl⟩ := (mapM_eq_ok_iff param_plain_eq_ok).mp honly
    obtain ⟨qs, hqs, rfl⟩ := (mapM_eq_ok_iff param_plain_eq_ok).mp hpositional
    obtain ⟨ks, hks, rfl⟩ := (mapM_eq_ok_iff param_plain_eq_ok).mp hkeywordOnly
    obtain ⟨q, hq, rfl⟩ := (middleParts_eq_ok h.rest hks).mp hstar
    obtain ⟨es, hes, rfl⟩ := (mapM_eq_ok_iff fun _ _ => param_eq_ok).mp hextra
    obtain ⟨e, he, rfl⟩ := forall₂_toList.mp hes
    refine ⟨⟨os, qs, q, ks, e⟩, ⟨hos, hqs, hq, hks, he⟩, ?_⟩
    simp only [layout, List.isEmpty_map]
  · rintro ⟨qs, hqs, rfl⟩
    have hextra : ps.extra.toList.mapM (param write "**") = .ok (qs.extra.toList.map fun q => "**" ++ q.text) :=
      (mapM_eq_ok_iff fun _ _ => param_eq_ok).mpr ⟨_, forall₂_toList.mpr ⟨_, hqs.extra, rfl⟩, rfl⟩
    refine bind_eq_ok.mpr ⟨_, (mapM_eq_ok_iff param_plain_eq_ok).mpr ⟨_, hqs.positionalOnly, rfl⟩, ?_⟩
    refine bind_eq_ok.mpr ⟨_, (mapM_eq_ok_iff param_plain_eq_ok).mpr ⟨_, hqs.positional, rfl⟩, ?_⟩
    refine bind_eq_ok.mpr ⟨_, (middleParts_eq_ok h.rest hqs.keywordOnly).mpr ⟨_, hqs.rest, rfl⟩, ?_⟩
    refine bind_eq_ok.mpr ⟨_, (mapM_eq_ok_iff param_plain_eq_ok).mpr ⟨_, hqs.keywordOnly, rfl⟩, ?_⟩
    refine bind_eq_ok.mpr ⟨_, hextra, ?_⟩
    simp only [layout, List.isEmpty_map]
    rfl

end

/-! ### Reading the parts back -/

/-- The kinds of parameters. -/
inductive Kind where
  | positionalOnly | positional | rest | keywordOnly | extra

/-- What a part can be: a marker, or a parameter with the stars before it. -/
inductive Part where
  | slash
  | star
  | plain (text : String)
  | starred (text : String)
  | doubleStarred (text : String)

/-- What a part is, by its first characters. -/
def Part.ofText (s : String) : Part :=
  match s.toList with
  | ['/'] => .slash
  | ['*'] => .star
  | '*' :: '*' :: cs => .doubleStarred (String.ofList cs)
  | '*' :: cs => .starred (String.ofList cs)
  | _ => .plain s

/-- How far the reading of parts has come: nothing but plain parts, a slash after some of them, a star that wants a
keyword-only parameter, keyword-only parameters, and the end. -/
inductive Phase where
  | plain | slashed | starred | keywords | closed

/-- The parameters that have been read. -/
structure Reading where
  params : List (Kind × String)
  phase : Phase

/-- Reads one part. A slash makes the parameters before it positional-only; a star, alone or before a parameter, makes
those after it keyword-only; two stars end the list. -/
def Reading.step (r : Reading) : Part → Option Reading
  | .slash =>
    match r.phase, r.params with
    | .plain, _ :: _ => some ⟨r.params.map fun p => (.positionalOnly, p.2), .slashed⟩
    | _, _ => none
  | .star =>
    match r.phase with
    | .plain | .slashed => some ⟨r.params, .starred⟩
    | _ => none
  | .plain t =>
    match r.phase with
    | .plain | .slashed => some ⟨r.params ++ [(.positional, t)], r.phase⟩
    | .starred | .keywords => some ⟨r.params ++ [(.keywordOnly, t)], .keywords⟩
    | .closed => none
  | .starred t =>
    match r.phase with
    | .plain | .slashed => some ⟨r.params ++ [(.rest, t)], .keywords⟩
    | _ => none
  | .doubleStarred t =>
    match r.phase with
    | .plain | .slashed | .keywords => some ⟨r.params ++ [(.extra, t)], .closed⟩
    | _ => none

/-- Reads parts from left to right. -/
def Reading.run (r : Reading) (texts : List String) : Option Reading :=
  texts.foldlM (fun r s => r.step (.ofText s)) r

/-- The parameters of a list of parts with their kinds, unless markers are out of place. -/
def readKinds (texts : List String) : Option (List (Kind × String)) := do
  let r ← Reading.run ⟨[], .plain⟩ texts
  match r.phase with
  | .starred => none
  | _ => some r.params

def Shown.ofKind (kind : Kind) (q : Shown) : Kind × String := (kind, q.text)

/-- Parameters in order, with their kinds and texts. -/
def labelled (qs : Params Shown) : List (Kind × String) :=
  qs.positionalOnly.map (Shown.ofKind .positionalOnly) ++ qs.positional.map (Shown.ofKind .positional) ++
    qs.rest.toList.map (Shown.ofKind .rest) ++ qs.keywordOnly.map (Shown.ofKind .keywordOnly) ++
    qs.extra.toList.map (Shown.ofKind .extra)

section

variable {q : Shown}

theorem text_toList (hq : Unmarked q.name) : ∃ c cs, q.text.toList = c :: cs ∧ c ≠ '*' ∧ c ≠ '/' := by
  obtain ⟨c, cs, hname⟩ := List.exists_cons_of_ne_nil hq.ne_nil
  have htext : ∃ suffix, q.text = q.name ++ suffix := by
    unfold Shown.text
    simp only [String.append_assoc]
    split
    · exact ⟨_, rfl⟩
    · exact ⟨_, rfl⟩
    · exact ⟨_, rfl⟩
    · exact ⟨"", String.append_empty.symm⟩
  obtain ⟨suffix, hsuffix⟩ := htext
  refine ⟨c, cs ++ suffix.toList, ?_, hq.unmarked c (hname ▸ List.mem_cons_self)⟩
  rw [hsuffix, String.toList_append, hname, List.cons_append]

theorem ofText_text (hq : Unmarked q.name) : Part.ofText q.text = .plain q.text := by
  obtain ⟨c, cs, htext, hstar, hslash⟩ := text_toList hq
  unfold Part.ofText
  rw [htext]
  split
  · rename_i h
    exact absurd (List.cons.inj h).1 hslash
  · rename_i h
    exact absurd (List.cons.inj h).1 hstar
  · rename_i h
    exact absurd (List.cons.inj h).1 hstar
  · rename_i h
    exact absurd (List.cons.inj h).1 hstar
  · rfl

theorem ofText_starred (hq : Unmarked q.name) : Part.ofText ("*" ++ q.text) = .starred q.text := by
  obtain ⟨c, cs, htext, hstar, hslash⟩ := text_toList hq
  have hlist : ("*" ++ q.text).toList = '*' :: c :: cs := by
    rw [String.toList_append, htext]
    rfl
  unfold Part.ofText
  rw [hlist]
  split
  · rename_i h
    cases h
  · rename_i h
    cases h
  · rename_i h
    cases h
    exact absurd rfl hstar
  · rename_i h
    cases h
    rw [← htext, String.ofList_toList]
  · rename_i h
    exact (h _ rfl).elim

theorem ofText_doubleStarred (s : String) : Part.ofText ("**" ++ s) = .doubleStarred s := by
  have hlist : ("**" ++ s).toList = '*' :: '*' :: s.toList := by
    rw [String.toList_append]
    rfl
  unfold Part.ofText
  rw [hlist]
  simp only [String.ofList_toList]

end

theorem run_append {r r' : Reading} {texts : List String} (h : r.run texts = some r') (more : List String) :
    r.run (texts ++ more) = r'.run more := by
  unfold Reading.run at h ⊢
  rw [List.foldlM_append, h]
  rfl

theorem run_singleton (r : Reading) (s : String) : r.run [s] = r.step (.ofText s) := by
  rw [Reading.run, List.foldlM_cons]
  exact bind_pure _

/-- In a phase that goes on after a plain part, plain parts are parameters of one kind. -/
theorem run_plain {kind : Kind} {phase : Phase}
    (hphase : ∀ params t, Reading.step ⟨params, phase⟩ (.plain t) = some ⟨params ++ [(kind, t)], phase⟩)
    {qs : List Shown} (hqs : ∀ q ∈ qs, Unmarked q.name) (params : List (Kind × String)) :
    Reading.run ⟨params, phase⟩ (qs.map Shown.text) = some ⟨params ++ qs.map (Shown.ofKind kind), phase⟩ := by
  induction qs generalizing params with
  | nil =>
    rw [List.map_nil, List.map_nil, List.append_nil]
    rfl
  | cons q qs ih =>
    have hhead : Reading.run ⟨params, phase⟩ [q.text] = some ⟨params ++ [q.ofKind kind], phase⟩ := by
      rw [run_singleton, ofText_text (hqs q List.mem_cons_self), hphase]
      rfl
    have htail := ih (fun q hq => hqs q (List.mem_cons_of_mem _ hq)) (params ++ [q.ofKind kind])
    rw [List.map_cons, ← List.singleton_append, run_append hhead, htail, List.append_assoc, List.singleton_append,
      List.map_cons]

theorem run_positional {qs : List Shown} (hqs : ∀ q ∈ qs, Unmarked q.name) (params : List (Kind × String))
    {phase : Phase} (hphase : phase = .plain ∨ phase = .slashed) :
    Reading.run ⟨params, phase⟩ (qs.map Shown.text) = some ⟨params ++ qs.map (Shown.ofKind .positional), phase⟩ := by
  rcases hphase with rfl | rfl
  · exact run_plain (fun _ _ => rfl) hqs params
  · exact run_plain (fun _ _ => rfl) hqs params

theorem run_positionalOnly {qs : List Shown} (hqs : ∀ q ∈ qs, Unmarked q.name) :
    ∃ phase, (phase = .plain ∨ phase = .slashed) ∧
      Reading.run ⟨[], .plain⟩ (qs.map Shown.text ++ if qs.isEmpty then [] else ["/"]) =
        some ⟨qs.map (Shown.ofKind .positionalOnly), phase⟩ := by
  cases qs with
  | nil => exact ⟨.plain, Or.inl rfl, rfl⟩
  | cons q qs =>
    refine ⟨.slashed, Or.inr rfl, ?_⟩
    rw [run_append (run_positional hqs [] (Or.inl rfl))]
    change some (⟨_, .slashed⟩ : Reading) = _
    simp [Shown.ofKind]

theorem run_middle {rest : Option Shown} {ks : List Shown} (hrest : ∀ q ∈ rest, Unmarked q.name)
    (hks : ∀ q ∈ ks, Unmarked q.name) (params : List (Kind × String)) {phase : Phase}
    (hphase : phase = .plain ∨ phase = .slashed) :
    ∃ phase', (phase' = .plain ∨ phase' = .slashed ∨ phase' = .keywords) ∧
      Reading.run ⟨params, phase⟩ (middle rest ks ++ ks.map Shown.text) =
        some ⟨params ++ rest.toList.map (Shown.ofKind .rest) ++ ks.map (Shown.ofKind .keywordOnly), phase'⟩ := by
  have hkeywords : ∀ {ls : List Shown} params, (∀ q ∈ ls, Unmarked q.name) →
      Reading.run ⟨params, .keywords⟩ (ls.map Shown.text) =
        some ⟨params ++ ls.map (Shown.ofKind .keywordOnly), .keywords⟩ :=
    fun params hls => run_plain (fun _ _ => rfl) hls params
  cases rest with
  | some q =>
    have hstar : Reading.run ⟨params, phase⟩ ["*" ++ q.text] = some ⟨params ++ [q.ofKind .rest], .keywords⟩ := by
      rw [run_singleton, ofText_starred (hrest q rfl)]
      rcases hphase with rfl | rfl <;> rfl
    refine ⟨.keywords, Or.inr (Or.inr rfl), ?_⟩
    rw [middle, run_append hstar, hkeywords _ hks, Option.toList_some, List.map_singleton]
  | none =>
    cases ks with
    | nil =>
      refine ⟨phase, hphase.imp_right Or.inl, ?_⟩
      simp only [Option.toList_none, List.map_nil, List.append_nil]
      rfl
    | cons k ks =>
      -- The star alone wants a parameter after it; from the first one on the phase stays.
      have hstar : Reading.run ⟨params, phase⟩ ["*", k.text] = some ⟨params ++ [k.ofKind .keywordOnly], .keywords⟩ := by
        have hfirst : Reading.run ⟨params, phase⟩ ["*"] = some ⟨params, .starred⟩ := by
          rcases hphase with rfl | rfl <;> rfl
        rw [← List.singleton_append, run_append hfirst, run_singleton, ofText_text (hks k List.mem_cons_self)]
        rfl
      refine ⟨.keywords, Or.inr (Or.inr rfl), ?_⟩
      change Reading.run _ (["*", k.text] ++ ks.map Shown.text) = _
      rw [run_append hstar, hkeywords _ fun q hq => hks q (List.mem_cons_of_mem _ hq), Option.toList_none, List.map_nil,
        List.append_nil, List.append_assoc, List.singleton_append, List.map_cons]

/-- Reading the parts gives every parameter back, once and in order, with its kind. -/
theorem readKinds_layout {qs : Params Shown} (hqs : qs.Each fun q => Unmarked q.name) :
    readKinds (layout qs) = some (labelled qs) := by
  obtain ⟨p₁, hp₁, hfirst⟩ := run_positionalOnly hqs.positionalOnly
  have hsecond := (run_append hfirst (qs.positional.map Shown.text)).trans (run_positional hqs.positional _ hp₁)
  obtain ⟨p₂, hp₂, hmiddle⟩ := run_middle hqs.rest hqs.keywordOnly
    (qs.positionalOnly.map (Shown.ofKind .positionalOnly) ++ qs.positional.map (Shown.ofKind .positional)) hp₁
  have hthird := (run_append hsecond (middle qs.rest qs.keywordOnly ++ qs.keywordOnly.map Shown.text)).trans hmiddle
  unfold readKinds layout labelled
  rw [List.append_assoc _ (middle _ _), run_append hthird]
  cases qs.extra with
  | none =>
    rw [Option.toList_none, List.map_nil, List.map_nil, List.append_nil]
    rcases hp₂ with rfl | rfl | rfl <;> rfl
  | some q =>
    rw [Option.toList_some, List.map_singleton, List.map_singleton, run_singleton, ofText_doubleStarred]
    rcases hp₂ with rfl | rfl | rfl <;> rfl

example : readKinds ["a", "b: int = 0", "/", "c", "*", "d", "**e"] =
    some [(.positionalOnly, "a"), (.positionalOnly, "b: int = 0"), (.positional, "c"), (.keywordOnly, "d"),
      (.extra, "e")] := by
  cbv

example : readKinds ["a", "*", "**b"] = none := by cbv

def Part.isParam : Part → Bool
  | .slash | .star => false
  | .plain _ | .starred _ | .doubleStarred _ => true

theorem count_marker {marker : String} (hmarker : (Part.ofText marker).isParam = false) {qs : Params Shown}
    (hqs : qs.Each fun q => Unmarked q.name) :
    (layout qs).count marker = (if qs.positionalOnly.isEmpty then [] else ["/"]).count marker +
      (if qs.rest.isSome || qs.keywordOnly.isEmpty then [] else ["*"]).count marker := by
  have hparams : ∀ {texts : List String}, (∀ s ∈ texts, (Part.ofText s).isParam = true) → texts.count marker = 0 := by
    intro texts htexts
    refine List.count_eq_zero.mpr fun hmem => ?_
    have hparam := htexts marker hmem
    rw [hmarker] at hparam
    cases hparam
  have hplain : ∀ {ls : List Shown}, (∀ q ∈ ls, Unmarked q.name) → (ls.map Shown.text).count marker = 0 := by
    intro ls hls
    refine hparams fun s hs => ?_
    obtain ⟨q, hq, rfl⟩ := List.mem_map.mp hs
    rw [ofText_text (hls q hq)]
    rfl
  have hextra : (qs.extra.toList.map fun q => "**" ++ q.text).count marker = 0 := by
    refine hparams fun s hs => ?_
    obtain ⟨q, _, rfl⟩ := List.mem_map.mp hs
    rw [ofText_doubleStarred]
    rfl
  have hmiddle : (middle qs.rest qs.keywordOnly).count marker =
      (if qs.rest.isSome || qs.keywordOnly.isEmpty then [] else ["*"]).count marker := by
    cases hrest : qs.rest with
    | none => simp [middle]
    | some q =>
      refine hparams fun s hs => ?_
      rw [List.mem_singleton.mp hs, ofText_starred (hqs.rest q hrest)]
      rfl
  simp only [layout, List.count_append, hplain hqs.positionalOnly, hplain hqs.positional, hplain hqs.keywordOnly,
    hextra, hmiddle, Nat.zero_add, Nat.add_zero]

/-! ### Signatures -/

/-- A function as it is shown. -/
structure ShownFunction where
  isAsync : Bool
  params : Params Shown
  returns : Option String

namespace ShownFunction

def text (g : ShownFunction) : String :=
  (if g.isAsync then "async " else "") ++ "(" ++ ", ".intercalate (layout g.params) ++ ")" ++
    match g.returns with
    | some t => " -> " ++ t
    | none => ""

/-- What is left when the texts of annotations and of the result are taken out. -/
def withoutTypes (g : ShownFunction) : ShownFunction where
  isAsync := g.isAsync
  params := g.params.map fun q => { q with type := q.type.map fun _ => "" }
  returns := g.returns.map fun _ => ""

end ShownFunction

/-- A function is shown with its own parameters and result. -/
structure FunctionShownAs (write : Writer) (f : FunctionHead) (g : ShownFunction) : Prop where
  isAsync : g.isAsync = f.isAsync
  params : f.params.Related (ShownAs write) g.params
  returns : Option.Rel (fun e t => write e = .ok t) f.returns g.returns

theorem ofFunction_eq_ok {write : Writer} {f : FunctionHead} (hlegal : f.params.Legal) {s : String} :
    ofFunction write f = .ok s ↔ ∃ g, FunctionShownAs write f g ∧ s = g.text := by
  obtain ⟨name, isAsync, params, returns⟩ := f
  constructor
  · intro h
    obtain ⟨texts, htexts, h⟩ := bind_eq_ok.mp h
    obtain ⟨qs, hqs, rfl⟩ := (parts_eq_ok hlegal).mp htexts
    cases returns with
    | none =>
      cases h
      exact ⟨⟨isAsync, qs, none⟩, ⟨rfl, hqs, .none⟩, rfl⟩
    | some e =>
      obtain ⟨t, ht, h⟩ := bind_eq_ok.mp h
      cases h
      exact ⟨⟨isAsync, qs, some t⟩, ⟨rfl, hqs, .some ht⟩, rfl⟩
  · rintro ⟨⟨_, qs, result⟩, ⟨hasync, hqs, hresult⟩, rfl⟩
    cases hasync
    refine bind_eq_ok.mpr ⟨_, (parts_eq_ok hlegal).mpr ⟨qs, hqs, rfl⟩, ?_⟩
    cases hresult with
    | none => rfl
    | some ht => exact bind_eq_ok.mpr ⟨_, ht, rfl⟩

section

variable {α β γ δ : Type} {R : α → β → Prop} {S : α → γ → Prop} {f : β → δ} {g : γ → δ}

theorem map_eq_map_of_rel (h : ∀ a b c, R a b → S a c → f b = g c) {a : Option α} {b : Option β} {c : Option γ}
    (hb : Option.Rel R a b) (hc : Option.Rel S a c) : b.map f = c.map g := by
  cases hb with
  | none =>
    cases hc
    rfl
  | some hb =>
    cases hc with
    | some hc => exact congrArg some (h _ _ _ hb hc)

theorem map_eq_map_of_forall₂ (h : ∀ a b c, R a b → S a c → f b = g c) {as : List α} {bs : List β} {cs : List γ}
    (hbs : List.Forall₂ R as bs) (hcs : List.Forall₂ S as cs) : bs.map f = cs.map g := by
  induction hbs generalizing cs with
  | nil =>
    cases hcs
    rfl
  | cons hb _ ih =>
    cases hcs with
    | cons hc hcs => rw [List.map_cons, List.map_cons, h _ _ _ hb hc, ih hcs]

end

/-- Only annotations and results depend on how these are written. -/
theorem withoutTypes_eq {write write' : Writer} {f : FunctionHead} {g g' : ShownFunction}
    (h : FunctionShownAs write f g) (h' : FunctionShownAs write' f g') : g.withoutTypes = g'.withoutTypes := by
  have hblank : ∀ (e : Expr) (t t' : String), write e = .ok t → write' e = .ok t' → "" = "" := fun _ _ _ _ _ => rfl
  have hdefault : ∀ (e : Expr) (t t' : String), asWritten e = .ok t → asWritten e = .ok t' → t = t' := by
    intro e t t' ht ht'
    exact Except.ok.inj (ht.symm.trans ht')
  have hparam : ∀ p q q', ShownAs write p q → ShownAs write' p q' →
      ({ q with type := q.type.map fun _ => "" } : Shown) = { q' with type := q'.type.map fun _ => "" } := by
    intro p q q' hq hq'
    have hd := map_eq_map_of_rel hdefault hq.default hq'.default
    rw [Option.map_id', Option.map_id'] at hd
    rw [hq.name, hq'.name, map_eq_map_of_rel hblank hq.type hq'.type, hd]
  unfold ShownFunction.withoutTypes Params.map
  rw [h.isAsync, h'.isAsync, map_eq_map_of_rel hblank h.returns h'.returns,
    map_eq_map_of_forall₂ hparam h.params.positionalOnly h'.params.positionalOnly,
    map_eq_map_of_forall₂ hparam h.params.positional h'.params.positional,
    map_eq_map_of_rel hparam h.params.rest h'.params.rest,
    map_eq_map_of_forall₂ hparam h.params.keywordOnly h'.params.keywordOnly,
    map_eq_map_of_rel hparam h.params.extra h'.params.extra]

/-- What the signatures of a function show, however annotations are written. -/
structure Showing (f : FunctionHead) : Prop where
  /-- The default that an index leads to among those of the positional parameters is that of the parameter there. -/
  aligned : ∀ i p, (f.params.positionalOnly ++ f.params.positional)[i]? = some p →
    defaultAt f.params.arguments.defaults (f.params.positionalOnly ++ f.params.positional).length i = p.default
  /-- Keyword-only parameters and their defaults, listed apart, go together. -/
  zipped : f.params.arguments.keywordOnly.zip f.params.arguments.keywordDefaults =
    f.params.keywordOnly.map fun p => (p.argument, p.default)
  /-- The parameters that take the remaining arguments have no default. -/
  unfilled : ∀ p, p ∈ f.params.rest ∨ p ∈ f.params.extra → p.default = none
  /-- There are parts if and only if all annotations and defaults have texts; they show these. -/
  parts : ∀ write texts, parts write f.params.arguments = .ok texts ↔
    ∃ qs, f.params.Related (ShownAs write) qs ∧ texts = layout qs
  /-- Read from left to right, the parts give every parameter once, in order, with its kind. -/
  kinds : ∀ write qs, f.params.Related (ShownAs write) qs → readKinds (layout qs) = some (labelled qs)
  /-- The markers are there where they are needed, and once. -/
  slash : ∀ write qs, f.params.Related (ShownAs write) qs →
    (layout qs).count "/" = if f.params.positionalOnly.isEmpty then 0 else 1
  star : ∀ write qs, f.params.Related (ShownAs write) qs →
    (layout qs).count "*" = if f.params.rest.isSome || f.params.keywordOnly.isEmpty then 0 else 1
  /-- The signature joins the parts. -/
  text : ∀ write s, ofFunction write f = .ok s ↔ ∃ g, FunctionShownAs write f g ∧ s = g.text
  /-- Two ways to write annotations differ in the texts of annotations and of the result only. -/
  typesOnly : ∀ write write' g g', FunctionShownAs write f g → FunctionShownAs write' f g' →
    g.withoutTypes = g'.withoutTypes

/-- The signature of every function that is read, and so of every function of a module, shows each parameter with its
own kind, annotation and default. -/
theorem functions_shown :
    (∀ source stmts f inner, parseModule source = .ok stmts → Stmt.function f inner ∈ stmts → Grammar.Reads source f) ∧
      ∀ source f, Grammar.Reads source f → Showing f := by
  refine ⟨fun _ _ _ _ hparse hf => parseModule_reads hparse hf, fun source f hreads => ?_⟩
  have hlegal := hreads.legal
  have hnames : ∀ write qs, f.params.Related (ShownAs write) qs → qs.Each fun q => Unmarked q.name := by
    intro write qs hqs
    exact hqs.each (fun p q hq hp => hq.name ▸ hp) hlegal.named
  refine
    { aligned := fun i p hp => defaultAt_arguments hlegal hp
      zipped := zip_keywordDefaults f.params
      unfilled := fun p hp => hp.elim (hlegal.rest p) (hlegal.extra p)
      parts := fun write texts => parts_eq_ok hlegal
      kinds := fun write qs hqs => readKinds_layout (hnames write qs hqs)
      slash := fun write qs hqs => ?_
      star := fun write qs hqs => ?_
      text := fun write s => ofFunction_eq_ok hlegal
      typesOnly := fun write write' g g' hg hg' => withoutTypes_eq hg hg' }
  · have honly := isEmpty_eq_of_forall₂ hqs.positionalOnly
    rw [count_marker (by decide) (hnames write qs hqs), honly]
    split <;> split <;> rfl
  · have hkeywords := isEmpty_eq_of_forall₂ hqs.keywordOnly
    have hrest := isSome_eq_of_rel hqs.rest
    rw [count_marker (by decide) (hnames write qs hqs), hkeywords, hrest]
    split <;> split <;> rfl

/-- A function with parameters of four kinds. One of the positional-only parameters and one of the keyword-only ones
have a default, and so has the positional one. -/
def mixedSource : List Char := "def f(a,b=1,/,c:A=2,*,d,e=3,**k):0".toList

def mixedHead : FunctionHead where
  name := "f"
  isAsync := false
  params :=
    { positionalOnly := [⟨"a", none, none⟩, ⟨"b", none, some (.constant (.int 1))⟩]
      positional := [⟨"c", some (.name "A"), some (.constant (.int 2))⟩]
      rest := none
      keywordOnly := [⟨"d", none, none⟩, ⟨"e", none, some (.constant (.int 3))⟩]
      extra := some ⟨"k", none, none⟩ }
  returns := none

theorem functions_shown_mixed :
    parseModule mixedSource = .ok [.function mixedHead [.expr (.constant (.int 0))]] ∧
    Grammar.Reads mixedSource mixedHead ∧ Showing mixedHead ∧
    mixedHead.params.arguments.defaults = [.constant (.int 1), .constant (.int 2)] ∧
    parts asWritten mixedHead.params.arguments = .ok ["a", "b=1", "/", "c: A = 2", "*", "d", "e=3", "**k"] ∧
    ofFunction asWritten mixedHead = .ok "(a, b=1, /, c: A = 2, *, d, e=3, **k)" := by
  have hparse : parseModule mixedSource = .ok [.function mixedHead [.expr (.constant (.int 0))]] :=
    ok_of_toOption (by decide +kernel)
  have hreads := functions_shown.1 _ _ _ _ hparse List.mem_cons_self
  exact ⟨hparse, hreads, functions_shown.2 _ _ hreads, rfl, ok_of_toOption (by decide +kernel),
    ok_of_toOption (by decide +kernel)⟩

end Signature

end ModuleDocs
