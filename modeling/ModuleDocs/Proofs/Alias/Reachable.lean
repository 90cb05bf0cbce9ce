import ModuleDocs.Interface.Signature
import ModuleDocs.Proofs.Alias.Cycles

/-!
# What an expansion depends on

An expression reaches the names that it refers to, those that their definitions refer to, and so on. Two expansions of
it, under two tables or while other names are being expanded, go in step as long as they agree on the names that are
reached. So aliases that are not reached do not matter, and an expression that reaches no alias stays as it is.
-/

namespace ModuleDocs

open Source
open Relation (ReflTransGen)

namespace Alias

/-! ### Subscripts -/

/-- The three kinds of subscripts, by what their base has become. -/
theorem subscript_cases (w s : Expr) :
    w.baseName? = some "Literal" ∨
    (w.baseName? = some "Annotated" ∧ ∃ e es, s = .node .tuple (e :: es)) ∨
    (w.baseName? ≠ some "Literal" ∧ (w.baseName? = some "Annotated" → ∀ e es, s ≠ .node .tuple (e :: es))) := by
  by_cases hliteral : w.baseName? = some "Literal"
  · exact .inl hliteral
  · by_cases htuple : w.baseName? = some "Annotated" ∧ ∃ e es, s = .node .tuple (e :: es)
    · exact .inr (.inl htuple)
    · exact .inr (.inr ⟨hliteral, fun hannotated e es hs => htuple ⟨hannotated, e, es, hs⟩⟩)

/-- What holds of a slice, and of its first element if it is a tuple, holds of the arguments that are types. -/
theorem forall_typeArguments {P : Expr → Prop} {w s : Expr} (hs : P s)
    (hfirst : ∀ e es, s = .node .tuple (e :: es) → P e) : ∀ e ∈ typeArguments w s, P e := by
  intro e he
  rcases subscript_cases w s with hliteral | ⟨hannotated, e', es, rfl⟩ | ⟨hliteral, hother⟩
  · rw [typeArguments_literal hliteral] at he
    cases he
  · rw [typeArguments_annotated hannotated] at he
    cases List.mem_singleton.mp he
    exact hfirst _ _ rfl
  · rw [typeArguments_whole hliteral hother] at he
    cases List.mem_singleton.mp he
    exact hs

/-- The slice of a subscript with other arguments in the place of those that are types. -/
def putTypeArguments (base s : Expr) (ds : List Expr) : Expr :=
  match ds with
  | [] => s
  | d :: _ =>
    if base.baseName? = some "Annotated" then
      match s with
      | .node .tuple (_ :: es) => .node .tuple (d :: es)
      | _ => d
    else d

theorem putTypeArguments_whole {w s : Expr}
    (hother : w.baseName? = some "Annotated" → ∀ e es, s ≠ .node .tuple (e :: es)) (d : Expr) :
    putTypeArguments w s [d] = d := by
  unfold putTypeArguments
  dsimp only
  split
  · rename_i hannotated
    split
    · exact absurd rfl (hother hannotated _ _)
    · rfl
  · rfl

theorem putTypeArguments_annotated {w e : Expr} {es : List Expr} (hannotated : w.baseName? = some "Annotated")
    (d : Expr) : putTypeArguments w (.node .tuple (e :: es)) [d] = .node .tuple (d :: es) := by
  simp [putTypeArguments, hannotated]

theorem putTypeArguments_self (w s : Expr) : putTypeArguments w s (typeArguments w s) = s := by
  rcases subscript_cases w s with hliteral | ⟨hannotated, e, es, rfl⟩ | ⟨hliteral, hother⟩
  · rw [typeArguments_literal hliteral]
    rfl
  · rw [typeArguments_annotated hannotated, putTypeArguments_annotated hannotated]
  · rw [typeArguments_whole hliteral hother, putTypeArguments_whole hother]

variable {read : Reader} {a b : Aliases} {active active' : List String}

theorem expandAll_singleton (e : Expr) :
    expandAll read a active [e] = (expand read a active e >>= fun d => pure [d]) := by
  rw [expandAll, expandAll]
  rfl

/-- A subscript is expanded base first, then the arguments that are types. -/
theorem expand_subscript (v s : Expr) : expand read a active (.subscript v s) = (do
    let w ← expand read a active v
    let ds ← expandAll read a active (typeArguments w s)
    return .subscript w (putTypeArguments w s ds)) := by
  rw [expand]
  congr 1
  funext w
  rcases subscript_cases w s with hliteral | ⟨hannotated, e, es, rfl⟩ | ⟨hliteral, hother⟩
  · rw [if_pos hliteral, typeArguments_literal hliteral, expandAll]
    rfl
  · rw [typeArguments_annotated hannotated, expandAll_singleton]
    simp [hannotated, putTypeArguments_annotated hannotated]
  · rw [if_neg hliteral, typeArguments_whole hliteral hother, expandAll_singleton]
    split
    · split
      · exact absurd rfl (hother ‹_› _ _)
      · simp [putTypeArguments_whole hother]
    · simp [putTypeArguments_whole hother]

/-! ### Names that an expression reaches -/

theorem refers_name {id n : String} : Refers read a (.name id) n ↔ n = id := by
  constructor
  · rintro ⟨⟩
    rfl
  · rintro rfl
    exact .name

theorem refers_str {t : Text} {marked : Bool} {d : Expr} {n : String} (hread : read t = .ok (some d))
    (h : Refers read a (.constant (.str t marked)) n) : Refers read a d n := by
  cases h with
  | reference hread' hd =>
    rw [hread] at hread'
    cases hread'
    exact hd

theorem refers_subscript {v s : Expr} {n : String} (h : Refers read a (.subscript v s) n) :
    Refers read a v n ∨ Refers read a s n := by
  cases h with
  | base hv => exact .inl hv
  | @argument _ _ w _ d _ _ hd hn =>
    have hslice : ∀ e ∈ typeArguments w s, Refers read a e n → Refers read a s n :=
      forall_typeArguments id fun e es hs he => hs ▸ .child List.mem_cons_self he
    exact .inr (hslice d hd hn)

theorem refers_node {shape : Shape} {es : List Expr} {n : String} :
    Refers read a (.node shape es) n ↔ ∃ d ∈ es, Refers read a d n := by
  constructor
  · rintro ⟨⟩
    exact ⟨_, ‹_›, ‹_›⟩
  · rintro ⟨d, hd, hn⟩
    exact .child hd hn

/-- The names that an expression refers to, those that their definitions refer to, and so on. -/
def Reaches (read : Reader) (aliases : Aliases) (e : Expr) (n : String) : Prop :=
  ∃ m, Refers read aliases e m ∧ ReflTransGen (DependsOn read aliases) m n

theorem Refers.reaches {e : Expr} {n : String} (h : Refers read a e n) : Reaches read a e n := ⟨n, h, .refl⟩

theorem Reaches.mono {e d : Expr} {n : String} (h : Reaches read a d n)
    (hd : ∀ m, Refers read a d m → Refers read a e m) : Reaches read a e n := by
  obtain ⟨m, hm, hn⟩ := h
  exact ⟨m, hd m hm, hn⟩

theorem Reaches.definition {id : String} {body : Expr} {n : String} (h : Reaches read a body n)
    (hget : a.get? id = some body) : Reaches read a (.name id) n := by
  obtain ⟨m, hm, hn⟩ := h
  exact ⟨id, .name, .head ⟨body, hget, hm⟩ hn⟩

/-- Two expansions of an expression agree on the names that it reaches: on their definitions, and on which of them are
being expanded. -/
def Agree (read : Reader) (a b : Aliases) (active active' : List String) (e : Expr) : Prop :=
  ∀ n, Reaches read a e n → a.get? n = b.get? n ∧ (n ∈ active ↔ n ∈ active')

theorem Agree.mono {e d : Expr} (h : Agree read a b active active' e)
    (hd : ∀ m, Refers read a d m → Refers read a e m) : Agree read a b active active' d :=
  fun n hn => h n (hn.mono hd)

theorem Agree.definition {id : String} {body : Expr} (h : Agree read a b active active' (.name id))
    (hget : a.get? id = some body) : Agree read a b (id :: active) (id :: active') body := by
  intro n hn
  obtain ⟨hsame, hactive⟩ := h n (hn.definition hget)
  exact ⟨hsame, by rw [List.mem_cons, List.mem_cons, hactive]⟩

theorem expand_unreadable {t : Text} {marked : Bool} {f : ReferenceFault} (hread : read t = .error f) :
    expand read a active (.constant (.str t marked)) = .error f := by
  rw [expand, hread]

theorem expandAll_congr {cs : List Expr} (h : ∀ c ∈ cs, expand read a active c = expand read b active' c) :
    expandAll read a active cs = expandAll read b active' cs := by
  induction cs with
  | nil => rw [expandAll, expandAll]
  | cons c cs ih =>
    obtain ⟨hc, hcs⟩ := List.forall_mem_cons.mp h
    rw [expandAll, expandAll, hc, ih hcs]

/-- Expansions that agree on all that an expression reaches go in step. -/
theorem Agree.expand_eq (e : Expr) : ∀ active',
    Agree read a b active active' e → expand read a active e = expand read b active' e := by
  refine expand.induct read a
    (fun active e => ∀ active', Agree read a b active active' e → expand read a active e = expand read b active' e)
    (fun active cs => ∀ active', (∀ c ∈ cs, Agree read a b active active' c) →
      ∀ c ∈ cs, expand read a active c = expand read b active' c)
    ?foreign ?cyclic ?definition ?unreadable ?plain ?reference ?long ?constant ?member ?subscript ?node ?nil ?cons
    active e
  case foreign =>
    intro active id hget active' h
    obtain ⟨hsame, _⟩ := h id Refers.name.reaches
    rw [expand_foreign hget, expand_foreign (hsame ▸ hget)]
  case cyclic =>
    intro active id body hget hactive active' h
    obtain ⟨_, hboth⟩ := h id Refers.name.reaches
    rw [expand_cyclic hactive, expand_cyclic (hboth.mp hactive)]
  case definition =>
    intro active id body hget hidle ih active' h
    obtain ⟨hsame, hboth⟩ := h id Refers.name.reaches
    rw [expand_definition hget hidle, expand_definition (hsame ▸ hget) fun hactive => hidle (hboth.mpr hactive)]
    exact ih _ (h.definition hget)
  case unreadable =>
    intro active t marked f hread active' h
    rw [expand_unreadable hread, expand_unreadable hread]
  case plain =>
    intro active t marked hread active' h
    have hnone : ∀ e : Expr, none = some e → ¬ e.longest < t.length := fun e he => by cases he
    rw [expand_text hread hnone, expand_text hread hnone]
  case reference =>
    intro active t marked e hread hshort ih active' h
    rw [expand_reference hread hshort, expand_reference hread hshort]
    exact ih _ (h.mono fun m hm => .reference hread hm)
  case long =>
    intro active t marked e hread hlong active' h
    have hlong' : ∀ e', some e = some e' → ¬ e'.longest < t.length := fun e' he => by cases he; exact hlong
    rw [expand_text hread hlong', expand_text hread hlong']
  case constant =>
    intro active c hc active' h
    rw [expand_constant hc, expand_constant hc]
  case member =>
    intro active v attr ih active' h
    rw [expand, expand, ih _ (h.mono fun m hm => .member hm)]
  case subscript =>
    intro active v s hv hfirst hs active' h
    rw [expand_subscript, expand_subscript, ← hv _ (h.mono fun m hm => .base hm)]
    cases hw : expand read a active v with
    | error f => rfl
    | ok w =>
      -- The base has the same expansion on both sides, so the same arguments are types.
      have hall : ∀ e ∈ typeArguments w s, ∀ active', Agree read a b active active' e →
          expand read a active e = expand read b active' e := by
        refine forall_typeArguments hs fun e es he => ?_
        subst he
        exact hfirst
      have harguments := expandAll_congr fun e he =>
        hall e he active' (h.mono fun m hm => .argument (expand_eq_ok.mp hw) he hm)
      simp only [bind, Except.bind, harguments]
  case node =>
    intro active shape cs ih active' h
    have hall := ih _ fun c hc => h.mono fun m hm => .child hc hm
    rw [expand, expand, expandAll_congr hall]
  case nil =>
    intro active active' h c hc
    cases hc
  case cons =>
    intro active c cs hc hcs active' h
    obtain ⟨hfirst, hrest⟩ := List.forall_mem_cons.mp h
    exact List.forall_mem_cons.mpr ⟨hc _ hfirst, hcs _ hrest⟩

/-! ### Expressions without aliases -/

/-- The subexpressions that stand in an expression in the place of a type, itself included. -/
inductive Within : Expr → Expr → Prop where
  | self {e : Expr} : Within e e
  | member {v d : Expr} {attr : String} : Within v d → Within (.member v attr) d
  | base {v s d : Expr} : Within v d → Within (.subscript v s) d
  | argument {v s e d : Expr} : e ∈ typeArguments v s → Within e d → Within (.subscript v s) d
  | child {shape : Shape} {es : List Expr} {e d : Expr} : e ∈ es → Within e d → Within (.node shape es) d

/-- No string stands in the place of a type. -/
def Unquoted (e : Expr) : Prop := ∀ t marked, ¬ Within e (.constant (.str t marked))

theorem Unquoted.mono {e d : Expr} (h : Unquoted e) (hd : ∀ c, Within d c → Within e c) : Unquoted d :=
  fun t marked hwithin => h t marked (hd _ hwithin)

theorem expandAll_self {cs : List Expr} (h : ∀ c ∈ cs, expand read a active c = .ok c) :
    expandAll read a active cs = .ok cs := by
  refine expandAll_of_zip rfl fun p hp => ?_
  rw [List.zip_eq_zipWith, List.zipWith_self] at hp
  obtain ⟨c, hc, rfl⟩ := List.mem_map.mp hp
  exact h c hc

theorem expand_empty_self (read : Reader) (active : List String) (e : Expr) :
    Unquoted e → expand read .empty active e = .ok e := by
  refine expand.induct read .empty
    (fun active e => Unquoted e → expand read .empty active e = .ok e)
    (fun active cs => (∀ c ∈ cs, Unquoted c) → ∀ c ∈ cs, expand read .empty active c = .ok c)
    ?foreign ?cyclic ?definition ?unreadable ?plain ?reference ?long ?constant ?member ?subscript ?node ?nil ?cons
    active e
  case foreign => exact fun active id hget h => expand_foreign hget
  case cyclic => exact fun active id body hget hactive h => expand_cyclic hactive
  case definition =>
    intro active id body hget
    cases hget
  case unreadable => exact fun active t marked f hread h => absurd .self (h t marked)
  case plain => exact fun active t marked hread h => absurd .self (h t marked)
  case reference => exact fun active t marked e hread hshort ih h => absurd .self (h t marked)
  case long => exact fun active t marked e hread hlong h => absurd .self (h t marked)
  case constant => exact fun active c hc h => expand_constant hc
  case member =>
    intro active v attr ih h
    rw [expand, ih (h.mono fun c hc => .member hc)]
    rfl
  case subscript =>
    intro active v s hv hfirst hs h
    have hall : ∀ e ∈ typeArguments v s, Unquoted e → expand read .empty active e = .ok e := by
      refine forall_typeArguments hs fun e es he => ?_
      subst he
      exact hfirst
    have harguments := expandAll_self fun e he => hall e he (h.mono fun c hc => .argument he hc)
    rw [expand_subscript, hv (h.mono fun c hc => .base hc)]
    simp only [bind, Except.bind, harguments, putTypeArguments_self]
    rfl
  case node =>
    intro active shape cs ih h
    have hall := ih fun c hc => h.mono fun d hd => .child hc hd
    rw [expand, expandAll_self hall]
    rfl
  case nil =>
    intro active h c hc
    cases hc
  case cons =>
    intro active c cs hc hcs h
    obtain ⟨hfirst, hrest⟩ := List.forall_mem_cons.mp h
    exact List.forall_mem_cons.mpr ⟨hc hfirst, hcs hrest⟩

end Alias

namespace Aliases

open Alias

variable {a b : Aliases} {e : Expr}

theorem resolve_congr (h : ∀ n, Reaches readReference a e n → a.get? n = b.get? n) : a.resolve e = b.resolve e :=
  Agree.expand_eq e [] fun n hn => ⟨h n hn, Iff.rfl⟩

theorem text_congr (h : ∀ n, Reaches readReference a e n → a.get? n = b.get? n) : a.text e = b.text e := by
  unfold text
  rw [resolve_congr h]

theorem resolve_self (h : ∀ n, Reaches readReference a e n → a.get? n = none) (hunquoted : Unquoted e) :
    a.resolve e = .ok e := by
  have hempty : a.resolve e = empty.resolve e := resolve_congr h
  rw [hempty]
  exact expand_empty_self readReference [] e hunquoted

/-- Only the names that an expression reaches matter to its expansion: tables that agree on them give the same. If none
of them is an alias and no string stands in the place of a type, the expression stays as it is. -/
theorem resolve_reached (e : Expr) :
    (∀ a b : Aliases, (∀ n, Reaches readReference a e n → a.get? n = b.get? n) →
      a.resolve e = b.resolve e ∧ a.text e = b.text e) ∧
    ∀ a : Aliases, (∀ n, Reaches readReference a e n → a.get? n = none) → Unquoted e →
      a.resolve e = .ok e ∧ a.text e = Signature.asWritten e := by
  refine ⟨fun a b h => ⟨resolve_congr h, text_congr h⟩, fun a h hunquoted => ?_⟩
  have hself := resolve_self h hunquoted
  refine ⟨hself, ?_⟩
  unfold text
  rw [hself]
  rfl

/-- The two aliases that refer to each other, and one that refers to both and to which nothing refers. -/
def beside : Aliases :=
  loop.insert "D" (.subscript (.name "dict") (.node .tuple [.name "A", .name "B"]))

theorem not_dependsOn_beside (h : ∀ p ∈ a.entries, p ∈ beside.entries) (m : String) :
    ¬ DependsOn readReference a m "D" := by
  rintro ⟨body, hget, hrefers⟩
  have hentry := h _ (mem_of_get? hget)
  simp only [beside, insert, loop, List.cons_append, List.nil_append, List.mem_cons, Prod.mk.injEq, List.not_mem_nil,
    or_false] at hentry
  rcases hentry with ⟨-, rfl⟩ | ⟨-, rfl⟩ | ⟨-, rfl⟩ | ⟨-, rfl⟩
  · rcases refers_subscript hrefers with hbase | hslice
    · simp [refers_name] at hbase
    · simpa [refers_name] using refers_str readReference_name hslice
  · rcases refers_subscript hrefers with hbase | hslice
    · simp [refers_name] at hbase
    · simp [refers_node, refers_name] at hslice
  · simp [refers_name] at hrefers
  · rcases refers_subscript hrefers with hbase | hslice
    · simp [refers_name] at hbase
    · simp [refers_node, refers_name] at hslice

theorem get?_insert_ne {n m : String} (h : m ≠ n) (body : Expr) : (a.insert n body).get? m = a.get? m := by
  simp [get?, insert, List.lookup_cons, beq_eq_false_iff_ne.mpr h]

theorem reaches_beside {e : Expr} {n : String} (he : ¬ Refers readReference loop e "D")
    (h : Reaches readReference loop e n) : n ≠ "D" := by
  rintro rfl
  obtain ⟨m, hm, hchain⟩ := h
  rcases hchain.cases_tail with rfl | ⟨k, -, hk⟩
  · exact he hm
  · exact not_dependsOn_beside (fun p hp => List.mem_append_left _ hp) k hk

/-- The literal type of a text that is also the name of an alias. -/
def literalName : Expr := .subscript (.name "Literal") (.constant (.str (Text.ofString "B") false))

theorem literalName_reaches {n : String} (h : Reaches readReference beside literalName n) : beside.get? n = none := by
  obtain ⟨m, hm, hchain⟩ := h
  have hname : m = "Literal" := by
    cases hm with
    | base hm => exact refers_name.mp hm
    | argument hw harguments =>
      -- What is subscripted stays as it is, so its argument is not a type.
      cases hw with
      | foreign => cases harguments
      | cyclic hget => cases hget
      | definition hget => cases hget
  subst hname
  rcases hchain.cases_head with rfl | ⟨k, ⟨body, hget, -⟩, -⟩
  · rfl
  · cases hget

theorem literalName_unquoted : Unquoted literalName := by
  intro t marked h
  cases h with
  | base h => cases h
  | argument harguments => cases harguments

theorem resolve_reached_loop :
    (∀ n, Reaches readReference loop (.constant (.str (Text.ofString "B") false)) n → loop.get? n = beside.get? n) ∧
    loop.resolve (.constant (.str (Text.ofString "B") false)) =
      beside.resolve (.constant (.str (Text.ofString "B") false)) ∧
    beside.text literalName = Signature.asWritten literalName := by
  have hagree : ∀ n, Reaches readReference loop (.constant (.str (Text.ofString "B") false)) n →
      loop.get? n = beside.get? n := by
    intro n hn
    refine (get?_insert_ne (reaches_beside (fun hd => ?_) hn) _).symm
    simpa [refers_name] using refers_str readReference_name hd
  have hsame := ((resolve_reached _).1 loop beside hagree).1
  have hself := (resolve_reached literalName).2 beside (fun n => literalName_reaches) literalName_unquoted
  exact ⟨hagree, hsame, hself.2⟩

end Aliases

end ModuleDocs
