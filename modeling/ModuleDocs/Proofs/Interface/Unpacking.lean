import Mathlib.Data.List.Basic
import Mathlib.Data.List.TakeDrop
import ModuleDocs.Proofs.Interface.Declared

/-!
# Unpacking assignments

What the names of a target list are bound to when a display is unpacked, beside the types that they are shown with. A
name is paired with an element of the display, counted from the start, or from the end after a starred target. It is
bound to that element as long as the starred elements on this side have as many items as there are of them.
-/

namespace ModuleDocs

open Source

/-- Whether an element of a display stands for the items of another sequence. -/
def Source.Expr.isStarred : Expr → Bool
  | .node .starred _ => true
  | _ => false

namespace Known

/-! ### Items of a display -/

/-- An item of the sequence that a display gives: the value of an element, or an item of the sequence that a starred
element stands for. Both have the index of the element. -/
inductive Item where
  | element (index : Nat)
  | part (index : Nat)
  deriving Repr, DecidableEq

/-- The items of the elements from an index on, given how many the starred elements have. -/
def items (lengths : Nat → Nat) : Nat → List Expr → List Item
  | _, [] => []
  | index, e :: es =>
    (if e.isStarred then List.replicate (lengths index) (.part index) else [.element index]) ++
      items lengths (index + 1) es

variable {lengths : Nat → Nat} {index : Nat}

theorem items_append (lengths : Nat → Nat) (index : Nat) (es es' : List Expr) :
    items lengths index (es ++ es') = items lengths index es ++ items lengths (index + es.length) es' := by
  induction es generalizing index with
  | nil => rfl
  | cons e es ih =>
    have hindex : index + 1 + es.length = index + (e :: es).length := by
      rw [List.length_cons]
      omega
    rw [List.cons_append, items, items, ih, List.append_assoc, hindex]

theorem items_plain {e : Expr} (he : e.isStarred = false) (es : List Expr) :
    items lengths index (e :: es) = .element index :: items lengths (index + 1) es := by
  simp [items, he]

theorem bounds_of_mem_items {es : List Expr} {j : Nat} (h : .element j ∈ items lengths index es) :
    index ≤ j ∧ j < index + es.length := by
  induction es generalizing index with
  | nil => cases h
  | cons e es ih =>
    rw [items, List.mem_append] at h
    rw [List.length_cons]
    rcases h with h | h
    · cases he : e.isStarred with
      | true => simp [he] at h
      | false =>
        have hj : j = index := by simpa [he] using h
        omega
    · have hrest := ih h
      omega

theorem length_items_of_plain {es : List Expr} (h : ∀ e ∈ es, e.isStarred = false) :
    (items lengths index es).length = es.length := by
  induction es generalizing index with
  | nil => rfl
  | cons e es ih =>
    obtain ⟨he, hes⟩ := List.forall_mem_cons.mp h
    rw [items_plain he, List.length_cons, List.length_cons, ih hes]

/-! ### What targets receive -/

/-- What a target is bound to: one item, or the list of several. -/
inductive Received where
  | item (x : Item)
  | list (xs : List Item)
  deriving Repr, DecidableEq

/-- Items are given to targets in order, one to each that is not starred and all others to the starred one. -/
inductive Unpacks : List UnpackTarget → List Item → List Received → Prop where
  | nil : Unpacks [] [] []
  | single {t : UnpackTarget} {ts : List UnpackTarget} {x : Item} {xs : List Item} {rs : List Received} :
      t.isStarred = false → Unpacks ts xs rs → Unpacks (t :: ts) (x :: xs) (.item x :: rs)
  | several {id : Option String} {ts : List UnpackTarget} {own rest : List Item} {rs : List Received} :
      Unpacks ts rest rs → Unpacks (.starred id :: ts) (own ++ rest) (.list own :: rs)

namespace Unpacks

variable {ts ts' : List UnpackTarget} {xs : List Item} {rs : List Received}

theorem length_eq (h : Unpacks ts xs rs) : rs.length = ts.length := by
  induction h with
  | nil => rfl
  | single _ _ ih => rw [List.length_cons, List.length_cons, ih]
  | several _ ih => rw [List.length_cons, List.length_cons, ih]

theorem length_items (h : Unpacks ts xs rs) (hts : ∀ t ∈ ts, t.isStarred = false) : xs.length = ts.length := by
  induction h with
  | nil => rfl
  | single _ _ ih => rw [List.length_cons, List.length_cons, ih (List.forall_mem_cons.mp hts).2]
  | several _ _ => cases (List.forall_mem_cons.mp hts).1

theorem split (h : Unpacks (ts ++ ts') xs rs) :
    ∃ xs₁ xs₂ rs₁ rs₂, xs = xs₁ ++ xs₂ ∧ rs = rs₁ ++ rs₂ ∧ Unpacks ts xs₁ rs₁ ∧ Unpacks ts' xs₂ rs₂ := by
  induction ts generalizing xs rs with
  | nil => exact ⟨[], xs, [], rs, rfl, rfl, .nil, h⟩
  | cons t ts ih =>
    cases h with
    | single ht hrest =>
      obtain ⟨xs₁, xs₂, rs₁, rs₂, rfl, rfl, h₁, h₂⟩ := ih hrest
      exact ⟨_, xs₂, _, rs₂, rfl, rfl, .single ht h₁, h₂⟩
    | several hrest =>
      obtain ⟨xs₁, xs₂, rs₁, rs₂, rfl, rfl, h₁, h₂⟩ := ih hrest
      exact ⟨_, xs₂, _, rs₂, (List.append_assoc _ _ _).symm, rfl, .several h₁, h₂⟩

/-- The item that a name receives, with the items before and after it. -/
theorem split_name {before after : List UnpackTarget} {id : String} (h : Unpacks (before ++ .name id :: after) xs rs) :
    ∃ xs₁ x xs₂ rs₁ rs₂, xs = xs₁ ++ x :: xs₂ ∧ rs[before.length]? = some (.item x) ∧
      Unpacks before xs₁ rs₁ ∧ Unpacks after xs₂ rs₂ := by
  obtain ⟨xs₁, xs₂, rs₁, rs₂, rfl, rfl, h₁, h₂⟩ := h.split
  cases h₂ with
  | single _ hafter =>
    refine ⟨xs₁, _, _, rs₁, _, rfl, ?_, h₁, hafter⟩
    rw [← h₁.length_eq]
    simp

end Unpacks

/-! ### Pairs of names and elements -/

/-- A name and an element have the same place in the lists that they are in: counted from the end if there is a starred
target before the name, from the start otherwise. -/
def SamePlace (before after : List UnpackTarget) (es es' : List Expr) : Prop :=
  if before.any (·.isStarred) then es'.length = after.length else es.length = before.length

/-- The starred elements on the side from which the name is counted have as many items as there are of them. -/
def Aligned (lengths : Nat → Nat) (before : List UnpackTarget) (es es' : List Expr) : Prop :=
  if before.any (·.isStarred) then (items lengths (es.length + 1) es').length = es'.length
  else (items lengths 0 es).length = es.length

variable {before after : List UnpackTarget} {id : String} {es es' : List Expr} {e : Expr}

theorem plain_of_any {ts : List UnpackTarget} (h : ts.any (·.isStarred) = false) : ∀ t ∈ ts, t.isStarred = false := by
  simpa using h

theorem eq_element_iff {xs xs' : List Item} {x : Item} (he : e.isStarred = false)
    (h : items lengths 0 (es ++ e :: es') = xs ++ x :: xs') :
    x = .element es.length ↔ (items lengths 0 es).length = xs.length := by
  rw [items_append, items_plain he, Nat.zero_add] at h
  constructor
  · rintro rfl
    -- The index is that of no other element.
    have hbefore : .element es.length ∉ items lengths 0 es := by
      intro hmem
      have hbounds := bounds_of_mem_items hmem
      omega
    have hafter : .element es.length ∉ items lengths (es.length + 1) es' := by
      intro hmem
      have hbounds := bounds_of_mem_items hmem
      omega
    exact congrArg List.length ((List.append_cons_inj_of_notMem hbefore hafter).mp h).1
  · intro hlength
    have hrest := (List.append_inj h hlength).2
    exact (List.cons.inj hrest).1.symm

theorem Unpacks.received_iff {rs : List Received} (he : e.isStarred = false)
    (hstars : (before ++ .name id :: after).countP (·.isStarred) ≤ 1) (hplace : SamePlace before after es es')
    (h : Unpacks (before ++ .name id :: after) (items lengths 0 (es ++ e :: es')) rs) :
    rs[before.length]? = some (.item (.element es.length)) ↔ Aligned lengths before es es' := by
  obtain ⟨xs, x, xs', rs₁, rs₂, hitems, hreceived, hbefore, hafter⟩ := h.split_name
  rw [hreceived, Option.some.injEq, Received.item.injEq, eq_element_iff he hitems]
  by_cases hany : before.any (·.isStarred) = true
  · simp only [SamePlace, Aligned, if_pos hany] at hplace ⊢
    -- The only starred target is before the name.
    have hnone : ∀ t ∈ after, t.isStarred = false := by
      have hsome : 0 < before.countP (·.isStarred) := List.countP_pos_iff.mpr (List.any_eq_true.mp hany)
      rw [List.countP_append, List.countP_cons] at hstars
      have hzero : after.countP (·.isStarred) = 0 := by omega
      simpa using List.countP_eq_zero.mp hzero
    have hrest := hafter.length_items hnone
    have htotal := congrArg List.length hitems
    rw [items_append, items_plain he] at htotal
    simp only [List.length_append, List.length_cons, Nat.zero_add] at htotal
    omega
  · simp only [SamePlace, Aligned, if_neg hany] at hplace ⊢
    rw [hbefore.length_items (plain_of_any (Bool.eq_false_iff.mpr hany)), hplace]

theorem pairable?_eq_some {targets : List UnpackTarget} {value : Expr} {display : List Expr}
    (h : pairable? targets value = some display) :
    value.elements? = some display ∧
      (targets.countP (·.isStarred) = 1 ∧ targets.length ≤ display.length + 1 ∨
        targets.countP (·.isStarred) ≠ 1 ∧ display.length = targets.length) := by
  obtain ⟨es, hes, hfits⟩ := Option.bind_eq_some_iff.mp h
  split at hfits
  · rename_i hone
    split at hfits
    · cases hfits
    · cases hfits
      exact ⟨hes, .inl ⟨hone, by omega⟩⟩
  · rename_i hmany
    split at hfits
    · rename_i hlength
      cases hfits
      exact ⟨hes, .inr ⟨hmany, hlength⟩⟩
    · cases hfits

@[simp] theorem UnpackTarget.isStarred_name (id : String) : (UnpackTarget.name id).isStarred = false := rfl

variable {targets : List UnpackTarget} {value : Expr} {display : List Expr}

theorem elementAt?_fromEnd (htargets : targets = before ++ .name id :: after)
    (hone : targets.countP (·.isStarred) = 1) (hany : before.any (·.isStarred) = true) (display : List Expr) :
    elementAt? targets display before.length = display[display.length + before.length - targets.length]? := by
  obtain ⟨star, hstar⟩ : ∃ star, before.findIdx? (·.isStarred) = some star := by
    rw [← Option.isSome_iff_exists, List.findIdx?_isSome, hany]
  have hlt : star < before.length := (List.findIdx?_eq_some_iff_findIdx_eq.mp hstar).1
  have hfind : targets.findIdx? (·.isStarred) = some star := by
    rw [htargets, List.findIdx?_append, hstar]
    rfl
  simp only [elementAt?, hfind, hone, hlt, and_self, if_true]

theorem elementAt?_fromStart (htargets : targets = before ++ .name id :: after)
    (hany : ¬ before.any (·.isStarred) = true) (display : List Expr) :
    elementAt? targets display before.length = display[before.length]? := by
  have hnone : before.findIdx? (·.isStarred) = none := by simpa [List.findIdx?_eq_none_iff] using hany
  have hfind : targets.findIdx? (·.isStarred) =
      (after.findIdx? (·.isStarred)).map (fun n => n + 1 + before.length) := by
    rw [htargets, List.findIdx?_append, hnone, List.findIdx?_cons]
    cases after.findIdx? (·.isStarred) <;> simp
  rw [elementAt?, hfind]
  cases after.findIdx? (·.isStarred) with
  | none => rfl
  | some n =>
    have hlater : ¬ (n + 1 + before.length < before.length) := by omega
    simp [hlater]

theorem split_at {n : Nat} (hn : n < display.length) : ∃ es e es', display = es ++ e :: es' ∧
    display[n]? = some e ∧ es.length = n ∧ es'.length = display.length - (n + 1) := by
  refine ⟨display.take n, display[n], display.drop (n + 1), ?_, List.getElem?_eq_getElem hn, ?_, ?_⟩
  · rw [List.cons_getElem_drop_succ, List.take_append_drop]
  · rw [List.length_take]
    omega
  · rw [List.length_drop]

/-- The element that a name is paired with has the same place. -/
theorem elementAt?_samePlace (htargets : targets = before ++ .name id :: after)
    (hstars : targets.countP (·.isStarred) ≤ 1) (hpaired : pairable? targets value = some display) :
    ∃ es e es', display = es ++ e :: es' ∧ elementAt? targets display before.length = some e ∧
      SamePlace before after es es' := by
  obtain ⟨-, hfits⟩ := pairable?_eq_some hpaired
  have hlength : targets.length = before.length + (after.length + 1) := by
    rw [htargets, List.length_append, List.length_cons]
  have hcount : targets.countP (·.isStarred) = before.countP (·.isStarred) + after.countP (·.isStarred) := by
    rw [htargets, List.countP_append, List.countP_cons]
    simp
  by_cases hany : before.any (·.isStarred) = true
  · have hsome : 0 < before.countP (·.isStarred) := List.countP_pos_iff.mpr (List.any_eq_true.mp hany)
    have hle : before.countP (·.isStarred) ≤ before.length := List.countP_le_length
    have hone : targets.countP (·.isStarred) = 1 := by omega
    have hin : display.length + before.length - targets.length < display.length := by omega
    obtain ⟨es, e, es', hdisplay, he, -, hes'⟩ := split_at hin
    refine ⟨es, e, es', hdisplay, (elementAt?_fromEnd htargets hone hany display).trans he, ?_⟩
    rw [SamePlace, if_pos hany]
    omega
  · have hzero : before.countP (·.isStarred) = 0 := List.countP_eq_zero.mpr (by simpa using hany)
    -- A starred target comes after the name, and takes up a place there.
    have hle : after.countP (·.isStarred) ≤ after.length := List.countP_le_length
    have hin : before.length < display.length := by omega
    obtain ⟨es, e, es', hdisplay, he, hes, -⟩ := split_at hin
    refine ⟨es, e, es', hdisplay, (elementAt?_fromStart htargets hany display).trans he, ?_⟩
    rw [SamePlace, if_neg hany]
    exact hes

/-! ### Types of the names -/

def targetType (k : Known) (targets : List UnpackTarget) (value : Expr) (i : Nat) : Text :=
  match targets[i]? with
  | some (.starred _) => "list"
  | _ => (((pairable? targets value).bind fun es => elementAt? targets es i).map k.infer).getD unknown

theorem unpack_eq_targetType (k : Known) {elements : List Expr}
    (htargets : targets = elements.map UnpackTarget.ofExpr) :
    k.unpack elements value =
      targets.zipIdx.filterMap fun p => p.1.name?.map fun id => (id, k.targetType targets value p.2) := by
  rw [unpack, ← htargets]
  refine List.filterMap_congr fun p hp => ?_
  obtain ⟨t, i⟩ := p
  have ht : targets[i]? = some t := List.mem_zipIdx_iff_getElem?.mp hp
  cases t with
  | other => rfl
  | starred id => cases id <;> simp [UnpackTarget.name?, targetType, ht]
  | name id =>
    cases hpaired : pairable? targets value with
    | none => simp [UnpackTarget.name?, targetType, ht, hpaired]
    | some es => simp [UnpackTarget.name?, targetType, ht, hpaired]

theorem infer_of_isStarred (k : Known) {e : Expr} (he : e.isStarred = true) : k.infer e = unknown := by
  unfold Expr.isStarred at he
  split at he
  · rfl
  · cases he

/-- A name that is shown with a type is paired with an element of this type. -/
theorem targetType_paired (k : Known) (htargets : targets = before ++ .name id :: after)
    (hstars : targets.countP (·.isStarred) ≤ 1) (hdisplay : value.elements? = some display)
    (htype : k.targetType targets value before.length ≠ unknown) :
    ∃ es e es', display = es ++ e :: es' ∧ e.isStarred = false ∧
      k.infer e = k.targetType targets value before.length ∧ SamePlace before after es es' ∧
      (targets.countP (·.isStarred) = 0 → display.length = targets.length) := by
  have htarget : targets[before.length]? = some (.name id) := by simp [htargets]
  cases hpaired : pairable? targets value with
  | none => simp [targetType, htarget, hpaired] at htype
  | some ds =>
    obtain ⟨helements, hfits⟩ := pairable?_eq_some hpaired
    rw [hdisplay] at helements
    cases helements
    obtain ⟨es, e, es', hsplit, hat, hplace⟩ := elementAt?_samePlace htargets hstars hpaired
    have hinfer : k.targetType targets value before.length = k.infer e := by
      simp [targetType, htarget, hpaired, hat]
    refine ⟨es, e, es', hsplit, ?_, hinfer.symm, hplace, by omega⟩
    cases he : e.isStarred with
    | false => rfl
    | true => exact absurd (hinfer.trans (k.infer_of_isStarred he)) htype

/-! ### Where every name is aligned -/

theorem aligned_of_plain (hes : ∀ e ∈ es, e.isStarred = false) (hes' : ∀ e ∈ es', e.isStarred = false) :
    Aligned lengths before es es' := by
  unfold Aligned
  split
  · exact length_items_of_plain hes'
  · exact length_items_of_plain hes

/-- With no starred target the items are as many as the elements, so that one starred element has one item. -/
theorem aligned_of_single {rs : List Received} (he : e.isStarred = false)
    (htargets : ∀ t ∈ before ++ .name id :: after, t.isStarred = false)
    (hdisplay : (es ++ e :: es').countP (·.isStarred) ≤ 1)
    (hlength : (es ++ e :: es').length = (before ++ .name id :: after).length)
    (h : Unpacks (before ++ .name id :: after) (items lengths 0 (es ++ e :: es')) rs) :
    Aligned lengths before es es' := by
  have htotal := (h.length_items htargets).trans hlength.symm
  rw [items_append, items_plain he] at htotal
  simp only [List.length_append, List.length_cons, Nat.zero_add] at htotal
  have hany : ¬ before.any (·.isStarred) = true := by
    simpa using fun t ht => htargets t (List.mem_append_left _ ht)
  rw [Aligned, if_neg hany]
  -- All starred elements are on one side of the element, and the other side has as many items as elements.
  rw [List.countP_append, List.countP_cons, he] at hdisplay
  by_cases hes : es.countP (·.isStarred) = 0
  · exact length_items_of_plain (by simpa using List.countP_eq_zero.mp hes)
  · have hes' : es'.countP (·.isStarred) = 0 := by omega
    have hrest : (items lengths (es.length + 1) es').length = es'.length :=
      length_items_of_plain (by simpa using List.countP_eq_zero.mp hes')
    omega

/-- The names of a target list are shown with their types in order: a starred one with that of lists, any other with
that of an element of the display that can always be looked up. However many items the starred elements have, a name is
bound to its element if and only if the two are aligned. They are if there is no starred element, or only one and no
starred target. -/
theorem unpack_pairs (k : Known) {elements : List Expr} (htargets : targets = elements.map UnpackTarget.ofExpr)
    (hstars : targets.countP (·.isStarred) ≤ 1) (hdisplay : value.elements? = some display) :
    k.unpack elements value =
      targets.zipIdx.filterMap (fun p => p.1.name?.map fun id => (id, k.targetType targets value p.2)) ∧
    (∀ before id after, targets = before ++ .name id :: after → ∀ es, pairable? targets value = some es →
      ∃ e, elementAt? targets es before.length = some e) ∧
    (∀ before id after, targets = before ++ .starred id :: after →
      k.targetType targets value before.length = Text.ofString "list") ∧
    ∀ before id after, targets = before ++ .name id :: after → k.targetType targets value before.length ≠ unknown →
      ∃ es e es', display = es ++ e :: es' ∧ e.isStarred = false ∧
        k.infer e = k.targetType targets value before.length ∧
        ∀ lengths received, Unpacks targets (items lengths 0 display) received →
          (received[before.length]? = some (.item (.element es.length)) ↔ Aligned lengths before es es') ∧
          ((∀ e ∈ display, e.isStarred = false) ∨
            (∀ t ∈ targets, t.isStarred = false) ∧ display.countP (·.isStarred) ≤ 1 →
            Aligned lengths before es es') := by
  refine ⟨k.unpack_eq_targetType htargets, ?_, ?_, ?_⟩
  · intro before id after hname es hpaired
    obtain ⟨_, e, _, -, he, -⟩ := elementAt?_samePlace hname hstars hpaired
    exact ⟨e, he⟩
  · intro before id after hname
    simp [targetType, hname]
  · intro before id after hname htype
    obtain ⟨es, e, es', hsplit, he, hinfer, hplace, hlength⟩ := k.targetType_paired hname hstars hdisplay htype
    refine ⟨es, e, es', hsplit, he, hinfer, ?_⟩
    subst hsplit
    intro lengths received hunpacks
    rw [hname] at hstars hunpacks hlength
    refine ⟨hunpacks.received_iff he hstars hplace, ?_⟩
    rintro (hplain | ⟨hnone, hone⟩)
    · obtain ⟨hes, hrest⟩ := List.forall_mem_append.mp hplain
      exact aligned_of_plain hes (List.forall_mem_cons.mp hrest).2
    · rw [hname] at hnone
      have hzero : (before ++ .name id :: after).countP (·.isStarred) = 0 :=
        List.countP_eq_zero.mpr (by simpa using hnone)
      exact aligned_of_single he hnone hone (hlength hzero) hunpacks

def shiftedTargets : List Expr := [.name "a", .name "b", .node .starred [.name "c"]]

/-- A starred element before a number and a string. -/
def shiftedDisplay : List Expr :=
  [.node .starred [.name "xs"], .constant (.int 1), .constant (.str "s" false)]

theorem unpack_pairs_shifted :
    Known.empty.unpack shiftedTargets (.node .tuple shiftedDisplay) =
      [("a", unknown), ("b", Text.ofString "int"), ("c", Text.ofString "list")] ∧
    Unpacks (shiftedTargets.map UnpackTarget.ofExpr) (items (fun _ => 0) 0 shiftedDisplay)
      [.item (.element 1), .item (.element 2), .list []] ∧
    ∃ es e es', shiftedDisplay = es ++ e :: es' ∧ Known.empty.infer e = Text.ofString "int" ∧
      ¬ Aligned (fun _ => 0) [.name "a"] es es' := by
  have hunpacks : Unpacks (shiftedTargets.map UnpackTarget.ofExpr) (items (fun _ => 0) 0 shiftedDisplay)
      [.item (.element 1), .item (.element 2), .list []] :=
    .single rfl (.single rfl (.several .nil))
  obtain ⟨-, -, -, hpairs⟩ := Known.empty.unpack_pairs (rfl : shiftedTargets.map UnpackTarget.ofExpr = _) (by decide)
    (rfl : (Expr.node .tuple shiftedDisplay).elements? = some shiftedDisplay)
  obtain ⟨es, e, es', hsplit, he, hinfer, hbound⟩ := hpairs [.name "a"] "b" [.starred (some "c")] rfl (by decide)
  refine ⟨by decide, hunpacks, es, e, es', hsplit, hinfer.trans (by decide), ?_⟩
  -- Without items of the starred element the second name is bound to the string, which is no number.
  rw [← (hbound _ _ hunpacks).1]
  intro hstring
  have hlength : es.length = 2 := by
    have hitem : Received.item (.element 2) = .item (.element es.length) := Option.some.inj hstring
    simpa [eq_comm] using hitem
  have hlast : shiftedDisplay[2]? = some e := by
    rw [hsplit, ← hlength]
    simp
  cases hlast
  exact absurd hinfer (by decide)

end Known

end ModuleDocs
