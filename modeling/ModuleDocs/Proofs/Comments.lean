import ModuleDocs.Comments
import ModuleDocs.Proofs.Entries
import ModuleDocs.Proofs.Faults

/-!
# Comments as data

A tree of comments can be written as untyped data and read again. Data may leave out what is none and may hold more
than is read; written again it has one form, `Normal`, in which nothing is left out and nothing is more. A tree read
from data has the comments that stand in the data, at every level.
-/

namespace ModuleDocs

namespace CommentData

open CommentTree (mk)
open Value (get?)

variable {d v : Value} {c : CommentData} {entries ms : List (Text × Value)} {name : Text}

/-! ### Reading -/

/-- Of several entries for the members the last one counts. -/
theorem membersIn_eq (entries : List (Text × Value)) :
    membersIn entries = (get? entries "members").elim (.ok []) membersFrom := by
  induction entries with
  | nil => rfl
  | cons e es ih =>
    have hget : get? (e :: es) "members" =
        (get? es "members").or (if Text.ofString "members" = e.1 then some e.2 else none) :=
      Entries.last?_cons e es (Text.ofString "members")
    rw [membersIn, hget]
    by_cases hlater : (es.any fun e => e.1 == Text.ofString "members") = true
    · have hsome : (get? es "members").isSome = true := Entries.last?_isSome.mpr (Entries.any_key.mp hlater)
      rw [if_pos hlater, ih, Option.or_of_isSome hsome]
    · have hnone : get? es "members" = none := by
        rw [← Option.not_isSome_iff_eq_none]
        exact fun hsome => hlater (Entries.any_key.mpr (Entries.last?_isSome.mp hsome))
      rw [if_neg hlater, ih, hnone, Option.none_or]
      by_cases hkey : e.1 = Text.ofString "members"
      · rw [if_pos hkey, if_pos hkey.symm]
        rfl
      · rw [if_neg hkey, if_neg (Ne.symm hkey)]

theorem read_eq_ok : read d = .ok c ↔ ∃ entries, d = .map entries ∧
    (get? entries "comment").getD .null = c.comment ∧
    (get? entries "members").elim (.ok []) membersFrom = .ok c.members := by
  obtain ⟨comment, members⟩ := c
  cases d with
  | map entries =>
    rw [read, bind_eq_ok]
    simp only [membersIn_eq, Value.map.injEq, exists_eq_left']
    constructor
    · rintro ⟨ms, hms, heq⟩
      cases heq
      exact ⟨rfl, hms⟩
    · rintro ⟨hc, hms⟩
      have hc : (get? entries "comment").getD .null = comment := hc
      exact ⟨_, hms, by rw [hc]; rfl⟩
  | _ => simp [read]

theorem readMembers_cons_eq_ok {e : Text × Value} {cs : List (Text × CommentData)} :
    readMembers (e :: ms) = .ok cs ↔
      ∃ c rest, read e.2 = .ok c ∧ readMembers ms = .ok rest ∧ cs = (e.1, c) :: rest := by
  rw [readMembers, bind_eq_ok]
  simp only [bind_eq_ok]
  constructor
  · rintro ⟨c, hc, rest, hrest, heq⟩
    cases heq
    exact ⟨c, rest, hc, hrest, rfl⟩
  · rintro ⟨c, rest, hc, hrest, rfl⟩
    exact ⟨c, hc, rest, hrest, rfl⟩

/-! ### Data that can be read -/

/-- Data that describes a tree: a mapping with members, which are none or data that describes a tree. They may be
missing, and there may be any other entries, the comment among them. -/
inductive Description : Value → Prop where
  | mk {entries : List (Text × Value)} :
      (∀ v, get? entries "members" = some v → v.isVoid = true ∨ ∃ ms, v = .map ms) →
      (∀ ms, get? entries "members" = some (.map ms) → ∀ e ∈ ms, Description e.2) → Description (.map entries)

theorem readMembers_ok_iff : (∃ cs, readMembers ms = .ok cs) ↔ ∀ e ∈ ms, ∃ c, read e.2 = .ok c := by
  induction ms with
  | nil => simp [readMembers]
  | cons e ms ih =>
    rw [List.forall_mem_cons, ← ih]
    simp only [readMembers_cons_eq_ok]
    constructor
    · rintro ⟨_, c, rest, hc, hrest, _⟩
      exact ⟨⟨c, hc⟩, rest, hrest⟩
    · rintro ⟨⟨c, hc⟩, rest, hrest⟩
      exact ⟨_, c, rest, hc, hrest, rfl⟩

theorem membersFrom_ok_iff : (∃ cs, membersFrom v = .ok cs) ↔
    (v.isVoid = true ∨ ∃ ms, v = .map ms) ∧ ∀ ms, v = .map ms → ∀ e ∈ ms, ∃ c, read e.2 = .ok c := by
  cases v with
  | map ms => simp [membersFrom, readMembers_ok_iff]
  | _ =>
    simp only [membersFrom]
    split <;> simp_all

theorem read_map_ok_iff : (∃ c, read (.map entries) = .ok c) ↔
    ∀ v, get? entries "members" = some v → ∃ cs, membersFrom v = .ok cs := by
  simp only [read_eq_ok, Value.map.injEq, exists_eq_left']
  constructor
  · rintro ⟨c, _, hmembers⟩ v hv
    refine ⟨c.members, ?_⟩
    rwa [hv] at hmembers
  · intro hmembers
    cases hget : get? entries "members" with
    | none => exact ⟨mk _ [], rfl, rfl⟩
    | some v =>
      obtain ⟨cs, hcs⟩ := hmembers v hget
      exact ⟨mk _ cs, rfl, hcs⟩

theorem sizeOf_member {e : Text × Value} (h : get? entries "members" = some (.map ms)) (he : e ∈ ms) :
    sizeOf e.2 < sizeOf (Value.map entries) := by
  have hentry : sizeOf (Text.ofString "members", Value.map ms) < sizeOf entries :=
    List.sizeOf_lt_of_mem (Entries.mem_of_last? h)
  have hmember : sizeOf e < sizeOf ms := List.sizeOf_lt_of_mem he
  obtain ⟨n, v⟩ := e
  simp only [Prod.mk.sizeOf_spec, Value.map.sizeOf_spec] at *
  omega

theorem description_of_read : ∀ {d : Value}, (∃ c, read d = .ok c) → Description d
  | .map entries, h => by
    have hmembers := read_map_ok_iff.mp h
    refine .mk (fun v hv => (membersFrom_ok_iff.mp (hmembers v hv)).1) ?_
    -- The data of a member is smaller than the data it stands in.
    intro ms hms e he
    exact description_of_read ((membersFrom_ok_iff.mp (hmembers _ hms)).2 ms rfl e he)
termination_by d => sizeOf d
decreasing_by exact sizeOf_member hms he

theorem Description.read_ok (h : Description d) : ∃ c, read d = .ok c := by
  induction h with
  | mk hmembers _ ih =>
    refine read_map_ok_iff.mpr fun v hv => membersFrom_ok_iff.mpr ⟨hmembers v hv, ?_⟩
    rintro ms rfl
    exact ih ms hv

/-! ### Writing -/

theorem toValue_leaf (v : Value) : toValue (mk v []) = .map [(Text.ofString "comment", v)] := rfl

theorem toValue_node (v : Value) (m : Text × CommentData) (ms : List (Text × CommentData)) :
    toValue (mk v (m :: ms)) = .map [(Text.ofString "comment", v),
      (Text.ofString "members", .map (membersToValue (m :: ms)))] := rfl

mutual

/-- What is written is read again. -/
theorem read_toValue : ∀ c : CommentData, read c.toValue = .ok c
  | mk v [] => by
    rw [toValue_leaf, read_eq_ok]
    exact ⟨_, rfl, rfl, rfl⟩
  | mk v (m :: ms) => by
    rw [toValue_node, read_eq_ok]
    exact ⟨_, rfl, rfl, readMembers_membersToValue (m :: ms)⟩

theorem readMembers_membersToValue : ∀ ms : List (Text × CommentData), readMembers (membersToValue ms) = .ok ms
  | [] => rfl
  | (n, c) :: ms => by
    rw [membersToValue, readMembers_cons_eq_ok]
    exact ⟨c, ms, read_toValue c, readMembers_membersToValue ms, rfl⟩

end

/-- Data in the form in which trees are written: the comment, null if there is none, and after it the members if there
are any. -/
inductive Normal : Value → Prop where
  | leaf (v : Value) : Normal (.map [(Text.ofString "comment", v)])
  | node (v : Value) {ms : List (Text × Value)} : ms ≠ [] → (∀ e ∈ ms, Normal e.2) →
      Normal (.map [(Text.ofString "comment", v), (Text.ofString "members", .map ms)])

mutual

theorem normal_toValue : ∀ c : CommentData, Normal c.toValue
  | mk v [] => by
    rw [toValue_leaf]
    exact .leaf v
  | mk v (m :: ms) => by
    rw [toValue_node]
    exact .node v (by simp [membersToValue]) (normal_membersToValue (m :: ms))

theorem normal_membersToValue : ∀ ms : List (Text × CommentData), ∀ e ∈ membersToValue ms, Normal e.2
  | [] => by simp [membersToValue]
  | (n, c) :: ms => by
    rw [membersToValue, List.forall_mem_cons]
    exact ⟨normal_toValue c, normal_membersToValue ms⟩

end

theorem exists_membersToValue (h : ∀ e ∈ ms, ∃ c : CommentData, c.toValue = e.2) : ∃ cs, membersToValue cs = ms := by
  induction ms with
  | nil => exact ⟨[], rfl⟩
  | cons e ms ih =>
    obtain ⟨⟨c, hc⟩, hms⟩ := List.forall_mem_cons.mp h
    obtain ⟨cs, hcs⟩ := ih hms
    exact ⟨(e.1, c) :: cs, by rw [membersToValue, hc, hcs]⟩

theorem Normal.exists_toValue (h : Normal d) : ∃ c : CommentData, c.toValue = d := by
  induction h with
  | leaf v => exact ⟨mk v [], toValue_leaf v⟩
  | node v hne _ ih =>
    obtain ⟨cs, rfl⟩ := exists_membersToValue ih
    cases cs with
    | nil => exact absurd rfl hne
    | cons m cs => exact ⟨mk v (m :: cs), toValue_node v m cs⟩

/-- The written forms are the data that stays as it is when it is read and written again. -/
theorem normal_iff : Normal d ↔ (read d).map toValue = .ok d := by
  constructor
  · intro h
    obtain ⟨c, rfl⟩ := h.exists_toValue
    rw [read_toValue]
    rfl
  · intro h
    cases hread : read d with
    | error e =>
      rw [hread] at h
      cases h
    | ok c =>
      rw [hread] at h
      have hd : c.toValue = d := Except.ok.inj h
      exact hd ▸ normal_toValue c

/-! ### Lookups -/

/-- The tree that a trail of names leads to. -/
def at? (c : CommentData) : List Text → Option CommentData
  | [] => some c
  | name :: trail => (c.members.lookup name).bind fun member => at? member trail

/-- What data has under a name among its members. -/
def dataMember? (d : Value) (name : Text) : Option Value :=
  match d.field? "members" with
  | some (.map ms) => ms.lookup name
  | _ => none

/-- The data that a trail of names leads to. -/
def dataAt? (d : Value) : List Text → Option Value
  | [] => some d
  | name :: trail => (dataMember? d name).bind fun member => dataAt? member trail

/-- The comment that stands in data for a member, the empty text if there is none. -/
def dataComment (d : Value) (name : Text) : Value :=
  match (dataMember? d name).bind (Value.field? "comment") with
  | none => .str []
  | some .null => .str []
  | some v => v

/-- A value is read as a tree, or both are missing. -/
def ReadAs (x : Option Value) (y : Option CommentData) : Prop :=
  (x = none ∧ y = none) ∨ ∃ v c, x = some v ∧ y = some c ∧ read v = .ok c

theorem ReadAs.none : ReadAs none none := .inl ⟨rfl, rfl⟩

theorem ReadAs.some (h : read d = .ok c) : ReadAs (some d) (some c) := .inr ⟨d, c, rfl, rfl, h⟩

theorem lookup_readMembers {cs : List (Text × CommentData)} (h : readMembers ms = .ok cs) (name : Text) :
    ReadAs (ms.lookup name) (cs.lookup name) := by
  induction ms generalizing cs with
  | nil =>
    cases h
    exact .none
  | cons e ms ih =>
    obtain ⟨c, rest, hc, hrest, rfl⟩ := readMembers_cons_eq_ok.mp h
    rw [List.lookup_cons, List.lookup_cons]
    cases name == e.1 with
    | true => exact .some hc
    | false => exact ih hrest

theorem eq_nil_of_membersFrom {cs : List (Text × CommentData)} (hv : ∀ ms, v ≠ .map ms) (h : membersFrom v = .ok cs) :
    cs = [] := by
  cases v with
  | map ms => exact absurd rfl (hv ms)
  | _ =>
    rw [membersFrom] at h
    · split at h
      · cases h
        rfl
      · cases h
    · exact hv

theorem readAs_member (h : read d = .ok c) (name : Text) : ReadAs (dataMember? d name) (c.members.lookup name) := by
  obtain ⟨entries, rfl, _, hmembers⟩ := read_eq_ok.mp h
  have hfield : (Value.map entries).field? "members" = get? entries "members" := rfl
  unfold dataMember?
  rw [hfield]
  cases hget : get? entries "members" with
  | none =>
    rw [hget] at hmembers
    have hnone : c.members = [] := (Except.ok.inj hmembers).symm
    rw [hnone]
    exact .none
  | some v =>
    rw [hget] at hmembers
    by_cases hv : ∃ ms, v = .map ms
    · obtain ⟨ms, rfl⟩ := hv
      exact lookup_readMembers hmembers name
    · have hother : ∀ ms, v ≠ .map ms := fun ms hms => hv ⟨ms, hms⟩
      rw [eq_nil_of_membersFrom hother hmembers]
      cases v with
      | map ms => exact absurd rfl (hother ms)
      | _ => exact .none

theorem readAs_at? (h : read d = .ok c) (trail : List Text) : ReadAs (dataAt? d trail) (c.at? trail) := by
  induction trail generalizing d c with
  | nil => exact .some h
  | cons name trail ih =>
    rw [dataAt?, at?]
    obtain ⟨hd, hc⟩ | ⟨v, member, hd, hc, hread⟩ := readAs_member h name
    · rw [hd, hc]
      exact .none
    · rw [hd, hc]
      exact ih hread

theorem comment_eq (h : read d = .ok c) : c.comment = (d.field? "comment").getD .null := by
  obtain ⟨entries, rfl, hcomment, _⟩ := read_eq_ok.mp h
  exact hcomment.symm

theorem commentFor_eq (h : read d = .ok c) (name : Text) : c.commentFor name = dataComment d name := by
  unfold commentFor dataComment
  obtain ⟨hd, hc⟩ | ⟨v, member, hd, hc, hread⟩ := readAs_member h name
  · rw [hd, hc]
    rfl
  · rw [hd, hc, Option.map_some, Option.bind_some, comment_eq hread]
    cases v.field? "comment" <;> rfl

/-- At every level the comments that are found are those that stand in the data. -/
theorem commentFor_at? (h : read d = .ok c) (trail : List Text) (name : Text) :
    (c.at? trail).map (·.commentFor name) = (dataAt? d trail).map (dataComment · name) := by
  obtain ⟨hd, hc⟩ | ⟨v, member, hd, hc, hread⟩ := readAs_at? h trail
  · rw [hd, hc]
    rfl
  · rw [hd, hc, Option.map_some, Option.map_some, commentFor_eq hread]

/-- What the written form of a tree has to do with the data it was read from. -/
structure Renews (d : Value) (c : CommentData) : Prop where
  normal : Normal c.toValue
  unchanged : (read c.toValue).map toValue = .ok c.toValue
  /-- What is read again answers as before, at every level. -/
  lookups : ∀ again, read c.toValue = .ok again → ∀ trail name,
    (again.at? trail).map (·.commentFor name) = (c.at? trail).map (·.commentFor name)
  /-- The answers are those that stand in the data. -/
  given : ∀ trail name, (c.at? trail).map (·.commentFor name) = (dataAt? d trail).map (dataComment · name)

/-! ### Comments that are texts -/

end CommentData

namespace CommentTree

variable {α β : Type}

theorem members_map (f : α → β) (c : CommentTree α) : (c.map f).members = mapMembers f c.members := by
  cases c
  rfl

theorem comment_map (f : α → β) (c : CommentTree α) : (c.map f).comment = f c.comment := by
  cases c
  rfl

theorem lookup_mapMembers (f : α → β) (ms : List (Text × CommentTree α)) (name : Text) :
    (mapMembers f ms).lookup name = (ms.lookup name).map (map f) := by
  induction ms with
  | nil => rfl
  | cons m ms ih =>
    rw [mapMembers, List.lookup_cons, List.lookup_cons, ih]
    cases name == m.1 <;> rfl

mutual

theorem map_map_of_leftInverse {f : α → β} {g : β → α} (h : ∀ x, g (f x) = x) : ∀ c : CommentTree α, (c.map f).map g = c
  | mk c ms => by rw [map, map, h, mapMembers_of_leftInverse h ms]

theorem mapMembers_of_leftInverse {f : α → β} {g : β → α} (h : ∀ x, g (f x) = x) :
    ∀ ms : List (Text × CommentTree α), mapMembers g (mapMembers f ms) = ms
  | [] => rfl
  | (n, c) :: ms => by rw [mapMembers, mapMembers, map_map_of_leftInverse h c, mapMembers_of_leftInverse h ms]

end

end CommentTree

namespace Comments

theorem commentOf_commentValue (t : Option Text) : commentOf (commentValue t) = t := by
  cases t <;> rfl

theorem ofData_toData (c : Comments) : ofData c.toData = c :=
  CommentTree.map_map_of_leftInverse commentOf_commentValue c

theorem commentFor_toData (c : Comments) (name : Text) : c.toData.commentFor name = .str (c.commentFor name) := by
  rw [CommentData.commentFor, commentFor, toData, CommentTree.members_map, CommentTree.lookup_mapMembers]
  cases c.members.lookup name with
  | none => rfl
  | some member =>
    rw [Option.map_some, Option.map_some, Option.bind_some, CommentTree.comment_map]
    cases member.comment <;> rfl

end Comments

namespace CommentData

open CommentTree (mk)

/-- A tree that is written is read as it was, whatever its comments are; texts among them are found as they are. Data
can be read if and only if it describes a tree, and it stays as it is when it is read and written if and only if it is
in normal form. What is written of data that was read is in normal form, and the comments in it are those of the
data. -/
theorem read_written :
    (∀ c : CommentData, read c.toValue = .ok c) ∧
    (∀ c : Comments, (read c.toData.toValue).map Comments.ofData = .ok c ∧
      ∀ name, c.toData.commentFor name = .str (c.commentFor name)) ∧
    (∀ d, (∃ c, read d = .ok c) ↔ Description d) ∧
    (∀ d, Normal d ↔ (read d).map toValue = .ok d) ∧
    ∀ d c, read d = .ok c → Renews d c := by
  refine ⟨read_toValue, fun c => ⟨?_, Comments.commentFor_toData c⟩,
    fun d => ⟨description_of_read, Description.read_ok⟩, fun d => normal_iff, fun d c h => ?_⟩
  · rw [read_toValue]
    exact congrArg Except.ok (Comments.ofData_toData c)
  refine ⟨normal_toValue c, normal_iff.mp (normal_toValue c), ?_, commentFor_at? h⟩
  rintro again hagain trail name
  rw [read_toValue] at hagain
  cases hagain
  rfl

/-- Data with members that are null, an entry that is not read, a comment that is left out and one that is a number. -/
def sparseData : Value :=
  .map [(Text.ofString "members", .map [(Text.ofString "a", .map [(Text.ofString "members", .null)]),
    (Text.ofString "b", .map [(Text.ofString "comment", .int 5), (Text.ofString "line", .int 1)])])]

theorem read_written_sparse : ∃ c, read sparseData = .ok c ∧ toValue c = .map [(Text.ofString "comment", .null),
      (Text.ofString "members", .map [(Text.ofString "a", .map [(Text.ofString "comment", .null)]),
        (Text.ofString "b", .map [(Text.ofString "comment", .int 5)])])] ∧
    Normal (toValue c) ∧ (at? c []).map (·.commentFor (Text.ofString "b")) = some (.int 5) := by
  have hread : read sparseData =
      .ok (mk .null [(Text.ofString "a", mk .null []), (Text.ofString "b", mk (.int 5) [])]) := by
    rfl
  have hrenews := read_written.2.2.2.2 _ _ hread
  refine ⟨_, hread, rfl, hrenews.normal, ?_⟩
  rw [hrenews.given]
  rfl

end CommentData

end ModuleDocs
