import Mathlib.Data.List.Basic
import ModuleDocs.Proofs.Page.Outline
import ModuleDocs.Run

/-!
# Reading a module back

From the tags and texts of a page the module is read back: its name from the title, and a field from each
block. The name of a field is in the `id` of its block, which also tells types from values; the type of a
value is what its heading says after this name.
-/

namespace ModuleDocs

namespace Page

def Tag.value? (g : Tag) (key : Text) : Option Text := (g.attributes.lookup key).join

def closedBy (name : Text) (ps : List Piece) : List Text :=
  (ps.filter fun p => p.tag.name = name).map Piece.text

/-- The blocks of a page, each without its closing tag. -/
def bodies : List Piece → List (List Piece)
  | [] => []
  | p :: ps =>
    if p.tag.name = "div" then (p :: ps.takeWhile fun q => q.tag.name ≠ "/div") :: bodies ps
    else bodies ps

/-- The name of the field of a block of the given kind. -/
def fieldName? (kind : Text) (body : List Piece) : Option Text := do
  let p ← body.head?
  let id ← p.tag.value? "id"
  kind.isPrefixOf? id

def commentOf (body : List Piece) : Text := (closedBy "/p" body).headD []

/-- The type of a block, if it is the block of a type. -/
def readType (body : List Piece) : Option Field := do
  let name ← fieldName? "type." body
  let type ← (closedBy "/code" body)[1]?
  some ⟨name, type, commentOf body⟩

/-- The value of a block, if it is the block of a value. -/
def readValue (body : List Piece) : Option Field := do
  let name ← fieldName? "value." body
  let heading ← (closedBy "/code" body)[0]?
  let type ← (name ++ Text.ofString " : ").isPrefixOf? heading
  some ⟨name, type, commentOf body⟩

def decode (page : Text) : Option Module := do
  let ps := read page
  let name ← (closedBy "/title" ps)[0]?
  some ⟨name, (bodies ps).filterMap readType, (bodies ps).filterMap readValue⟩

/-! ## Fields -/

theorem closedBy_append (name : Text) (ps qs : List Piece) :
    closedBy name (ps ++ qs) = closedBy name ps ++ closedBy name qs := by
  simp only [closedBy, List.filter_append, List.map_append]

theorem closedBy_p_commentPieces (c : Text) : (closedBy "/p" (commentPieces c)).headD [] = c := by
  unfold commentPieces
  split
  case isTrue hempty =>
    rw [List.isEmpty_iff.mp hempty]
    rfl
  case isFalse => rfl

theorem closedBy_fieldBody (name id : Text) (inner : List Piece) (c : Text) :
    closedBy name (fieldBody id inner c) =
      closedBy name [opening id] ++ (closedBy name inner ++ closedBy name (commentPieces c)) := by
  rw [← closedBy_append, ← closedBy_append]
  rfl

theorem commentOf_fieldBody {inner : List Piece} (h : closedBy "/p" inner = []) (id c : Text) :
    commentOf (fieldBody id inner c) = c := by
  rw [commentOf, closedBy_fieldBody, h]
  exact closedBy_p_commentPieces c

theorem readType_typeBody (f : Field) : readType (typeBody f) = some f := by
  have hname : fieldName? "type." (typeBody f) = some f.name := rfl
  have htype : (closedBy "/code" (typeBody f))[1]? = some f.type := by
    rw [typeBody, closedBy_fieldBody]
    rfl
  have hcomment : commentOf (typeBody f) = f.comment := commentOf_fieldBody rfl _ f.comment
  rw [readType, hname, htype, hcomment]
  rfl

theorem readType_valueBody (f : Field) : readType (valueBody f) = none := by
  have hname : fieldName? "type." (valueBody f) = none := rfl
  rw [readType, hname]
  rfl

theorem readValue_typeBody (f : Field) : readValue (typeBody f) = none := by
  have hname : fieldName? "value." (typeBody f) = none := rfl
  rw [readValue, hname]
  rfl

theorem readValue_valueBody (f : Field) : readValue (valueBody f) = some f := by
  have hname : fieldName? "value." (valueBody f) = some f.name := rfl
  have hheading : (closedBy "/code" (valueBody f))[0]? = some (f.name ++ " : " ++ f.type) := by
    rw [valueBody, closedBy_fieldBody]
    rfl
  have htype : (f.name ++ Text.ofString " : ").isPrefixOf? (f.name ++ " : " ++ f.type) = some f.type :=
    List.isPrefixOf?_eq_some_iff_append_eq.mpr rfl
  have hcomment : commentOf (valueBody f) = f.comment := commentOf_fieldBody rfl _ f.comment
  rw [readValue, hname, hheading, hcomment]
  show ((f.name ++ Text.ofString " : ").isPrefixOf? (f.name ++ " : " ++ f.type)).bind _ = _
  rw [htype]
  rfl

/-! ## Blocks -/

/-- Whether a tag neither opens nor closes a block. -/
def isInner (p : Piece) : Bool := p.tag.name ≠ "div" && p.tag.name ≠ "/div"

theorem isInner_iff {p : Piece} :
    isInner p = true ↔ p.tag.name ≠ Text.ofString "div" ∧ p.tag.name ≠ Text.ofString "/div" := by
  simp [isInner]

theorem bodies_append_inner {ps : List Piece} (h : ps.all isInner = true) (qs : List Piece) :
    bodies (ps ++ qs) = bodies qs := by
  induction ps with
  | nil => rfl
  | cons p ps ih =>
    simp only [List.all_cons, Bool.and_eq_true] at h
    have hp : p.tag.name ≠ Text.ofString "div" := (isInner_iff.mp h.1).1
    simp only [List.cons_append, bodies, hp, ↓reduceIte]
    exact ih h.2

theorem takeWhile_inner {ps : List Piece} (h : ps.all isInner = true) (qs : List Piece) :
    (ps ++ bare "\n" "/div" :: qs).takeWhile (fun q => q.tag.name ≠ Text.ofString "/div") = ps := by
  have hinner : ∀ p ∈ ps, decide (p.tag.name ≠ Text.ofString "/div") = true := fun p hp =>
    decide_eq_true (isInner_iff.mp (List.all_eq_true.mp h p hp)).2
  have hstop : (bare "\n" "/div" :: qs).takeWhile (fun q => q.tag.name ≠ Text.ofString "/div") = [] := rfl
  rw [List.takeWhile_append_of_pos hinner, hstop, List.append_nil]

theorem isInner_commentPieces (c : Text) : (commentPieces c).all isInner = true := by
  unfold commentPieces
  split
  · rfl
  · rfl

theorem bodies_fieldBody {inner : List Piece} (h : inner.all isInner = true) (id c : Text) (qs : List Piece) :
    bodies (closed (fieldBody id inner c) ++ qs) = fieldBody id inner c :: bodies qs := by
  have hinner : (inner ++ commentPieces c).all isInner = true := by
    rw [List.all_append, h, isInner_commentPieces]
    rfl
  have hclosed : closed (fieldBody id inner c) ++ qs =
      opening id :: ((inner ++ commentPieces c) ++ bare "\n" "/div" :: qs) := by
    simp [closed, fieldBody]
  have hdiv : (opening id).tag.name = Text.ofString "div" := rfl
  rw [hclosed, bodies, if_pos hdiv, takeWhile_inner hinner, bodies_append_inner hinner]
  rfl

theorem bodies_flatMap {body : Field → List Piece}
    (h : ∀ f ps, bodies (closed (body f) ++ ps) = body f :: bodies ps) (fs : List Field) (ps : List Piece) :
    bodies ((fs.flatMap fun f => closed (body f)) ++ ps) = fs.map body ++ bodies ps := by
  induction fs with
  | nil => rfl
  | cons f fs ih => rw [List.flatMap_cons, List.append_assoc, h, ih, List.map_cons, List.cons_append]

/-- The blocks of a page are those of the types and then of the values of the module, in order. -/
theorem bodies_outline (m : Module) :
    bodies (outline m) = m.record.types.map typeBody ++ m.record.values.map valueBody := by
  have hhead : ((headPieces m.name) ++ [bare "\n" "body", bare "\n" "h1", bare m.name "/h1",
      bare "\n\n" "h2", bare "Types" "/h2"]).all isInner = true := rfl
  have htypes : ∀ f ps, bodies (closed (typeBody f) ++ ps) = typeBody f :: bodies ps := fun f =>
    bodies_fieldBody rfl _ f.comment
  have hvalues : ∀ f ps, bodies (closed (valueBody f) ++ ps) = valueBody f :: bodies ps := fun f =>
    bodies_fieldBody rfl _ f.comment
  rw [outline]
  simp only [List.append_assoc]
  rw [← List.append_assoc, bodies_append_inner hhead, bodies_flatMap htypes,
    bodies_append_inner rfl, bodies_flatMap hvalues]
  have hlast : bodies [bare "\n" "/body", bare "\n" "/html"] = [] := rfl
  rw [hlast, List.append_nil]

/-! ## The module -/

theorem filterMap_map_of_reads {reader : List Piece → Option Field} {body : Field → List Piece}
    (h : ∀ f, reader (body f) = some f) (fs : List Field) : (fs.map body).filterMap reader = fs := by
  rw [List.filterMap_map, show reader ∘ body = some from funext h, List.filterMap_some]

theorem filterMap_map_of_refuses {reader : List Piece → Option Field} {body : Field → List Piece}
    (h : ∀ f, reader (body f) = none) (fs : List Field) : (fs.map body).filterMap reader = [] := by
  rw [List.filterMap_map, List.filterMap_eq_nil_iff]
  intro f _
  exact h f

theorem decode_render (m : Module) : decode (render m) = some m := by
  have htitle : (closedBy "/title" (outline m))[0]? = some m.name := rfl
  have htypes : (bodies (outline m)).filterMap readType = m.record.types := by
    rw [bodies_outline, List.filterMap_append, filterMap_map_of_reads readType_typeBody,
      filterMap_map_of_refuses readType_valueBody, List.append_nil]
  have hvalues : (bodies (outline m)).filterMap readValue = m.record.values := by
    rw [bodies_outline, List.filterMap_append, filterMap_map_of_refuses readValue_typeBody,
      filterMap_map_of_reads readValue_valueBody, List.nil_append]
  rw [decode, read_render, htitle, htypes, hvalues]
  rfl

theorem render_injective : Function.Injective render := by
  intro m m' h
  have hdecode := decode_render m
  rw [h, decode_render m'] at hdecode
  exact (Option.some.inj hdecode).symm

/-- The standard page of a module determines it. Decoding the page gives the module back, so different
modules have different pages. A reader of the page finds exactly the tags of the outline, the names of its
tags and attributes are those of a module that says nothing, and its blocks are those of the fields. -/
theorem standard_page_faithful :
    Function.Injective Renderer.standard ∧
    ∀ m : Module, ∃ page, Renderer.standard m = .ok page ∧ decode page = some m ∧ read page = outline m ∧
      skeleton (read page) = skeleton (read (render m.blank)) ∧
      bodies (read page) = m.record.types.map typeBody ++ m.record.values.map valueBody := by
  constructor
  · intro m m' h
    exact render_injective (Except.ok.inj h)
  · intro m
    refine ⟨render m, rfl, decode_render m, read_render m, ?_, ?_⟩
    · rw [read_render, read_render]
      exact skeleton_outline m
    · rw [read_render]
      exact bodies_outline m

end Page

end ModuleDocs
