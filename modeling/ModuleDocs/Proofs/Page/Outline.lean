import ModuleDocs.Proofs.Page.Markup

/-!
# What a page says

The outline of a page lists its tags with the text before each. The names, types and comments of a module
stand in it as texts and as values of `id` attributes, and nowhere else. The page is the outline written
down, so a reader of the page finds the outline again, and in it the module.
-/

namespace ModuleDocs

namespace Page

/-- A tag without attributes, and the text before it. -/
def bare (text name : Text) : Piece := ⟨text, Tag.bare name⟩

def commentPieces (comment : Text) : List Piece :=
  if comment.isEmpty then []
  else [⟨"\n", "p", [("class", some "comment")]⟩, bare comment "/p"]

def opening (id : Text) : Piece := ⟨"\n", "div", [("class", some "field"), ("id", some id)]⟩

/-- The block of a field without its closing tag. -/
def fieldBody (id : Text) (inner : List Piece) (comment : Text) : List Piece :=
  opening id :: (inner ++ commentPieces comment)

/-- The block of a type: a heading with the name, and the type on lines of its own. -/
def typeBody (f : Field) : List Piece :=
  fieldBody ("type." ++ f.name)
    [bare "\n" "h3", bare [] "code", bare f.name "/code", bare [] "/h3",
      bare "\n" "pre", bare [] "code", bare f.type "/code", bare [] "/pre"] f.comment

/-- The block of a value: a heading with the name and the type. -/
def valueBody (f : Field) : List Piece :=
  fieldBody ("value." ++ f.name)
    [bare "\n" "h3", bare [] "code", bare (f.name ++ " : " ++ f.type) "/code", bare [] "/h3"] f.comment

def closed (body : List Piece) : List Piece := body ++ [bare "\n" "/div"]

def headPieces (name : Text) : List Piece :=
  [⟨[], "!DOCTYPE", [("html", none)]⟩, ⟨"\n", "html", [("lang", some "en")]⟩, bare "\n" "head",
    ⟨"\n", "meta", [("charset", some "utf-8")]⟩, bare "\n" "title", bare name "/title", bare "\n" "style",
    bare ("\n" ++ Text.ofString styleSheet) "/style", bare "\n" "/head"]

def outline (m : Module) : List Piece :=
  headPieces m.name ++
  [bare "\n" "body", bare "\n" "h1", bare m.name "/h1", bare "\n\n" "h2", bare "Types" "/h2"] ++
  m.record.types.flatMap (fun f => closed (typeBody f)) ++ [bare "\n\n" "h2", bare "Values" "/h2"] ++
  m.record.values.flatMap (fun f => closed (valueBody f)) ++ [bare "\n" "/body", bare "\n" "/html"]

/-! ## The page is the outline written down -/

theorem write_eq (p : Piece) : p.write = escape p.text ++ CodePoint.ofChar '<' :: (p.tag.name ++
    (p.tag.attributes.flatMap writeAttribute ++ [CodePoint.ofChar '>'])) := by
  simp [Piece.write, Tag.write, Text.ofString]

/-- A block written down, with the line break before it in place of the one after it. -/
def Writes (block : Text) (ps : List Piece) : Prop :=
  ∀ rest, CodePoint.ofChar '\n' :: (block ++ rest) = ps.flatMap Piece.write ++ CodePoint.ofChar '\n' :: rest

theorem commentBlock_writes (comment : Text) : Writes (commentBlock comment) (commentPieces comment) := by
  intro rest
  unfold commentBlock commentPieces
  split
  · rfl
  · simp [write_eq, writeAttribute, bare, Tag.bare, Text.ofString]

theorem typeBlock_writes (f : Field) : Writes (typeBlock f) (closed (typeBody f)) := by
  intro rest
  have hcomment := commentBlock_writes f.comment
  simp [typeBlock, closed, typeBody, fieldBody, opening, write_eq, writeAttribute, bare, Tag.bare, Text.ofString,
    hcomment _]

theorem valueBlock_writes (f : Field) : Writes (valueBlock f) (closed (valueBody f)) := by
  intro rest
  have hcomment := commentBlock_writes f.comment
  simp [valueBlock, closed, valueBody, fieldBody, opening, write_eq, writeAttribute, bare, Tag.bare, Text.ofString,
    hcomment _]

/-- Blocks one after another: the line break after each is the text before the next. -/
theorem Writes.flatMap {block : Field → Text} {ps : Field → List Piece} (h : ∀ f, Writes (block f) (ps f))
    (fs : List Field) : Writes (fs.flatMap block) (fs.flatMap ps) := by
  intro rest
  induction fs with
  | nil => rfl
  | cons f fs ih =>
    rw [List.flatMap_cons, List.append_assoc, h f, ih, List.flatMap_cons, List.flatMap_append,
      List.append_assoc]

theorem isPlain_append {a b : String} (ha : (Text.ofString a).all isPlain = true)
    (hb : (Text.ofString b).all isPlain = true) : (Text.ofString (a ++ b)).all isPlain = true := by
  simp only [Text.ofString, String.toList_append, List.map_append, List.all_append, Bool.and_eq_true]
  exact ⟨ha, hb⟩

-- The lines are checked one by one: reading a literal takes time quadratic in its length.
theorem isPlain_styleSheet : (Text.ofString styleSheet).all isPlain = true := by
  unfold styleSheet
  refine isPlain_append (isPlain_append (isPlain_append ?_ ?_) ?_) ?_
  · decide +kernel
  · decide +kernel
  · decide +kernel
  · decide +kernel

theorem head_eq (name : Text) : head name = (headPieces name).flatMap Piece.write ++ "\n" := by
  -- Only that the sheet is plain matters, not what it says.
  obtain ⟨sheet, hsheet, hplain⟩ : ∃ sheet : Text, Text.ofString styleSheet = sheet ∧ escape sheet = sheet :=
    ⟨_, rfl, escape_of_isPlain isPlain_styleSheet⟩
  rw [head, headPieces, hsheet]
  simp [write_eq, writeAttribute, bare, Tag.bare, Text.ofString, hplain]

/-- The page is the outline written down, with a line break after the last tag. -/
theorem render_eq (m : Module) : render m = (outline m).flatMap Piece.write ++ escape "\n" := by
  have htypes := Writes.flatMap typeBlock_writes m.record.types
  have hvalues := Writes.flatMap valueBlock_writes m.record.values
  rw [render, head_eq]
  simp [outline, write_eq, bare, Tag.bare, Text.ofString, htypes _, hvalues _]

/-! ## Reading the page -/

theorem isProper_commentPieces (comment : Text) : (commentPieces comment).all Piece.isProper = true := by
  unfold commentPieces
  split
  · rfl
  · rfl

theorem isProper_fieldBody {inner : List Piece} (h : inner.all Piece.isProper = true) (id comment : Text) :
    (closed (fieldBody id inner comment)).all Piece.isProper = true := by
  rw [closed, fieldBody, List.all_append, List.all_cons, List.all_append, h, isProper_commentPieces]
  rfl

theorem isProper_outline (m : Module) : (outline m).all Piece.isProper = true := by
  have htypes : (m.record.types.flatMap fun f => closed (typeBody f)).all Piece.isProper = true := by
    rw [List.all_flatMap, List.all_eq_true]
    exact fun f _ => isProper_fieldBody rfl _ f.comment
  have hvalues : (m.record.values.flatMap fun f => closed (valueBody f)).all Piece.isProper = true := by
    rw [List.all_flatMap, List.all_eq_true]
    exact fun f _ => isProper_fieldBody rfl _ f.comment
  simp only [outline, List.all_append, htypes, hvalues]
  rfl

/-- A reader of the page finds the outline. -/
theorem read_render (m : Module) : read (render m) = outline m := by
  rw [render_eq]
  exact read_write (isProper_outline m) _

/-- The names of the tags of a page and of their attributes, without any text or value. -/
def skeleton (ps : List Piece) : List (List Text) := ps.map fun p => p.tag.names

end Page

/-- A field that says nothing, with a comment where there is one. -/
def Field.blank (f : Field) : Field := ⟨[], [], if f.comment.isEmpty then [] else "-"⟩

/-- A module that says nothing, with as many types, values and comments. -/
def Module.blank (m : Module) : Module :=
  ⟨[], m.record.types.map Field.blank, m.record.values.map Field.blank⟩

namespace Page

theorem skeleton_commentPieces (f : Field) :
    skeleton (commentPieces f.comment) = skeleton (commentPieces f.blank.comment) := by
  unfold commentPieces Field.blank
  cases hcomment : f.comment.isEmpty with
  | true => rfl
  | false => rfl

theorem skeleton_fieldBody {inner inner' : List Piece} (h : skeleton inner = skeleton inner') (id id' : Text)
    (f : Field) :
    skeleton (closed (fieldBody id inner f.comment)) =
      skeleton (closed (fieldBody id' inner' f.blank.comment)) := by
  have hcomment := skeleton_commentPieces f
  simp only [skeleton, closed, fieldBody, List.map_append, List.map_cons] at h hcomment ⊢
  rw [h, hcomment]
  rfl

theorem skeleton_flatMap_blank {body : Field → List Piece}
    (h : ∀ f : Field, skeleton (closed (body f)) = skeleton (closed (body f.blank))) (fs : List Field) :
    skeleton (fs.flatMap fun f => closed (body f)) =
      skeleton ((fs.map Field.blank).flatMap fun f => closed (body f)) := by
  induction fs with
  | nil => rfl
  | cons f fs ih =>
    simp only [skeleton, List.flatMap_cons, List.map_cons, List.map_append] at h ih ⊢
    rw [h f, ih]

/-- The tags and the names of their attributes are those of the module that says nothing. -/
theorem skeleton_outline (m : Module) : skeleton (outline m) = skeleton (outline m.blank) := by
  have htype : ∀ f : Field, skeleton (closed (typeBody f)) = skeleton (closed (typeBody f.blank)) := by
    intro f
    exact skeleton_fieldBody (by rfl) _ _ f
  have hvalue : ∀ f : Field, skeleton (closed (valueBody f)) = skeleton (closed (valueBody f.blank)) := by
    intro f
    exact skeleton_fieldBody (by rfl) _ _ f
  have htypes := skeleton_flatMap_blank htype m.record.types
  have hvalues := skeleton_flatMap_blank hvalue m.record.values
  simp only [skeleton, outline, List.map_append] at htypes hvalues ⊢
  rw [htypes, hvalues]
  rfl

end Page

end ModuleDocs
