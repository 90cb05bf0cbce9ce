import ModuleDocs.Page
import ModuleDocs.Proofs.Interface.Exported
import ModuleDocs.Proofs.Text.Encoding

/-!
# Which pages can be encoded

A page can be encoded if all that it shows can. The names and types of a checked module always can, so that the comments
alone decide.
-/

namespace ModuleDocs

open Source

/-! ### Pages -/

/-- Nothing that a field shows has a surrogate. -/
structure Field.HasEncoding (f : Field) : Prop where
  name : f.name.HasEncoding
  type : f.type.HasEncoding
  comment : f.comment.HasEncoding

theorem Field.hasEncoding_iff {f : Field} :
    f.HasEncoding ↔ f.name.HasEncoding ∧ f.type.HasEncoding ∧ f.comment.HasEncoding :=
  ⟨fun h => ⟨h.name, h.type, h.comment⟩, fun h => ⟨h.1, h.2.1, h.2.2⟩⟩

namespace Page

open Text

theorem hasEncoding_escapePoint (c : CodePoint) : Text.HasEncoding (escapePoint c) ↔ c.isSurrogate = false := by
  unfold escapePoint
  have hchar : ∀ {ch : Char}, c = CodePoint.ofChar ch → c.isSurrogate = false := by
    rintro ch rfl
    exact CodePoint.isSurrogate_ofChar ch
  repeat' split
  all_goals simp_all

@[simp] theorem hasEncoding_escape (t : Text) : Text.HasEncoding (escape t) ↔ Text.HasEncoding t := by
  rw [escape, hasEncoding_flatMap]
  simp only [hasEncoding_escapePoint]
  rfl

theorem hasEncoding_commentBlock (t : Text) : Text.HasEncoding (commentBlock t) ↔ Text.HasEncoding t := by
  unfold commentBlock
  split
  · rename_i hempty
    simp [List.isEmpty_iff.mp hempty]
  · simp

theorem hasEncoding_typeBlock (f : Field) : Text.HasEncoding (typeBlock f) ↔ f.HasEncoding := by
  simp only [typeBlock, hasEncoding_append, hasEncoding_ofString, hasEncoding_escape, hasEncoding_commentBlock,
    Field.hasEncoding_iff, true_and, and_true, and_self, and_assoc]

theorem hasEncoding_valueBlock (f : Field) : Text.HasEncoding (valueBlock f) ↔ f.HasEncoding := by
  simp only [valueBlock, hasEncoding_append, hasEncoding_ofString, hasEncoding_escape, hasEncoding_commentBlock,
    Field.hasEncoding_iff, true_and, and_true, and_self, and_assoc]

/-- A page can be encoded if the name of the module and all fields can. -/
theorem hasEncoding_render (m : Module) : Text.HasEncoding (render m) ↔
    m.name.HasEncoding ∧ ∀ f ∈ m.record.types ++ m.record.values, f.HasEncoding := by
  simp only [render, head, hasEncoding_append, hasEncoding_ofString, hasEncoding_escape, hasEncoding_flatMap,
    hasEncoding_typeBlock, hasEncoding_valueBlock, List.forall_mem_append, true_and, and_true, and_self, and_assoc]

end Page

/-! ### Declarations -/

/-- Nothing in an entry has a surrogate. -/
structure Entry.HasEncoding (e : Entry) : Prop where
  name : e.name.HasEncoding
  unresolved : e.unresolved.HasEncoding
  resolved : e.resolved.HasEncoding

namespace Known

/-- The types that are known have no surrogates. -/
def HasEncoding (k : Known) : Prop := ∀ b ∈ k.values, b.2.HasEncoding

variable {k : Known}

theorem HasEncoding.addValue (hk : k.HasEncoding) {type : Text} (htype : type.HasEncoding) (name : String) :
    (k.addValue name type).HasEncoding := by
  intro b hb
  rcases List.mem_cons.mp hb with rfl | hb
  · exact htype
  · exact hk b hb

theorem HasEncoding.infer (hk : k.HasEncoding) (value : Expr) : (k.infer value).HasEncoding := by
  unfold Known.infer
  split
  · exact Text.hasEncoding_ofString _
  · unfold nameType
    split
    · rename_i t hlookup
      obtain ⟨before, rest, hvalues, _⟩ := List.lookup_eq_some_iff.mp hlookup
      exact hk (_, t) (hvalues ▸ List.mem_append_right _ (List.mem_cons_self ..))
    · split <;> exact Text.hasEncoding_ofString _
  · split <;> exact Text.hasEncoding_ofString _
  · split <;> exact Text.hasEncoding_ofString _
  · exact Text.hasEncoding_ofString _

theorem HasEncoding.unpack (hk : k.HasEncoding) (es : List Expr) (value : Expr) :
    ∀ b ∈ k.unpack es value, b.2.HasEncoding := by
  intro b hb
  -- A name gets a fixed text for its type, or the type of the element that it is paired with.
  obtain ⟨⟨t, i⟩, _, heq⟩ := List.mem_filterMap.mp hb
  dsimp only at heq
  split at heq
  · cases heq
    exact Text.hasEncoding_ofString _
  · cases heq
  · cases heq
  · split at heq
    · cases heq
      exact Text.hasEncoding_ofString _
    · cases heq
      rename_i paired _
      cases elementAt? (es.map UnpackTarget.ofExpr) paired i with
      | none => exact Text.hasEncoding_ofString _
      | some e => exact hk.infer e

theorem HasEncoding.bound (hk : k.HasEncoding) (value target : Expr) :
    ∀ b ∈ k.bound value target, b.2.HasEncoding := by
  unfold Known.bound
  split
  · intro b hb
    rw [List.mem_singleton.mp hb]
    exact hk.infer value
  · exact hk.unpack _ value
  · exact hk.unpack _ value
  · exact fun _ hb => absurd hb List.not_mem_nil

theorem HasEncoding.addBound (hk : k.HasEncoding) {bs : List (String × Text)} (hbs : ∀ b ∈ bs, b.2.HasEncoding) :
    (k.addBound bs).HasEncoding := by
  induction bs generalizing k with
  | nil => exact hk
  | cons b bs ih =>
    exact ih (hk.addValue (hbs b (List.mem_cons_self ..)) b.1) fun c hc => hbs c (List.mem_cons_of_mem _ hc)

theorem HasEncoding.boundAll (hk : k.HasEncoding) (value : Expr) (targets : List Expr) :
    ∀ b ∈ Known.boundAll value k targets, b.2.HasEncoding := by
  induction targets generalizing k with
  | nil => exact fun _ hb => absurd hb List.not_mem_nil
  | cons target rest ih =>
    intro b hb
    rcases List.mem_append.mp hb with hb | hb
    · exact hk.bound value target b hb
    · exact ih (hk.addBound (hk.bound value target)) b hb

end Known

variable {aliases : Aliases}

theorem Declares.hasEncoding {k k' : Known} {s : Stmt} {types values : List Entry}
    (h : Declares aliases k s types values k') (hk : k.HasEncoding) :
    (∀ e ∈ types ++ values, e.HasEncoding) ∧ k'.HasEncoding := by
  have hentry : ∀ n u r : String, Entry.HasEncoding ⟨Text.ofString n, Text.ofString u, Text.ofString r⟩ :=
    fun n u r => ⟨Text.hasEncoding_ofString n, Text.hasEncoding_ofString u, Text.hasEncoding_ofString r⟩
  cases h with
  | ofClass => exact ⟨by simpa using hentry _ _ _, hk⟩
  | ofFunction => exact ⟨by simpa using hentry _ _ _, hk.addValue (Text.hasEncoding_ofString _) _⟩
  | ofAlias => exact ⟨by simpa using hentry _ _ _, hk⟩
  | ofVariable => exact ⟨by simpa using hentry _ _ _, hk.addValue (Text.hasEncoding_ofString _) _⟩
  | @ofAssignment targets value =>
    have hbound := hk.boundAll value targets
    refine ⟨fun e he => ?_, hk.addBound hbound⟩
    obtain ⟨b, hb, rfl⟩ := List.mem_map.mp he
    exact ⟨Text.hasEncoding_ofString _, hbound b hb, hbound b hb⟩
  | nothing => exact ⟨fun _ he => absurd he List.not_mem_nil, hk⟩

theorem DeclaresAll.hasEncoding {k k' : Known} {body : List Stmt} {types values : List Entry}
    (h : DeclaresAll aliases k body types values k') (hk : k.HasEncoding) :
    ∀ e ∈ types ++ values, e.HasEncoding := by
  induction h with
  | nil => exact fun _ he => absurd he List.not_mem_nil
  | cons hs _ ih =>
    obtain ⟨hentries, hk'⟩ := hs.hasEncoding hk
    have hrest := ih hk'
    simp only [List.forall_mem_append] at hentries hrest ⊢
    exact ⟨⟨hentries.1, hrest.1⟩, hentries.2, hrest.2⟩

/-- Of what is shown of an accepted module only a comment can have a surrogate. -/
theorem Checker.python_hasEncoding {env : Environment} {module source : Text} {i : Interface} {c : Comments}
    (h : (Checker.python env).check module source = .ok (i, c)) :
    ∀ f ∈ (Record.build i c).types ++ (Record.build i c).values, f.HasEncoding ↔ f.comment.HasEncoding := by
  obtain ⟨body, _, hinterface, _⟩ := python_check_eq_ok h
  obtain ⟨types, values, k, hdeclares, rfl⟩ := Environment.interface_eq_ok hinterface
  have hentries := hdeclares.hasEncoding fun _ hb => absurd hb List.not_mem_nil
  rw [List.forall_mem_append] at hentries
  intro f hf
  refine ⟨fun hfield => hfield.comment, fun hcomment => ?_⟩
  rcases List.mem_append.mp hf with hf | hf
  · obtain ⟨e, he, rfl⟩ := List.mem_map.mp hf
    have hentry := hentries.1 e (List.mem_filter.mp he).1
    exact ⟨hentry.name, hentry.unresolved, hcomment⟩
  · obtain ⟨e, he, rfl⟩ := List.mem_map.mp hf
    have hentry := hentries.2 e (List.mem_filter.mp he).1
    exact ⟨hentry.name, hentry.resolved, hcomment⟩

end ModuleDocs
