import ModuleDocs.Proofs.Alias.References

/-!
# Expansions as derivations

The expressions that an expansion gives, by rules with one for each way in which it deals with an expression. What
holds of all expansions is then shown rule by rule.
-/

namespace ModuleDocs

open Source

namespace Alias

/-- How an expression is expanded while the names in `active` are being expanded. -/
inductive Expands (read : Reader) (aliases : Aliases) : List String → Expr → Expr → Prop where
  | foreign {active : List String} {id : String} : aliases.get? id = none →
      Expands read aliases active (.name id) (.name id)
  -- An alias met while it is being expanded stays as written.
  | cyclic {active : List String} {id : String} {body : Expr} : aliases.get? id = some body → id ∈ active →
      Expands read aliases active (.name id) (.name id)
  | definition {active : List String} {id : String} {body r : Expr} : aliases.get? id = some body → id ∉ active →
      Expands read aliases (id :: active) body r → Expands read aliases active (.name id) r
  | reference {active : List String} {t : Text} {marked : Bool} {e r : Expr} : read t = .ok (some e) →
      e.longest < t.length → Expands read aliases active e r →
      Expands read aliases active (.constant (.str t marked)) r
  | text {active : List String} {t : Text} {marked : Bool} {o : Option Expr} : read t = .ok o →
      (∀ e, o = some e → ¬ e.longest < t.length) →
      Expands read aliases active (.constant (.str t marked)) (.constant (.str t marked))
  | constant {active : List String} {c : Constant} : (∀ t marked, c ≠ .str t marked) →
      Expands read aliases active (.constant c) (.constant c)
  | member {active : List String} {v w : Expr} {attr : String} : Expands read aliases active v w →
      Expands read aliases active (.member v attr) (.member w attr)
  | literal {active : List String} {v w s : Expr} : Expands read aliases active v w →
      w.baseName? = some "Literal" → Expands read aliases active (.subscript v s) (.subscript w s)
  | annotated {active : List String} {v w e d : Expr} {es : List Expr} : Expands read aliases active v w →
      w.baseName? = some "Annotated" → Expands read aliases active e d →
      Expands read aliases active (.subscript v (.node .tuple (e :: es))) (.subscript w (.node .tuple (d :: es)))
  | subscript {active : List String} {v w s t : Expr} : Expands read aliases active v w →
      w.baseName? ≠ some "Literal" → (w.baseName? = some "Annotated" → ∀ e es, s ≠ .node .tuple (e :: es)) →
      Expands read aliases active s t → Expands read aliases active (.subscript v s) (.subscript w t)
  | node {active : List String} {shape : Shape} {cs ds : List Expr} : cs.length = ds.length →
      (∀ p ∈ cs.zip ds, Expands read aliases active p.1 p.2) →
      Expands read aliases active (.node shape cs) (.node shape ds)

/-! ### Derivations of what the expansion gives -/

variable {read : Reader} {aliases : Aliases} {active : List String}

theorem expand_foreign {id : String} (hget : aliases.get? id = none) :
    expand read aliases active (.name id) = .ok (.name id) := by
  rw [expand]
  split <;> simp_all

theorem expand_cyclic {id : String} (hactive : id ∈ active) :
    expand read aliases active (.name id) = .ok (.name id) := by
  rw [expand]
  split <;> simp_all

theorem expand_definition {id : String} {body : Expr} (hget : aliases.get? id = some body) (hidle : id ∉ active) :
    expand read aliases active (.name id) = expand read aliases (id :: active) body := by
  rw [expand]
  split <;> simp_all

theorem expand_reference {t : Text} {marked : Bool} {e : Expr} (hread : read t = .ok (some e))
    (hshort : e.longest < t.length) :
    expand read aliases active (.constant (.str t marked)) = expand read aliases active e := by
  rw [expand, hread]
  simp [hshort]

theorem expand_text {t : Text} {marked : Bool} {o : Option Expr} (hread : read t = .ok o)
    (hlong : ∀ e, o = some e → ¬ e.longest < t.length) :
    expand read aliases active (.constant (.str t marked)) = .ok (.constant (.str t marked)) := by
  rw [expand, hread]
  cases o with
  | none => rfl
  | some e => simp [hlong e rfl]

theorem expand_constant {c : Constant} (hc : ∀ t marked, c ≠ .str t marked) :
    expand read aliases active (.constant c) = .ok (.constant c) := by
  rw [expand]
  exact hc

theorem expands_of_subscript {v s r : Expr}
    (hv : ∀ w, expand read aliases active v = .ok w → Expands read aliases active v w)
    (hfirst : ∀ e es, s = .node .tuple (e :: es) →
      ∀ d, expand read aliases active e = .ok d → Expands read aliases active e d)
    (hs : ∀ t, expand read aliases active s = .ok t → Expands read aliases active s t)
    (h : expand read aliases active (.subscript v s) = .ok r) : Expands read aliases active (.subscript v s) r := by
  rw [expand] at h
  obtain ⟨w, hw, hrest⟩ := bind_eq_ok.mp h
  have hbase := hv w hw
  by_cases hliteral : w.baseName? = some "Literal"
  · rw [if_pos hliteral] at hrest
    cases hrest
    exact .literal hbase hliteral
  · rw [if_neg hliteral] at hrest
    by_cases hannotated : w.baseName? = some "Annotated"
    · rw [if_pos hannotated] at hrest
      split at hrest
      · obtain ⟨d, hd, hr⟩ := bind_eq_ok.mp hrest
        cases hr
        exact .annotated hbase hannotated (hfirst _ _ rfl d hd)
      · rename_i hother
        obtain ⟨t, ht, hr⟩ := bind_eq_ok.mp hrest
        cases hr
        exact .subscript hbase hliteral (fun _ => hother) (hs t ht)
    · rw [if_neg hannotated] at hrest
      obtain ⟨t, ht, hr⟩ := bind_eq_ok.mp hrest
      cases hr
      exact .subscript hbase hliteral (fun he => absurd he hannotated) (hs t ht)

theorem expands_of_expand (read : Reader) (aliases : Aliases) (active : List String) (e : Expr) :
    ∀ r, expand read aliases active e = .ok r → Expands read aliases active e r := by
  refine expand.induct read aliases
    (fun active e => ∀ r, expand read aliases active e = .ok r → Expands read aliases active e r)
    (fun active cs => ∀ ds, expandAll read aliases active cs = .ok ds →
      cs.length = ds.length ∧ ∀ p ∈ cs.zip ds, Expands read aliases active p.1 p.2)
    ?foreign ?cyclic ?definition ?unreadable ?plain ?reference ?long ?constant ?member ?subscript ?node ?nil ?cons
    active e
  case foreign =>
    intro active id hget r h
    rw [expand_foreign hget] at h
    cases h
    exact .foreign hget
  case cyclic =>
    intro active id body hget hactive r h
    rw [expand_cyclic hactive] at h
    cases h
    exact .cyclic hget hactive
  case definition =>
    intro active id body hget hidle ih r h
    rw [expand_definition hget hidle] at h
    exact .definition hget hidle (ih r h)
  case unreadable =>
    intro active t marked f hread r h
    rw [expand, hread] at h
    cases h
  case plain =>
    intro active t marked hread r h
    have hnone : ∀ e : Expr, none = some e → ¬ e.longest < t.length := fun e he => by cases he
    rw [expand_text hread hnone] at h
    cases h
    exact .text hread hnone
  case reference =>
    intro active t marked e hread hshort ih r h
    rw [expand_reference hread hshort] at h
    exact .reference hread hshort (ih r h)
  case long =>
    intro active t marked e hread hlong r h
    have hlong' : ∀ e', some e = some e' → ¬ e'.longest < t.length := fun e' he => by cases he; exact hlong
    rw [expand_text hread hlong'] at h
    cases h
    exact .text hread hlong'
  case constant =>
    intro active c hc r h
    rw [expand_constant hc] at h
    cases h
    exact .constant hc
  case member =>
    intro active v attr ih r h
    rw [expand] at h
    obtain ⟨w, hw, hr⟩ := bind_eq_ok.mp h
    cases hr
    exact .member (ih w hw)
  case subscript =>
    intro active v s hv hfirst hs r h
    refine expands_of_subscript hv (fun e es he => ?_) hs h
    subst he
    exact hfirst
  case node =>
    intro active shape cs ih r h
    rw [expand] at h
    obtain ⟨ds, hds, hr⟩ := bind_eq_ok.mp h
    cases hr
    obtain ⟨hlength, hall⟩ := ih ds hds
    exact .node hlength hall
  case nil =>
    intro active ds h
    rw [expandAll] at h
    cases h
    simp
  case cons =>
    intro active c cs hc hcs ds h
    rw [expandAll] at h
    obtain ⟨d, hd, hrest⟩ := bind_eq_ok.mp h
    obtain ⟨ds', hds, hr⟩ := bind_eq_ok.mp hrest
    cases hr
    have hfirst := hc d hd
    obtain ⟨hlength, hall⟩ := hcs ds' hds
    simp only [List.length_cons, List.zip_cons_cons, List.forall_mem_cons]
    exact ⟨by omega, hfirst, hall⟩

theorem expandAll_of_zip {cs ds : List Expr}
    (hlength : cs.length = ds.length) (h : ∀ p ∈ cs.zip ds, expand read aliases active p.1 = .ok p.2) :
    expandAll read aliases active cs = .ok ds := by
  induction cs generalizing ds with
  | nil =>
    cases ds with
    | nil => rw [expandAll]
    | cons d ds => simp at hlength
  | cons c cs ih =>
    cases ds with
    | nil => simp at hlength
    | cons d ds =>
      simp only [List.zip_cons_cons, List.forall_mem_cons] at h
      have hrest := ih (by simpa using hlength) h.2
      rw [expandAll, h.1, hrest]
      rfl

theorem Expands.expand {e r : Expr} (h : Expands read aliases active e r) :
    expand read aliases active e = .ok r := by
  induction h with
  | foreign hget => exact expand_foreign hget
  | cyclic _ hactive => exact expand_cyclic hactive
  | definition hget hidle _ ih => rw [expand_definition hget hidle, ih]
  | reference hread hshort _ ih => rw [expand_reference hread hshort, ih]
  | text hread hlong => exact expand_text hread hlong
  | constant hc => exact expand_constant hc
  | member _ ih =>
    rw [Alias.expand, ih]
    rfl
  | literal _ hliteral ih =>
    rw [Alias.expand, ih]
    simp [bind, Except.bind, hliteral, pure, Except.pure]
  | annotated _ hannotated _ ihv ihe =>
    rw [Alias.expand, ihv]
    simp [bind, Except.bind, hannotated, pure, Except.pure, ihe]
  | @subscript _ v w s t _ hliteral hother _ ihv ihs =>
    rw [Alias.expand, ihv]
    simp only [bind, Except.bind, hliteral, pure, Except.pure, if_false]
    split
    · split
      · exact absurd rfl (hother ‹_› _ _)
      · rw [ihs]
    · rw [ihs]
  | node hlength _ ih =>
    rw [Alias.expand, expandAll_of_zip hlength ih]
    rfl

theorem expand_eq_ok {e r : Expr} :
    expand read aliases active e = .ok r ↔ Expands read aliases active e r :=
  ⟨expands_of_expand read aliases active e r, Expands.expand⟩

end Alias

end ModuleDocs
