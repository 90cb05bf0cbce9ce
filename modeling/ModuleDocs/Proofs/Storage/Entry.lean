import ModuleDocs.Proofs.Storage.Growth
import ModuleDocs.Proofs.TextOrder

/-!
# Entries of directories

What a directory lists, and what a request for one of its entries finds: the entry, unless its name or the path
to it is too long or the directory may not be searched. A path that is not too long has not too many parts. A request
that fails although something may be there is about a path that is too long or leads through a directory that may not
be searched.
-/

namespace ModuleDocs

open ModuleDocs.Path (above isName)

/-! ### Lengths of paths -/

namespace Text

theorem fileNameLength_append (s t : Text) : (s ++ t).fileNameLength = s.fileNameLength + t.fileNameLength :=
  total_append _ s t

theorem fileNameLength_pos {t : Text} (h : t ≠ []) : 0 < t.fileNameLength := by
  cases t with
  | nil => exact absurd rfl h
  | cons c cs =>
    have hc : 0 < if c.isSurrogate then 1 else (Utf8.encodePoint c.val).length := by
      split
      · exact Nat.one_pos
      · unfold Utf8.encodePoint
        split <;> [skip; split <;> [skip; split]] <;> simp
    rw [fileNameLength, total_cons]
    omega

/-- There are at least as many bytes as parts in a joined text, if no part is empty. -/
theorem length_le_fileNameLength_join {sep : Text} {parts : List Text} (h : ∀ x ∈ parts, x ≠ []) :
    parts.length ≤ (join sep parts).fileNameLength := by
  induction parts with
  | nil => exact Nat.zero_le _
  | cons t ts ih =>
    have ht := fileNameLength_pos (h t (List.mem_cons_self ..))
    have hts := ih fun x hx => h x (List.mem_cons_of_mem _ hx)
    cases ts with
    | nil =>
      rw [join_singleton]
      exact ht
    | cons u us =>
      rw [join_cons sep t (List.cons_ne_nil u us), fileNameLength_append, fileNameLength_append, List.length_cons]
      omega

end Text

/-- The text of a path that goes on below another one. -/
theorem text_below (p : Path) {rel : List Text} (h : rel ≠ []) :
    (p.below rel).text = p.anchor.text ++ Text.join [Path.slash] (p.parts ++ rel) := by
  have hparts : (p.below rel).parts ≠ [] := by simp [Path.below, h]
  rw [Path.text, if_neg fun he => hparts he.2]
  rfl

/-- A path is at least as long as the number of names it has below another one. -/
theorem length_le_fileNameLength_below (p : Path) {rel : List Text} (h : ∀ x ∈ rel, isName x = true) :
    rel.length ≤ (p.below rel).text.fileNameLength := by
  by_cases hrel : rel = []
  · rw [hrel]
    exact Nat.zero_le _
  · have hjoin : rel.length ≤ (Text.join [Path.slash] rel).fileNameLength :=
      Text.length_le_fileNameLength_join fun x hx => Path.isName_ne_nil (h x hx)
    rw [text_below p hrel, Text.fileNameLength_append]
    by_cases hp : p.parts = []
    · rw [hp, List.nil_append]
      omega
    · rw [Text.join_append _ hp hrel, Text.fileNameLength_append]
      omega

/-- A path that goes on is not shorter. -/
theorem fileNameLength_text_le_below (p : Path) {rel : List Text} (h : ∀ x ∈ rel, isName x = true) :
    p.text.fileNameLength ≤ (p.below rel).text.fileNameLength := by
  by_cases hrel : rel = []
  · rw [hrel, Path.below_nil]
  · by_cases hp : p.parts = []
    · -- The path is its anchor, or a single dot.
      have hpos := List.length_pos_iff.mpr hrel
      have hlen := length_le_fileNameLength_below p h
      have hdot : Text.fileNameLength [Path.dot] = 1 := by decide
      unfold Path.text
      split
      · rw [hdot]
        exact Nat.le_trans hpos hlen
      · rw [if_neg (by simp [Path.below, hrel]), hp]
        simp only [Text.fileNameLength_append]
        exact Nat.add_le_add_left (Nat.zero_le _) _
    · rw [text_below p hrel, Text.join_append _ hp hrel, Path.text, if_neg fun he => hp he.2]
      simp only [Text.fileNameLength_append]
      omega

namespace Disk

/-! ### Listings -/

theorem list_eq_ok {d : Disk} {p : Path} {names : List Text} :
    d.list p = .ok names ↔ d.locked.contains p.text = false ∧ ∃ place es,
      d.locate true p = .ok (.found place (.dir es)) ∧
        names = (es.map Prod.fst).mergeSort fun a b => !Text.lt b a := by
  unfold list node
  cases d.locked.contains p.text with
  | true => simp
  | false =>
    cases hloc : d.locate true p with
    | error f => simp
    | ok spot =>
      cases spot with
      | vacant place name => simp
      | found place n =>
        cases n with
        | file c => simp
        | link t => simp
        | dir es =>
          simp only [Except.ok.injEq, Spot.found.injEq, Node.dir.injEq, true_and, Bool.false_eq_true, if_false]
          constructor
          · rintro rfl
            exact ⟨place, es, ⟨rfl, rfl⟩, rfl⟩
          · rintro ⟨_, _, ⟨rfl, rfl⟩, rfl⟩
            rfl

theorem mem_listed {es : List (Text × Node)} {name : Text} :
    name ∈ ((es.map Prod.fst).mergeSort fun a b => !Text.lt b a) ↔ ∃ n, es.lookup name = some n := by
  rw [List.mem_mergeSort]
  constructor
  · intro h
    cases hl : es.lookup name with
    | some n => exact ⟨n, rfl⟩
    | none => exact absurd h (Entries.lookup_eq_none.mp hl)
  · rintro ⟨n, hn⟩
    exact List.mem_map.mpr ⟨_, Node.mem_of_lookup hn, rfl⟩

/-- The names in a directory of a well-formed tree are listed in increasing order. -/
theorem WellFormed.listed {d : Disk} (hd : d.WellFormed) {place : List Text} {es : List (Text × Node)}
    (h : d.root.get? place = some (.dir es)) :
    (∀ x ∈ (es.map Prod.fst).mergeSort fun a b => !Text.lt b a, isName x = true) ∧
      ((es.map Prod.fst).mergeSort fun a b => !Text.lt b a).Pairwise (· < ·) := by
  have hwf := (hd.get? h).1
  cases hwf with
  | dir hkeys hnames _ =>
    refine ⟨fun x hx => ?_, Text.sorted_pairwise hkeys⟩
    obtain ⟨e, he, rfl⟩ := List.mem_map.mp (List.mem_mergeSort.mp hx)
    exact hnames e he

/-! ### Requests for entries -/

/-- Why an entry of a directory cannot be asked for: its path is too long, the directory may not be searched, or its
name is too long. -/
def entryFault? (d : Disk) (p : Path) (place : List Text) (name : Text) : Option SystemFault :=
  if pathLimit ≤ (p.child name).text.fileNameLength then some .nameTooLong
  else if !d.allows .search place then some .denied
  else if nameLimit < name.fileNameLength then some .nameTooLong
  else none

theorem entryFault?_eq_none {d : Disk} {p : Path} {place : List Text} {name : Text} :
    d.entryFault? p place name = none ↔ (p.child name).text.fileNameLength < pathLimit ∧
      d.allows .search place = true ∧ name.fileNameLength ≤ nameLimit := by
  unfold entryFault?
  by_cases hpath : pathLimit ≤ (p.child name).text.fileNameLength
  · simp only [if_pos hpath, reduceCtorEq, Nat.not_lt.mpr hpath, false_and]
  · have hshort := Nat.lt_of_not_le hpath
    cases d.allows .search place with
    | false => simp only [if_neg hpath, Bool.not_false, if_true, reduceCtorEq, Bool.false_eq_true, false_and, and_false]
    | true =>
      by_cases hlen : nameLimit < name.fileNameLength
      · simp [hpath, hlen]
      · have hfit := Nat.le_of_not_lt hlen
        simp [hpath, hlen, hshort, hfit]

theorem Extends.entryFault? {d d' : Disk} (h : d.Extends d') (p : Path) (place : List Text) (name : Text) :
    d'.entryFault? p place name = d.entryFault? p place name := by
  rw [Disk.entryFault?, Disk.entryFault?, h.allows]

/-- A request for an entry of a directory finds the entry. A link is found only if it is not followed. -/
theorem locate_child {d : Disk} {p : Path} {place : List Text} {es : List (Text × Node)}
    (hp : d.locate true p = .ok (.found place (.dir es))) {name : Text} (hname : name ≠ above) {n : Node}
    (hn : es.lookup name = some n) (hclear : d.entryFault? p place name = none) {follow : Bool}
    (hlink : follow = false ∨ ∀ t, n ≠ .link t) :
    d.locate follow (p.child name) = .ok (.found (place ++ [name]) n) := by
  obtain ⟨hpath, hallowed, hlen⟩ := entryFault?_eq_none.mp hclear
  obtain ⟨_, hlead⟩ := locate_eq_ok.mp hp
  obtain ⟨left, hleft⟩ := hlead.append
  have hat : d.root.get? (place ++ [name]) = some n :=
    (Node.get?_entry hlead.holds name).trans hn
  rw [locate, if_neg (Nat.not_le.mpr hpath)]
  show d.resolve follow linkLimit [] (p.parts ++ [name]) = _
  rw [hleft follow [name] (List.cons_ne_nil _ _), resolve_cons _ _ _ _ _ _ ⟨hlead.holds, hallowed⟩, if_neg hname,
    if_neg (Nat.not_lt.mpr hlen), hn]
  cases n with
  | file c => rfl
  | dir es' => simp only [resolve_nil, hat]
  | link t =>
    rcases hlink with hf | hf
    · simp [hf]
    · exact absurd rfl (hf t)

theorem locate_child_fault {d : Disk} {p : Path} {place : List Text} {es : List (Text × Node)}
    (hp : d.locate true p = .ok (.found place (.dir es))) {name : Text} (hname : name ≠ above) {f : SystemFault}
    (hfault : d.entryFault? p place name = some f) (follow : Bool) : d.locate follow (p.child name) = .error f := by
  unfold entryFault? at hfault
  by_cases hpath : pathLimit ≤ (p.child name).text.fileNameLength
  · rw [if_pos hpath] at hfault
    cases hfault
    rw [locate, if_pos hpath]
  · obtain ⟨_, hlead⟩ := locate_eq_ok.mp hp
    obtain ⟨left, hleft⟩ := hlead.append
    rw [if_neg hpath] at hfault
    rw [locate, if_neg hpath]
    show d.resolve follow linkLimit [] (p.parts ++ [name]) = _
    rw [hleft follow [name] (List.cons_ne_nil _ _)]
    cases hallowed : d.allows .search place with
    | false =>
      rw [hallowed] at hfault
      cases hfault
      exact resolve_cons_denied d follow left name [] hlead.holds hallowed
    | true =>
      rw [hallowed] at hfault
      by_cases hlen : nameLimit < name.fileNameLength
      · simp only [Bool.not_true, Bool.false_eq_true, if_false, if_pos hlen, Option.some.injEq] at hfault
        subst hfault
        rw [resolve_cons _ _ _ _ _ _ ⟨hlead.holds, hallowed⟩, if_neg hname, if_pos hlen]
      · simp only [Bool.not_true, Bool.false_eq_true, if_false, if_neg hlen, reduceCtorEq] at hfault

theorem node_child {d : Disk} {p : Path} {place : List Text} {es : List (Text × Node)}
    (hp : d.locate true p = .ok (.found place (.dir es))) {name : Text} (hname : name ≠ above) {n : Node}
    (hn : es.lookup name = some n) (hclear : d.entryFault? p place name = none) :
    d.node false (p.child name) = .ok n := by
  rw [node, locate_child hp hname hn hclear (Or.inl rfl)]

theorem node_child_fault {d : Disk} {p : Path} {place : List Text} {es : List (Text × Node)}
    (hp : d.locate true p = .ok (.found place (.dir es))) {name : Text} (hname : name ≠ above) {f : SystemFault}
    (hfault : d.entryFault? p place name = some f) : d.node false (p.child name) = .error f := by
  rw [node, locate_child_fault hp hname hfault]

theorem entryFault?_not_absence {d : Disk} {p : Path} {place : List Text} {name : Text} {f : SystemFault}
    (h : d.entryFault? p place name = some f) : f.isAbsence = false := by
  unfold entryFault? at h
  split at h
  · cases h; rfl
  · split at h
    · cases h; rfl
    · split at h
      · cases h; rfl
      · cases h

/-- A request for something further below a directory finds it. -/
theorem locate_below {d : Disk} {p : Path} {place : List Text} {es : List (Text × Node)}
    (hp : d.locate true p = .ok (.found place (.dir es))) {rel : List Text} {n : Node}
    (hn : d.root.get? (place ++ rel) = some n) (hlink : ∀ t, n ≠ .link t) (hnames : ∀ x ∈ rel, isName x = true)
    (hshort : ∀ x ∈ rel, x.fileNameLength ≤ nameLimit) (hadmits : d.Admits place rel)
    (hlong : (p.below rel).text.fileNameLength < pathLimit) :
    d.locate true (p.below rel) = .ok (.found (place ++ rel) n) := by
  obtain ⟨_, hlead⟩ := locate_eq_ok.mp hp
  refine locate_eq_ok.mpr ⟨hlong, ?_⟩
  by_cases hrel : rel = []
  · subst hrel
    rw [List.append_nil, hlead.holds] at hn
    cases hn
    rw [Path.below_nil, List.append_nil]
    exact hlead
  · obtain ⟨left, hleft⟩ := hlead.append
    have hdown : Leads d true left place rel (.found (place ++ rel) n) :=
      .descend hn hlink (fun x hx => Path.isName_ne_above (hnames x hx)) hshort hadmits
    refine leads_of_resolve ?_
    show d.resolve true linkLimit [] (p.parts ++ rel) = _
    rw [hleft true rel hrel]
    exact hdown.resolve

theorem isDirectory_eq_true {d : Disk} {p : Path} :
    d.isDirectory p = .ok true ↔
      p.text.nameFault? = none ∧ ∃ place es, d.locate true p = .ok (.found place (.dir es)) := by
  unfold isDirectory node
  cases hname : p.text.nameFault? with
  | some f => simp
  | none =>
    cases hloc : d.locate true p with
    | error f => cases hf : f.isAbsence <;> simp [hf]
    | ok spot =>
      cases spot with
      | vacant place name => simp [SystemFault.isAbsence]
      | found place n => cases n <;> simp

theorem isDirectory_eq_error {d : Disk} {p : Path} {f : SystemFault} (h : d.isDirectory p = .error f) :
    d.node true p = .error f ∧ f.isAbsence = false := by
  unfold isDirectory at h
  split at h
  · cases h
  · split at h
    · cases h
    · cases h
    · rename_i g hnode
      split at h
      · cases h
      · rename_i habsent
        cases h
        exact ⟨hnode, by simpa using habsent⟩

/-! ### Refused paths -/

/-- A part of a path is too long, or a part of a link. -/
def LongPart (d : Disk) (parts : List Text) : Prop :=
  ∃ name, nameLimit < name.fileNameLength ∧
    (name ∈ parts ∨ ∃ place t, d.at? place = some (.link t) ∧ name ∈ (Path.ofText t).parts)

/-- A path that is refused: it is too long as a whole, or a part of it is. -/
def Refuses (d : Disk) (p : Path) : Prop := pathLimit ≤ p.text.fileNameLength ∨ d.LongPart p.parts

theorem LongPart.cons {d : Disk} {parts : List Text} (h : d.LongPart parts) (name : Text) :
    d.LongPart (name :: parts) := by
  obtain ⟨long, hlong, hpart | hlink⟩ := h
  · exact ⟨long, hlong, .inl (List.mem_cons_of_mem _ hpart)⟩
  · exact ⟨long, hlong, .inr hlink⟩

theorem LongPart.of_link {d : Disk} {parts place : List Text} {t : Text} (hlink : d.at? place = some (.link t))
    (h : d.LongPart ((Path.ofText t).parts ++ parts)) : d.LongPart parts := by
  obtain ⟨long, hlong, hpart | hother⟩ := h
  · rcases List.mem_append.mp hpart with hpart | hpart
    · exact ⟨long, hlong, .inr ⟨place, t, hlink, hpart⟩⟩
    · exact ⟨long, hlong, .inl hpart⟩
  · exact ⟨long, hlong, .inr hother⟩

def Shut (d : Disk) : Prop := ∃ place es, d.root.get? place = some (.dir es) ∧ d.allows .search place = false

/-- A request fails because nothing is there, because a name on the way is too long, or because a directory on the
way may not be searched. -/
theorem resolve_error {d : Disk} {follow : Bool} {links : Nat} {here parts : List Text} {f : SystemFault}
    (h : d.resolve follow links here parts = .error f) (hf : f.isAbsence = false) :
    f = .nameTooLong ∧ d.LongPart parts ∨ f = .denied ∧ d.Shut := by
  have hcons : ∀ {name : Text} {parts : List Text}, f = .nameTooLong ∧ d.LongPart parts ∨ f = .denied ∧ d.Shut →
      f = .nameTooLong ∧ d.LongPart (name :: parts) ∨ f = .denied ∧ d.Shut :=
    fun h => h.imp_left fun h => ⟨h.1, h.2.cons _⟩
  fun_induction d.resolve follow links here parts with
  | case6 links here name rest entries hdir hdenied =>
    cases h
    exact .inr ⟨rfl, here, entries, hdir, by simpa using hdenied⟩
  | case7 links here rest entries hdir hallowed ih => exact hcons (ih h)
  | case8 links here name rest entries hdir hallowed hname hlong =>
    cases h
    exact .inl ⟨rfl, name, hlong, .inl (List.mem_cons_self ..)⟩
  | case13 here name rest entries hdir hallowed hname hshort target hlink hfollow links path ih =>
    have hat : d.at? (here ++ [name]) = some (.link target) :=
      Node.at?_eq_link.mpr ((Node.get?_entry hdir name).trans hlink)
    exact hcons ((ih h).imp_left fun h => ⟨h.1, LongPart.of_link hat h.2⟩)
  | case16 links here name rest entries hdir hallowed hname hshort es hentry ih => exact hcons (ih h)
  | _ => cases h <;> cases hf

theorem node_refused {d : Disk} {follow : Bool} {p : Path} {f : SystemFault} (h : d.node follow p = .error f)
    (hf : f.isAbsence = false) : f = .nameTooLong ∧ d.Refuses p ∨ f = .denied ∧ d.Shut := by
  unfold node at h
  split at h
  · cases h
  · cases h
    cases hf
  · rename_i g hlocate
    cases h
    unfold locate at hlocate
    split at hlocate
    · rename_i hlong
      cases hlocate
      exact .inl ⟨rfl, .inl hlong⟩
    · exact (resolve_error hlocate hf).imp_left fun h => ⟨h.1, .inr h.2⟩

theorem Extends.refuses {d d' : Disk} (hx : d.Extends d') {p : Path} (h : d'.Refuses p) : d.Refuses p := by
  rcases h with hlong | ⟨long, hlong, hpart | ⟨place, t, hlink, hpart⟩⟩
  · exact .inl hlong
  · exact .inr ⟨long, hlong, .inl hpart⟩
  · exact .inr ⟨long, hlong, .inr ⟨place, t, (hx.link place t).mp hlink, hpart⟩⟩

end Disk

end ModuleDocs
