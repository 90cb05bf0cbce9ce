import ModuleDocs.Proofs.Storage.Resolution
import ModuleDocs.Storage.Target

/-!
# How files grow

Writing pages only adds to a tree: links, directories and files stay, and the files that get another content
are those at the places written to. Whatever a path leads to, it leads to the same place afterwards.
-/

namespace ModuleDocs

open ModuleDocs.Path (above)

namespace Disk

/-! ### Extensions -/

/-- Everything that stands in the first tree stands in the second one, files perhaps with another content, and
both have the same links. What is new has a name that is not too long, in a directory that may be searched. -/
structure Extends (d d' : Disk) : Prop where
  locked : d'.locked = d.locked
  limits : d'.limits = d.limits
  link : ∀ place t, d'.at? place = some (.link t) ↔ d.at? place = some (.link t)
  dir : ∀ place, d.at? place = some .dir → d'.at? place = some .dir
  file : ∀ place c, d.at? place = some (.file c) → ∃ c', d'.at? place = some (.file c')
  fresh : ∀ place name, d.at? (place ++ [name]) = none → d'.at? (place ++ [name]) ≠ none →
    name.fileNameLength ≤ nameLimit ∧ d.allows .search place = true

theorem Extends.refl (d : Disk) : d.Extends d :=
  ⟨rfl, rfl, fun _ _ => Iff.rfl, fun _ h => h, fun _ c h => ⟨c, h⟩, fun _ _ h h' => absurd h h'⟩

theorem Extends.trans {a b c : Disk} (hab : a.Extends b) (hbc : b.Extends c) : a.Extends c where
  locked := hbc.locked.trans hab.locked
  limits := hbc.limits.trans hab.limits
  link place t := (hbc.link place t).trans (hab.link place t)
  dir place h := hbc.dir place (hab.dir place h)
  file place x h := by
    obtain ⟨y, hy⟩ := hab.file place x h
    exact hbc.file place y hy
  fresh place name ha hc := by
    by_cases hb : b.at? (place ++ [name]) = none
    · obtain ⟨hshort, hallowed⟩ := hbc.fresh place name hb hc
      exact ⟨hshort, by rwa [Disk.allows, hab.limits] at hallowed⟩
    · exact hab.fresh place name ha hb

theorem Extends.get?_dir {d d' : Disk} (h : d.Extends d') {place : List Text} {es : List (Text × Node)}
    (hes : d.root.get? place = some (.dir es)) : ∃ es', d'.root.get? place = some (.dir es') :=
  Node.at?_eq_dir.mp (h.dir place (Node.at?_eq_dir.mpr ⟨es, hes⟩))

theorem Extends.allows {d d' : Disk} (h : d.Extends d') (r : Right) (place : List Text) :
    d'.allows r place = d.allows r place := by
  rw [Disk.allows, Disk.allows, h.limits]

theorem Extends.searches {d d' : Disk} (h : d.Extends d') {place : List Text} {es : List (Text × Node)}
    (hes : d.Searches place es) : ∃ es', d'.Searches place es' := by
  obtain ⟨es', hes'⟩ := h.get?_dir hes.dir
  exact ⟨es', hes', (h.allows .search place).trans hes.allowed⟩

theorem Extends.isSome {d d' : Disk} (h : d.Extends d') {place : List Text} (hp : d.at? place ≠ none) :
    d'.at? place ≠ none := by
  cases hk : d.at? place with
  | none => exact absurd hk hp
  | some k =>
    cases k with
    | file c => obtain ⟨c', hc'⟩ := h.file place c hk; rw [hc']; exact Option.some_ne_none _
    | dir => rw [h.dir place hk]; exact Option.some_ne_none _
    | link t => rw [(h.link place t).mpr hk]; exact Option.some_ne_none _

/-- A path leads to the same place on an extension, whether something stood there before or not. -/
theorem Leads.mono {d d' : Disk} (hx : d.Extends d') {follow : Bool} {links : Nat} {here parts : List Text}
    {spot : Spot} (h : Leads d follow links here parts spot) :
    ∃ spot', Leads d' follow links here parts spot' ∧ spot'.place = spot.place := by
  induction h with
  | @here _ place n hn =>
    have hsome : d.at? place ≠ none := by
      rw [at?, Node.at?, hn]
      exact Option.some_ne_none _
    obtain ⟨n', hn'⟩ := Option.ne_none_iff_exists'.mp (fun h => hx.isSome hsome (Node.at?_eq_none.mpr h))
    exact ⟨_, .here hn', rfl⟩
  | up hes _ ih =>
    obtain ⟨es', hes'⟩ := hx.searches hes
    obtain ⟨spot', hl, hp⟩ := ih
    exact ⟨spot', .up hes' hl, hp⟩
  | @vacant _ here _ name hes hup hshort hnone =>
    obtain ⟨es', hes'⟩ := hx.searches hes
    cases hl : es'.lookup name with
    | none => exact ⟨_, .vacant hes' hup hshort hl, rfl⟩
    | some n =>
      have hat := (Node.get?_entry hes'.dir name).trans hl
      cases n with
      | file c => exact ⟨_, .file hes' hup hshort hl, rfl⟩
      | dir es'' => exact ⟨_, .down hes' hup hshort hl (.here hat), rfl⟩
      | link t =>
        -- Both trees have the same links, and the first one has nothing here.
        have hold := (hx.link _ _).mp (Node.at?_eq_link.mpr hat)
        rw [at?, Node.at?_eq_link, Node.get?_entry hes.dir, hnone] at hold
        cases hold
  | @linkEnd _ here _ name target hes hup hshort hl hf =>
    obtain ⟨es', hes'⟩ := hx.searches hes
    have hat := (hx.link (here ++ [name]) target).mpr (Node.at?_eq_link.mpr ((Node.get?_entry hes.dir name).trans hl))
    rw [at?, Node.at?_eq_link, Node.get?_entry hes'.dir] at hat
    exact ⟨_, .linkEnd hes' hup hshort hat hf, rfl⟩
  | @jump _ here _ _ name target _ hes hup hshort hl hgo _ ih =>
    obtain ⟨es', hes'⟩ := hx.searches hes
    have hat := (hx.link (here ++ [name]) target).mpr (Node.at?_eq_link.mpr ((Node.get?_entry hes.dir name).trans hl))
    rw [at?, Node.at?_eq_link, Node.get?_entry hes'.dir] at hat
    obtain ⟨spot', hlead, hp⟩ := ih
    exact ⟨spot', .jump hes' hup hshort hat hgo hlead, hp⟩
  | @file _ here _ name c hes hup hshort hl =>
    obtain ⟨es', hes'⟩ := hx.searches hes
    obtain ⟨c', hat⟩ := hx.file (here ++ [name]) c (Node.at?_eq_file.mpr ((Node.get?_entry hes.dir name).trans hl))
    rw [at?, Node.at?_eq_file, Node.get?_entry hes'.dir] at hat
    exact ⟨_, .file hes' hup hshort hat, rfl⟩
  | @down _ here _ _ _ name _ hes hup hshort hl _ ih =>
    obtain ⟨es', hes'⟩ := hx.searches hes
    obtain ⟨es'', hat⟩ := hx.get?_dir ((Node.get?_entry hes.dir name).trans hl)
    rw [Node.get?_entry hes'.dir] at hat
    obtain ⟨spot', hlead, hp⟩ := ih
    exact ⟨spot', .down hes' hup hshort hat hlead, hp⟩

/-! ### Requests for a path -/

theorem locate_eq_ok {d : Disk} {follow : Bool} {p : Path} {spot : Spot} :
    d.locate follow p = .ok spot ↔
      p.text.fileNameLength < pathLimit ∧ Leads d follow linkLimit [] p.parts spot := by
  unfold locate
  by_cases hlong : pathLimit ≤ p.text.fileNameLength
  · rw [if_pos hlong]
    constructor
    · intro h
      cases h
    · intro h
      exact absurd h.1 (Nat.not_lt.mpr hlong)
  · rw [if_neg hlong, resolve_eq_ok]
    exact ⟨fun h => ⟨Nat.lt_of_not_le hlong, h⟩, fun h => h.2⟩

theorem locate_holds {d : Disk} {follow : Bool} {p : Path} {spot : Spot} (h : d.locate follow p = .ok spot) :
    spot.Holds d := (locate_eq_ok.mp h).2.holds

/-- On an extension a path leads to the same place. -/
theorem Extends.locate {d d' : Disk} (hx : d.Extends d') {follow : Bool} {p : Path} {spot : Spot}
    (h : d.locate follow p = .ok spot) : ∃ spot', d'.locate follow p = .ok spot' ∧ spot'.place = spot.place := by
  obtain ⟨hshort, hlead⟩ := locate_eq_ok.mp h
  obtain ⟨spot', hlead', hp⟩ := hlead.mono hx
  exact ⟨spot', locate_eq_ok.mpr ⟨hshort, hlead'⟩, hp⟩

/-- A spot with something at its place is found. -/
theorem found_of_get? {d : Disk} {spot : Spot} (h : spot.Holds d) {n : Node}
    (hn : d.root.get? spot.place = some n) : spot = .found spot.place n := by
  cases spot with
  | found p m =>
    have hm : d.root.get? p = some m := h
    rw [show (Spot.found p m).place = p from rfl] at hn ⊢
    rw [hm] at hn
    cases hn
    rfl
  | vacant p name =>
    obtain ⟨⟨es, hes, hl⟩, _⟩ := h
    rw [show (Spot.vacant p name).place = p ++ [name] from rfl, Node.get?_entry hes, hl] at hn
    cases hn

theorem Extends.locate_found {d d' : Disk} (hx : d.Extends d') {follow : Bool} {p : Path} {spot : Spot}
    (h : d.locate follow p = .ok spot) {n : Node} (hn : d'.root.get? spot.place = some n) :
    d'.locate follow p = .ok (.found spot.place n) := by
  obtain ⟨spot', hloc, hp⟩ := hx.locate h
  rw [← hp] at hn ⊢
  rw [hloc, ← found_of_get? (locate_holds hloc) hn]

/-! ### Updates -/

/-- One place gets something new, and the rest stays as it is. -/
structure Updates (d d' : Disk) (place : List Text) (k : Node.Kind) : Prop where
  locked : d'.locked = d.locked
  limits : d'.limits = d.limits
  at?_eq : ∀ q, d'.at? q = if q = place then some k else d.at? q

theorem Updates.at?_self {d d' : Disk} {place : List Text} {k : Node.Kind} (h : Updates d d' place k) :
    d'.at? place = some k := by
  rw [h.at?_eq, if_pos rfl]

theorem Updates.at?_ne {d d' : Disk} {place q : List Text} {k : Node.Kind} (h : Updates d d' place k)
    (hq : q ≠ place) : d'.at? q = d.at? q := by
  rw [h.at?_eq, if_neg hq]

/-- An update extends the tree if it puts no link, has a name that is not too long in a directory that may be searched
where nothing was, and replaces files by files only. -/
theorem Updates.extends {d d' : Disk} {place : List Text} {k : Node.Kind} (h : Updates d d' place k)
    (hk : ∀ t, k ≠ .link t) (hfresh : ∀ above name, d.at? place = none → above ++ [name] = place →
      name.fileNameLength ≤ nameLimit ∧ d.allows .search above = true)
    (hold : d.at? place = none ∨ ∃ c c', d.at? place = some (.file c) ∧ k = .file c') : d.Extends d' where
  locked := h.locked
  limits := h.limits
  link q t := by
    by_cases hq : q = place
    · subst hq
      rw [h.at?_self]
      constructor
      · intro he
        exact absurd (Option.some.inj he) (hk t)
      · intro he
        rcases hold with hnone | ⟨c, c', hc, _⟩
        · rw [hnone] at he; cases he
        · rw [hc] at he; cases he
    · rw [h.at?_ne hq]
  dir q hq := by
    by_cases he : q = place
    · subst he
      rcases hold with hnone | ⟨c, c', hc, _⟩
      · rw [hnone] at hq; cases hq
      · rw [hc] at hq; cases hq
    · rw [h.at?_ne he]
      exact hq
  file q c hq := by
    by_cases he : q = place
    · subst he
      rcases hold with hnone | ⟨_, c', _, hc'⟩
      · rw [hnone] at hq; cases hq
      · exact ⟨c', hc' ▸ h.at?_self⟩
    · exact ⟨c, (h.at?_ne he).trans hq⟩
  fresh q name hnone hnew := by
    by_cases he : q ++ [name] = place
    · exact hfresh q name (he ▸ hnone) he
    · rw [h.at?_ne he] at hnew
      exact absurd hnone hnew

/-- A leaf put at a place below a directory, where nothing is further below. -/
theorem put_updates {d : Disk} {place : List Text} {name : Text} {new : Node} (hnew : new.IsLeaf)
    (hdir : d.at? place = some .dir)
    (hold : d.at? (place ++ [name]) = none ∨ ∃ c, d.at? (place ++ [name]) = some (.file c)) :
    Updates d (d.put (place ++ [name]) new) (place ++ [name]) new.kind := by
  refine ⟨rfl, rfl, fun q => Node.at?_put hnew hdir (fun x rest => ?_) q⟩
  have hsplit : place ++ name :: x :: rest = (place ++ [name]) ++ x :: rest := by simp
  rw [hsplit, Node.get?_append]
  rcases hold with hnone | ⟨c, hc⟩
  · rw [Node.at?_eq_none.mp hnone]
    rfl
  · rw [Node.at?_eq_file.mp hc]
    exact Node.get?_file_cons c x rest

theorem put_file_updates {d : Disk} {place : List Text} {c : List UInt8} (hold : d.at? place = some (.file c))
    (c' : List UInt8) : Updates d (d.put place (.file c')) place (.file c') := by
  rcases List.eq_nil_or_concat place with rfl | ⟨above, name, rfl⟩
  · -- The whole tree is one file.
    have hroot : d.root = .file c := by
      rw [at?, Node.at?_eq_file, Node.get?_nil] at hold
      exact Option.some.inj hold
    refine ⟨rfl, rfl, fun q => ?_⟩
    cases q with
    | nil => rfl
    | cons x rest =>
      rw [if_neg (List.cons_ne_nil x rest), at?, at?, hroot, (Node.isLeaf_file c).at?_cons]
      exact (Node.isLeaf_file c').at?_cons x rest
  · rw [List.concat_eq_append] at hold ⊢
    obtain ⟨es, hes, _⟩ := Node.get?_snoc (Node.at?_eq_file.mp hold)
    exact put_updates (Node.isLeaf_file c') (Node.at?_eq_dir.mpr ⟨es, hes⟩) (Or.inr ⟨c, hold⟩)

/-- A leaf put where a directory does not have a name. -/
theorem put_vacant {d : Disk} {place : List Text} {name : Text} {new : Node} (hnew : new.IsLeaf)
    (hlink : ∀ t, new.kind ≠ .link t) (h : (Spot.vacant place name).Holds d) :
    d.at? (place ++ [name]) = none ∧ Updates d (d.put (place ++ [name]) new) (place ++ [name]) new.kind ∧
      d.Extends (d.put (place ++ [name]) new) := by
  obtain ⟨⟨es, hes, hl⟩, _, hshort, hallowed⟩ := h
  have hnone : d.at? (place ++ [name]) = none := Node.at?_eq_none.mpr ((Node.get?_entry hes name).trans hl)
  have hup := put_updates hnew (Node.at?_eq_dir.mpr ⟨es, hes⟩) (Or.inl hnone)
  refine ⟨hnone, hup, hup.extends hlink (fun above x _ hx => ?_) (Or.inl hnone)⟩
  obtain ⟨rfl, hname⟩ := List.append_inj' hx rfl
  cases hname
  exact ⟨hshort, hallowed⟩

/-! ### Making directories -/

theorem makeDirectory_eq_ok {d d' : Disk} {p : Path} :
    d.makeDirectory p = .ok d' ↔ ∃ place name, d.locate false p = .ok (.vacant place name) ∧
      d.allows .write place = true ∧ d' = d.put (place ++ [name]) (.dir []) := by
  constructor
  · intro h
    unfold makeDirectory at h
    split at h
    · cases h
    · rename_i place name hloc
      split at h
      · rename_i hallowed
        cases h
        exact ⟨place, name, hloc, hallowed, rfl⟩
      · cases h
    · cases h
  · rintro ⟨place, name, hloc, hallowed, rfl⟩
    rw [makeDirectory, hloc]
    exact if_pos hallowed

theorem makeDirectory_updates {d d' : Disk} {p : Path} (h : d.makeDirectory p = .ok d') :
    ∃ place, d.at? place = none ∧ Updates d d' place .dir ∧ d.Extends d' := by
  obtain ⟨place, name, hloc, _, rfl⟩ := makeDirectory_eq_ok.mp h
  exact ⟨_, put_vacant Node.isLeaf_dir_nil (fun _ he => by cases he) (locate_holds hloc)⟩

/-- Making a directory and those above it is making directories one after the other: what each of them
preserves, all of them do. -/
theorem makeDirectories_induction (R : Disk → Disk → Prop) (hrefl : ∀ d, R d d)
    (htrans : ∀ a b c, R a b → R b c → R a c) (p : Path)
    (hstep : ∀ (q : Path) (d d' : Disk), q.parts <+: p.parts → d.makeDirectory q = .ok d' → R d d')
    (levels : Nat) (d : Disk) : R d (d.makeDirectories p levels).1 := by
  induction levels generalizing p d with
  | zero =>
    unfold makeDirectories
    cases hm : d.makeDirectory p with
    | ok d' => exact hstep p d d' (List.prefix_refl _) hm
    | error f => cases f <;> exact hrefl d
  | succ levels ih =>
    unfold makeDirectories
    cases hm : d.makeDirectory p with
    | ok d' => exact hstep p d d' (List.prefix_refl _) hm
    | error f =>
      have hup : p.parent.parts <+: p.parts := List.dropLast_prefix p.parts
      have hrec := ih p.parent (fun q d d' hq => hstep q d d' (hq.trans hup)) d
      cases f with
      | notFound =>
        cases hr : d.makeDirectories p.parent levels with
        | mk d₁ r =>
          rw [hr] at hrec
          cases r with
          | some r => simpa only [hr] using hrec
          | none =>
            dsimp only
            cases hm' : d₁.makeDirectory p with
            | ok d' => exact htrans _ _ _ hrec (hstep p d₁ d' (List.prefix_refl _) hm')
            | error f => cases f <;> exact hrec
      | _ => exact hrefl d

/-! ### Files that are kept -/

/-- Files outside some places are there before and after with the same content. -/
def KeepsFiles (d d' : Disk) (written : List Text → Prop) : Prop :=
  ∀ place c, ¬ written place → (d'.at? place = some (.file c) ↔ d.at? place = some (.file c))

theorem KeepsFiles.refl (d : Disk) (written : List Text → Prop) : d.KeepsFiles d written :=
  fun _ _ _ => Iff.rfl

theorem KeepsFiles.trans {a b c : Disk} {written : List Text → Prop} (hab : a.KeepsFiles b written)
    (hbc : b.KeepsFiles c written) : a.KeepsFiles c written :=
  fun place x h => (hbc place x h).trans (hab place x h)

theorem KeepsFiles.mono {a b : Disk} {written more : List Text → Prop} (h : a.KeepsFiles b written)
    (hmore : ∀ place, written place → more place) : a.KeepsFiles b more :=
  fun place c hn => h place c fun hw => hn (hmore place hw)

theorem Updates.keepsFiles {d d' : Disk} {place : List Text} {k : Node.Kind} (h : Updates d d' place k) :
    d.KeepsFiles d' (· = place) := by
  intro q c hq
  rw [h.at?_ne hq]

theorem Updates.keepsFiles_dir {d d' : Disk} {place : List Text} (h : Updates d d' place .dir)
    (hnone : d.at? place = none) : d.KeepsFiles d' fun _ => False := by
  intro q c _
  by_cases hq : q = place
  · subst hq
    rw [h.at?_self, hnone]
    constructor <;> intro he <;> cases he
  · rw [h.at?_ne hq]

theorem makeDirectories_grows (d : Disk) (p : Path) (levels : Nat) :
    d.Extends (d.makeDirectories p levels).1 ∧ d.KeepsFiles (d.makeDirectories p levels).1 fun _ => False := by
  refine makeDirectories_induction (fun d d' => d.Extends d' ∧ d.KeepsFiles d' fun _ => False)
    (fun d => ⟨.refl d, .refl d _⟩) (fun a b c hab hbc => ⟨hab.1.trans hbc.1, hab.2.trans hbc.2⟩) p ?_ levels d
  intro q d d' _ hm
  obtain ⟨place, hnone, hup, hx⟩ := makeDirectory_updates hm
  exact ⟨hx, hup.keepsFiles_dir hnone⟩

/-! ### Opening and filling files -/

end Disk

namespace Spot

def Writable (d : Disk) : Spot → Prop
  | found p n => (∃ c, n = .file c) ∧ d.allows .write p = true
  | vacant p name => d.allows .write p = true ∧ d.allows .write (p ++ [name]) = true

theorem Writable.allows {d : Disk} {spot : Spot} (h : spot.Writable d) : d.allows .write spot.place = true := by
  cases spot with
  | found p n => exact h.2
  | vacant p name => exact h.2

end Spot

namespace Disk

theorem openFile_eq_ok {d d' : Disk} {p : Path} {place : List Text} :
    d.openFile p = .ok (d', place) ↔ ∃ spot, d.locate true p = .ok spot ∧ spot.Writable d ∧ spot.place = place ∧
      d' = d.put place (.file []) := by
  constructor
  · intro h
    unfold openFile at h
    split at h
    · rename_i here c hloc
      split at h
      · rename_i hallowed
        cases h
        exact ⟨_, hloc, ⟨⟨c, rfl⟩, hallowed⟩, rfl, rfl⟩
      · cases h
    · cases h
    · cases h
    · rename_i here name hloc
      split at h
      · rename_i hallowed
        cases h
        exact ⟨_, hloc, Bool.and_eq_true_iff.mp hallowed, rfl, rfl⟩
      · cases h
    · cases h
  · rintro ⟨spot, hloc, hwritable, rfl, rfl⟩
    rw [openFile, hloc]
    cases spot with
    | found here n =>
      obtain ⟨⟨c, rfl⟩, hallowed⟩ := hwritable
      exact if_pos hallowed
    | vacant here name => exact if_pos (Bool.and_eq_true_iff.mpr hwritable)

/-- A file that is opened is at the place that its path leads to, and the rest stays as it is. -/
theorem openFile_updates {d d' : Disk} {p : Path} {place : List Text} (h : d.openFile p = .ok (d', place)) :
    Updates d d' place (.file []) ∧ d.Extends d' ∧ d'.locate true p = .ok (.found place (.file [])) := by
  obtain ⟨spot, hloc, hwritable, rfl, rfl⟩ := openFile_eq_ok.mp h
  have hholds := locate_holds hloc
  cases spot with
  | found here n =>
    obtain ⟨⟨c, rfl⟩, _⟩ := hwritable
    have hold : d.at? here = some (.file c) := Node.at?_eq_file.mpr hholds
    have hup := put_file_updates hold []
    have hx := hup.extends (fun _ he => by cases he) (fun _ _ hnone _ => by rw [hold] at hnone; cases hnone)
      (Or.inr ⟨c, [], hold, rfl⟩)
    exact ⟨hup, hx, hx.locate_found hloc (Node.at?_eq_file.mp hup.at?_self)⟩
  | vacant here name =>
    obtain ⟨_, hup, hx⟩ := put_vacant (Node.isLeaf_file []) (fun _ he => by cases he) hholds
    exact ⟨hup, hx, hx.locate_found hloc (Node.at?_eq_file.mp hup.at?_self)⟩

/-- A file that stands somewhere gets another content, and the rest stays as it is. -/
theorem put_file_located {d : Disk} {p : Path} {place : List Text} {c : List UInt8}
    (hloc : d.locate true p = .ok (.found place (.file c))) (c' : List UInt8) :
    Updates d (d.put place (.file c')) place (.file c') ∧ d.Extends (d.put place (.file c')) ∧
      (d.put place (.file c')).locate true p = .ok (.found place (.file c')) := by
  have hold : d.at? place = some (.file c) := Node.at?_eq_file.mpr (locate_holds hloc)
  have hup := put_file_updates hold c'
  have hx := hup.extends (fun _ he => by cases he) (fun _ _ hnone _ => by rw [hold] at hnone; cases hnone)
    (Or.inr ⟨c, c', hold, rfl⟩)
  exact ⟨hup, hx, hx.locate_found hloc (Node.at?_eq_file.mp hup.at?_self)⟩

theorem Extends.held {d d' : Disk} (h : d.Extends d') (place : List Text) (content : List UInt8) :
    d'.held place content = d.held place content := by
  rw [Disk.held, Disk.held, h.limits]

/-- What a file holds is all of the content, or a shorter start of it and the fault of the room. -/
theorem held_cases (d : Disk) (place : List Text) (content : List UInt8) :
    d.held place content = (content, none) ∨
      ∃ n f, n < content.length ∧ d.held place content = (content.take n, some f) := by
  unfold held
  cases d.limits.rooms.lookup place with
  | none => exact .inl rfl
  | some room =>
    by_cases h : content.length ≤ room.size
    · exact .inl (if_pos h)
    · exact .inr ⟨room.size, room.fault, Nat.lt_of_not_le h, if_neg h⟩

/-- A file at the place can hold the text. -/
def RoomAt (d : Disk) (place : List Text) (text : Text) : Prop :=
  ∀ bytes, text.toUtf8 = .ok bytes → d.held place bytes = (bytes, none)

/-- Every file can hold the text. -/
def HasRoom (d : Disk) (text : Text) : Prop := ∀ place, d.RoomAt place text

theorem read_eq_ok {d : Disk} {p : Path} {c : List UInt8} :
    d.read p = .ok c ↔
      ∃ place, d.locate true p = .ok (.found place (.file c)) ∧ d.allows .read place = true := by
  constructor
  · intro h
    unfold read at h
    split at h
    · rename_i place content hloc
      split at h
      · rename_i hallowed
        cases h
        exact ⟨place, hloc, hallowed⟩
      · cases h
    all_goals cases h
  · rintro ⟨place, hloc, hallowed⟩
    rw [read, hloc]
    exact if_pos hallowed

end Disk

/-! ### Writing pages -/

def PagePlace (d : Disk) (output source : Path) (suffix : Text) (place : List Text) : Prop :=
  ∃ target c, pagePath output source suffix = .ok target ∧ d.locate true target = .ok (.found place (.file c))

theorem PagePlace.extends {d d' : Disk} (hx : d.Extends d') {output source : Path} {suffix : Text}
    {place : List Text} (h : PagePlace d output source suffix place) :
    PagePlace d' output source suffix place := by
  obtain ⟨target, c, htarget, hloc⟩ := h
  obtain ⟨c', hc'⟩ := hx.file place c (Node.at?_eq_file.mpr (Disk.locate_holds hloc))
  exact ⟨target, c', htarget, hx.locate_found hloc (Node.at?_eq_file.mp hc')⟩

/-- The failures of a page that is not open yet: its directory cannot be made, or it cannot be opened. -/
def OpeningFailure (target : Path) (f : Failure) : Prop :=
  (∃ r, f = folderFailure target.parent r) ∨ ∃ g, f = pageFailure target g (.system g target.text)

/-- What becomes of the files when a page is opened. -/
inductive PageOpening (d : Disk) (target : Path) : Disk × Except Halt (List Text) → Prop where
  /-- No file can have the path of the page or of its directory. -/
  | misnamed {d' : Disk} {f : NameFault} : target.parent.text.nameFault? = some f ∨ target.text.nameFault? = some f →
      d.Extends d' → d.KeepsFiles d' (fun _ => False) → PageOpening d target (d', .error (.name f))
  | refused {d' : Disk} {f : Failure} : OpeningFailure target f → d.Extends d' → d.KeepsFiles d' (fun _ => False) →
      PageOpening d target (d', .error (.failure f))
  /-- The page is open, and it is empty. -/
  | opened {d' : Disk} {place : List Text} : target.text.nameFault? = none → d.allows .write place = true →
      d.Extends d' → d.KeepsFiles d' (· = place) → d'.locate true target = .ok (.found place (.file [])) →
      PageOpening d target (d', .ok place)

theorem openPage_cases (d : Disk) (target : Path) : PageOpening d target (openPage d target) := by
  unfold openPage
  dsimp only
  cases hfolder : target.parent.text.nameFault? with
  | some f => exact .misnamed (.inl hfolder) (.refl d) (.refl d _)
  | none =>
    obtain ⟨hx₁, hkeep₁⟩ := d.makeDirectories_grows target.parent target.parent.parts.length
    cases hdirs : d.makeDirectories target.parent target.parent.parts.length with
    | mk d₁ refusal =>
      rw [hdirs] at hx₁ hkeep₁
      cases refusal with
      | some r => exact .refused (.inl ⟨r, rfl⟩) hx₁ hkeep₁
      | none =>
        dsimp only
        cases hname : target.text.nameFault? with
        | some f => exact .misnamed (.inr hname) hx₁ hkeep₁
        | none =>
          cases hopen : d₁.openFile target with
          | error f => exact .refused (.inr ⟨f, rfl⟩) hx₁ hkeep₁
          | ok opened =>
            obtain ⟨d₂, place⟩ := opened
            obtain ⟨hup, hx₂, hloc⟩ := Disk.openFile_updates hopen
            obtain ⟨spot, _, hwritable, rfl, _⟩ := Disk.openFile_eq_ok.mp hopen
            have hallowed := (hx₁.allows .write spot.place).symm.trans hwritable.allows
            exact .opened hname hallowed (hx₁.trans hx₂) ((hkeep₁.mono fun _ h => h.elim).trans hup.keepsFiles) hloc

/-- The failure of a page that is open. Its cause names no path. -/
def fillFailure (target : Path) (f : SystemFault) : Failure :=
  pageFailure target f (.systemDetails [.ofNat f.number, .ofString f.text])

/-- The steps of a write that can fail, and what has become of the files by then. -/
inductive WriteFailure (d : Disk) (output source : Path) (suffix text : Text) : Disk → Halt → Prop where
  /-- The page has no path. -/
  | pathless {f : PathFault} : pagePath output source suffix = .error f →
      WriteFailure d output source suffix text d (.path f)
  /-- No file can have the path of the page or of its directory. -/
  | misnamed {d' : Disk} {target : Path} {f : NameFault} : pagePath output source suffix = .ok target →
      target.parent.text.nameFault? = some f ∨ target.text.nameFault? = some f → d.Extends d' →
      d.KeepsFiles d' (fun _ => False) → WriteFailure d output source suffix text d' (.name f)
  /-- A directory cannot be made, or the page cannot be opened. -/
  | refused {d' : Disk} {target : Path} {f : Failure} : pagePath output source suffix = .ok target →
      OpeningFailure target f → d.Extends d' → d.KeepsFiles d' (fun _ => False) →
      WriteFailure d output source suffix text d' (.failure f)
  /-- The page is open, and its text has no encoding. -/
  | emptied {d' : Disk} {fault : EncodeFault} {target : Path} {place : List Text} :
      text.toUtf8 = .error fault → pagePath output source suffix = .ok target → d.Extends d' →
      d.KeepsFiles d' (· = place) → d'.locate true target = .ok (.found place (.file [])) →
      WriteFailure d output source suffix text d' (.unencodable fault)
  /-- The page is open, and it cannot hold its text. -/
  | cut {d' : Disk} {bytes : List UInt8} {n : Nat} {f : SystemFault} {target : Path} {place : List Text} :
      text.toUtf8 = .ok bytes → n < bytes.length → d.held place bytes = (bytes.take n, some f) →
      pagePath output source suffix = .ok target → d.Extends d' → d.KeepsFiles d' (· = place) →
      d'.locate true target = .ok (.found place (.file (bytes.take n))) →
      WriteFailure d output source suffix text d' (.failure (fillFailure target f))

/-- What becomes of the files when a page is written. -/
inductive PageWriting (d : Disk) (output source : Path) (suffix text : Text) : Disk × Except Halt Path → Prop where
  | failed {d' : Disk} {h : Halt} : WriteFailure d output source suffix text d' h →
      PageWriting d output source suffix text (d', .error h)
  /-- The page is there. -/
  | written {d' : Disk} {target : Path} {place : List Text} {bytes : List UInt8} : d.Extends d' →
      d.KeepsFiles d' (· = place) → pagePath output source suffix = .ok target → target.text.nameFault? = none →
      d.allows .write place = true → Text.toUtf8 text = .ok bytes → d.held place bytes = (bytes, none) →
      d'.locate true target = .ok (.found place (.file bytes)) →
      PageWriting d output source suffix text (d', .ok target)

theorem writePage_cases (d : Disk) (output source : Path) (suffix text : Text) :
    PageWriting d output source suffix text (writePage d output source suffix text) := by
  unfold writePage
  cases htarget : pagePath output source suffix with
  | error f => exact .failed (.pathless htarget)
  | ok target =>
    have hopening := openPage_cases d target
    dsimp only
    generalize openPage d target = opening at hopening
    cases hopening with
    | misnamed hf hx hkeep => exact .failed (.misnamed htarget hf hx hkeep)
    | refused hf hx hkeep => exact .failed (.refused htarget hf hx hkeep)
    | @opened d₁ place hname hallowed hx hkeep hloc =>
      dsimp only
      unfold fillPage
      cases hbytes : Text.toUtf8 text with
      | error f => exact .failed (.emptied hbytes htarget hx hkeep hloc)
      | ok bytes =>
        have hheld := hx.held place bytes
        dsimp only [Disk.fill]
        rcases d.held_cases place bytes with hall | ⟨n, f, hn, hpart⟩
        · obtain ⟨hup, hx₂, hloc₂⟩ := Disk.put_file_located hloc bytes
          rw [hheld, hall]
          exact .written (hx.trans hx₂) (hkeep.trans hup.keepsFiles) htarget hname hallowed hbytes hall hloc₂
        · obtain ⟨hup, hx₂, hloc₂⟩ := Disk.put_file_located hloc (bytes.take n)
          rw [hheld, hpart]
          exact .failed (.cut hbytes hn hpart htarget (hx.trans hx₂) (hkeep.trans hup.keepsFiles) hloc₂)

theorem writePage_failure {d d' : Disk} {output source : Path} {suffix text : Text} {h : Halt}
    (hw : writePage d output source suffix text = (d', .error h)) :
    WriteFailure d output source suffix text d' h := by
  have hcases := writePage_cases d output source suffix text
  rw [hw] at hcases
  cases hcases with
  | failed hfailure => exact hfailure

theorem WriteFailure.extends {d d' : Disk} {output source : Path} {suffix text : Text} {h : Halt}
    (hw : WriteFailure d output source suffix text d' h) : d.Extends d' := by
  cases hw with
  | pathless _ => exact .refl d
  | misnamed _ _ hx _ => exact hx
  | refused _ _ hx _ => exact hx
  | emptied _ _ hx _ _ => exact hx
  | cut _ _ _ _ hx _ _ => exact hx

theorem WriteFailure.keepsFiles {d d' : Disk} {output source : Path} {suffix text : Text} {h : Halt}
    (hw : WriteFailure d output source suffix text d' h) :
    d.KeepsFiles d' (PagePlace d' output source suffix) := by
  cases hw with
  | pathless _ => exact .refl d _
  | misnamed _ _ _ hkeep => exact hkeep.mono fun _ h => h.elim
  | refused _ _ _ hkeep => exact hkeep.mono fun _ h => h.elim
  | emptied _ htarget _ hkeep hloc => exact hkeep.mono fun _ h => h ▸ ⟨_, _, htarget, hloc⟩
  | cut _ _ _ htarget _ hkeep hloc => exact hkeep.mono fun _ h => h ▸ ⟨_, _, htarget, hloc⟩

theorem PageWriting.extends {d : Disk} {output source : Path} {suffix text : Text}
    {r : Disk × Except Halt Path} (h : PageWriting d output source suffix text r) : d.Extends r.1 := by
  cases h with
  | failed hfailure => exact hfailure.extends
  | written hx _ _ _ _ _ _ _ => exact hx

/-- The only file that writing a page makes or changes is the page. -/
theorem PageWriting.keepsFiles {d : Disk} {output source : Path} {suffix text : Text}
    {r : Disk × Except Halt Path} (h : PageWriting d output source suffix text r) :
    d.KeepsFiles r.1 (PagePlace r.1 output source suffix) := by
  cases h with
  | failed hfailure => exact hfailure.keepsFiles
  | written _ hkeep htarget _ _ _ _ hloc => exact hkeep.mono fun _ h => h ▸ ⟨_, _, htarget, hloc⟩

/-! ### Well-formed trees stay well-formed -/

namespace Disk

/-- Every directory has its entries under different names that a path can hold. -/
def WellFormed (d : Disk) : Prop := d.root.WellFormed

instance (d : Disk) : Decidable d.WellFormed := inferInstanceAs (Decidable d.root.WellFormed)

theorem Leads.vacant_isPart {d : Disk} {follow : Bool} {links : Nat} {here parts place : List Text} {name : Text}
    (h : Leads d follow links here parts (.vacant place name))
    (hparts : ∀ x ∈ parts, Path.isPart x = true) : Path.isPart name = true := by
  generalize hs : Spot.vacant place name = spot at h
  induction h with
  | here => cases hs
  | up _ _ ih => exact ih (fun x hx => hparts x (List.mem_cons_of_mem _ hx)) hs
  | vacant =>
    cases hs
    exact hparts _ (List.mem_cons_self ..)
  | linkEnd => cases hs
  | @jump _ _ _ _ _ target _ _ _ _ _ _ _ ih =>
    refine ih (fun x hx => ?_) hs
    rcases List.mem_append.mp hx with hx | hx
    · exact Path.plain_ofText target x hx
    · exact hparts x (List.mem_cons_of_mem _ hx)
  | file => cases hs
  | down _ _ _ _ _ ih => exact ih (fun x hx => hparts x (List.mem_cons_of_mem _ hx)) hs

/-- Where a plain path leads, it leads by names. -/
theorem place_names {d : Disk} (hd : d.WellFormed) {follow : Bool} {p : Path} (hp : p.Plain) {spot : Spot}
    (h : d.locate follow p = .ok spot) : ∀ name ∈ spot.place, Path.isName name = true := by
  obtain ⟨_, hlead⟩ := locate_eq_ok.mp h
  have hholds := hlead.holds
  cases spot with
  | found place n => exact (hd.get? hholds).2
  | vacant place name =>
    obtain ⟨⟨es, hes, _⟩, hup, _⟩ := hholds
    have hname : Path.isName name = true := by
      rw [Path.isName, hlead.vacant_isPart hp, Bool.true_and]
      simpa using hup
    exact List.forall_mem_append.mpr ⟨(hd.get? hes).2, List.forall_mem_singleton.mpr hname⟩

theorem makeDirectory_wellFormed {d d' : Disk} (hd : d.WellFormed) {p : Path} (hp : p.Plain)
    (h : d.makeDirectory p = .ok d') : d'.WellFormed := by
  obtain ⟨place, name, hloc, _, rfl⟩ := makeDirectory_eq_ok.mp h
  exact Node.WellFormed.put .dir_nil hd (place_names hd hp hloc)

theorem makeDirectories_wellFormed {d : Disk} (hd : d.WellFormed) {p : Path} (hp : p.Plain) (levels : Nat) :
    (d.makeDirectories p levels).1.WellFormed := by
  refine makeDirectories_induction (fun d d' => d.WellFormed → d'.WellFormed) (fun _ h => h)
    (fun _ _ _ hab hbc h => hbc (hab h)) p ?_ levels d hd
  intro q d d' hq hm hd
  exact makeDirectory_wellFormed hd (fun x hx => hp x (hq.subset hx)) hm

theorem openFile_wellFormed {d d' : Disk} (hd : d.WellFormed) {p : Path} (hp : p.Plain) {place : List Text}
    (h : d.openFile p = .ok (d', place)) : d'.WellFormed ∧ ∀ name ∈ place, Path.isName name = true := by
  obtain ⟨spot, hloc, _, rfl, rfl⟩ := openFile_eq_ok.mp h
  have hnames := place_names hd hp hloc
  exact ⟨Node.WellFormed.put (.file []) hd hnames, hnames⟩

end Disk

theorem openPage_wellFormed {d : Disk} (hd : d.WellFormed) {target : Path} (hplain : target.Plain) :
    (openPage d target).1.WellFormed ∧
      ∀ place, (openPage d target).2 = .ok place → ∀ name ∈ place, Path.isName name = true := by
  have hparent : target.parent.Plain := fun x hx => hplain x (List.dropLast_subset _ hx)
  have hd₁ := Disk.makeDirectories_wellFormed hd hparent target.parent.parts.length
  unfold openPage
  dsimp only
  cases target.parent.text.nameFault? with
  | some f => exact ⟨hd, fun _ h => by cases h⟩
  | none =>
    cases hdirs : d.makeDirectories target.parent target.parent.parts.length with
    | mk d₁ refusal =>
      rw [hdirs] at hd₁
      cases refusal with
      | some r => exact ⟨hd₁, fun _ h => by cases h⟩
      | none =>
        dsimp only
        cases target.text.nameFault? with
        | some f => exact ⟨hd₁, fun _ h => by cases h⟩
        | none =>
          cases hopen : d₁.openFile target with
          | error f => exact ⟨hd₁, fun _ h => by cases h⟩
          | ok opened =>
            obtain ⟨d₂, place⟩ := opened
            obtain ⟨hd₂, hnames⟩ := Disk.openFile_wellFormed hd₁ hplain hopen
            exact ⟨hd₂, fun _ h => by cases h; exact hnames⟩

theorem writePage_wellFormed {d : Disk} (hd : d.WellFormed) {output source : Path} (hout : output.Plain)
    (hsource : ∀ part ∈ source.parts, Path.slash ∉ part) (suffix text : Text) :
    (writePage d output source suffix text).1.WellFormed := by
  unfold writePage
  cases htarget : pagePath output source suffix with
  | error f => exact hd
  | ok target =>
    obtain ⟨hd₁, hnames⟩ := openPage_wellFormed hd (pagePath_plain hout hsource htarget)
    cases hopening : openPage d target with
    | mk d₁ r =>
      rw [hopening] at hd₁ hnames
      cases r with
      | error h => simpa only [hopening] using hd₁
      | ok place =>
        simp only [hopening, fillPage]
        cases Text.toUtf8 text with
        | error f => exact hd₁
        | ok bytes =>
          have hput : ∀ c, (d₁.put place (.file c)).WellFormed := fun c =>
            Node.WellFormed.put (.file c) hd₁ (hnames place rfl)
          dsimp only [Disk.fill]
          cases (d₁.held place bytes).2 <;> exact hput _

end ModuleDocs
