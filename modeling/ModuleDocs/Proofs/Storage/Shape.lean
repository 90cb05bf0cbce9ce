import ModuleDocs.Proofs.Storage.Entry

/-!
# Trees of one shape

Two trees have one shape if they differ in the content of files at most. Where all pages are there already, writing
them again keeps the shape of the tree. A well-formed tree is determined by its shape and the content of its files.
-/

namespace ModuleDocs

namespace Node

mutual

/-- The tree with all its files emptied. -/
def hollow : Node → Node
  | .file _ => .file []
  | .dir es => .dir (hollowAll es)
  | .link t => .link t

/-- Entries with all files emptied. -/
def hollowAll : List (Text × Node) → List (Text × Node)
  | [] => []
  | (name, n) :: es => (name, hollow n) :: hollowAll es

end

def Kind.hollow : Kind → Kind
  | .file _ => .file []
  | k => k

namespace Kind

variable {k : Option Kind}

theorem map_hollow_link {t : Text} : k.map hollow = some (.link t) ↔ k = some (.link t) := by
  rcases k with _ | _ | _ | _ <;> simp [hollow]

theorem map_hollow_dir : k.map hollow = some .dir ↔ k = some .dir := by
  rcases k with _ | _ | _ | _ <;> simp [hollow]

theorem map_hollow_file : k.map hollow = some (.file []) ↔ ∃ c, k = some (.file c) := by
  rcases k with _ | _ | _ | _ <;> simp [hollow]

end Kind

theorem hollowAll_eq_map (es : List (Text × Node)) : hollowAll es = es.map fun e => (e.1, e.2.hollow) := by
  induction es with
  | nil => rfl
  | cons e es ih =>
    rw [hollowAll, ih]
    rfl

theorem lookup_hollowAll (es : List (Text × Node)) (name : Text) :
    (hollowAll es).lookup name = (es.lookup name).map hollow := by
  induction es with
  | nil => rfl
  | cons e es ih =>
    rw [hollowAll, List.lookup_cons, List.lookup_cons, ih]
    split <;> rfl

theorem get?_hollow (n : Node) (q : List Text) : n.hollow.get? q = (n.get? q).map hollow := by
  induction q generalizing n with
  | nil => rw [get?_nil, get?_nil, Option.map_some]
  | cons name rest ih =>
    cases n with
    | file c => rw [hollow, get?_file_cons, get?_file_cons, Option.map_none]
    | link t => rw [hollow, get?_link_cons, Option.map_none]
    | dir es =>
      rw [hollow, get?_dir_cons, get?_dir_cons, lookup_hollowAll]
      cases es.lookup name with
      | none => rfl
      | some m => exact ih m

theorem at?_hollow (n : Node) (q : List Text) : n.hollow.at? q = (n.at? q).map Kind.hollow := by
  rw [at?, at?, get?_hollow, Option.map_map, Option.map_map]
  congr 1
  funext m
  cases m <;> simp [hollow, kind, Kind.hollow]

theorem lookup_of_mem {es : List (Text × Node)} (hkeys : (es.map Prod.fst).Nodup) {name : Text} {n : Node}
    (h : (name, n) ∈ es) : es.lookup name = some n := by
  induction es with
  | nil => cases h
  | cons e es ih =>
    rw [List.map_cons, List.nodup_cons] at hkeys
    rw [List.lookup_cons]
    rcases List.mem_cons.mp h with rfl | h
    · simp
    · have hne : name ≠ e.1 := by
        intro he
        exact hkeys.1 (he ▸ List.mem_map_of_mem h)
      rw [beq_eq_false_iff_ne.mpr hne]
      exact ih hkeys.2 h

/-! ### Shape and contents determine a tree -/

theorem entries_eq_of_hollowAll {es es' : List (Text × Node)} (hshape : hollowAll es = hollowAll es')
    (heq : ∀ name n n', (name, n) ∈ es → (name, n') ∈ es' → n.hollow = n'.hollow → n = n') : es = es' := by
  induction es generalizing es' with
  | nil =>
    cases es' with
    | nil => rfl
    | cons e' es' => simp [hollowAll] at hshape
  | cons e es ih =>
    cases es' with
    | nil => simp [hollowAll] at hshape
    | cons e' es' =>
      obtain ⟨name, n⟩ := e
      obtain ⟨name', n'⟩ := e'
      simp only [hollowAll, List.cons.injEq, Prod.mk.injEq] at hshape
      obtain ⟨⟨rfl, hhead⟩, htail⟩ := hshape
      have hn : n = n' := heq name n n' List.mem_cons_self List.mem_cons_self hhead
      have hes : es = es' :=
        ih htail fun x m m' hm hm' => heq x m m' (List.mem_cons_of_mem _ hm) (List.mem_cons_of_mem _ hm')
      rw [hn, hes]

theorem WellFormed.eq_of_hollow {n m : Node} (hn : n.WellFormed) (hshape : n.hollow = m.hollow)
    (hfiles : ∀ q c, m.at? q = some (.file c) → n.at? q = some (.file c)) : n = m := by
  induction hn generalizing m with
  | file c =>
    cases m with
    | file c' =>
      have hroot := hfiles [] c' rfl
      cases hroot
      rfl
    | dir es => cases hshape
    | link t => cases hshape
  | link t =>
    cases m with
    | file c => cases hshape
    | dir es => cases hshape
    | link t' =>
      cases hshape
      rfl
  | @dir es hkeys _ _ ih =>
    cases m with
    | file c => cases hshape
    | link t => cases hshape
    | dir es' =>
      have hall : hollowAll es = hollowAll es' := by
        rw [hollow, hollow] at hshape
        exact Node.dir.inj hshape
      have hkeys' : (es'.map Prod.fst).Nodup := by
        have hsame : es.map Prod.fst = es'.map Prod.fst := by
          have h := congrArg (List.map Prod.fst) hall
          simpa [hollowAll_eq_map, Function.comp_def] using h
        rw [← hsame]
        exact hkeys
      refine congrArg Node.dir (entries_eq_of_hollowAll hall fun name k k' hk hk' hkk => ?_)
      refine ih _ hk hkk fun q c hq => ?_
      -- A file below the entry is a file below the whole tree.
      have hdown : (Node.dir es').at? (name :: q) = some (.file c) := by
        rw [at?_dir_cons, lookup_of_mem hkeys' hk', Option.bind_some, hq]
      have hfile := hfiles (name :: q) c hdown
      rw [at?_dir_cons, lookup_of_mem hkeys hk, Option.bind_some] at hfile
      exact hfile

/-! ### Writing over a file -/

theorem hollowAll_putEntry {es : List (Text × Node)} (hkeys : (es.map Prod.fst).Nodup) {name : Text} {n m : Node}
    (hn : es.lookup name = some n) (hshape : m.hollow = n.hollow) : hollowAll (putEntry es name m) = hollowAll es := by
  have hpresent : (es.any fun e => e.1 == name) = true :=
    List.any_eq_true.mpr ⟨_, mem_of_lookup hn, by simp⟩
  unfold putEntry
  rw [if_pos hpresent, hollowAll_eq_map, hollowAll_eq_map, List.map_map]
  refine List.map_congr_left fun e he => ?_
  by_cases hname : e.1 = name
  · have hsame := lookup_of_mem hkeys he
    rw [hname, hn] at hsame
    cases hsame
    simp [hname, hshape]
  · simp [hname]

theorem WellFormed.hollow_put_file {n : Node} (h : n.WellFormed) {place : List Text} {c : List UInt8}
    (hold : n.at? place = some (.file c)) (c' : List UInt8) : (Node.put (.file c') place n).hollow = n.hollow := by
  induction place generalizing n with
  | nil =>
    rw [at?_eq_file, get?_nil] at hold
    cases hold
    rw [Node.put, hollow, hollow]
  | cons name rest ih =>
    cases h with
    | file => cases hold
    | link => cases hold
    | @dir es hkeys hnames hnodes =>
      obtain ⟨m, hm, hold⟩ := at?_dir_cons_eq_some hold
      have hwf := hnodes _ (mem_of_lookup hm)
      rw [put_cons_dir, hm, Option.getD_some, hollow, hollow, hollowAll_putEntry hkeys hm (ih hwf hold)]

end Node

namespace Disk

/-- The trees differ in the content of files at most. -/
structure SameShape (d d' : Disk) : Prop where
  locked : d'.locked = d.locked
  limits : d'.limits = d.limits
  root : d'.root.hollow = d.root.hollow

variable {d d' : Disk}

theorem SameShape.refl (d : Disk) : d.SameShape d := ⟨rfl, rfl, rfl⟩

theorem SameShape.symm (h : d.SameShape d') : d'.SameShape d := ⟨h.locked.symm, h.limits.symm, h.root.symm⟩

theorem SameShape.trans {d'' : Disk} (h : d.SameShape d') (h' : d'.SameShape d'') : d.SameShape d'' :=
  ⟨h'.locked.trans h.locked, h'.limits.trans h.limits, h'.root.trans h.root⟩

theorem SameShape.at?_hollow (h : d.SameShape d') (q : List Text) :
    (d'.at? q).map Node.Kind.hollow = (d.at? q).map Node.Kind.hollow := by
  rw [at?, at?, ← Node.at?_hollow, ← Node.at?_hollow, h.root]

theorem SameShape.extends (h : d.SameShape d') : d.Extends d' where
  locked := h.locked
  limits := h.limits
  link q t := by rw [← Node.Kind.map_hollow_link, h.at?_hollow q, Node.Kind.map_hollow_link]
  dir q hdir := by
    rw [← Node.Kind.map_hollow_dir] at hdir ⊢
    rw [h.at?_hollow q, hdir]
  file q c hfile := by
    have hold : (d.at? q).map Node.Kind.hollow = some (.file []) := Node.Kind.map_hollow_file.mpr ⟨c, hfile⟩
    rw [← h.at?_hollow q] at hold
    exact Node.Kind.map_hollow_file.mp hold
  fresh q name hnone hsome := by
    have hq := h.at?_hollow (q ++ [name])
    rw [hnone, Option.map_none, Option.map_eq_none_iff] at hq
    exact absurd hq hsome

theorem put_file_sameShape (hd : d.WellFormed) {place : List Text} {c : List UInt8}
    (hold : d.at? place = some (.file c)) (c' : List UInt8) : d.SameShape (d.put place (.file c')) :=
  ⟨rfl, rfl, hd.hollow_put_file hold c'⟩

theorem SameShape.eq (h : d.SameShape d') (hd : d.WellFormed)
    (hfiles : ∀ q c, d'.at? q = some (.file c) → d.at? q = some (.file c)) : d' = d := by
  have hroot : d.root = d'.root := Node.WellFormed.eq_of_hollow hd h.root.symm hfiles
  have hlocked := h.locked
  have hlimits := h.limits
  cases d
  cases d'
  cases hroot
  cases hlocked
  cases hlimits
  rfl

/-! ### Writing a page again -/

/-- Without links it does not matter whether a link at the end of a path is followed. -/
theorem Leads.unfollowed (hfree : ∀ q t, d.at? q ≠ some (.link t)) {links : Nat} {here parts : List Text} {spot : Spot}
    (h : Leads d true links here parts spot) : Leads d false links here parts spot := by
  induction h with
  | here hn => exact .here hn
  | up hes _ ih => exact .up hes ih
  | vacant hes hup hshort hnone => exact .vacant hes hup hshort hnone
  | linkEnd _ _ _ _ hf => cases hf
  | @jump _ here _ _ name target _ hes _ _ hl _ _ _ =>
    exact absurd (Node.at?_eq_link.mpr ((Node.get?_entry hes.dir name).trans hl)) (hfree (here ++ [name]) target)
  | file hes hup hshort hl => exact .file hes hup hshort hl
  | down hes hup hshort hl _ ih => exact .down hes hup hshort hl ih

/-- The path above a path that is not too long is not too long. -/
theorem parent_short {p : Path} (h : p.text.fileNameLength < pathLimit) : p.parent.text.fileNameLength < pathLimit := by
  by_cases habove : p.parts.dropLast = []
  · -- The path above is an anchor, or a single dot.
    have hparent : p.parent = ⟨p.anchor, []⟩ := by rw [Path.parent, habove]
    rw [hparent]
    cases p.anchor <;> decide
  · have hparts : p.parts ≠ [] := by
      intro he
      exact habove (by rw [he, List.dropLast_nil])
    have hsplit : p.parts.dropLast ++ [p.parts.getLast hparts] = p.parts := List.dropLast_append_getLast hparts
    have htext : p.text = p.anchor.text ++ Text.join [Path.slash] p.parts := by
      rw [Path.text, if_neg fun he => hparts he.2]
    have hparent : p.parent.text = p.anchor.text ++ Text.join [Path.slash] p.parts.dropLast := by
      rw [Path.text, if_neg fun he => habove he.2]
      rfl
    rw [htext, ← hsplit, Text.join_append _ habove (List.cons_ne_nil _ _)] at h
    rw [hparent]
    simp only [Text.fileNameLength_append] at h ⊢
    omega

/-- Above a file there is a directory. -/
theorem locate_parent (hroot : d.at? [] = some .dir) (hfree : ∀ q t, d.at? q ≠ some (.link t)) {p : Path}
    {place : List Text} {c : List UInt8} (h : d.locate true p = .ok (.found place (.file c))) (follow : Bool) :
    ∃ above es, d.locate follow p.parent = .ok (.found above (.dir es)) := by
  obtain ⟨hshort, hlead⟩ := locate_eq_ok.mp h
  have hparts : p.parts ≠ [] := by
    intro he
    rw [he] at hlead
    cases hlead with
    | here hn =>
      rw [at?, Node.at?, hn] at hroot
      cases hroot
  have hsplit : p.parts = p.parts.dropLast ++ [p.parts.getLast hparts] := (List.dropLast_append_getLast hparts).symm
  rw [hsplit] at hlead
  obtain ⟨above, es, habove⟩ := hlead.initial (List.cons_ne_nil _ _)
  refine ⟨above, es, locate_eq_ok.mpr ⟨parent_short hshort, ?_⟩⟩
  cases follow with
  | true => exact habove
  | false => exact habove.unfollowed hfree

theorem makeDirectories_present {p : Path} (hname : p.text.nameFault? = none)
    (h : ∀ follow, ∃ place es, d.locate follow p = .ok (.found place (.dir es))) (levels : Nat) :
    d.makeDirectories p levels = (d, none) := by
  obtain ⟨place, es, hloc⟩ := h false
  have hmake : d.makeDirectory p = .error .alreadyExists := by rw [makeDirectory, hloc]
  have hthere : d.unlessPresent p .alreadyExists = none := by
    rw [unlessPresent, isDirectory_eq_true.mpr ⟨hname, h true⟩]
  cases levels with
  | zero => simp [makeDirectories, hmake, hthere]
  | succ levels => simp [makeDirectories, hmake, hthere]

end Disk

/-- A page that is there can be written again, and the tree keeps its shape. -/
theorem writePage_again {d : Disk} (hd : d.WellFormed) (hroot : d.at? [] = some .dir)
    (hfree : ∀ q t, d.at? q ≠ some (.link t)) {output source target : Path} {suffix text : Text}
    {bytes c : List UInt8} {place : List Text} (htarget : pagePath output source suffix = .ok target)
    (hname : target.text.nameFault? = none) (hallowed : d.allows .write place = true)
    (hbytes : text.toUtf8 = .ok bytes) (hheld : d.held place bytes = (bytes, none))
    (hloc : d.locate true target = .ok (.found place (.file c))) :
    ∃ d', writePage d output source suffix text = (d', .ok target) ∧ d.SameShape d' := by
  have hfolder := Path.nameFault?_parent hname
  have hdirs := Disk.makeDirectories_present hfolder (Disk.locate_parent hroot hfree hloc) target.parent.parts.length
  have hopen : d.openFile target = .ok (d.put place (.file []), place) :=
    Disk.openFile_eq_ok.mpr ⟨_, hloc, ⟨⟨c, rfl⟩, hallowed⟩, rfl, rfl⟩
  have hopened : openPage d target = (d.put place (.file []), .ok place) := by
    simp only [openPage, hfolder, hdirs, hname, hopen]
  obtain ⟨_, hx, hloc'⟩ := Disk.put_file_located hloc []
  have hfill : (d.put place (.file [])).fill place bytes =
      ((d.put place (.file [])).put place (.file bytes), none) := by
    rw [Disk.fill, hx.held, hheld]
  refine ⟨(d.put place (.file [])).put place (.file bytes), ?_, ?_⟩
  · simp only [writePage, htarget, hopened, fillPage, hbytes, hfill]
  · have hplace := Disk.locate_holds hloc
    have hd' : (d.put place (.file [])).WellFormed := Node.WellFormed.put (.file []) hd (hd.get? hplace).2
    have hfirst := Disk.put_file_sameShape hd (Node.at?_eq_file.mpr hplace) []
    have hsecond := Disk.put_file_sameShape hd' (Node.at?_eq_file.mpr (Disk.locate_holds hloc')) bytes
    exact hfirst.trans hsecond

end ModuleDocs
