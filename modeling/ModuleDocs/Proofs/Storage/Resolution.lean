import ModuleDocs.Proofs.Storage.Tree

/-!
# Where paths lead

A path is followed part by part through directories that may be searched, and links in it are followed on the way.
What it leads to stands at the place that is reported. A path that goes on from a directory is followed from that
directory on, and where nothing below a directory is a link, names lead straight down.
-/

namespace ModuleDocs

open ModuleDocs.Path (above)

namespace Spot

/-- The place of a spot, whether something stands there or not. -/
def place : Spot → List Text
  | found p _ => p
  | vacant p name => p ++ [name]

/-- What a spot says about the tree. -/
def Holds (d : Disk) : Spot → Prop
  | found p n => d.root.get? p = some n
  | vacant p name =>
    (∃ es, d.root.get? p = some (.dir es) ∧ es.lookup name = none) ∧ name ≠ above ∧
      name.fileNameLength ≤ Disk.nameLimit ∧ d.allows .search p = true

end Spot

namespace Disk

def at? (d : Disk) (place : List Text) : Option Node.Kind := d.root.at? place

/-! ### Steps of a resolution -/

/-- A directory stands at a place, and its names can be looked up. -/
structure Searches (d : Disk) (place : List Text) (es : List (Text × Node)) : Prop where
  dir : d.root.get? place = some (.dir es)
  allowed : d.allows .search place = true

theorem resolve_nil (d : Disk) (follow : Bool) (links : Nat) (here : List Text) :
    d.resolve follow links here [] =
      match d.root.get? here with
      | some n => .ok (.found here n)
      | none => .error .notFound := by
  unfold resolve
  rfl

theorem resolve_cons (d : Disk) (follow : Bool) (links : Nat) (here : List Text) (name : Text)
    (rest : List Text) {es : List (Text × Node)} (h : d.Searches here es) :
    d.resolve follow links here (name :: rest) =
      if name = above then d.resolve follow links here.dropLast rest
      else if nameLimit < name.fileNameLength then .error .nameTooLong
      else
        match es.lookup name with
        | none => if rest.isEmpty then .ok (.vacant here name) else .error .notFound
        | some (.link target) =>
          if rest.isEmpty && !follow then .ok (.found (here ++ [name]) (.link target))
          else
            match links with
            | 0 => .error .linkLoop
            | links + 1 =>
              d.resolve follow links (if (Path.ofText target).anchor = .none then here else [])
                ((Path.ofText target).parts ++ rest)
        | some (.file content) =>
          if rest.isEmpty then .ok (.found (here ++ [name]) (.file content)) else .error .notDirectory
        | some (.dir _) => d.resolve follow links (here ++ [name]) rest := by
  rw [resolve, h.dir]
  simp only [h.allowed, Bool.not_true, Bool.false_eq_true, if_false]
  rfl

theorem resolve_cons_denied (d : Disk) (follow : Bool) (links : Nat) {here : List Text} (name : Text)
    (rest : List Text) {es : List (Text × Node)} (hdir : d.root.get? here = some (.dir es))
    (h : d.allows .search here = false) : d.resolve follow links here (name :: rest) = .error .denied := by
  rw [resolve, hdir]
  simp only [h, Bool.not_false, if_true]

theorem resolve_cons_not_searched (d : Disk) (follow : Bool) (links : Nat) (here : List Text) (name : Text)
    (rest : List Text) (h : ∀ es, ¬ d.Searches here es) :
    ∃ f, d.resolve follow links here (name :: rest) = .error f := by
  cases hn : d.root.get? here with
  | none => exact ⟨.notFound, by rw [resolve, hn]⟩
  | some n =>
    cases n with
    | file c => exact ⟨.notDirectory, by rw [resolve, hn]⟩
    | link t => exact ⟨.notDirectory, by rw [resolve, hn]⟩
    | dir es =>
      cases ha : d.allows .search here with
      | true => exact absurd ⟨hn, ha⟩ (h es)
      | false => exact ⟨.denied, resolve_cons_denied d follow links name rest hn ha⟩

/-! ### Resolutions as derivations -/

/-- How a path leads from a place to a spot: `links` more links can be followed on the way. -/
inductive Leads (d : Disk) (follow : Bool) : Nat → List Text → List Text → Spot → Prop where
  /-- The path ends where it stands. -/
  | here {links : Nat} {place : List Text} {n : Node} : d.root.get? place = some n →
      Leads d follow links place [] (.found place n)
  /-- To the directory above. -/
  | up {links : Nat} {here rest : List Text} {es : List (Text × Node)} {spot : Spot} :
      d.Searches here es → Leads d follow links here.dropLast rest spot →
      Leads d follow links here (above :: rest) spot
  /-- To a name that the directory does not have. -/
  | vacant {links : Nat} {here : List Text} {es : List (Text × Node)} {name : Text} :
      d.Searches here es → name ≠ above → name.fileNameLength ≤ nameLimit →
      es.lookup name = none → Leads d follow links here [name] (.vacant here name)
  /-- To a link that is not followed. -/
  | linkEnd {links : Nat} {here : List Text} {es : List (Text × Node)} {name target : Text} :
      d.Searches here es → name ≠ above → name.fileNameLength ≤ nameLimit →
      es.lookup name = some (.link target) → follow = false →
      Leads d follow links here [name] (.found (here ++ [name]) (.link target))
  /-- Through a link. -/
  | jump {links : Nat} {here rest : List Text} {es : List (Text × Node)} {name target : Text} {spot : Spot} :
      d.Searches here es → name ≠ above → name.fileNameLength ≤ nameLimit →
      es.lookup name = some (.link target) → (rest ≠ [] ∨ follow = true) →
      Leads d follow links (if (Path.ofText target).anchor = .none then here else [])
        ((Path.ofText target).parts ++ rest) spot →
      Leads d follow (links + 1) here (name :: rest) spot
  /-- To a file. -/
  | file {links : Nat} {here : List Text} {es : List (Text × Node)} {name : Text} {c : List UInt8} :
      d.Searches here es → name ≠ above → name.fileNameLength ≤ nameLimit →
      es.lookup name = some (.file c) → Leads d follow links here [name] (.found (here ++ [name]) (.file c))
  /-- Into a directory. -/
  | down {links : Nat} {here rest : List Text} {es es' : List (Text × Node)} {name : Text} {spot : Spot} :
      d.Searches here es → name ≠ above → name.fileNameLength ≤ nameLimit →
      es.lookup name = some (.dir es') → Leads d follow links (here ++ [name]) rest spot →
      Leads d follow links here (name :: rest) spot

theorem leads_of_resolve {d : Disk} {follow : Bool} {links : Nat} {here parts : List Text} {spot : Spot}
    (h : d.resolve follow links here parts = .ok spot) : Leads d follow links here parts spot := by
  -- The measure is the one of the definition: following a link costs a link, every other step a part.
  induction links using Nat.strongRecOn generalizing here parts spot with
  | ind links ihl =>
    induction hlen : parts.length generalizing here parts spot with
    | zero =>
      cases parts with
      | cons name rest => simp at hlen
      | nil =>
        rw [resolve_nil] at h
        cases hn : d.root.get? here with
        | none => rw [hn] at h; cases h
        | some n =>
          rw [hn] at h
          cases h
          exact .here hn
    | succ k ih =>
      cases parts with
      | nil => simp at hlen
      | cons name rest =>
        have hk : rest.length = k := by simpa using hlen
        by_cases hdir : ∃ es, d.Searches here es
        · obtain ⟨es, hes⟩ := hdir
          rw [resolve_cons d follow links here name rest hes] at h
          by_cases hup : name = above
          · rw [if_pos hup] at h
            rw [hup]
            exact .up hes (ih h hk)
          · rw [if_neg hup] at h
            by_cases hlong : nameLimit < name.fileNameLength
            · rw [if_pos hlong] at h
              cases h
            · rw [if_neg hlong] at h
              have hshort : name.fileNameLength ≤ nameLimit := Nat.le_of_not_lt hlong
              cases hl : es.lookup name with
              | none =>
                rw [hl] at h
                cases rest with
                | nil => cases h; exact .vacant hes hup hshort hl
                | cons x rest => cases h
              | some n =>
                rw [hl] at h
                cases n with
                | file c =>
                  cases rest with
                  | nil => cases h; exact .file hes hup hshort hl
                  | cons x rest => cases h
                | dir es' => exact .down hes hup hshort hl (ih h hk)
                | link target =>
                  by_cases hend : (rest.isEmpty && !follow) = true
                  · simp only [hend, if_true] at h
                    simp only [Bool.and_eq_true, List.isEmpty_iff, Bool.not_eq_true'] at hend
                    obtain ⟨rfl, hf⟩ := hend
                    cases h
                    exact .linkEnd hes hup hshort hl hf
                  · simp only [hend] at h
                    have hgo : rest ≠ [] ∨ follow = true := by
                      by_cases hr : rest = []
                      · right
                        subst hr
                        simpa using hend
                      · exact Or.inl hr
                    cases links with
                    | zero => cases h
                    | succ links => exact .jump hes hup hshort hl hgo (ihl links (Nat.lt_succ_self _) h)
        · obtain ⟨f, hf⟩ := resolve_cons_not_searched d follow links here name rest (fun es he => hdir ⟨es, he⟩)
          rw [hf] at h
          cases h

theorem Leads.resolve {d : Disk} {follow : Bool} {links : Nat} {here parts : List Text} {spot : Spot}
    (h : Leads d follow links here parts spot) : d.resolve follow links here parts = .ok spot := by
  induction h with
  | here hn => rw [resolve_nil, hn]
  | up hes _ ih => rw [resolve_cons _ _ _ _ _ _ hes, if_pos rfl, ih]
  | vacant hes hup hshort hl =>
    rw [resolve_cons _ _ _ _ _ _ hes, if_neg hup, if_neg (Nat.not_lt.mpr hshort), hl]
    rfl
  | linkEnd hes hup hshort hl hf =>
    rw [resolve_cons _ _ _ _ _ _ hes, if_neg hup, if_neg (Nat.not_lt.mpr hshort), hl]
    simp [hf]
  | @jump _ _ rest _ _ _ _ hes hup hshort hl hgo _ ih =>
    rw [resolve_cons _ _ _ _ _ _ hes, if_neg hup, if_neg (Nat.not_lt.mpr hshort), hl]
    have hend : (rest.isEmpty && !follow) = false := by
      rcases hgo with hr | hf
      · simp [hr]
      · simp [hf]
    simp only [hend]
    exact ih
  | file hes hup hshort hl =>
    rw [resolve_cons _ _ _ _ _ _ hes, if_neg hup, if_neg (Nat.not_lt.mpr hshort), hl]
    rfl
  | down hes hup hshort hl _ ih =>
    rw [resolve_cons _ _ _ _ _ _ hes, if_neg hup, if_neg (Nat.not_lt.mpr hshort), hl]
    exact ih

/-- The resolutions that succeed are those with a derivation. -/
theorem resolve_eq_ok {d : Disk} {follow : Bool} {links : Nat} {here parts : List Text} {spot : Spot} :
    d.resolve follow links here parts = .ok spot ↔ Leads d follow links here parts spot :=
  ⟨leads_of_resolve, Leads.resolve⟩

/-! ### What a resolution finds -/

theorem Leads.holds {d : Disk} {follow : Bool} {links : Nat} {here parts : List Text} {spot : Spot}
    (h : Leads d follow links here parts spot) : spot.Holds d := by
  induction h with
  | here hn => exact hn
  | up _ _ ih => exact ih
  | vacant hes hup hshort hl => exact ⟨⟨_, hes.dir, hl⟩, hup, hshort, hes.allowed⟩
  | linkEnd hes _ _ hl _ => exact (Node.get?_entry hes.dir _).trans hl
  | jump _ _ _ _ _ _ ih => exact ih
  | file hes _ _ hl => exact (Node.get?_entry hes.dir _).trans hl
  | down _ _ _ _ _ ih => exact ih

/-! ### Paths that go on -/

/-- A path that goes on from a directory is resolved from there on. -/
theorem Leads.append {d : Disk} {links : Nat} {here parts place : List Text} {es : List (Text × Node)}
    (h : Leads d true links here parts (.found place (.dir es))) :
    ∃ left, ∀ follow rest, rest ≠ [] →
      d.resolve follow links here (parts ++ rest) = d.resolve follow left place rest := by
  generalize hs : Spot.found place (.dir es) = spot at h
  induction h with
  | @here links _ _ hn =>
    cases hs
    exact ⟨links, fun follow rest _ => rfl⟩
  | up hes _ ih =>
    obtain ⟨left, hleft⟩ := ih hs
    refine ⟨left, fun follow rest hr => ?_⟩
    rw [List.cons_append, resolve_cons _ _ _ _ _ _ hes, if_pos rfl, hleft follow rest hr]
  | vacant => cases hs
  | linkEnd _ _ _ _ hf => cases hf
  | @jump _ _ before _ _ _ _ hes hup hshort hl _ _ ih =>
    obtain ⟨left, hleft⟩ := ih hs
    refine ⟨left, fun follow rest hr => ?_⟩
    rw [List.cons_append, resolve_cons _ _ _ _ _ _ hes, if_neg hup, if_neg (Nat.not_lt.mpr hshort), hl]
    have hne : (before ++ rest).isEmpty = false := by simp [hr]
    simp only [hne, Bool.false_and]
    rw [← List.append_assoc]
    exact hleft follow rest hr
  | file => cases hs
  | down hes hup hshort hl _ ih =>
    obtain ⟨left, hleft⟩ := ih hs
    refine ⟨left, fun follow rest hr => ?_⟩
    rw [List.cons_append, resolve_cons _ _ _ _ _ _ hes, if_neg hup, if_neg (Nat.not_lt.mpr hshort), hl]
    exact hleft follow rest hr

/-- A path that leads somewhere goes through directories only. -/
theorem Leads.initial {d : Disk} {follow : Bool} {links : Nat} {here parts rest : List Text} {spot : Spot}
    (h : Leads d follow links here (parts ++ rest) spot) (hr : rest ≠ []) :
    ∃ place es, Leads d true links here parts (.found place (.dir es)) := by
  generalize hp : parts ++ rest = whole at h
  induction h generalizing parts with
  | here => exact absurd (List.append_eq_nil_iff.mp hp).2 hr
  | up hes _ ih =>
    cases parts with
    | nil => exact ⟨_, _, .here hes.dir⟩
    | cons x parts =>
      obtain ⟨rfl, htail⟩ := List.cons.inj hp
      obtain ⟨place, es, hl⟩ := ih htail
      exact ⟨place, es, .up hes hl⟩
  | vacant hes =>
    cases parts with
    | nil => exact ⟨_, _, .here hes.dir⟩
    | cons x parts => exact absurd (List.append_eq_nil_iff.mp (List.cons.inj hp).2).2 hr
  | linkEnd hes =>
    cases parts with
    | nil => exact ⟨_, _, .here hes.dir⟩
    | cons x parts => exact absurd (List.append_eq_nil_iff.mp (List.cons.inj hp).2).2 hr
  | jump hes hup hshort hl _ _ ih =>
    cases parts with
    | nil => exact ⟨_, _, .here hes.dir⟩
    | cons x parts =>
      obtain ⟨rfl, rfl⟩ := List.cons.inj hp
      obtain ⟨place, es, hlead⟩ := ih (List.append_assoc ..)
      exact ⟨place, es, .jump hes hup hshort hl (Or.inr rfl) hlead⟩
  | file hes =>
    cases parts with
    | nil => exact ⟨_, _, .here hes.dir⟩
    | cons x parts => exact absurd (List.append_eq_nil_iff.mp (List.cons.inj hp).2).2 hr
  | down hes hup hshort hl _ ih =>
    cases parts with
    | nil => exact ⟨_, _, .here hes.dir⟩
    | cons x parts =>
      obtain ⟨rfl, htail⟩ := List.cons.inj hp
      obtain ⟨place, es, hlead⟩ := ih htail
      exact ⟨place, es, .down hes hup hshort hl hlead⟩

/-- Where nothing below a place is a link, names lead straight down from it. -/
theorem Leads.straight {d : Disk} {follow : Bool} {links : Nat} {here parts : List Text} {spot : Spot}
    (h : Leads d follow links here parts spot) (hnames : ∀ x ∈ parts, x ≠ above)
    (hfree : ∀ rest t, d.at? (here ++ rest) ≠ some (.link t)) : spot.place = here ++ parts := by
  induction h with
  | here => simp [Spot.place]
  | up => exact absurd rfl (hnames above (List.mem_cons_self ..))
  | vacant => rfl
  | linkEnd => rfl
  | @jump _ _ _ _ name target _ hes _ _ hl =>
    refine absurd ?_ (hfree [name] target)
    exact Node.at?_eq_link.mpr ((Node.get?_entry hes.dir name).trans hl)
  | file => rfl
  | @down _ _ _ _ _ name _ _ _ _ _ _ ih =>
    have hih := ih (fun x hx => hnames x (List.mem_cons_of_mem _ hx)) (fun more t => by
      rw [List.append_assoc]
      exact hfree ([name] ++ more) t)
    rw [hih, List.append_assoc]
    rfl

/-- Every directory on the way down from a place may be searched. -/
def Admits (d : Disk) (here rel : List Text) : Prop :=
  ∀ before name after, rel = before ++ name :: after → d.allows .search (here ++ before) = true

theorem Admits.tail {d : Disk} {here rest : List Text} {name : Text} (h : d.Admits here (name :: rest)) :
    d.Admits (here ++ [name]) rest := by
  intro before x after hrest
  rw [List.append_assoc]
  exact h (name :: before) x after (by rw [hrest, List.cons_append])

/-- Names that are not too long lead down to what is there, unless it is a link. -/
theorem Leads.descend {d : Disk} {follow : Bool} {links : Nat} {here rel : List Text} {n : Node}
    (hn : d.root.get? (here ++ rel) = some n) (hlink : ∀ t, n ≠ .link t) (hup : ∀ x ∈ rel, x ≠ above)
    (hshort : ∀ x ∈ rel, x.fileNameLength ≤ nameLimit) (hadmits : d.Admits here rel) :
    Leads d follow links here rel (.found (here ++ rel) n) := by
  induction rel generalizing here with
  | nil =>
    rw [List.append_nil] at hn ⊢
    exact .here hn
  | cons name rest ih =>
    have hsplit : here ++ name :: rest = (here ++ [name]) ++ rest := by simp
    obtain ⟨entries, hentries⟩ := Node.get?_above hn
    have hes : d.Searches here entries := ⟨hentries, by simpa using hadmits [] name rest rfl⟩
    rw [hsplit] at hn
    have hname := hup name (List.mem_cons_self ..)
    have hlen := hshort name (List.mem_cons_self ..)
    have hrest := ih hn (fun x hx => hup x (List.mem_cons_of_mem _ hx))
      (fun x hx => hshort x (List.mem_cons_of_mem _ hx)) hadmits.tail
    rw [hsplit]
    cases rest with
    | cons x rest =>
      obtain ⟨es', hes'⟩ := Node.get?_above hn
      rw [Node.get?_entry hes.dir] at hes'
      exact .down hes hname hlen hes' hrest
    | nil =>
      rw [List.append_nil] at hn hrest ⊢
      rw [Node.get?_entry hes.dir] at hn
      cases n with
      | file c => exact .file hes hname hlen hn
      | dir es' => exact .down hes hname hlen hn hrest
      | link t => exact absurd rfl (hlink t)

/-- Without links, a file has the last part of every path to it for its name. -/
theorem Leads.file_name {d : Disk} (hfree : ∀ q t, d.at? q ≠ some (.link t)) {follow : Bool} {links : Nat}
    {here parts place : List Text} {c : List UInt8} (h : Leads d follow links here parts (.found place (.file c)))
    (hparts : parts ≠ []) : place.getLast? = parts.getLast? := by
  generalize hs : Spot.found place (.file c) = spot at h
  induction h with
  | here => exact absurd rfl hparts
  | @up links here rest es spot hes hrest ih =>
    subst hs
    cases rest with
    | nil =>
      -- A step upwards leads to a directory.
      have hfile := hrest.resolve
      rw [resolve_nil] at hfile
      rcases List.eq_nil_or_concat here with rfl | ⟨init, name, rfl⟩
      · rw [List.dropLast_nil, hes.dir] at hfile
        cases hfile
      · rw [List.concat_eq_append] at hes hfile
        obtain ⟨es', hes', _⟩ := Node.get?_snoc hes.dir
        rw [List.dropLast_concat, hes'] at hfile
        cases hfile
    | cons x rest =>
      rw [ih (List.cons_ne_nil x rest) rfl]
      rfl
  | vacant => cases hs
  | linkEnd => cases hs
  | @jump _ here _ _ name target _ hes _ _ hl =>
    exact absurd (Node.at?_eq_link.mpr ((Node.get?_entry hes.dir name).trans hl)) (hfree (here ++ [name]) target)
  | file =>
    cases hs
    rw [List.getLast?_concat]
    rfl
  | @down _ here rest _ _ name _ hes _ _ hl hrest ih =>
    subst hs
    cases rest with
    | nil =>
      have hfile := hrest.resolve
      rw [resolve_nil, Node.get?_entry hes.dir, hl] at hfile
      cases hfile
    | cons x rest =>
      rw [ih (List.cons_ne_nil x rest) rfl]
      rfl

end Disk

end ModuleDocs
