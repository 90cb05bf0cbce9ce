import ModuleDocs.Proofs.Storage.Entry

/-!
# Directories without links

Below a directory that has no links, different paths lead to different files, and the pages below it do not
overwrite each other unless they have the same path.
-/

namespace ModuleDocs

open ModuleDocs.Path (above isName)

namespace Disk

/-- Nothing below the directory that a path leads to is a link. -/
def LinkFree (d : Disk) (p : Path) : Prop :=
  ∀ place n, d.locate true p = .ok (.found place n) → ∀ rest t, d.at? (place ++ rest) ≠ some (.link t)

/-- Nothing below a directory is a link, however the tree grows: the path may lead to the directory only when
others on its way have been made. -/
def StaysLinkFree (d : Disk) (p : Path) : Prop := ∀ d', d.Extends d' → d'.LinkFree p

theorem StaysLinkFree.extends {d d' : Disk} {p : Path} (h : d.StaysLinkFree p) (hx : d.Extends d') :
    d'.StaysLinkFree p := fun d'' hx' => h d'' (hx.trans hx')

/-- Where the directory exists, it is enough that nothing below it is a link. -/
theorem staysLinkFree_of_locate {d : Disk} {p : Path} {spot : Spot} (hloc : d.locate true p = .ok spot)
    (h : ∀ rest t, d.at? (spot.place ++ rest) ≠ some (.link t)) : d.StaysLinkFree p := by
  intro d' hx place n hloc' rest t hlink
  obtain ⟨spot', hspot', hplace⟩ := hx.locate hloc
  rw [hloc'] at hspot'
  cases hspot'
  have hsame : place = spot.place := hplace
  rw [hsame, hx.link] at hlink
  exact h rest t hlink

/-- A path that ends with a step upwards leads to a directory. -/
theorem locate_above_ne_file {d : Disk} {follow : Bool} {p : Path} {place : List Text} {c : List UInt8} :
    d.locate follow (p.child above) ≠ .ok (.found place (.file c)) := by
  intro h
  obtain ⟨_, hlead⟩ := locate_eq_ok.mp h
  have hlead' : Leads d follow linkLimit [] (p.parts ++ [above]) (.found place (.file c)) := hlead
  obtain ⟨here, es, hup⟩ := hlead'.initial (List.cons_ne_nil _ _)
  obtain ⟨left, hleft⟩ := hup.append
  have hres := hlead'.resolve
  rw [hleft follow [above] (List.cons_ne_nil _ _)] at hres
  have hallowed : d.allows .search here = true := by
    cases ha : d.allows .search here with
    | true => rfl
    | false =>
      rw [resolve_cons_denied d follow left above [] hup.holds ha] at hres
      cases hres
  rw [resolve_cons _ _ _ _ _ _ ⟨hup.holds, hallowed⟩, if_pos rfl, resolve_nil] at hres
  have hdir : ∃ es', d.root.get? here.dropLast = some (.dir es') := by
    rcases List.eq_nil_or_concat here with rfl | ⟨init, name, rfl⟩
    · exact ⟨es, hup.holds⟩
    · rw [List.concat_eq_append, List.dropLast_concat]
      obtain ⟨es', hes', _⟩ := Node.get?_snoc (List.concat_eq_append ▸ hup.holds)
      exact ⟨es', hes'⟩
  obtain ⟨es', hes'⟩ := hdir
  rw [hes'] at hres
  cases hres

/-- Where a path leads on below a directory without links. -/
theorem LinkFree.place_below {d : Disk} {p : Path} (hfree : d.LinkFree p) {rel : List Text} (hrel : rel ≠ [])
    (hnames : ∀ x ∈ rel, isName x = true) {spot : Spot} (h : d.locate true (p.below rel) = .ok spot) :
    ∃ place es, d.locate true p = .ok (.found place (.dir es)) ∧ spot.place = place ++ rel := by
  obtain ⟨hshort, hlead⟩ := locate_eq_ok.mp h
  have hlead' : Leads d true linkLimit [] (p.parts ++ rel) spot := hlead
  obtain ⟨place, es, hup⟩ := hlead'.initial hrel
  have hloc : d.locate true p = .ok (.found place (.dir es)) :=
    locate_eq_ok.mpr ⟨Nat.lt_of_le_of_lt (fileNameLength_text_le_below p hnames) hshort, hup⟩
  obtain ⟨left, hleft⟩ := hup.append
  have hres := hlead'.resolve
  rw [hleft true rel hrel] at hres
  have hstraight := (leads_of_resolve hres).straight (fun x hx => Path.isName_ne_above (hnames x hx))
    (hfree place _ hloc)
  exact ⟨place, es, hloc, hstraight⟩

/-- Below a directory without links, one file has one path. -/
theorem LinkFree.below_inj {d : Disk} {p : Path} (hfree : d.LinkFree p) {rel rel' place : List Text}
    (hnames : ∀ x ∈ rel, isName x = true) (hnames' : ∀ x ∈ rel', isName x = true) {c c' : List UInt8}
    (h : d.locate true (p.below rel) = .ok (.found place (.file c)))
    (h' : d.locate true (p.below rel') = .ok (.found place (.file c'))) : rel = rel' := by
  by_cases hrel : rel = []
  · by_cases hrel' : rel' = []
    · rw [hrel, hrel']
    · -- The path to the directory itself leads to a file.
      obtain ⟨base, es, hloc, _⟩ := hfree.place_below hrel' hnames' h'
      rw [hrel, Path.below_nil, hloc] at h
      cases h
  · obtain ⟨base, es, hloc, hplace⟩ := hfree.place_below hrel hnames h
    by_cases hrel' : rel' = []
    · rw [hrel', Path.below_nil, hloc] at h'
      cases h'
    · obtain ⟨base', es', hloc', hplace'⟩ := hfree.place_below hrel' hnames' h'
      rw [hloc] at hloc'
      cases hloc'
      exact List.append_cancel_left (hplace.symm.trans hplace')

end Disk

/-- The path of a page that is a file goes on from the output directory by names. -/
theorem page_names {d : Disk} {output target : Path} (hout : output.Plain) {dirs : List Text} {name suffix : Text}
    (hdirs : ∀ x ∈ dirs, isName x = true) (hname : isName name = true)
    (htarget : pagePath output ⟨.none, dirs ++ [name]⟩ suffix = .ok target) {place : List Text} {c : List UInt8}
    (hloc : d.locate true target = .ok (.found place (.file c))) :
    ∃ rel, target = output.below rel ∧ ∀ x ∈ rel, isName x = true := by
  have hslash : ∀ part ∈ dirs ++ [name], Path.slash ∉ part := by
    intro part hpart
    rcases List.mem_append.mp hpart with hpart | hpart
    · exact Path.isPart_not_slash (Path.isName_isPart (hdirs part hpart))
    · rw [List.mem_singleton.mp hpart]
      exact Path.isPart_not_slash (Path.isName_isPart hname)
  have hplain := pagePath_plain hout hslash htarget
  obtain ⟨_, he⟩ := (pagePath_eq_ok hdirs (Path.isName_ne_nil hname)).mp htarget
  refine ⟨_, he, fun x hx => ?_⟩
  rcases List.mem_append.mp hx with hx' | hx'
  · exact hdirs x hx'
  · have hpart : Path.isPart x = true := hplain x (by rw [he]; exact List.mem_append_right _ hx)
    -- The last part is no step upwards, since the page is a file.
    have hup : x ≠ above := by
      intro hup
      have hlast : Path.pageParts name suffix = [above] := by
        have hmem := (List.mem_filter.mp hx').1
        rw [List.mem_singleton] at hmem
        unfold Path.pageParts at hx' ⊢
        rw [← hmem, hup] at hx' ⊢
        rfl
      rw [he, hlast, ← Path.below_child] at hloc
      exact Disk.locate_above_ne_file hloc
    rw [isName, hpart, Bool.true_and]
    simpa using hup

end ModuleDocs
