import JavaBuild.Pom.Repository
import JavaBuild.Proofs.Pom.Path

/-!
# Adding to a repository

If there is nothing in a repository at first (`Vacant`), it is `Filled` by the
project object models that have been added: there are no files but theirs, in the
directories around them. Adding another keeps this, whether it is new, has been
added before, or has a path that the system refuses; the answer tells which
(`addPom_filled`).
-/

namespace JavaBuild.Pom

variable {a b : Artifact} {all done as : List Artifact} {repository : Path}
  {w w₀ w' : Workspace} {s : Session}

/-! ## Adding one -/

theorem runIn_addPom (repository : Path) (a : Artifact) (s : Session) :
    (addPom repository a).runIn s = match s.workspace.pathExists (pomPath repository a) with
      | .error e => (.error (.file e), s)
      | .ok true => (.ok false, s)
      | .ok false => match s.workspace.makeDirectories (pomPath repository a).parent with
        | (.error e, workspace) => (.error (.file e), { s with workspace })
        | (.ok (), made) => match made.writeFile (pomPath repository a) (minimalPom a).toUTF8 with
          | .error e => (.error (.file e), { s with workspace := made })
          | .ok workspace => (.ok true, { s with workspace }) := by
  simp only [addPom_eq, Work.pathExists, Work.writeText, Work.runIn_bind, Work.runIn_inspect]
  rcases s.workspace.pathExists (pomPath repository a) with e | _ | _
  · rfl
  · simp only [mapError_ok, Bool.false_eq_true, if_false, Work.runIn_pure, Work.runIn_bind,
      Work.runIn_makeDirectories, Work.runIn_change]
    rcases s.workspace.makeDirectories (pomPath repository a).parent with ⟨e | ⟨⟩, made⟩
    · rfl
    · simp only [mapError_ok]
      cases made.writeFile (pomPath repository a) (minimalPom a).toUTF8 <;> rfl
  · rfl

/-- Where the system does not take the path, adding fails. At most it leaves some
    directories behind. -/
theorem addPom_of_not_fits (h : ¬(pomPath repository a).Fits) : ∃ e workspace,
      (addPom repository a).runIn s = (.error (.file e), { s with workspace }) ∧
      Workspace.Grows (· ∈ s.workspace.route (pomPath repository a).parent) s.workspace
        workspace := by
  rw [runIn_addPom]
  split
  · rename_i e _
    exact ⟨e, s.workspace, rfl, .refl _ _⟩
  · -- Nothing can be there.
    rename_i hexists
    obtain ⟨found, hfound, hsome⟩ := Workspace.pathExists_eq_ok_iff.1 hexists
    obtain ⟨node, rfl⟩ := Option.isSome_iff_exists.1 hsome
    obtain ⟨l, hl⟩ := Workspace.inspect_of_find? hfound
    exact absurd (Workspace.fits_of_locate (Workspace.inspect_eq_ok_iff.1 hl).1) h
  · have hgrows := s.workspace.makeDirectories_grows (pomPath repository a).parent
    split
    · rename_i e workspace hmade
      rw [hmade] at hgrows
      exact ⟨e, workspace, rfl, hgrows⟩
    · rename_i made hmade
      rw [hmade] at hgrows
      split
      · rename_i e _
        exact ⟨e, made, rfl, hgrows⟩
      · -- Nothing can be written.
        rename_i hwritten
        obtain ⟨l, hl, -⟩ := Workspace.writeFile_eq_ok_iff.1 hwritten
        exact absurd (Workspace.fits_of_locate hl) h

/-- Where there is nothing, and no file on the way, the directories around a project
    object model are made, and it is written. -/
theorem addPom_of_clear (hs : s.workspace.Starts (pomPath repository a)) (ha : Storable a)
    (hfits : (pomPath repository a).Fits)
    (hclear : s.workspace.Clear (pomPath repository a).parent)
    (hnone : s.workspace.files.get? (s.workspace.place (pomPath repository a)) = none) :
    ∃ made : Workspace,
      Workspace.Grows (· ∈ s.workspace.route (pomPath repository a).parent) s.workspace made ∧
      (∀ m ∈ s.workspace.route (pomPath repository a).parent,
        made.files.get? m = some .directory) ∧
      (addPom repository a).runIn s =
        match made.writeFile (pomPath repository a) (minimalPom a).toUTF8 with
        | .error e => (.error (.file e), { s with workspace := made })
        | .ok workspace => (.ok true, { s with workspace }) := by
  have hexists : s.workspace.pathExists (pomPath repository a) = .ok false := by
    refine Workspace.pathExists_eq_ok_iff.2 ⟨none, ?_, rfl⟩
    refine Workspace.find?_of_clear hs hfits (parts_pomPath_ne_nil ha repository) hclear ?_
    rw [Workspace.node?_of_ne (pomPath_ne_here ha repository)]
    exact hnone
  obtain ⟨made, hmade⟩ :
      ∃ made, s.workspace.makeDirectories (pomPath repository a).parent = (.ok (), made) :=
    ⟨_, Prod.ext (Workspace.makeDirectories_eq_ok hs.parent hfits.parent hclear) rfl⟩
  obtain ⟨hgrows, l, hl⟩ := Workspace.made_of_makeDirectories hmade
  rw [runIn_addPom, hexists, hmade]
  refine ⟨made, hgrows, fun m hm => ?_, rfl⟩
  rw [← Workspace.route_congr hgrows.here] at hm
  exact Workspace.get?_of_mem_route (hgrows.starts hs.parent) hl hm

theorem exists_mem_concat {P : Artifact → Prop} :
    (∃ b ∈ done ++ [a], P b) ↔ (∃ b ∈ done, P b) ∨ P a := by
  simp [or_and_right, exists_or]

theorem minimalPom_congr (h : a.coordinates = b.coordinates) : minimalPom a = minimalPom b := by
  simp only [Artifact.coordinates, Coordinates.mk.injEq] at h
  unfold minimalPom
  rw [h.1, h.2.1, h.2.2]

/-! ## The repository before and after -/

/-- There is nothing in a repository: no file on the way to it, and nothing below
    it. -/
structure Vacant (w : Workspace) (repository : Path) : Prop where
  starts : w.Starts repository
  clear : w.Clear repository
  empty : ∀ names, names ≠ [] → w.files.get? (w.place repository ++ names) = none

/-- Artifacts can be added to a vacant repository. The way to it does not lead
    through the places of their project object models. -/
structure Ready (w : Workspace) (repository : Path) (all : List Artifact) : Prop
    extends Vacant w repository where
  storable : ∀ a ∈ all, Storable a
  apart : ∀ a ∈ all, w.place (pomPath repository a) ∉ w.route repository

/-- What has become of `w₀`, in which the repository was vacant, once those in
    `done` out of `all` have been added. -/
structure Filled (w₀ w : Workspace) (repository : Path) (all done : List Artifact) : Prop where
  frame : w₀.withFiles w.files = w
  directory : ∀ l, w₀.files.get? l = some .directory → w.files.get? l = some .directory
  file : ∀ l bytes, w.files.get? l = some (.file bytes) ↔
    w₀.files.get? l = some (.file bytes) ∨ ∃ a ∈ done, (pomPath repository a).Fits ∧
      l = w₀.place (pomPath repository a) ∧ bytes = (minimalPom a).toUTF8
  free : ∀ a ∈ all, w.files.get? (w₀.place (pomPath repository a)) ≠ some .directory
  way : ∀ a ∈ done, (pomPath repository a).Fits →
    ∀ m ∈ w₀.route (pomPath repository a).parent, w.files.get? m = some .directory

theorem Vacant.get?_place (hv : Vacant w repository) (ha : Storable a) :
    w.files.get? (w.place (pomPath repository a)) = none := by
  rw [place_pomPath ha]
  exact hv.empty _ (pomSteps_ne_nil a)

/-- No project object model is in the way of the directories around another. -/
theorem Ready.not_mem_route (hr : Ready w repository all) (ha : a ∈ all) (hb : b ∈ all) :
    w.place (pomPath repository b) ∉ w.route (pomPath repository a).parent := by
  have hstorable := hr.storable a ha
  intro h
  rcases mem_route_pomPath hstorable h with h | ⟨names, hnames, heq⟩
  · exact hr.apart b hb h
  · rw [place_pomPath (hr.storable b hb), List.append_cancel_left_eq] at heq
    exact ne_pomSteps_of_prefix hstorable hnames b heq.symm

/-- There are no files among the directories around a project object model. -/
theorem Vacant.clear_parent (hv : Vacant w repository) (ha : Storable a) :
    w.Clear (pomPath repository a).parent := by
  intro m hm bytes hfile
  rcases mem_route_pomPath ha hm with hm | ⟨names, -, rfl⟩
  · exact hv.clear m hm bytes hfile
  · by_cases hnames : names = []
    · rw [hnames, List.append_nil] at hfile
      exact hv.clear _ (w.place_mem_route repository) bytes hfile
    · rw [hv.empty names hnames] at hfile
      cases hfile

theorem Filled.refl (hr : Ready w repository all) :
    Filled w w repository all [] where
  frame := rfl
  directory _ h := h
  file l bytes := by simp
  free a ha := by
    rw [hr.toVacant.get?_place (hr.storable a ha)]
    exact fun h => nomatch h
  way a ha := absurd ha List.not_mem_nil

namespace Filled

theorem here (h : Filled w₀ w repository all done) : w.here = w₀.here :=
  Workspace.here_of_withFiles h.frame

theorem route_eq (h : Filled w₀ w repository all done) (p : Path) : w.route p = w₀.route p :=
  Workspace.route_congr h.here p

theorem start_eq (h : Filled w₀ w repository all done) (p : Path) : w.start p = w₀.start p :=
  Workspace.start_congr h.here p

theorem place_eq (h : Filled w₀ w repository all done) (p : Path) : w.place p = w₀.place p :=
  Workspace.place_congr h.here p

theorem starts (h : Filled w₀ w repository all done) (hr : Ready w₀ repository all)
    (ha : Storable a) : w.Starts (pomPath repository a) := by
  rw [Workspace.Starts, h.start_eq]
  exact h.directory _ ((starts_pomPath ha).2 hr.starts)

/-- Directories around a project object model change nothing else. -/
theorem grows (h : Filled w₀ w repository all done) (hr : Ready w₀ repository all) (ha : a ∈ all)
    (hg : Workspace.Grows (· ∈ w.route (pomPath repository a).parent) w w') :
    Filled w₀ w' repository all done where
  frame := Workspace.withFiles_trans h.frame hg.frame
  directory l hl := hg.directory (h.directory l hl)
  file l bytes := hg.file_iff.trans (h.file l bytes)
  free b hb := by
    rw [hg.get?_of_not]
    · exact h.free b hb
    · rw [h.route_eq]
      exact hr.not_mem_route ha hb
  way b hb hfits m hm := hg.directory (h.way b hb hfits m hm)

/-- Before a project object model is added, there is nothing at its place. -/
theorem get?_of_not_mem (h : Filled w₀ w repository all done) (hr : Ready w₀ repository all)
    (hdone : done ⊆ all) (ha : a ∈ all)
    (hnew : a.coordinates ∉ done.map Artifact.coordinates) :
    w.files.get? (w₀.place (pomPath repository a)) = none := by
  rcases hget : w.files.get? (w₀.place (pomPath repository a)) with _ | (_ | bytes)
  · rfl
  · exact absurd hget (h.free a ha)
  · rcases (h.file _ _).1 hget with hold | ⟨b, hb, -, hplace, -⟩
    · rw [hr.toVacant.get?_place (hr.storable a ha)] at hold
      cases hold
    · rw [place_pomPath_eq_iff (hr.storable a ha) (hr.storable b (hdone hb))] at hplace
      exact absurd (List.mem_map.2 ⟨b, hb, hplace.symm⟩) hnew

/-- Afterwards, it is found there. -/
theorem inspect_of_mem (h : Filled w₀ w repository all done) (hr : Ready w₀ repository all)
    (hdone : done ⊆ all) (hb : b ∈ done) (ha : a ∈ all) (heq : b.coordinates = a.coordinates)
    (hfits : (pomPath repository a).Fits) : w.inspect (pomPath repository a) =
      .ok (w₀.place (pomPath repository a), .file (minimalPom a).toUTF8) := by
  have hstorable := hr.storable a ha
  have hpath : pomPath repository b = pomPath repository a :=
    (pomPath_eq_iff (hr.storable b (hdone hb)) hstorable).2 heq
  -- The directories on the way have been made for `b`, and the file has its bytes.
  rw [Workspace.inspect_eq_ok_iff, Workspace.node?_of_ne (pomPath_ne_here hstorable repository)]
  constructor
  · rw [← h.place_eq]
    refine Workspace.locate_of_way (h.starts hr hstorable) hfits fun m hm => ?_
    rw [Workspace.way_eq_route_parent w (parts_pomPath_ne_nil hstorable repository),
      h.route_eq, ← hpath] at hm
    rw [← hpath] at hfits
    exact h.way b hb hfits m hm
  · rw [← hpath] at hfits ⊢
    rw [← minimalPom_congr heq]
    exact (h.file _ _).2 (.inr ⟨b, hb, hfits, rfl, rfl⟩)

/-- If the directories around it are there, a project object model can be written. -/
theorem writable (h : Filled w₀ w repository all done) (hr : Ready w₀ repository all)
    (ha : Storable a) (hfits : (pomPath repository a).Fits)
    (hnone : w.files.get? (w₀.place (pomPath repository a)) = none)
    (hway : ∀ m ∈ w₀.route (pomPath repository a).parent, w.files.get? m = some .directory)
    (bytes : ByteArray) : ∃ w', w.writeFile (pomPath repository a) bytes = .ok w' := by
  have hs := h.starts hr ha
  rw [← h.place_eq] at hnone
  rw [← h.route_eq, ← Workspace.way_eq_route_parent w (parts_pomPath_ne_nil ha repository)] at hway
  have hplace := Workspace.isDirectory_dropLast_place hs hway
  obtain ⟨hroot, hnamed⟩ := hplace.2 hnone
  refine ⟨_, Workspace.writeFile_eq_ok_iff.2
    ⟨_, Workspace.locate_of_way hs hfits hway, ?_, ⟨hroot, hnamed, hplace.1, .inr ?_⟩, rfl⟩⟩
  · rw [Workspace.node?_of_ne (pomPath_ne_here ha repository), hnone]
    rfl
  · rw [FileTree.isDirectory, hnone]
    rfl

/-- Writing a project object model adds it. -/
theorem written (h : Filled w₀ w repository all done) (hr : Ready w₀ repository all)
    (hdone : done ⊆ all) (ha : a ∈ all) (hfits : (pomPath repository a).Fits)
    (hnone : w.files.get? (w₀.place (pomPath repository a)) = none)
    (hway : ∀ m ∈ w₀.route (pomPath repository a).parent, w.files.get? m = some .directory)
    (hw : w.writeFile (pomPath repository a) (minimalPom a).toUTF8 = .ok w') :
    Filled w₀ w' repository all (done ++ [a]) := by
  have hget := Workspace.get?_writeFile hw
  rw [h.place_eq] at hget
  have hsub : done ++ [a] ⊆ all := by simp [hdone, ha]
  refine { frame := ?_, directory := fun m hm => ?_, file := fun m bytes => ?_,
           free := fun b hb => ?_, way := fun b hb hfitsb m hm => ?_ }
  · exact Workspace.withFiles_trans h.frame (Workspace.withFiles_writeFile hw)
  · rw [hget, if_neg, h.directory m hm]
    rintro rfl
    rw [h.directory _ hm] at hnone
    cases hnone
  · -- At its place there is the new file only, and elsewhere nothing has changed.
    rw [hget]
    by_cases hm : m = w₀.place (pomPath repository a)
    · rw [if_pos hm, Option.some.injEq, FileNode.file.injEq]
      constructor
      · rintro rfl
        exact .inr ⟨a, List.mem_concat_self, hfits, hm, rfl⟩
      · rintro (hold | ⟨b, hb, -, hplace, rfl⟩)
        · rw [hm, hr.toVacant.get?_place (hr.storable a ha)] at hold
          cases hold
        · rw [hm, place_pomPath_eq_iff (hr.storable a ha) (hr.storable b (hsub hb))] at hplace
          rw [minimalPom_congr hplace]
    · rw [if_neg hm, h.file, exists_mem_concat]
      exact or_congr_right (or_iff_left fun ⟨_, hplace, _⟩ => hm hplace).symm
  · rw [hget]
    split
    · exact fun hdir => nomatch hdir
    · exact h.free b hb
  · -- The new file is on no way.
    rw [hget, if_neg]
    · rcases List.mem_append.1 hb with hb | hb
      · exact h.way b hb hfitsb m hm
      · rw [List.mem_singleton.1 hb] at hm
        exact hway m hm
    · rintro rfl
      exact hr.not_mem_route (hsub hb) ha hm

/-- One that is there already, or does not fit, adds nothing. -/
theorem again (h : Filled w₀ w repository all done) (hr : Ready w₀ repository all)
    (hdone : done ⊆ all) (ha : a ∈ all)
    (hseen : (pomPath repository a).Fits → ∃ b ∈ done, b.coordinates = a.coordinates) :
    Filled w₀ w repository all (done ++ [a]) := by
  have hsame (hfits : (pomPath repository a).Fits) : ∃ b ∈ done,
      pomPath repository b = pomPath repository a ∧ minimalPom b = minimalPom a := by
    obtain ⟨b, hb, heq⟩ := hseen hfits
    exact ⟨b, hb, (pomPath_eq_iff (hr.storable b (hdone hb)) (hr.storable a ha)).2 heq,
      minimalPom_congr heq⟩
  refine { h with file := fun l bytes => ?_, way := fun b hb hfits => ?_ }
  · rw [h.file, exists_mem_concat]
    refine or_congr_right (or_iff_left_of_imp fun ⟨hfits, hplace, hbytes⟩ => ?_).symm
    obtain ⟨c, hc, hpath, hpom⟩ := hsame hfits
    rw [← hpath] at hfits hplace
    rw [← hpom] at hbytes
    exact ⟨c, hc, hfits, hplace, hbytes⟩
  · rcases List.mem_append.1 hb with hb | hb
    · exact h.way b hb hfits
    · rw [List.mem_singleton.1 hb] at hfits ⊢
      obtain ⟨c, hc, hpath, -⟩ := hsame hfits
      rw [← hpath] at hfits ⊢
      exact h.way c hc hfits

end Filled

/-! ## Answers -/

/-- The answer when an artifact is added after those in `done`: whether it is new,
    if the system takes its path, and a failure otherwise. -/
structure Answers (repository : Path) (done : List Artifact) (a : Artifact)
    (r : Except Failure Bool) : Prop where
  ok : (pomPath repository a).Fits →
    r = .ok (decide (a.coordinates ∉ done.map Artifact.coordinates))
  error : ¬(pomPath repository a).Fits → ∃ e, r = .error (.file e)

/-- A new project object model is written. -/
theorem addPom_of_new (h : Filled w₀ s.workspace repository all done)
    (hr : Ready w₀ repository all) (hdone : done ⊆ all) (ha : a ∈ all)
    (hfits : (pomPath repository a).Fits)
    (hnew : a.coordinates ∉ done.map Artifact.coordinates) : ∃ workspace,
      (addPom repository a).runIn s = (.ok true, { s with workspace }) ∧
      Filled w₀ workspace repository all (done ++ [a]) := by
  have hstorable := hr.storable a ha
  have hnone := h.get?_of_not_mem hr hdone ha hnew
  have hclear : s.workspace.Clear (pomPath repository a).parent := by
    intro m hm bytes hfile
    rw [h.route_eq] at hm
    rcases (h.file m bytes).1 hfile with hold | ⟨b, hb, -, rfl, -⟩
    · exact hr.toVacant.clear_parent hstorable m hm bytes hold
    · exact hr.not_mem_route ha (hdone hb) hm
  rw [← h.place_eq] at hnone
  obtain ⟨made, hgrows, hway, hrun⟩ :=
    addPom_of_clear (h.starts hr hstorable) hstorable hfits hclear hnone
  have hfilled := h.grows hr ha hgrows
  rw [h.route_eq] at hway
  have hfree := hfilled.get?_of_not_mem hr hdone ha hnew
  obtain ⟨w', hw'⟩ := hfilled.writable hr hstorable hfits hfree hway (minimalPom a).toUTF8
  refine ⟨w', ?_, hfilled.written hr hdone ha hfits hfree hway hw'⟩
  rw [hrun]
  simp only [hw']

/-- Where the way to a repository leads through the place of a project object model,
    a directory is made there, so that it cannot be written. -/
theorem addPom_of_mem_route (hv : Vacant s.workspace repository) (ha : Storable a)
    (hfits : (pomPath repository a).Fits)
    (hmem : s.workspace.place (pomPath repository a) ∈ s.workspace.route repository) :
    ∃ e workspace, (addPom repository a).runIn s = (.error (.file e), { s with workspace }) := by
  obtain ⟨made, hgrows, hway, hrun⟩ := addPom_of_clear ((starts_pomPath ha).2 hv.starts) ha hfits
    (hv.clear_parent ha) (hv.get?_place ha)
  have hdir := hway _ (mem_route_parent_pomPath ha hmem)
  rw [hrun]
  cases hwrite : made.writeFile (pomPath repository a) (minimalPom a).toUTF8 with
  | error e => exact ⟨e, made, rfl⟩
  | ok w' =>
    obtain ⟨l, hl, hno, -⟩ := Workspace.writeFile_eq_ok_iff.1 hwrite
    rw [Workspace.node?_of_ne (pomPath_ne_here ha repository), Workspace.place_of_locate hl,
      hgrows.place, hdir] at hno
    cases hno

/-- Adding a project object model keeps a repository filled, and tells whether it
    is new. -/
theorem addPom_filled (h : Filled w₀ s.workspace repository all done)
    (hr : Ready w₀ repository all) (hdone : done ⊆ all)
    (ha : a ∈ all) : ∃ r workspace,
      (addPom repository a).runIn s = (r, { s with workspace }) ∧
      Answers repository done a r ∧ Filled w₀ workspace repository all (done ++ [a]) := by
  by_cases hfits : (pomPath repository a).Fits
  · by_cases hnew : a.coordinates ∈ done.map Artifact.coordinates
    · -- It is found where an earlier one has been written.
      obtain ⟨b, hb, heq⟩ := List.mem_map.1 hnew
      have hfound := h.inspect_of_mem hr hdone hb ha heq hfits
      have hexists : s.workspace.pathExists (pomPath repository a) = .ok true :=
        Workspace.pathExists_eq_ok_iff.2 ⟨_, Workspace.find?_of_inspect hfound, rfl⟩
      refine ⟨.ok false, s.workspace, ?_, ⟨fun _ => ?_, fun hno => absurd hfits hno⟩,
        h.again hr hdone ha fun _ => ⟨b, hb, heq⟩⟩
      · rw [runIn_addPom, hexists]
      · rw [decide_eq_false (not_not.2 hnew)]
    · obtain ⟨workspace, hrun, hfilled⟩ := addPom_of_new h hr hdone ha hfits hnew
      refine ⟨.ok true, workspace, hrun, ⟨fun _ => ?_, fun hno => absurd hfits hno⟩, hfilled⟩
      rw [decide_eq_true hnew]
  · obtain ⟨e, workspace, hrun, hgrows⟩ := addPom_of_not_fits (s := s) hfits
    exact ⟨_, workspace, hrun, ⟨fun hyes => absurd hyes hfits, fun _ => ⟨e, rfl⟩⟩,
      (h.grows hr ha hgrows).again hr hdone ha fun hyes => absurd hyes hfits⟩

end JavaBuild.Pom
