import JavaBuild.Proofs.FileTree.NulPath
import JavaBuild.Proofs.FileTree.Removal

/-!
# Files in new directories

A file is written after the directories around it have been made. This succeeds if a file can
stand at the path (`Workspace.CanHold`), and then changes nothing but the file and the missing
directories on its way (`Workspace.Filed`).

If it fails, the files are as they were, unless the path is too long for the system: directories
on the way to it may have been made by then (`makeDirectories_eq_error`,
`writeFile_eq_error_made`). For where there was no entry, there is no file, and once the
directories around it are there, nothing else can go wrong.
-/

namespace JavaBuild.Workspace

variable {w w' made : Workspace} {p : Path} {l m : Location} {bytes : ByteArray} {e : FileError}
  {subject : Subject}

/-! ## Paths that are too long -/

theorem locate_of_tooLong (hnul : '\x00' ∉ p.toString.toList)
    (hlong : maxPath < p.toString.utf8ByteSize) : w.locate p = .error (.on .nameTooLong p) := by
  rw [locate]
  simp [hnul, hlong]

/-- In a directory that is there, a path is found unless it is too long. -/
theorem locate_of_parent (hs : w.Starts p) (hne : p.parts ≠ [])
    (hnul : '\x00' ∉ p.toString.toList) (h : w.inspect p.parent = .ok (l, .directory)) :
    w.locate p = .ok (w.place p) ∨ (w.locate p = .error (.on .nameTooLong p) ∧ ¬p.Fits) := by
  have hway : ∀ m ∈ way (w.start p) p.parts, w.files.get? m = some .directory := fun m hm =>
    get?_of_mem_route (p := p.parent) hs h (way_eq_route_parent w hne ▸ hm)
  by_cases hfits : p.Fits
  · exact .inl (locate_of_way hs hfits hway)
  refine .inr ⟨?_, hfits⟩
  by_cases htext : p.Admissible
  · rcases walk_of_way hway with hwalk | hwalk
    · exact absurd ⟨htext, (walk_eq_ok_iff.1 hwalk).2.2⟩ hfits
    · exact locate_of_follow_eq_error htext ((follow_of_starts hs).trans hwalk)
  · exact locate_of_tooLong hnul (Nat.not_le.1 fun hle => htext ⟨hnul, hle⟩)

theorem ensureDirectory_of_tooLong (h : w.locate p = .error (.on .nameTooLong p)) :
    w.ensureDirectory p = .error (.on .nameTooLong p) := by
  have hmake : w.makeDirectory p = .error (.on .nameTooLong p) := by
    simp only [makeDirectory, h, bind, Except.bind]
  have hdir : w.isDirectory p = .error (.on .nameTooLong p) := by
    simp only [isDirectory, find?, inspect, h, bind, Except.bind]
    rfl
  simp only [ensureDirectory, hmake, FileError.on, bind, Except.bind] at hdir ⊢
  rw [hdir]

/-! ## Making directories -/

/-- A directory that is not found is no failure to look for it. -/
theorem isDirectory_ne_noEntry : w.isDirectory p ≠ .error (.os (.refused .noEntry subject)) := by
  rw [isDirectory, ne_eq, map_eq_error_iff, find?]
  intro h
  split at h
  case h_5 e _ hentry _ _ =>
    cases h
    exact hentry _ rfl
  all_goals cases h

theorem inspect_of_makeDirectory_eq_noEntry
    (h : w.makeDirectory p = .error (.os (.refused .noEntry subject))) :
    w.inspect p = .error (.os (.refused .noEntry subject)) := by
  rcases bind_eq_error_iff.1 h with hl | ⟨l, hl, h⟩
  · rw [inspect, hl]
    rfl
  · split at h
    · cases h
    · rename_i hnode
      split at h
      · cases h
      · rw [inspect_of_node?_eq_none hl (by simpa using hnode)]
        exact congrArg Except.error (Except.error.inj h)

/-- Where there is no entry for a directory, there is nothing. -/
theorem get?_of_ensureDirectory_eq_noEntry (hdots : ".." ∉ p.parts)
    (h : w.ensureDirectory p = .error (.os (.refused .noEntry subject))) :
    w.files.get? (w.place p) = none := by
  suffices hmake : w.makeDirectory p = .error (.os (.refused .noEntry subject)) from
    get?_of_inspect_eq_noEntry hdots (inspect_of_makeDirectory_eq_noEntry hmake)
  rw [ensureDirectory] at h
  split at h
  · rename_i hmake
    rw [hmake, h]
  · rename_i e hentry hmake
    rcases bind_eq_error_iff.1 h with h | ⟨found, -, h⟩
    · exact absurd h isDirectory_ne_noEntry
    · cases found with
      | true => cases h
      | false => exact absurd (FileError.os.inj (Except.error.inj h)) (hentry _)
  · exact h

/-- If directories cannot be made, none is, unless the path is too long. -/
theorem makeDirectories_eq_error (hs : w.Starts p) (hdots : ".." ∉ p.parts)
    (hnul : '\x00' ∉ p.toString.toList) (h : (w.makeDirectories p).1 = .error e) :
    (w.makeDirectories p).2 = w ∨ ((∃ q, e = .on .nameTooLong q) ∧ ¬p.Fits) := by
  fun_induction makeDirectories w p with
  | case1 => cases h
  | case2 => exact .inl rfl
  | case3 p _ _ hne _ e' w' hrun ih =>
    rw [hrun] at ih
    refine (ih hs.parent (mt (fun h => List.dropLast_subset _ h) hdots)
      (mt Path.nul_mem_of_parent hnul) h).imp_right ?_
    rintro ⟨hlong, hfits⟩
    exact ⟨hlong, mt Path.Fits.parent hfits⟩
  | case4 => cases h
  | case5 p _ hensure hne _ w' hrun e' he ih =>
    -- The directories around it have been made, so it can only be too long.
    cases h
    obtain ⟨hgrows, l, hl⟩ := made_of_makeDirectories hrun
    have hs' : w'.Starts p := hgrows.starts hs
    rcases locate_of_parent hs' hne hnul hl with hlocate | ⟨hlong, hfits⟩
    · obtain ⟨w'', h''⟩ := ensureDirectory_of_locate hs' hlocate fun bytes hfile => by
        rw [hgrows.place, hgrows.file_iff, get?_of_ensureDirectory_eq_noEntry hdots hensure]
          at hfile
        cases hfile
      rw [he] at h''
      cases h''
    · rw [ensureDirectory_of_tooLong hlong, Except.error.injEq] at he
      exact .inr ⟨⟨p, he.symm⟩, hfits⟩
  | case6 => exact .inl rfl

/-- If the last name makes a path too long, the directories before it are made all the same. -/
theorem makeDirectories_of_tooLong (hs : w.Starts p) (hne : p.parts ≠ [])
    (hnul : '\x00' ∉ p.toString.toList) (hfits : ¬p.Fits)
    (hentry : w.locate p = .error (.on .noEntry p))
    (hok : (w.makeDirectories p.parent).1 = .ok ()) :
    w.makeDirectories p = (.error (.on .nameTooLong p), (w.makeDirectories p.parent).2) := by
  rw [makeDirectories_of_noEntry hne (ensureDirectory_of_noEntry hentry)]
  obtain ⟨made, hmade⟩ : ∃ made, w.makeDirectories p.parent = (.ok (), made) :=
    ⟨_, Prod.ext hok rfl⟩
  obtain ⟨hgrows, l, hl⟩ := made_of_makeDirectories hmade
  rw [hmade]
  rcases locate_of_parent (hgrows.starts hs) hne hnul hl with hlocate | ⟨hlong, -⟩
  · exact absurd (fits_of_locate hlocate) hfits
  · simp only [ensureDirectory_of_tooLong hlong]

/-! ## Writing a file -/

/-- In a directory that is there, a file is written over another one or as a new one, unless
    there is a directory in its place or its path is too long. -/
theorem writeFile_cases (hs : w.Starts p) (hdots : ".." ∉ p.parts) (hne : p.parts ≠ [])
    (hnul : '\x00' ∉ p.toString.toList) (h : w.inspect p.parent = .ok (l, .directory))
    (bytes : ByteArray) :
    (∃ w', w.writeFile p bytes = .ok w') ∨
      (p.Fits ∧ w.files.get? (w.place p) = some .directory) ∨
      (w.writeFile p bytes = .error (.on .nameTooLong p) ∧ ¬p.Fits) := by
  rcases locate_of_parent hs hne hnul h with hl | ⟨hlong, hfits⟩
  · by_cases hdir : w.files.get? (w.place p) = some .directory
    · exact .inr (.inl ⟨fits_of_locate hl, hdir⟩)
    left
    have hfile : w.files.isDirectory (w.place p) = false := by
      rwa [← Bool.not_eq_true, FileTree.isDirectory_iff]
    have hway := (walk_eq_ok_iff.1 ((follow_of_starts hs).symm.trans (locate_eq_ok_iff.1 hl).2)).2.1
    refine ⟨_, writeFile_eq_ok_iff.2 ⟨_, hl, ?_, ⟨?_, ?_, ?_, .inr ?_⟩, rfl⟩⟩
    · rw [node?_of_ne (ne_here_of_parts_ne_nil hne)]
      exact hfile
    · rw [place_of_not_mem hdots]
      exact List.append_ne_nil_of_right_ne_nil _ hne
    · exact hs.not_mem_place
    · exact (isDirectory_dropLast_place hs hway).1
    · rw [hfile]
      rfl
  · refine .inr (.inr ⟨?_, hfits⟩)
    simp only [writeFile, hlong, bind, Except.bind]

/-- A file is written over the one at a path, or as a new one with the missing directories on
    its way. Nothing else changes. -/
structure Filed (p : Path) (bytes : ByteArray) (w w' : Workspace) : Prop where
  frame : w.withFiles w'.files = w'
  file : w'.files.get? (w.place p) = some (.file bytes)
  around : ∀ l, l <+: w.place p → l ≠ w.place p → w'.files.get? l = some .directory
  kept : ∀ l, l ≠ w.place p → w'.files.get? l = w.files.get? l ∨
    (w.files.get? l = none ∧ l <+: w.place p)

/-- A file can be written at a path once the directories around it have been made: the system
    takes the path, no file is around it, and no directory in its place. -/
structure CanHold (w : Workspace) (p : Path) : Prop where
  fits : p.Fits
  clear : w.Clear p.parent
  free : w.files.get? (w.place p) ≠ some .directory

/-- The route of a path without `..` leads straight down. -/
theorem prefix_of_mem_route (hdots : ".." ∉ p.parts) (hm : m ∈ w.route p) :
    m <+: w.place p := by
  rcases List.mem_append.1 hm with hm | hm
  · exact (prefix_of_mem_way hdots hm).1
  · obtain rfl := List.mem_singleton.1 hm
    exact List.prefix_rfl

/-- The place of a path is not on the route of its parent. -/
theorem place_notMem_route_parent (hdots : ".." ∉ p.parts) (hne : p.parts ≠ []) :
    w.place p ∉ w.route p.parent := by
  rw [← way_eq_route_parent w hne]
  exact fun hm => (prefix_of_mem_way hdots hm).2 rfl

/-- Make the directories around a path, and write a file there. What was made before a failure
    stays. -/
def makeFile (w : Workspace) (p : Path) (bytes : ByteArray) :
    Except FileError Unit × Workspace :=
  match w.makeDirectories p.parent with
  | (.error e, made) => (.error e, made)
  | (.ok (), made) => match made.writeFile p bytes with
    | .error e => (.error e, made)
    | .ok written => (.ok (), written)

theorem makeFile_of_error (bytes : ByteArray) (h : w.makeDirectories p.parent = (.error e, made)) :
    w.makeFile p bytes = (.error e, made) := by
  rw [makeFile, h]

theorem makeFile_of_ok (h : w.makeDirectories p.parent = (.ok (), made)) :
    w.makeFile p bytes = match made.writeFile p bytes with
      | .error e => (.error e, made)
      | .ok written => (.ok (), written) := by
  rw [makeFile, h]

theorem get?_place_made (hdots : ".." ∉ p.parts) (hne : p.parts ≠ []) :
    (w.makeDirectories p.parent).2.files.get? (w.place p) = w.files.get? (w.place p) :=
  (w.makeDirectories_grows p.parent).get?_of_not (place_notMem_route_parent hdots hne)

/-- A file that has been written is the only change but for the directories around it. -/
theorem filed_of_writeFile (hdots : ".." ∉ p.parts) (hne : p.parts ≠ [])
    (h : (w.makeDirectories p.parent).2.writeFile p bytes = .ok w') : Filed p bytes w w' := by
  have hgrows := w.makeDirectories_grows p.parent
  have hget := get?_writeFile h
  rw [hgrows.place] at hget
  have hfile : w'.files.get? (w.place p) = some (.file bytes) := (hget _).trans (if_pos rfl)
  refine ⟨withFiles_trans hgrows.frame (withFiles_writeFile h), hfile,
    fun l hl hne => FileTree.get?_above hfile hl hne, fun l hl => ?_⟩
  rw [hget, if_neg hl]
  rcases hgrows.files l with hsame | ⟨hnone, -, hroute⟩
  · exact .inl hsame
  · rw [← way_eq_route_parent w hne] at hroute
    exact .inr ⟨hnone, (prefix_of_mem_way hdots hroute).1⟩

/-- A file that has been written can stand where it is. -/
theorem canHold_of_writeFile (hs : w.Starts p) (hne : p.parts ≠ [])
    (hok : (w.makeDirectories p.parent).1 = .ok ())
    (h : (w.makeDirectories p.parent).2.writeFile p bytes = .ok w') : w.CanHold p := by
  obtain ⟨hgrows, l, hl⟩ := made_of_makeDirectories (Prod.ext hok rfl)
  obtain ⟨m, hm, hnode, -⟩ := writeFile_eq_ok_iff.1 h
  refine ⟨fits_of_locate hm, fun k hk bytes hfile => ?_, fun hdir => ?_⟩
  · have hs' : (w.makeDirectories p.parent).2.Starts p.parent := hgrows.starts hs.parent
    have hk' := get?_of_mem_route hs' hl (route_congr hgrows.here p.parent ▸ hk)
    rw [hgrows.file_iff.2 hfile] at hk'
    cases hk'
  · rw [place_of_locate hm, hgrows.place, node?_of_ne (ne_here_of_parts_ne_nil hne),
      hgrows.directory hdir] at hnode
    cases hnode

/-- If a file cannot be written after the directories around it have been made, it cannot stand
    there, and they were there already unless its path is too long. -/
theorem writeFile_eq_error_made (hs : w.Starts p) (hdots : ".." ∉ p.parts) (hne : p.parts ≠ [])
    (hnul : '\x00' ∉ p.toString.toList) (hok : (w.makeDirectories p.parent).1 = .ok ())
    (h : (w.makeDirectories p.parent).2.writeFile p bytes = .error e) : ¬w.CanHold p ∧
      ((w.makeDirectories p.parent).2 = w ∨ (e = .on .nameTooLong p ∧ ¬p.Fits)) := by
  obtain ⟨hgrows, l, hl⟩ := made_of_makeDirectories (Prod.ext hok rfl)
  rcases writeFile_cases (hgrows.starts hs) hdots hne hnul hl bytes with
    ⟨w', hw'⟩ | ⟨hfits, hdir⟩ | ⟨hlong, hfits⟩
  · rw [h] at hw'
    cases hw'
  · -- The directory in its place was there at first, and so were those around it.
    rw [hgrows.place, get?_place_made hdots hne] at hdir
    have hlocate := locate_of_way hs hfits fun m => get?_of_mem_way hdots hdir
    obtain ⟨m, hm⟩ := inspect_parent hlocate hne
    rw [makeDirectories_of_inspect hm]
    exact ⟨fun hholds => hholds.free hdir, .inl rfl⟩
  · rw [h, Except.error.injEq] at hlong
    exact ⟨fun hholds => hfits hholds.fits, .inr ⟨hlong, hfits⟩⟩

/-- What a failure to make a file leaves: no file has changed, and no directory has been made,
    unless the path is too long. Then there may be directories on its way. -/
structure Spared (p : Path) (e : FileError) (w w' : Workspace) : Prop where
  grows : Grows (· <+: w.place p.parent) w w'
  cause : w' = w ∨ ((∃ q, e = .on .nameTooLong q) ∧ ¬p.Fits)

/-- A file is made if it can stand at its path, and else all is spared. -/
theorem makeFile_cases (hs : w.Starts p) (hdots : ".." ∉ p.parts) (hne : p.parts ≠ [])
    (hnul : '\x00' ∈ p.toString.toList → '\x00' ∈ p.parent.toString.toList)
    (bytes : ByteArray) :
    (∃ w', w.makeFile p bytes = (.ok (), w') ∧ w.CanHold p ∧ Filed p bytes w w') ∨
      ∃ e w', w.makeFile p bytes = (.error e, w') ∧ ¬w.CanHold p ∧ Spared p e w w' := by
  have hdots' : ".." ∉ p.parent.parts := fun hmem => hdots (List.dropLast_subset _ hmem)
  have hgrows := (w.makeDirectories_grows p.parent).mono
    (Q := (· <+: w.place p.parent)) fun _ => prefix_of_mem_route hdots'
  cases hmade : (w.makeDirectories p.parent).1 with
  | error e =>
    have hrefused : ¬w.CanHold p := by
      intro hholds
      rw [makeDirectories_eq_ok (p := p.parent) hs hholds.fits.parent hholds.clear] at hmade
      cases hmade
    refine .inr ⟨e, _, makeFile_of_error bytes (Prod.ext hmade rfl), hrefused, hgrows, ?_⟩
    by_cases hnul' : '\x00' ∈ p.parent.toString.toList
    · rw [w.makeDirectories_of_nul hnul']
      exact .inl rfl
    · -- Only for the length of the path can there be directories on its way.
      exact (makeDirectories_eq_error hs.parent hdots' hnul' hmade).imp_right
        (And.imp_right (mt Path.Fits.parent))
  | ok _ =>
    have hrun : w.makeFile p bytes = _ := makeFile_of_ok (Prod.ext hmade rfl)
    cases hwrite : (w.makeDirectories p.parent).2.writeFile p bytes with
    | ok w' =>
      rw [hwrite] at hrun
      exact .inl ⟨w', hrun, canHold_of_writeFile hs hne hmade hwrite,
        filed_of_writeFile hdots hne hwrite⟩
    | error e =>
      -- A NUL in the path is one in its parent, so no directories would have been made.
      have hplain : '\x00' ∉ p.toString.toList := by
        intro hmem
        rw [w.makeDirectories_of_nul (hnul hmem)] at hmade
        cases hmade
      obtain ⟨hrefused, hcause⟩ := writeFile_eq_error_made hs hdots hne hplain hmade hwrite
      rw [hwrite] at hrun
      refine .inr ⟨e, _, hrun, hrefused, hgrows, hcause.imp_right ?_⟩
      exact And.imp_left fun he => ⟨p, he⟩

end JavaBuild.Workspace
