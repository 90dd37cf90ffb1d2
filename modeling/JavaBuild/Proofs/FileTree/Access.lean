import JavaBuild.Proofs.FileTree.Walk
import JavaBuild.Proofs.Result

/-!
# Reading, writing and removing files

What looking at a path finds, and what writing and removing a file leave behind:
a file that has been written is found with its bytes (`inspect_writeFile`), one
that has been removed is not found (`find?_removeFile`), and nothing else changes.
-/

namespace JavaBuild.Workspace

variable {w w' : Workspace} {p : Path} {l m : Location} {node : FileNode} {bytes : ByteArray}

/-! ## Looking -/

theorem inspect_eq_ok_iff :
    w.inspect p = .ok (l, node) ↔ w.locate p = .ok l ∧ w.node? p l = some node := by
  unfold inspect
  rw [bind_eq_ok_iff]
  constructor
  · rintro ⟨loc, hl, h⟩
    split at h
    · cases h
    · rename_i hn
      cases h
      exact ⟨hl, hn⟩
  · rintro ⟨hl, hn⟩
    refine ⟨l, hl, ?_⟩
    rw [hn]
    rfl

/-- Where there is nothing, looking fails for want of an entry. -/
theorem inspect_of_node?_eq_none (hl : w.locate p = .ok l) (hn : w.node? p l = none) :
    w.inspect p = .error (.on .noEntry p) := by
  simp only [inspect, hl, bind, Except.bind, hn]
  rfl

/-- Only the working directory is found without being in the tree. -/
theorem node?_of_ne (hp : p ≠ .here) : w.node? p l = w.files.get? l := if_neg hp

theorem ne_here_of_file (h : w.inspect p = .ok (l, .file bytes)) : p ≠ .here := by
  rintro rfl
  have := (inspect_eq_ok_iff.1 h).2
  rw [node?, if_pos rfl] at this
  cases this

/-- A file that is found is in the tree. -/
theorem get?_of_inspect (h : w.inspect p = .ok (l, .file bytes)) :
    w.files.get? l = some (.file bytes) := by
  rw [← node?_of_ne (ne_here_of_file h)]
  exact (inspect_eq_ok_iff.1 h).2

theorem find?_of_inspect (h : w.inspect p = .ok (l, node)) : w.find? p = .ok (some node) := by
  unfold find?
  rw [h]

theorem find?_of_node?_eq_none (hl : w.locate p = .ok l) (hn : w.node? p l = none) :
    w.find? p = .ok none := by
  unfold find?
  rw [inspect_of_node?_eq_none hl hn]
  rfl

theorem inspect_of_find? (h : w.find? p = .ok (some node)) : ∃ l, w.inspect p = .ok (l, node) := by
  unfold find? at h
  split at h
  · rename_i l found hi
    cases h
    exact ⟨l, hi⟩
  all_goals cases h

theorem pathExists_eq_ok_iff {b : Bool} :
    w.pathExists p = .ok b ↔ ∃ found, w.find? p = .ok found ∧ found.isSome = b :=
  map_eq_ok_iff

theorem readFile_of_inspect (h : w.inspect p = .ok (l, .file bytes)) :
    w.readFile p = .ok bytes := by
  unfold readFile
  rw [h]
  rfl

theorem inspect_of_readFile (h : w.readFile p = .ok bytes) :
    ∃ l, w.inspect p = .ok (l, .file bytes) := by
  obtain ⟨⟨l, node⟩, hi, h⟩ := bind_eq_ok_iff.1 h
  cases node with
  | directory => cases h
  | file found =>
    cases h
    exact ⟨l, hi⟩

/-! ## Writing -/

theorem writeFile_eq_ok_iff : w.writeFile p bytes = .ok w' ↔ ∃ l, w.locate p = .ok l ∧
    (w.node? p l).any FileNode.isDirectory = false ∧ w.files.Allows l (.file bytes) ∧
      w.withFiles (w.files.put l (.file bytes)) = w' := by
  unfold writeFile
  rw [bind_eq_ok_iff]
  refine exists_congr fun l => and_congr_right fun _ => ?_
  split
  · rename_i hd
    exact ⟨fun h => (nomatch h), fun h => absurd hd (by simp [h.1])⟩
  · rename_i hd
    split
    · rename_i ha
      exact ⟨fun h => ⟨by simpa using hd, ha, Except.ok.inj h⟩, fun h => congrArg Except.ok h.2.2⟩
    · rename_i ha
      exact ⟨fun h => (nomatch h), fun h => absurd h.2.1 ha⟩

/-- Whether a file can be written does not depend on what is written. -/
theorem writeFile_eq_error (bytes' : ByteArray) {e : FileError}
    (h : w.writeFile p bytes = .error e) : w.writeFile p bytes' = .error e := by
  unfold writeFile at h ⊢
  rcases bind_eq_error_iff.1 h with hl | ⟨l, hl, h⟩
  · rw [hl]
    rfl
  · rw [hl]
    simp only [bind, Except.bind]
    split at h
    · rename_i hd
      rw [if_pos hd]
      exact h
    · rename_i hd
      rw [if_neg hd]
      split at h
      · cases h
      · rename_i ha
        -- Where a file is allowed, any file is.
        have ha' : ¬w.files.Allows l (.file bytes') := ha
        rw [if_neg ha']
        exact h

/-- Writing a file changes nothing but the file. -/
theorem get?_writeFile (h : w.writeFile p bytes = .ok w') (m : Location) :
    w'.files.get? m = if m = w.place p then some (.file bytes) else w.files.get? m := by
  obtain ⟨l, hl, -, ha, rfl⟩ := writeFile_eq_ok_iff.1 h
  rw [← place_of_locate hl]
  exact FileTree.get?_put ha m

theorem withFiles_writeFile (h : w.writeFile p bytes = .ok w') : w.withFiles w'.files = w' := by
  obtain ⟨l, -, -, -, rfl⟩ := writeFile_eq_ok_iff.1 h
  rfl

/-- Putting a file where there is no directory changes no way. -/
theorem locate_put (hl : w.locate p = .ok l) (ha : w.files.Allows m (.file bytes)) :
    (w.withFiles (w.files.put m (.file bytes))).locate p = .ok l := by
  refine locate_mono (w := w) rfl (fun k hk => ?_) hl
  change (w.files.put m (.file bytes)).get? k = _
  rw [FileTree.get?_put ha, if_neg ?_, hk]
  -- On the way there are directories, and a file is allowed in the place of none.
  rintro rfl
  have := ha.2.2.2
  rw [FileTree.isDirectory_iff.2 hk] at this
  simp [FileNode.isDirectory] at this

/-- A file that has been written is found with its bytes. -/
theorem inspect_writeFile (h : w.writeFile p bytes = .ok w') :
    ∃ l, w'.inspect p = .ok (l, .file bytes) := by
  obtain ⟨l, hl, hno, ha, rfl⟩ := writeFile_eq_ok_iff.1 h
  refine ⟨l, inspect_eq_ok_iff.2 ⟨locate_put hl ha, ?_⟩⟩
  have hp : p ≠ .here := by
    rintro rfl
    simp [node?, FileNode.isDirectory] at hno
  rw [node?_of_ne hp]
  exact (FileTree.get?_put ha l).trans (if_pos rfl)

/-! ## Removing -/

theorem removeFile_eq_ok_iff : w.removeFile p = .ok w' ↔
    ∃ l bytes, w.inspect p = .ok (l, .file bytes) ∧ w.withFiles (w.files.prune l) = w' := by
  unfold removeFile
  rw [bind_eq_ok_iff]
  constructor
  · rintro ⟨⟨l, _ | bytes⟩, hi, h⟩
    · cases h
    · exact ⟨l, bytes, hi, Except.ok.inj h⟩
  · rintro ⟨l, bytes, hi, rfl⟩
    exact ⟨_, hi, rfl⟩

/-- Without a file, all else stays. -/
theorem get?_prune_file {t : FileTree} (h : t.get? l = some (.file bytes)) (m : Location) :
    (t.prune l).get? m = if m = l then none else t.get? m := by
  have hl : l ≠ [] := by
    rintro rfl
    rw [FileTree.get?_nil] at h
    cases h
  rw [FileTree.get?_prune t hl]
  -- There is nothing below a file, so no more is removed than the file itself.
  by_cases hm : m = l
  · rw [if_pos hm, if_pos (by simp [hm])]
  · rw [if_neg hm]
    split
    · rename_i hp
      obtain ⟨names, rfl⟩ := List.isPrefixOf_iff_prefix.1 hp
      refine (FileTree.get?_append (by rw [h]; simp) fun hn => hm ?_).symm
      rw [hn, List.append_nil]
    · rfl

/-- A file that has been removed is not found. -/
theorem find?_removeFile (h : w.removeFile p = .ok w') : w'.find? p = .ok none := by
  obtain ⟨l, bytes, hi, rfl⟩ := removeFile_eq_ok_iff.1 h
  have hfile := get?_of_inspect hi
  have hget := fun m => get?_prune_file hfile m
  have hl : (w.withFiles (w.files.prune l)).locate p = .ok l := by
    refine locate_mono (w := w) rfl (fun m hm => ?_) (inspect_eq_ok_iff.1 hi).1
    refine (hget m).trans ?_
    rw [if_neg ?_, hm]
    rintro rfl
    rw [hfile] at hm
    cases hm
  refine find?_of_node?_eq_none hl ?_
  rw [node?_of_ne (ne_here_of_file hi)]
  exact (hget l).trans (if_pos rfl)

/-! ## Samples -/

/-- A working directory with these files and their texts. -/
def holding (files : List (String × String)) : Workspace where
  files := files.foldl (fun t (name, text) => t.put ["w", name] (.file text.toUTF8))
    (FileTree.empty.put ["w"] .directory)
  here := ["w"]
  home := []

/-- Around and below an empty working directory there is nothing. -/
theorem get?_holding_nil (l : Location) : (holding []).files.get? l =
    if l = ["w"] ∨ l = [] then some .directory else none := by
  have hallows : FileTree.empty.Allows ["w"] .directory := by decide
  refine (FileTree.get?_put hallows l).trans ?_
  by_cases hw : l = ["w"]
  · rw [if_pos hw, if_pos (.inl hw)]
  · by_cases hl : l = []
    · rw [if_neg hw, if_pos (.inr hl), hl, FileTree.get?_nil]
    · rw [if_neg hw, if_neg (by simp [hw, hl]), FileTree.get?, if_neg hl]
      rfl

end JavaBuild.Workspace
