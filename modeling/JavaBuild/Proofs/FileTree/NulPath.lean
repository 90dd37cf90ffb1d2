import JavaBuild.Proofs.FileTree.Directories
import JavaBuild.Proofs.Path

/-!
# Paths with a NUL

No name of a file holds the NUL character. A file operation fails for a NUL only if there is
one in the text of the path, and looking whether there is something at a path never fails for
it. A path that has been resolved has a NUL only if there is one in the path as seen from the
root (`Workspace.HoldsNul`), to which the working directory belongs.
-/

namespace JavaBuild

/-- A NUL around a path is in the path. -/
theorem Path.nul_mem_of_parent {p : Path} (h : '\x00' ∈ p.parent.toString.toList) :
    '\x00' ∈ p.toString.toList := by
  have hiff (p : Path) := mem_toString_iff (c := '\x00') (by decide) (by decide) p
  obtain ⟨name, hname, hnul⟩ := (hiff p.parent).1 h
  exact (hiff p).2 ⟨name, List.dropLast_subset _ hname, hnul⟩

namespace Workspace

variable {w w' : Workspace} {p q : Path} {bytes : ByteArray}

/-- As seen from the root, a path has a name with a NUL in it. -/
def HoldsNul (w : Workspace) (p : Path) : Prop :=
  ∃ name ∈ w.start p ++ p.parts, '\x00' ∈ name.toList

instance (w : Workspace) (p : Path) : Decidable (w.HoldsNul p) :=
  inferInstanceAs (Decidable (∃ name ∈ w.start p ++ p.parts, '\x00' ∈ name.toList))

/-- A NUL in the text of a path is in one of its names. -/
theorem HoldsNul.of_mem (h : '\x00' ∈ p.toString.toList) : w.HoldsNul p := by
  obtain ⟨name, hname, hnul⟩ := (Path.mem_toString_iff (by decide) (by decide) p).1 h
  exact ⟨name, List.mem_append_right _ hname, hnul⟩

theorem holdsNul_congr (h : w'.here = w.here) : w'.HoldsNul p ↔ w.HoldsNul p := by
  rw [HoldsNul, HoldsNul, start_congr h]

/-- As seen from the root, too, a NUL around a path is in the path. -/
theorem HoldsNul.of_parent (h : w.HoldsNul p.parent) : w.HoldsNul p := by
  obtain ⟨name, hname, hnul⟩ := h
  refine ⟨name, ?_, hnul⟩
  rcases List.mem_append.1 hname with hstart | hparts
  · exact List.mem_append_left _ hstart
  · exact List.mem_append_right _ (List.dropLast_subset _ hparts)

/-- Resolving a path brings no NUL into it. -/
theorem HoldsNul.of_resolve (hq : w.resolve p = .ok q) (h : w.HoldsNul q) : w.HoldsNul p := by
  obtain ⟨-, -, rfl⟩ := resolve_eq_ok_iff.1 hq
  obtain ⟨name, hname, hnul⟩ := h
  exact ⟨name, List.mem_append.2 (mem_of_mem_lexical hname), hnul⟩

/-! ## Operations on one location -/

/-- A path is not located for a NUL only if there is one, … -/
theorem locate_eq_nulInPath (h : w.locate p = .error .nulInPath) : '\x00' ∈ p.toString.toList := by
  by_contra hnul
  rw [locate] at h
  simp only [List.contains_iff_mem, hnul, if_false] at h
  split at h
  · cases h
  · split at h <;> cases h

/-- … and always then. -/
theorem locate_of_nul (w : Workspace) (h : '\x00' ∈ p.toString.toList) :
    w.locate p = .error .nulInPath := by
  simp only [locate, List.contains_iff_mem, h, if_true]

/-- So it is with looking at a path, … -/
theorem inspect_eq_nulInPath (h : w.inspect p = .error .nulInPath) :
    '\x00' ∈ p.toString.toList := by
  rcases bind_eq_error_iff.1 h with h | ⟨l, -, h⟩
  · exact locate_eq_nulInPath h
  · split at h <;> cases h

/-- … reading a file, … -/
theorem readFile_eq_nulInPath (h : w.readFile p = .error .nulInPath) :
    '\x00' ∈ p.toString.toList := by
  rcases bind_eq_error_iff.1 h with h | ⟨⟨l, node⟩, -, h⟩
  · exact inspect_eq_nulInPath h
  · cases node <;> cases h

/-- … writing one, … -/
theorem writeFile_eq_nulInPath (h : w.writeFile p bytes = .error .nulInPath) :
    '\x00' ∈ p.toString.toList := by
  rcases bind_eq_error_iff.1 h with h | ⟨l, -, h⟩
  · exact locate_eq_nulInPath h
  · split at h
    · cases h
    · split at h <;> cases h

/-- … removing one, … -/
theorem removeFile_eq_nulInPath (h : w.removeFile p = .error .nulInPath) :
    '\x00' ∈ p.toString.toList := by
  rcases bind_eq_error_iff.1 h with h | ⟨⟨l, node⟩, -, h⟩
  · exact inspect_eq_nulInPath h
  · cases node <;> cases h

/-- … or a whole directory. -/
theorem removeTree_eq_nulInPath (h : w.removeTree p = .error .nulInPath) :
    '\x00' ∈ p.toString.toList := by
  rcases bind_eq_error_iff.1 h with h | ⟨⟨l, node⟩, -, h⟩
  · exact inspect_eq_nulInPath h
  · cases node <;> cases h

theorem here_of_removeFile (h : w.removeFile p = .ok w') : w'.here = w.here := by
  obtain ⟨l, bytes, -, rfl⟩ := removeFile_eq_ok_iff.1 h
  rfl

theorem here_of_removeTree (h : w.removeTree p = .ok w') : w'.here = w.here := by
  obtain ⟨⟨l, node⟩, -, h⟩ := bind_eq_ok_iff.1 h
  cases node with
  | directory =>
    cases h
    rfl
  | file bytes => cases h

/-- Resolving a path fails for a NUL only if there is one. -/
theorem resolve_eq_nulInPath (h : w.resolve p = .error .nulInPath) :
    '\x00' ∈ p.toString.toList := by
  by_contra hnul
  rw [resolve] at h
  simp only [List.contains_iff_mem, hnul, if_false] at h
  split at h <;> cases h

/-! ## Looking what is there -/

/-- A NUL is no failure to find something: there is nothing. -/
theorem find?_ne_nulInPath : w.find? p ≠ .error .nulInPath := by
  intro h
  rw [find?] at h
  split at h
  -- The failures that are passed on are those for other reasons.
  case h_5 e hnul _ _ _ =>
    cases h
    exact hnul rfl
  all_goals cases h

theorem map_find?_ne_nulInPath {α : Type} (f : Option FileNode → α) :
    (w.find? p).map f ≠ .error .nulInPath := by
  intro h
  cases hfind : w.find? p with
  | error e =>
    rw [hfind] at h
    cases h
    exact find?_ne_nulInPath hfind
  | ok node =>
    rw [hfind] at h
    cases h

theorem pathExists_ne_nulInPath : w.pathExists p ≠ .error .nulInPath := map_find?_ne_nulInPath _

theorem isDirectory_ne_nulInPath : w.isDirectory p ≠ .error .nulInPath := map_find?_ne_nulInPath _

/-- Nothing is found where no file can be. -/
theorem pathExists_of_nul (w : Workspace) (h : '\x00' ∈ p.toString.toList) :
    w.pathExists p = .ok false := by
  simp only [pathExists, find?, inspect, w.locate_of_nul h, bind, Except.bind]
  rfl

/-- What is there can be read, or the system tells why not. -/
theorem readFile_ne_nulInPath (h : w.pathExists p = .ok true) :
    w.readFile p ≠ .error .nulInPath := by
  obtain ⟨found, hfind, hsome⟩ := pathExists_eq_ok_iff.1 h
  obtain ⟨node, rfl⟩ := Option.isSome_iff_exists.1 hsome
  obtain ⟨l, hl⟩ := inspect_of_find? hfind
  rw [readFile, hl]
  cases node <;> exact nofun

/-! ## Making directories -/

/-- A directory is not made for a NUL only if there is one in its path, … -/
theorem makeDirectory_eq_nulInPath (h : w.makeDirectory p = .error .nulInPath) :
    '\x00' ∈ p.toString.toList := by
  rcases bind_eq_error_iff.1 h with h | ⟨l, -, h⟩
  · exact locate_eq_nulInPath h
  · split at h
    · cases h
    · split at h <;> cases h

/-- … be it there already or not. -/
theorem ensureDirectory_eq_nulInPath (h : w.ensureDirectory p = .error .nulInPath) :
    '\x00' ∈ p.toString.toList := by
  rw [ensureDirectory] at h
  split at h
  · cases h
  · rcases bind_eq_error_iff.1 h with h | ⟨b, -, h⟩
    · exact absurd h isDirectory_ne_nulInPath
    · cases b <;> cases h
  · exact makeDirectory_eq_nulInPath h

/-- No directory is made on the way to a path with a NUL. -/
theorem makeDirectories_of_nul (w : Workspace) (h : '\x00' ∈ p.toString.toList) :
    w.makeDirectories p = (.error .nulInPath, w) := by
  refine makeDirectories_of_error ?_ nofun
  simp only [ensureDirectory, makeDirectory, w.locate_of_nul h, bind, Except.bind]

/-- Making directories fails for a NUL only if there is one in the whole path. -/
theorem makeDirectories_eq_nulInPath (h : (w.makeDirectories p).1 = .error .nulInPath) :
    '\x00' ∈ p.toString.toList := by
  fun_induction makeDirectories w p with
  | case1 p w' hok => cases h
  | case2 p => cases h
  -- The failure is that of the directories around the path, whose text is part of its own.
  | case3 p _ _ _ _ e w' hrun ih =>
    rw [hrun] at ih
    exact Path.nul_mem_of_parent (ih h)
  | case4 p => cases h
  | case5 p _ _ _ _ w' hrun e he ih =>
    cases h
    exact ensureDirectory_eq_nulInPath he
  | case6 p e hno he =>
    cases h
    exact ensureDirectory_eq_nulInPath he

end Workspace

end JavaBuild
