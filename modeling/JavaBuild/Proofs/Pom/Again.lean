import JavaBuild.Pom.Repository
import JavaBuild.Proofs.FileTree.Descent
import JavaBuild.Proofs.Pom.Adding

/-!
# Adding again

Below a directory that is there, and for an artifact with names of its own (`Placeable`),
adding a project object model never touches what is there already (`addPom_cases`): it is
found, or a file is added where nothing was, or adding fails. In each case it comes to the
same when it is tried again, and nothing more is added.
-/

namespace JavaBuild.Pom

variable {a : Artifact} {repository : Path} {w : Workspace} {s s' : Session} {name : String}
  {e : FileError}

/-! ## Names below a repository -/

/-- An artifact whose coordinates lead straight down: there is no slash in them, and its id and
    its version are names other than `..`. -/
@[mk_iff]
structure Placeable (a : Artifact) : Prop where
  group : '/' ∉ a.group.toList
  id : Path.IsName a.id
  id_ne : a.id ≠ ".."
  version : Path.IsName a.version
  version_ne : a.version ≠ ".."

instance (a : Artifact) : Decidable (Placeable a) := decidable_of_iff' _ (placeable_iff a)

/-- The directories around the project object model of an artifact. Empty parts of the group
    are left out. -/
def folders (a : Artifact) : List String :=
  (groupParts a).filter (fun name => name != "" && name != ".") ++ [a.id, a.version]

theorem dots_not_mem_folders (ha : Placeable a) : ".." ∉ folders a := by
  intro h
  rcases List.mem_append.1 h with h | h
  · exact (of_mem_groupParts (List.mem_filter.1 h).1 (by decide : '.' ∈ "..".toList)).2 rfl
  · simp only [List.mem_cons, List.not_mem_nil, or_false] at h
    exact h.elim (fun h => ha.id_ne h.symm) fun h => ha.version_ne h.symm

/-- There is no slash on the way to the project object model of an artifact. -/
theorem slash_notMem_of_mem_pomSteps (ha : Placeable a) (h : name ∈ pomSteps a) :
    '/' ∉ name.toList := by
  rcases List.mem_append.1 h with hgroup | hrest
  · exact fun hc => ha.group (of_mem_groupParts hgroup hc).1
  · simp only [List.mem_cons, List.not_mem_nil, or_false] at hrest
    rcases hrest with rfl | rfl | rfl
    · exact ha.id.slash
    · exact ha.version.slash
    · exact (isName_pomName ha.id.slash ha.version.slash).slash

theorem pomPath_eq_extend (ha : Placeable a) (repository : Path) :
    pomPath repository a = repository.extend (folders a ++ [pomName a]) := by
  have hname := isName_pomName ha.id.slash ha.version.slash
  have hrest : [a.id, a.version, pomName a].filter (fun name => name != "" && name != ".") =
      [a.id, a.version, pomName a] := by
    simp [ha.id.nonempty, ha.id.dot, ha.version.nonempty, ha.version.dot, hname.nonempty,
      hname.dot]
  rw [pomPath, Path.foldl_join_filter fun _ => slash_notMem_of_mem_pomSteps ha, pomSteps,
    List.filter_append, hrest, folders, Path.extend, List.append_assoc, List.cons_append,
    List.cons_append, List.nil_append]

theorem descends_pomPath (h : w.Descends repository) (ha : Placeable a) :
    w.Descends (pomPath repository a) := by
  rw [pomPath_eq_extend ha]
  refine h.extend ?_
  rw [List.mem_append, List.mem_singleton, not_or]
  exact ⟨dots_not_mem_folders ha, (pomName_ne_dots a).symm⟩

/-- There is a NUL in the path of a project object model only if there is one around it. -/
theorem nul_mem_parent (ha : Placeable a) (h : '\x00' ∈ (pomPath repository a).toString.toList) :
    '\x00' ∈ (pomPath repository a).parent.toString.toList := by
  have hiff (p : Path) := Path.mem_toString_iff (c := '\x00') (by decide) (by decide) p
  rw [pomPath_eq_extend ha] at h ⊢
  obtain ⟨name, hname, hnul⟩ := (hiff _).1 h
  rw [← Path.extend_extend, Path.extend, List.mem_append, List.mem_singleton] at hname
  rw [Path.parent_extend_concat]
  rcases hname with hname | rfl
  · exact (hiff _).2 ⟨name, hname, hnul⟩
  · -- The name is made of the id and the version, of both of which there is a directory.
    have hfolder {name : String} (hname : name ∈ folders a) (hnul : '\x00' ∈ name.toList) :
        '\x00' ∈ (repository.extend (folders a)).toString.toList :=
      (hiff _).2 ⟨name, List.mem_append_right _ hname, hnul⟩
    have hparts : '\x00' ∈ a.id.toList ∨ '\x00' ∈ a.version.toList := by
      simpa [pomName] using hnul
    rcases hparts with hid | hversion
    · exact hfolder (by simp [folders]) hid
    · exact hfolder (by simp [folders]) hversion

/-! ## Adding -/

/-- With a NUL in the path, nothing is done. -/
theorem addPom_of_nul (ha : Placeable a) (s : Session)
    (h : '\x00' ∈ (pomPath repository a).toString.toList) :
    (addPom repository a).runIn s = (.error (.file .nulInPath), s) := by
  rw [runIn_addPom, s.workspace.pathExists_of_nul h,
    s.workspace.makeDirectories_of_nul (nul_mem_parent ha h)]

/-- Adding fails for a NUL only if there is one in the path, wherever it is tried. -/
theorem addPom_eq_nulInPath_iff (ha : Placeable a)
    (h : (addPom repository a).runIn s = (.error (.file e), s')) :
    e = .nulInPath ↔ '\x00' ∈ (pomPath repository a).toString.toList := by
  constructor
  · rintro rfl
    -- It is tried when looking for the file, for its directories, and when it is written.
    rw [runIn_addPom] at h
    split at h
    · rename_i hexists
      cases h
      exact absurd hexists Workspace.pathExists_ne_nulInPath
    · cases h
    · split at h
      · rename_i hmake
        cases h
        exact Path.nul_mem_of_parent (Workspace.makeDirectories_eq_nulInPath (by rw [hmake]))
      · split at h
        · rename_i hwrite
          cases h
          exact Workspace.writeFile_eq_nulInPath hwrite
        · cases h
  · intro hnul
    rw [addPom_of_nul ha s hnul] at h
    cases h
    rfl

theorem parts_pomPath_ne (ha : Placeable a) (repository : Path) :
    (pomPath repository a).parts ≠ [] := by
  rw [pomPath_eq_extend ha]
  simp [Path.extend]

/-- Below a directory that is there, a project object model is found, or it is added where
    nothing was, or adding fails. What is there stays there. -/
theorem addPom_cases (hd : s.workspace.Descends repository) (ha : Placeable a) :
    (s.workspace.pathExists (pomPath repository a) = .ok true ∧
        (addPom repository a).runIn s = (.ok false, s)) ∨
      (s.workspace.pathExists (pomPath repository a) = .ok false ∧ ∃ w',
        Workspace.AddsFile (s.workspace.place (pomPath repository a)) (minimalPom a).toUTF8
          s.workspace w' ∧
        w'.pathExists (pomPath repository a) = .ok true ∧
        (addPom repository a).runIn s = (.ok true, { s with workspace := w' })) ∨
      ∃ e w', Workspace.Extends s.workspace w' ∧
        (addPom repository a).runIn s = (.error (.file e), { s with workspace := w' }) := by
  have hdescends := descends_pomPath hd ha
  have hgrows := s.workspace.makeDirectories_grows (pomPath repository a).parent
  rw [runIn_addPom]
  cases hexists : s.workspace.pathExists (pomPath repository a) with
  | error e => exact .inr (.inr ⟨e, s.workspace, .refl _, rfl⟩)
  | ok found =>
    cases found with
    | true => exact .inl ⟨rfl, rfl⟩
    | false =>
      -- Making directories above a free place leaves it free.
      have hfree := fun hfits => hdescends.get?_place_made hfits hexists
      generalize s.workspace.makeDirectories (pomPath repository a).parent = run at hgrows hfree ⊢
      obtain ⟨e | ⟨⟩, made⟩ := run
      · exact .inr (.inr ⟨e, made, hgrows.extends, rfl⟩)
      · cases hwrite : made.writeFile (pomPath repository a) (minimalPom a).toUTF8 with
        | error e =>
          simp only [hwrite]
          exact .inr (.inr ⟨e, made, hgrows.extends, rfl⟩)
        | ok w' =>
          obtain ⟨l, hl, -⟩ := Workspace.writeFile_eq_ok_iff.1 hwrite
          obtain ⟨m, hm⟩ := Workspace.inspect_writeFile hwrite
          simp only [hwrite]
          have hfit := hfree (Workspace.fits_of_locate hl)
          have hadds := Workspace.AddsFile.of_grows hgrows hwrite hfit
          exact .inr (.inl ⟨trivial, w', hadds, Workspace.pathExists_eq_true_iff.2 ⟨_, hm⟩, rfl⟩)

/-- Adding fails, and adds nothing, if no directories are made and none are wanting. -/
theorem addPom_of_stuck (hexists : s.workspace.pathExists (pomPath repository a) ≠ .ok true)
    (hmake : (s.workspace.makeDirectories (pomPath repository a).parent).2 = s.workspace)
    (hwrite : (s.workspace.makeDirectories (pomPath repository a).parent).1 = .ok () →
      s.workspace.writeFile (pomPath repository a) (minimalPom a).toUTF8 = .error e) :
    ∃ e', (addPom repository a).runIn s = (.error (.file e'), s) := by
  rw [runIn_addPom]
  cases hfound : s.workspace.pathExists (pomPath repository a) with
  | error e => exact ⟨e, rfl⟩
  | ok found =>
    cases found with
    | true => exact absurd hfound hexists
    | false =>
      generalize s.workspace.makeDirectories (pomPath repository a).parent = run at hmake hwrite ⊢
      obtain ⟨e' | ⟨⟩, made⟩ := run
      · simp only at hmake
        subst hmake
        exact ⟨e', rfl⟩
      · simp only at hmake
        subst hmake
        simp only [hwrite]
        exact ⟨e, rfl⟩

/-- After a failure, adding fails again, and adds nothing. -/
theorem addPom_again (hd : s.workspace.Descends repository) (ha : Placeable a)
    (h : (addPom repository a).runIn s = (.error (.file e), s')) {t : Session}
    (ht : t.workspace = s'.workspace) :
    ∃ e', (addPom repository a).runIn t = (.error (.file e'), t) := by
  rw [runIn_addPom] at h
  cases hexists : s.workspace.pathExists (pomPath repository a) with
  | error e₁ =>
    -- Nothing has changed.
    rw [hexists] at h
    cases h
    rw [runIn_addPom, ht, hexists]
    exact ⟨e, rfl⟩
  | ok found =>
    cases found with
    | true =>
      rw [hexists] at h
      cases h
    | false =>
      -- The directories are as they have been made, and still nothing is found.
      have hfree := (descends_pomPath hd ha).pathExists_made (parts_pomPath_ne ha repository)
        hexists
      obtain ⟨r, hagain, hr⟩ := s.workspace.makeDirectories_again (pomPath repository a).parent
      rw [hexists] at h
      generalize s.workspace.makeDirectories (pomPath repository a).parent = run
        at h hfree hagain hr
      obtain ⟨e₁ | ⟨⟩, made⟩ := run
      · cases h
        obtain rfl : t.workspace = made := ht
        refine addPom_of_stuck (e := e) hfree (by rw [hagain]) fun hok => ?_
        rw [hagain] at hok
        cases hr.1 hok
      · cases hwrite : made.writeFile (pomPath repository a) (minimalPom a).toUTF8 with
        | error e₁ =>
          simp only [hwrite] at h
          cases h
          obtain rfl : t.workspace = made := ht
          exact addPom_of_stuck hfree (by rw [hagain]) fun _ => hwrite
        | ok w' =>
          simp only [hwrite] at h
          cases h

end JavaBuild.Pom
