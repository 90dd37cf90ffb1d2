import JavaBuild.Proofs.FileTree.NulPath

/-!
# Listing directories

Looking for a suffix below a directory (`Workspace.findSuffixed`) finds all that is there,
at any depth, under a name with the suffix: once each, and in increasing order of the names
(`lists_of_findSuffixed`). Directories are listed by their paths, so it fails if the path of
one of them is too long, and for no other reason (`findSuffixed_eq_error`).
-/

namespace JavaBuild

variable {loc names names' : Location} {node : FileNode}

/-! ## Nodes -/

/-- Nodes in order are found at their locations. -/
theorem Nodes.Sorted.mem_iff {nodes : Nodes} (h : nodes.Sorted) :
    (loc, node) ∈ nodes ↔ nodes.lookup loc = some node := by
  induction nodes with
  | nil => exact ⟨fun hmem => absurd hmem List.not_mem_nil, fun hfound => nomatch hfound⟩
  | cons head rest ih =>
    obtain ⟨k, n⟩ := head
    obtain ⟨hhead, hrest⟩ := List.pairwise_cons.1 h
    rw [Nodes.lookup_cons, List.mem_cons, Prod.mk.injEq]
    by_cases hk : loc = k
    · have hnot : (loc, node) ∉ rest := fun hmem =>
        List.lt_irrefl k (hk ▸ hhead (loc, node) hmem)
      simp [hk, hk ▸ hnot, eq_comm]
    · simp [hk, ih hrest]

theorem FileTree.mem_nodes_iff {t : FileTree} (hloc : loc ≠ []) :
    (loc, node) ∈ t.nodes ↔ t.get? loc = some node := by
  rw [t.sorted.mem_iff, get?, if_neg hloc]

/-- Locations at the same location are in the order of what follows it. -/
theorem lt_of_append_lt_append (h : loc ++ names < loc ++ names') : names < names' := by
  induction loc with
  | nil => exact h
  | cons name loc ih =>
    rw [List.cons_append, List.cons_append, List.cons_lt_cons_iff] at h
    rcases h with h | ⟨-, h⟩
    · exact absurd h (String.lt_irrefl name)
    · exact ih h

theorem Path.names_extend (d : Path) (names : List String) :
    (d.extend names).names = d.names ++ names := by
  unfold Path.names Path.extend
  split <;> rfl

namespace Workspace

variable {w : Workspace} {d p : Path} {suffix : String} {ps : List Path} {e : FileError}

theorem mem_below_iff :
    names ∈ w.below loc ↔ names ≠ [] ∧ ∃ node, w.files.get? (loc ++ names) = some node := by
  rw [below, List.mem_filterMap]
  constructor
  · rintro ⟨⟨l, node⟩, hmem, h⟩
    simp only [Option.ite_none_right_eq_some, Option.some.injEq, Bool.and_eq_true,
      List.isPrefixOf_iff_prefix, bne_iff_ne] at h
    obtain ⟨⟨⟨rest, rfl⟩, hne⟩, rfl⟩ := h
    have hrest : rest ≠ [] := by simpa using hne
    rw [List.drop_left]
    exact ⟨hrest, node, (FileTree.mem_nodes_iff (by simp [hrest])).1 hmem⟩
  · rintro ⟨hne, node, hnode⟩
    exact ⟨(loc ++ names, node), (FileTree.mem_nodes_iff (by simp [hne])).2 hnode, by simp [hne]⟩

/-- What is below a location is listed in increasing order. -/
theorem pairwise_below (w : Workspace) (loc : Location) : (w.below loc).Pairwise (· < ·) := by
  refine w.files.sorted.filterMap _ fun a a' hlt names hnames names' hnames' => ?_
  simp only [Option.ite_none_right_eq_some, Option.some.injEq, Bool.and_eq_true,
    List.isPrefixOf_iff_prefix] at hnames hnames'
  obtain ⟨⟨⟨rest, hrest⟩, -⟩, rfl⟩ := hnames
  obtain ⟨⟨⟨rest', hrest'⟩, -⟩, rfl⟩ := hnames'
  rw [← hrest, ← hrest'] at hlt ⊢
  rw [List.drop_left, List.drop_left]
  exact lt_of_append_lt_append hlt

/-! ## Suffixes -/

theorem endsIn_iff : endsIn suffix names = true ↔
    ∃ folders stem, names = folders ++ [stem ++ suffix] := by
  rcases List.eq_nil_or_concat names with rfl | ⟨folders, name, rfl⟩
  · simp [endsIn]
  · have hends : endsIn suffix (folders.concat name) = true ↔
        suffix.toList <:+ name.toList := by
      simp [endsIn, List.isSuffixOf_iff_suffix]
    rw [hends, List.concat_eq_append]
    constructor
    · rintro ⟨stem, hstem⟩
      refine ⟨folders, String.ofList stem, ?_⟩
      rw [← String.ofList_toList (s := name), ← hstem, String.ofList_append,
        String.ofList_toList]
    · rintro ⟨folders', stem, h⟩
      obtain ⟨-, h⟩ := List.append_inj' h rfl
      cases h
      exact ⟨stem.toList, String.toList_append.symm⟩

/-! ## Refusals -/

/-- Why names may not lead anywhere. -/
theorem walk_eq_error {t : FileTree} {reason : Errno} (h : walk t loc names = .error reason) :
    reason = .noEntry ∨ reason = .notDirectory ∨ reason = .nameTooLong := by
  induction names generalizing loc with
  | nil => cases h
  | cons name names ih =>
    rw [walk] at h
    split at h
    · exact .inl (Except.error.inj h).symm
    · exact .inr (.inl (Except.error.inj h).symm)
    · split at h
      · exact .inr (.inr (Except.error.inj h).symm)
      · exact ih h

theorem follow_eq_error {reason : Errno} (h : w.follow p = .error reason) :
    reason = .noEntry ∨ reason = .notDirectory ∨ reason = .nameTooLong := by
  by_cases hs : w.Starts p
  · rw [follow_of_starts hs] at h
    exact walk_eq_error h
  · rw [follow_of_not_starts hs] at h
    split at h
    · cases h
    · split at h
      · exact walk_eq_error h
      · exact .inl (Except.error.inj h).symm

/-- Whether there is a directory is not told only for a path that is too long, or has a name
    that is. -/
theorem isDirectory_eq_error (h : w.isDirectory p = .error e) : e = .on .nameTooLong p := by
  have hfind := map_eq_error_iff.1 h
  rw [find?] at hfind
  split at hfind
  -- The other cases answer; here the failure is none of those that mean there is nothing.
  case h_5 found hnul hentry hdirectory hinspect =>
    cases hfind
    rcases bind_eq_error_iff.1 hinspect with hlocate | ⟨loc, -, hnode⟩
    · rw [locate] at hlocate
      split at hlocate
      · exact absurd (Except.error.inj hlocate).symm hnul
      · split at hlocate
        · exact (Except.error.inj hlocate).symm
        · split at hlocate
          · cases hlocate
          · rename_i hfollow
            cases hlocate
            rcases follow_eq_error hfollow with rfl | rfl | rfl
            · exact absurd rfl (hentry _)
            · exact absurd rfl (hdirectory _)
            · rfl
    · split at hnode
      · exact absurd (Except.error.inj hnode).symm (hentry _)
      · cases hnode
  all_goals cases hfind

/-! ## Listings -/

/-- Something is found when names are followed from a directory. -/
def Contains (w : Workspace) (d : Path) (names : List String) : Prop :=
  ∃ loc node, w.locate d = .ok loc ∧ w.files.get? (loc ++ names) = some node

/-- All that is below a directory under a name with a suffix, in increasing order. -/
structure Lists (w : Workspace) (d : Path) (suffix : String) (ps : List Path) : Prop where
  ordered : ps.Pairwise fun p q => p.names < q.names
  mem_iff : ∀ p, p ∈ ps ↔ ∃ folders stem,
    w.Contains d (folders ++ [stem ++ suffix]) ∧ p = d.extend (folders ++ [stem ++ suffix])

/-- The directories below a directory, and the directory itself, have paths by which they
    can be listed. -/
def Shallow (w : Workspace) (d : Path) : Prop :=
  ∀ loc names, w.locate d = .ok loc → w.files.get? (loc ++ names) = some .directory →
    (d.extend names).toString.utf8ByteSize ≤ maxPath

theorem mem_foldersBelow_iff : names ∈ w.foldersBelow loc ↔
    names ≠ [] ∧ w.files.get? (loc ++ names) = some .directory := by
  rw [foldersBelow, List.mem_filter, mem_below_iff, FileTree.isDirectory_iff]
  exact ⟨fun h => ⟨h.1.1, h.2⟩, fun h => ⟨⟨h.1, _, h.2⟩, h.2⟩⟩

/-- Without a path that is too long, there is a listing. -/
theorem findSuffixed_eq_ok (suffix : String) (hloc : w.locate d = .ok loc) (h : w.Shallow d) :
    w.findSuffixed d suffix = .ok (((w.below loc).filter (endsIn suffix)).map d.extend) := by
  have hnone : ((w.foldersBelow loc).map d.extend).find?
      (fun p => decide (maxPath < p.toString.utf8ByteSize)) = none := by
    rw [List.find?_eq_none, List.forall_mem_map]
    intro names hnames
    have hshort := h loc names hloc (mem_foldersBelow_iff.1 hnames).2
    simpa using hshort
  simp only [findSuffixed, hloc, hnone]

theorem lists_of_findSuffixed (h : w.findSuffixed d suffix = .ok ps) : w.Lists d suffix ps := by
  rw [findSuffixed] at h
  split at h
  · cases h
  · rename_i loc hloc
    split at h
    · cases h
    · cases h
      refine ⟨?_, fun p => ?_⟩
      · -- The order of the names below is that of the paths.
        rw [List.pairwise_map]
        refine ((w.pairwise_below loc).filter _).imp fun hlt => ?_
        rw [Path.names_extend, Path.names_extend]
        exact List.append_left_lt hlt
      · simp only [List.mem_map, List.mem_filter, mem_below_iff, endsIn_iff]
        constructor
        · rintro ⟨_, ⟨⟨-, node, hnode⟩, folders, stem, rfl⟩, rfl⟩
          exact ⟨folders, stem, ⟨loc, node, hloc, hnode⟩, rfl⟩
        · rintro ⟨folders, stem, ⟨loc', node, hloc', hnode⟩, rfl⟩
          cases hloc.symm.trans hloc'
          exact ⟨_, ⟨⟨by simp, node, hnode⟩, folders, stem, rfl⟩, rfl⟩

/-- A listing has been made only if no path of a directory is too long. -/
theorem shallow_of_findSuffixed (h : w.findSuffixed d suffix = .ok ps) : w.Shallow d := by
  intro loc names hloc hfolder
  by_cases hne : names = []
  · have hself : d.extend [] = d := by rw [Path.extend, List.append_nil]
    rw [hne, hself]
    exact (locate_eq_ok_iff.1 hloc).1.2
  · simp only [findSuffixed, hloc] at h
    split at h
    · cases h
    · rename_i hnone
      have hshort := List.find?_eq_none.1 hnone _
        (List.mem_map_of_mem (mem_foldersBelow_iff.2 ⟨hne, hfolder⟩))
      simpa using hshort

/-- Looking for a suffix fails at a directory whose path is too long. -/
theorem findSuffixed_eq_error (hloc : w.locate d = .ok loc)
    (h : w.findSuffixed d suffix = .error e) : ∃ names, e = .on .nameTooLong (d.extend names) := by
  simp only [findSuffixed, hloc] at h
  split at h
  · rename_i p hfind
    cases h
    obtain ⟨names, -, rfl⟩ := List.mem_map.1 (List.mem_of_find?_eq_some hfind)
    exact ⟨names, rfl⟩
  · cases h

end Workspace

end JavaBuild
