import JavaBuild.Proofs.FileTree.Directories

/-!
# Workspaces that differ at one location

Two workspaces *differ at* a location if they are the same elsewhere and neither
has a directory there (`Workspace.DifferAt`). What does not lead through the
location cannot tell them apart: paths are found alike, and directories are made
alike (`DifferAt.makeDirectories`). Removing a file makes such a difference
(`DifferAt.of_removeFile`), and two workspaces that are the same without the file at
a path are the same or differ there (`eq_or_differAt`).
-/

namespace JavaBuild.Workspace

variable {w a b : Workspace} {p q : Path} {l place : Location}

/-- Two workspaces that are the same but for a file that may be at a location. -/
structure DifferAt (place : Location) (a b : Workspace) : Prop where
  frame : a.withFiles b.files = b
  files : ∀ l, l ≠ place → b.files.get? l = a.files.get? l
  left : a.files.get? place ≠ some .directory
  right : b.files.get? place ≠ some .directory

namespace DifferAt

theorem refl (h : a.files.get? place ≠ some .directory) : DifferAt place a a :=
  ⟨rfl, fun _ _ => rfl, h, h⟩

theorem symm (h : DifferAt place a b) : DifferAt place b a :=
  ⟨by rw [← h.frame]; rfl, fun l hl => (h.files l hl).symm, h.right, h.left⟩

theorem trans {c : Workspace} (hab : DifferAt place a b) (hbc : DifferAt place b c) :
    DifferAt place a c :=
  ⟨withFiles_trans hab.frame hbc.frame,
    fun l hl => (hbc.files l hl).trans (hab.files l hl), hab.left, hbc.right⟩

theorem here (h : DifferAt place a b) : b.here = a.here := here_of_withFiles h.frame

theorem start (h : DifferAt place a b) (p : Path) : b.start p = a.start p := start_congr h.here p

/-- Workspaces that agree at the location, too, are the same. -/
theorem eq (h : DifferAt place a b) (hp : b.files.get? place = a.files.get? place) : b = a := by
  have hfiles : b.files = a.files := FileTree.ext_get? fun l => by
    by_cases hl : l = place
    · rw [hl, hp]
    · exact h.files l hl
  rw [← h.frame, hfiles]
  rfl

/-- Removing a file makes a difference at its place. -/
theorem of_removeFile (h : a.removeFile p = .ok b) :
    DifferAt (a.place p) a b ∧ b.files.get? (a.place p) = none := by
  obtain ⟨l, bytes, hi, rfl⟩ := removeFile_eq_ok_iff.1 h
  have hfile := get?_of_inspect hi
  have hget := fun m => get?_prune_file hfile m
  rw [← place_of_locate (inspect_eq_ok_iff.1 hi).1]
  have hnone : (a.files.prune l).get? l = none := (hget l).trans (if_pos rfl)
  refine ⟨⟨rfl, fun m hm => (hget m).trans (if_neg hm), by simp [hfile], ?_⟩, hnone⟩
  change (a.files.prune l).get? l ≠ _
  simp [hnone]

/-- The directories are the same. -/
theorem isDirectory (h : DifferAt place a b) (l : Location) :
    b.files.isDirectory l = a.files.isDirectory l := by
  by_cases hl : l = place
  · subst hl
    have hb := mt FileTree.isDirectory_iff.1 h.right
    have ha := mt FileTree.isDirectory_iff.1 h.left
    rw [Bool.not_eq_true] at ha hb
    rw [ha, hb]
  · rw [FileTree.isDirectory, FileTree.isDirectory, h.files l hl]

/-- A path is located alike unless its way leads through the location, … -/
theorem locate (h : DifferAt place a b) (hp : place ∉ way (a.start p) p.parts) :
    b.locate p = a.locate p :=
  locate_congr h.here (h.isDirectory _) fun m hm => h.files m fun hc => hp (hc ▸ hm)

/-- … and elsewhere, the same is found. -/
theorem node? (h : DifferAt place a b) (hl : l ≠ place) : b.node? p l = a.node? p l := by
  unfold Workspace.node?
  rw [h.files l hl]

/-- The same nodes can be put in the same locations. -/
theorem allows (h : DifferAt place a b) (l : Location) (node : FileNode) :
    b.files.Allows l node ↔ a.files.Allows l node := by
  unfold FileTree.Allows
  rw [h.isDirectory, h.isDirectory]

theorem not_mem_way (hp : place ∉ a.route p) : place ∉ way (a.start p) p.parts :=
  fun hm => hp (mem_route_of_mem_way hm)

/-- Where the route does not lead through the location, neither does it end there. -/
theorem ne_of_locate (hp : place ∉ a.route p) (hl : a.locate p = .ok l) : l ≠ place := by
  rintro rfl
  exact hp (place_of_locate hl ▸ place_mem_route a p)

/-- Looking at a path finds the same on a route that does not lead through the location. -/
theorem inspect (h : DifferAt place a b) (hp : place ∉ a.route p) :
    b.inspect p = a.inspect p := by
  unfold Workspace.inspect
  rw [h.locate (not_mem_way hp)]
  cases hl : a.locate p with
  | error e => rfl
  | ok l => simp only [bind, Except.bind, h.node? (ne_of_locate hp hl)]

theorem isDirectory_path (h : DifferAt place a b) (hp : place ∉ a.route p) :
    b.isDirectory p = a.isDirectory p := by
  unfold Workspace.isDirectory find?
  rw [h.inspect hp]

/-- What is put elsewhere makes no further difference. -/
theorem put (h : DifferAt place a b) (hl : l ≠ place) {node : FileNode}
    (ha : a.files.Allows l node) :
    DifferAt place (a.withFiles (a.files.put l node)) (b.withFiles (b.files.put l node)) := by
  have hb := (h.allows l node).2 ha
  have hget {t : FileTree} (ht : t.Allows l node) : (t.put l node).get? place = t.get? place := by
    rw [FileTree.get?_put ht, if_neg (Ne.symm hl)]
  refine ⟨by rw [← h.frame]; rfl, fun m hm => ?_, ?_, ?_⟩
  · change (b.files.put l node).get? m = (a.files.put l node).get? m
    rw [FileTree.get?_put ha, FileTree.get?_put hb, h.files m hm]
  · change (a.files.put l node).get? place ≠ _
    rw [hget ha]
    exact h.left
  · change (b.files.put l node).get? place ≠ _
    rw [hget hb]
    exact h.right

/-- What two changes come to is the same failure, or workspaces that differ at a
    location. -/
inductive Results (place : Location) :
    Except FileError Workspace → Except FileError Workspace → Prop
  | error (e : FileError) : Results place (.error e) (.error e)
  | ok {a b : Workspace} : DifferAt place a b → Results place (.ok a) (.ok b)

theorem Results.of_ok {r : Except FileError Workspace} (h : Results place (.ok a) r) :
    ∃ b, r = .ok b ∧ DifferAt place a b := by
  cases h with
  | ok hd => exact ⟨_, rfl, hd⟩

theorem Results.of_error {e : FileError} {r : Except FileError Workspace}
    (h : Results place (.error e) r) : r = .error e := by
  cases h
  rfl

/-- A directory is made alike, … -/
theorem makeDirectory (h : DifferAt place a b) (hp : place ∉ a.route p) :
    Results place (a.makeDirectory p) (b.makeDirectory p) := by
  unfold Workspace.makeDirectory
  rw [h.locate (not_mem_way hp)]
  cases hl : a.locate p with
  | error e => exact .error e
  | ok l =>
    have hne := ne_of_locate hp hl
    simp only [bind, Except.bind, h.node? hne, h.allows]
    split
    · exact .error _
    · split
      · rename_i ha
        exact .ok (h.put hne ha)
      · exact .error _

/-- … and so it is made sure of. -/
theorem ensureDirectory (h : DifferAt place a b) (hp : place ∉ a.route p) :
    Results place (a.ensureDirectory p) (b.ensureDirectory p) := by
  have hmake := h.makeDirectory hp
  unfold Workspace.ensureDirectory
  rw [h.isDirectory_path hp]
  generalize a.makeDirectory p = ra at *
  generalize b.makeDirectory p = rb at *
  cases hmake with
  | ok hd => exact .ok hd
  | error e =>
    split
    · exact .error _
    · rcases a.isDirectory p with e' | _ | _
      · exact .error _
      · exact .error _
      · exact .ok h
    · exact .error _

/-- Directories are made alike on a route that does not lead through the location. -/
theorem makeDirectories (h : DifferAt place a b) (hp : place ∉ a.route p) :
    (b.makeDirectories p).1 = (a.makeDirectories p).1 ∧
      DifferAt place (a.makeDirectories p).2 (b.makeDirectories p).2 := by
  have hparent {p : Path} (hne : p.parts ≠ []) (hp : place ∉ a.route p) :
      place ∉ a.route p.parent := fun hm =>
    hp (mem_route_of_mem_way (way_eq_route_parent a hne ▸ hm))
  -- The induction follows the first workspace; the second does the same at each step.
  fun_induction Workspace.makeDirectories a p with
  | case1 p a' ha =>
    obtain ⟨b', hb, hd⟩ := (ha ▸ h.ensureDirectory hp).of_ok
    rw [Workspace.makeDirectories, hb]
    exact ⟨rfl, hd⟩
  | case2 p _ ha hnil =>
    have hb := (ha ▸ h.ensureDirectory hp).of_error
    rw [Workspace.makeDirectories, hb]
    simp only [dif_pos hnil]
    exact ⟨trivial, h⟩
  | case3 p _ ha hne _ e a' hpar ih =>
    -- The parent cannot be made.
    have hb := (ha ▸ h.ensureDirectory hp).of_error
    obtain ⟨he, hd⟩ := ih (hparent hne hp)
    rw [hpar] at he hd
    rw [makeDirectories_of_noEntry hne hb]
    generalize b.makeDirectories p.parent = rb at *
    obtain ⟨r, b'⟩ := rb
    subst he
    exact ⟨rfl, hd⟩
  | case4 p _ ha hne _ a' hpar a'' ha'' ih =>
    -- The parent is made, and then the directory.
    have hb := (ha ▸ h.ensureDirectory hp).of_error
    obtain ⟨he, hd⟩ := ih (hparent hne hp)
    have hroute := route_congr (makeDirectories_grows a p.parent).here p
    rw [hpar] at he hd hroute
    obtain ⟨b'', hb'', hd''⟩ := (ha'' ▸ hd.ensureDirectory (hroute ▸ hp)).of_ok
    rw [makeDirectories_of_noEntry hne hb]
    generalize b.makeDirectories p.parent = rb at *
    obtain ⟨r, b'⟩ := rb
    subst he
    simp only at hb''
    simp only [hb'']
    exact ⟨trivial, hd''⟩
  | case5 p _ ha hne _ a' hpar e ha'' ih =>
    -- The parent is made, but not the directory.
    have hb := (ha ▸ h.ensureDirectory hp).of_error
    obtain ⟨he, hd⟩ := ih (hparent hne hp)
    have hroute := route_congr (makeDirectories_grows a p.parent).here p
    rw [hpar] at he hd hroute
    have hb'' := (ha'' ▸ hd.ensureDirectory (hroute ▸ hp)).of_error
    rw [makeDirectories_of_noEntry hne hb]
    generalize b.makeDirectories p.parent = rb at *
    obtain ⟨r, b'⟩ := rb
    subst he
    simp only at hb''
    simp only [hb'']
    exact ⟨trivial, hd⟩
  | case6 p e hno ha =>
    have hb := (ha ▸ h.ensureDirectory hp).of_error
    rw [Workspace.makeDirectories, hb]
    split
    · rename_i hc
      cases hc
    · rename_i hc
      cases hc
      exact absurd rfl (hno _)
    · rename_i hc
      cases hc
      exact ⟨rfl, h⟩

theorem resolve (h : DifferAt place a b) (q : Path) : b.resolve q = a.resolve q := by
  rw [Workspace.resolve, Workspace.resolve, isAdrift, isAdrift, h.here, h.isDirectory,
    Workspace.place, Workspace.place, h.start]

end DifferAt

/-! ## Without a file -/

/-- The workspace without the file at a path, if there is one. -/
def without (w : Workspace) (p : Path) : Workspace :=
  match w.removeFile p with
  | .ok w' => w'
  | .error _ => w

/-- A path leads to a location that a file can have, whether there is one or not. -/
structure HasRoom (w : Workspace) (p : Path) : Prop where
  located : w.locate p = .ok (w.place p)
  empty : w.files.get? (w.place p) ≠ some .directory
  ne : p ≠ .here

/-- There is no room for a file at the root. -/
theorem HasRoom.parts_ne (h : w.HasRoom p) : p.parts ≠ [] := by
  intro hparts
  by_cases hp : p.anchor = .relative
  · exact h.ne (by rw [Path.here, ← hp, ← hparts])
  · have hstart : w.start p = [] := if_neg hp
    have hempty := h.empty
    rw [place, hparts, hstart] at hempty
    exact hempty (FileTree.get?_nil _)

/-- A file has room where it is. -/
theorem hasRoom_of_inspect {bytes : ByteArray} (h : w.inspect p = .ok (l, .file bytes)) :
    w.HasRoom p := by
  have hl := (inspect_eq_ok_iff.1 h).1
  have hfile := get?_of_inspect h
  obtain rfl := place_of_locate hl
  exact ⟨hl, by simp [hfile], ne_here_of_file h⟩

/-- Where there is room for a file, there is none, or it can be removed. -/
theorem HasRoom.cases (h : w.HasRoom p) :
    (w.find? p = .ok none ∧ w.files.get? (w.place p) = none ∧ w.without p = w) ∨
      ∃ bytes, w.find? p = .ok (some (.file bytes)) ∧ w.removeFile p = .ok (w.without p) := by
  have hnode := node?_of_ne (w := w) (l := w.place p) h.ne
  cases hfile : w.files.get? (w.place p) with
  | none =>
    rw [hfile] at hnode
    refine .inl ⟨find?_of_node?_eq_none h.located hnode, rfl, ?_⟩
    rw [without, removeFile, inspect_of_node?_eq_none h.located hnode]
    rfl
  | some node =>
    cases node with
    | directory => exact absurd hfile h.empty
    | file bytes =>
      rw [hfile] at hnode
      have hi := inspect_eq_ok_iff.2 ⟨h.located, hnode⟩
      have hremove := removeFile_eq_ok_iff.2 ⟨_, _, hi, rfl⟩
      refine .inr ⟨bytes, find?_of_inspect hi, ?_⟩
      rw [without, hremove]

/-- Without the file, there is nothing at the location, and all else is the same. -/
theorem HasRoom.differAt_without (h : w.HasRoom p) :
    DifferAt (w.place p) w (w.without p) ∧ (w.without p).files.get? (w.place p) = none := by
  rcases h.cases with ⟨-, hnone, hw⟩ | ⟨bytes, -, hremove⟩
  · rw [hw]
    exact ⟨.refl h.empty, hnone⟩
  · exact DifferAt.of_removeFile hremove

theorem DifferAt.place_eq (h : DifferAt place a b) (p : Path) : b.place p = a.place p := by
  rw [Workspace.place, Workspace.place, h.start]

/-- New directories elsewhere leave room for a file. -/
theorem Grows.hasRoom {P : Location → Prop} (h : Grows P a b) (ha : a.HasRoom p)
    (hp : ¬P (a.place p)) : b.HasRoom p := by
  refine ⟨?_, ?_, ha.ne⟩
  · rw [h.place]
    exact h.locate ha.located
  · rw [h.place, h.get?_of_not hp]
    exact ha.empty

/-- Where one of two workspaces that differ at a location has room for a file, so
    has the other. -/
theorem DifferAt.hasRoom (h : DifferAt (a.place p) a b) (ha : a.HasRoom p) : b.HasRoom p := by
  refine ⟨?_, h.place_eq p ▸ h.right, ha.ne⟩
  rw [h.place_eq]
  refine locate_mono h.here (fun m hm => ?_) ha.located
  rw [← FileTree.isDirectory_iff, h.isDirectory]
  exact FileTree.isDirectory_iff.2 hm

/-- Workspaces that differ at the location of a file are the same without it. -/
theorem DifferAt.without (h : DifferAt (a.place p) a b) (ha : a.HasRoom p) :
    b.without p = a.without p := by
  obtain ⟨hda, hna⟩ := ha.differAt_without
  obtain ⟨hdb, hnb⟩ := (h.hasRoom ha).differAt_without
  rw [h.place_eq] at hdb hnb
  exact (hda.symm.trans (h.trans hdb)).eq (by rw [hna, hnb])

/-- Where there is no room for a file, there is none to be without. -/
theorem without_eq_or_hasRoom (w : Workspace) (p : Path) : w.without p = w ∨ w.HasRoom p := by
  cases h : w.removeFile p with
  | error e =>
    refine .inl ?_
    rw [without, h]
  | ok w' =>
    obtain ⟨l, bytes, hi, -⟩ := removeFile_eq_ok_iff.1 h
    exact .inr (hasRoom_of_inspect hi)

/-- Workspaces that are the same without the file at a path are the same, or
    differ at the location of that file. -/
theorem eq_or_differAt (h : a.without p = b.without p) :
    a = b ∨ (DifferAt (a.place p) a b ∧ a.HasRoom p) := by
  -- Where one of them has a file, the other has room for it.
  rcases without_eq_or_hasRoom a p with ha | ha
  · rcases without_eq_or_hasRoom b p with hb | hb
    · exact .inl (by rw [← ha, h, hb])
    · obtain ⟨hd, -⟩ := hb.differAt_without
      rw [← h, ha] at hd
      rw [hd.place_eq]
      exact .inr ⟨hd.symm, hd.hasRoom hb⟩
  · obtain ⟨hd, -⟩ := ha.differAt_without
    refine .inr ⟨hd.trans ?_, ha⟩
    rw [h]
    rcases without_eq_or_hasRoom b p with hb | hb
    · rw [hb]
      exact .refl (hb ▸ h ▸ hd.right)
    · have hplace : b.place p = a.place p := by
        rw [← hb.differAt_without.1.place_eq, ← h, hd.place_eq]
      exact hplace ▸ hb.differAt_without.1.symm

end JavaBuild.Workspace
