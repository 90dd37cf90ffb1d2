import JavaBuild.Proofs.FileTree.Directories
import JavaBuild.Work

/-!
# Removing what is at a path

A path without `..` leads to what is at its place, if the system takes it
(`inspect_eq_of_isOpen`), and what is there is found unless a name is too long
(`inspect_of_get?`). So a file that need not be there is gone once it has been removed
(`clears_of_runIn_removeFile`), as is a directory with all that is below it
(`clears_removeTree`). Nothing else changes (`Keeps`).
-/

namespace JavaBuild

/-- Around what is there, there are directories. -/
theorem FileTree.get?_above {t : FileTree} {l m : Location} {node : FileNode}
    (h : t.get? l = some node) (hm : m <+: l) (hne : m ≠ l) : t.get? m = some .directory := by
  obtain ⟨names, rfl⟩ := hm
  by_contra hd
  rw [get?_append hd fun hnil => hne (by rw [hnil, List.append_nil])] at h
  cases h

/-- Below nothing there is nothing. -/
theorem FileTree.get?_below {t : FileTree} {l m : Location} (h : t.get? l = none)
    (hm : l <+: m) : t.get? m = none := by
  rw [Option.eq_none_iff_forall_ne_some]
  intro node hnode
  by_cases hne : l = m
  · rw [← hne, h] at hnode
    cases hnode
  · rw [get?_above hnode hm hne] at h
    cases h

namespace Workspace

variable {w w' w'' : Workspace} {p : Path} {l m : Location} {node : FileNode}
  {P Q : Location → Prop}

/-! ## Paths without `..` -/

theorem ne_here_of_parts_ne_nil (h : p.parts ≠ []) : p ≠ .here := by
  rintro rfl
  exact h rfl

/-- Without `..`, the place of a path is straight below where it starts. -/
theorem place_of_not_mem (h : ".." ∉ p.parts) : w.place p = w.start p ++ p.parts :=
  lexical_of_not_mem _ h

/-- The way of a path without `..` is around its place. -/
theorem prefix_of_mem_way (h : ".." ∉ p.parts) (hm : m ∈ way (w.start p) p.parts) :
    m <+: w.place p ∧ m ≠ w.place p := by
  obtain ⟨names, hnames, hne, rfl⟩ := mem_way_of_not_mem h hm
  rw [place_of_not_mem h]
  exact ⟨(List.prefix_append_right_inj _).2 hnames, fun heq => hne (List.append_cancel_left heq)⟩

/-- A resolved path has no `..`, and leads to the same place. -/
theorem place_of_resolve {q : Path} (h : w.resolve p = .ok q) :
    ".." ∉ q.parts ∧ w.place q = w.place p := by
  obtain ⟨-, hs, rfl⟩ := resolve_eq_ok_iff.1 h
  have hdots : ".." ∉ w.place p := hs.not_mem_place
  exact ⟨hdots, lexical_of_not_mem [] hdots⟩

/-- What is on the way to something is a directory. -/
theorem get?_of_mem_way (hdots : ".." ∉ p.parts) (h : w.files.get? (w.place p) = some node)
    (hm : m ∈ way (w.start p) p.parts) : w.files.get? m = some .directory :=
  FileTree.get?_above h (prefix_of_mem_way hdots hm).1 (prefix_of_mem_way hdots hm).2

/-- In directories, names are found unless they are too long. -/
theorem walk_of_way {t : FileTree} {loc : Location} {names : List String}
    (h : ∀ m ∈ way loc names, t.get? m = some .directory) :
    walk t loc names = .ok (lexical loc names) ∨ walk t loc names = .error .nameTooLong := by
  induction names generalizing loc with
  | nil => exact .inl rfl
  | cons name names ih =>
    obtain ⟨hloc, hway⟩ := List.forall_mem_cons.1 h
    rw [walk, hloc]
    simp only
    split
    · exact .inr rfl
    · exact ih hway

/-- A path without names leads to a directory. -/
theorem inspect_of_parts_eq_nil (h : p.parts = []) : w.inspect p = .ok (w.place p, .directory) := by
  obtain ⟨anchor, parts⟩ := p
  subst h
  have htext : (⟨anchor, []⟩ : Path).Admissible := by cases anchor <;> decide
  have hfollow : w.follow ⟨anchor, []⟩ = .ok (w.place ⟨anchor, []⟩) := by
    rw [follow]
    split
    · rename_i hs
      obtain rfl : anchor = .relative := hs.1
      rfl
    · rfl
  rw [inspect_eq_ok_iff, locate_eq_ok_iff]
  refine ⟨⟨htext, hfollow⟩, ?_⟩
  cases anchor with
  | relative => rfl
  | absolute => exact w.files.get?_nil
  | doubled => exact w.files.get?_nil

/-- A text that is not taken fails for a NUL or for its length. -/
theorem inspect_of_not_admissible (h : ¬p.Admissible) :
    ('\x00' ∈ p.toString.toList ∧ w.inspect p = .error .nulInPath) ∨
      w.inspect p = .error (.on .nameTooLong p) := by
  by_cases hnul : '\x00' ∈ p.toString.toList
  · left
    rw [inspect, locate]
    simp [hnul, bind, Except.bind]
  · right
    have hlong : maxPath < p.toString.utf8ByteSize := Nat.not_le.1 fun hle => h ⟨hnul, hle⟩
    rw [inspect, locate]
    simp [hnul, hlong, bind, Except.bind]

/-- What is at the place of a path is found, unless the path has a NUL or is too long. -/
theorem inspect_of_get? (hdots : ".." ∉ p.parts) (h : w.files.get? (w.place p) = some node) :
    (∃ found, w.inspect p = .ok found) ∨
      ('\x00' ∈ p.toString.toList ∧ w.inspect p = .error .nulInPath) ∨
      w.inspect p = .error (.on .nameTooLong p) := by
  by_cases htext : p.Admissible
  case neg => exact .inr (inspect_of_not_admissible htext)
  by_cases hne : p.parts = []
  case pos => exact .inl ⟨_, inspect_of_parts_eq_nil hne⟩
  -- Without `..`, all that lies before the place is a directory.
  have hway : ∀ m ∈ way (w.start p) p.parts, w.files.get? m = some .directory := fun _ =>
    get?_of_mem_way hdots h
  have hs : w.Starts p := by
    obtain ⟨name, names, hparts⟩ := List.exists_cons_of_ne_nil hne
    rw [hparts] at hway
    exact hway _ List.mem_cons_self
  have hwalk := walk_of_way hway
  rw [← follow_of_starts hs] at hwalk
  rcases hwalk with hfollow | hfollow
  · have hnode := (node?_of_ne (ne_here_of_parts_ne_nil hne)).trans h
    exact .inl ⟨_, inspect_eq_ok_iff.2 ⟨locate_eq_ok_iff.2 ⟨htext, hfollow⟩, hnode⟩⟩
  · right
    right
    rw [inspect, locate_of_follow_eq_error htext hfollow]
    rfl

/-- Where no entry is found there is nothing. -/
theorem get?_of_inspect_eq_noEntry {subject : Subject} (hdots : ".." ∉ p.parts)
    (h : w.inspect p = .error (.os (.refused .noEntry subject))) :
    w.files.get? (w.place p) = none := by
  rw [Option.eq_none_iff_forall_ne_some]
  intro node hget
  rcases inspect_of_get? hdots hget with ⟨found, hi⟩ | ⟨-, hi⟩ | hi <;>
  · rw [hi] at h
    cases h

/-- Where nothing is found there is nothing, if the path has no NUL. -/
theorem get?_of_find?_eq_none (hdots : ".." ∉ p.parts) (hnul : '\x00' ∉ p.toString.toList)
    (h : w.find? p = .ok none) : w.files.get? (w.place p) = none := by
  rw [Option.eq_none_iff_forall_ne_some]
  intro node hget
  rcases inspect_of_get? hdots hget with ⟨found, hi⟩ | ⟨hmem, -⟩ | hi
  · rw [find?_of_inspect hi] at h
    cases h
  · exact hnul hmem
  · rw [find?, hi] at h
    cases h

/-- There is no file around a location. -/
def IsOpen (w : Workspace) (l : Location) : Prop :=
  ∀ n < l.length, (w.files.get? (l.take n)).all FileNode.isDirectory

instance (w : Workspace) (l : Location) : Decidable (w.IsOpen l) :=
  inferInstanceAs (Decidable (∀ n < l.length, (w.files.get? (l.take n)).all FileNode.isDirectory))

/-- There is no file around a location that is open. -/
theorem IsOpen.get?_ne (h : w.IsOpen l) (hm : m <+: l) (hne : m ≠ l) (bytes : ByteArray) :
    w.files.get? m ≠ some (.file bytes) := by
  intro hfile
  have hlength : m.length < l.length :=
    Nat.lt_of_le_of_ne hm.length_le fun heq => hne (hm.eq_of_length heq)
  have hall := h m.length hlength
  rw [← List.prefix_iff_eq_take.1 hm, hfile] at hall
  cases hall

/-- Without files around its place, a path leads to what is there. -/
theorem inspect_eq_of_isOpen (hs : w.Starts p) (hp : p.Fits) (hdots : ".." ∉ p.parts)
    (hopen : w.IsOpen (w.place p)) : w.inspect p = match w.files.get? (w.place p) with
      | some node => .ok (w.place p, node)
      | none => .error (.on .noEntry p) := by
  have hway : ∀ m ∈ way (w.start p) p.parts, ∀ bytes, w.files.get? m ≠ some (.file bytes) :=
    fun m hm => hopen.get?_ne (prefix_of_mem_way hdots hm).1 (prefix_of_mem_way hdots hm).2
  by_cases hne : p.parts = []
  · have hplace : w.place p = w.start p := by rw [place, hne]; rfl
    rw [inspect_of_parts_eq_nil hne, hplace, hs]
  have hhere := ne_here_of_parts_ne_nil hne
  cases hget : w.files.get? (w.place p) with
  | some node =>
    have hl := locate_of_way hs hp fun _ => get?_of_mem_way hdots hget
    exact inspect_eq_ok_iff.2 ⟨hl, (node?_of_ne hhere).trans hget⟩
  | none =>
    have hwalk := walk_ok_or_noEntry hway hp.names
    rw [← follow_of_starts hs] at hwalk
    rcases hwalk with hfollow | hfollow
    · exact inspect_of_node?_eq_none (locate_eq_ok_iff.2 ⟨hp.text, hfollow⟩)
        ((node?_of_ne hhere).trans hget)
    · rw [inspect, locate_of_follow_eq_error hp.text hfollow]
      rfl

/-! ## Removing -/

/-- Nothing changes but some locations. -/
structure Keeps (P : Location → Prop) (w w' : Workspace) : Prop where
  frame : w.withFiles w'.files = w'
  kept : ∀ l, ¬P l → w'.files.get? l = w.files.get? l

/-- Some locations are cleared, and nothing else changes. -/
structure Clears (P : Location → Prop) (w w' : Workspace) : Prop extends Keeps P w w' where
  gone : ∀ l, P l → w'.files.get? l = none

namespace Keeps

theorem refl (P : Location → Prop) (w : Workspace) : Keeps P w w := ⟨rfl, fun _ _ => rfl⟩

theorem here (h : Keeps P w w') : w'.here = w.here := here_of_withFiles h.frame

theorem place (h : Keeps P w w') (p : Path) : w'.place p = w.place p := place_congr h.here p

theorem mono (h : Keeps P w w') (hPQ : ∀ l, P l → Q l) : Keeps Q w w' :=
  ⟨h.frame, fun l hl => h.kept l (mt (hPQ l) hl)⟩

theorem trans (h : Keeps P w w') (h' : Keeps Q w' w'') : Keeps (fun l => P l ∨ Q l) w w'' where
  frame := withFiles_trans h.frame h'.frame
  kept l hl := by rw [h'.kept l fun hq => hl (.inr hq), h.kept l fun hp => hl (.inl hp)]

end Keeps

namespace Clears

theorem trans (h : Clears P w w') (h' : Clears Q w' w'') : Clears (fun l => P l ∨ Q l) w w'' where
  toKeeps := h.toKeeps.trans h'.toKeeps
  gone l hl := by
    by_cases hq : Q l
    · exact h'.gone l hq
    · rw [h'.kept l hq, h.gone l (hl.resolve_right hq)]

theorem congr (h : Clears P w w') (hPQ : ∀ l, P l ↔ Q l) : Clears Q w w' where
  toKeeps := h.toKeeps.mono fun l => (hPQ l).1
  gone l hl := h.gone l ((hPQ l).2 hl)

/-- Clearing some locations leaves one thing only. -/
theorem unique (h : Clears P w w') (h' : Clears P w w'') : w' = w'' := by
  have hfiles : w'.files = w''.files := FileTree.ext_get? fun l => by
    by_cases hl : P l
    · rw [h.gone l hl, h'.gone l hl]
    · rw [h.kept l hl, h'.kept l hl]
  rw [← h.frame, ← h'.frame, hfiles]

/-- What is left was there before. -/
theorem get?_of_eq_some (h : Clears P w w') (hl : w'.files.get? l = some node) :
    w.files.get? l = some node := by
  by_cases hp : P l
  · rw [h.gone l hp] at hl
    cases hl
  · rwa [h.kept l hp] at hl

/-- What holds of all that was there holds of all that is left. -/
theorem all_of_all (h : Clears P w w') {p : FileNode → Bool} (hall : (w.files.get? l).all p) :
    (w'.files.get? l).all p := by
  cases hget : w'.files.get? l with
  | none => rfl
  | some node => rwa [h.get?_of_eq_some hget] at hall

theorem isOpen (h : Clears P w w') (hopen : w.IsOpen l) : w'.IsOpen l := fun n hn =>
  h.all_of_all (hopen n hn)

/-- A path still starts at a directory if the working directory is left, should it be
    there. -/
theorem starts (h : Clears P w w')
    (hhere : w.files.get? w.here = some .directory → ¬P w.here) (hs : w.Starts p) :
    w'.Starts p := by
  unfold Starts start at hs ⊢
  rw [h.here]
  split
  · rename_i hrelative
    rw [if_pos hrelative] at hs
    rw [h.kept _ (hhere hs), hs]
  · exact w'.files.get?_nil

end Clears

/-- Where there is nothing, there is nothing to clear. -/
theorem clears_of_none (h : ∀ l, P l → w.files.get? l = none) : Clears P w w :=
  ⟨.refl P w, h⟩

/-- A directory can be removed with all below it. -/
theorem removeTree_eq_ok_iff : w.removeTree p = .ok w' ↔
    ∃ l, w.inspect p = .ok (l, .directory) ∧ w.withFiles (w.files.prune l) = w' := by
  unfold removeTree
  rw [bind_eq_ok_iff]
  constructor
  · rintro ⟨⟨l, _ | bytes⟩, hi, h⟩
    · exact ⟨l, hi, Except.ok.inj h⟩
    · cases h
  · rintro ⟨l, hi, rfl⟩
    exact ⟨_, hi, rfl⟩

/-- With a directory goes all that is below it. -/
theorem clears_removeTree (h : w.removeTree p = .ok w') (hroot : w.place p ≠ []) :
    Clears (w.place p <+: ·) w w' := by
  obtain ⟨l, hi, rfl⟩ := removeTree_eq_ok_iff.1 h
  rw [place_of_locate (inspect_eq_ok_iff.1 hi).1]
  have hget := FileTree.get?_prune w.files hroot
  refine ⟨⟨rfl, fun m hm => (hget m).trans ?_⟩, fun m hm => (hget m).trans ?_⟩
  · exact if_neg (mt List.isPrefixOf_iff_prefix.1 hm)
  · exact if_pos (List.isPrefixOf_iff_prefix.2 hm)

/-- Removing a directory changes nothing elsewhere. -/
theorem keeps_removeTree (h : w.removeTree p = .ok w') : Keeps (w.place p <+: ·) w w' := by
  by_cases hroot : w.place p = []
  · obtain ⟨l, hi, rfl⟩ := removeTree_eq_ok_iff.1 h
    exact ⟨rfl, fun m hm => absurd (hroot ▸ List.nil_prefix) hm⟩
  · exact (clears_removeTree h hroot).toKeeps

/-- Removing a file clears its place. -/
theorem clears_removeFile (h : w.removeFile p = .ok w') : Clears (· = w.place p) w w' := by
  obtain ⟨l, bytes, hi, rfl⟩ := removeFile_eq_ok_iff.1 h
  have hget := get?_prune_file (get?_of_inspect hi)
  rw [← place_of_locate (inspect_eq_ok_iff.1 hi).1]
  exact ⟨⟨rfl, fun m hm => (hget m).trans (if_neg hm)⟩, fun m hm => (hget m).trans (if_pos hm)⟩

/-- A file is not there to be removed if it is not there to be looked at. -/
theorem inspect_of_removeFile_eq_noEntry {subject : Subject}
    (h : w.removeFile p = .error (.os (.refused .noEntry subject))) :
    w.inspect p = .error (.os (.refused .noEntry subject)) := by
  unfold removeFile at h
  cases hi : w.inspect p with
  | error e =>
    rw [hi] at h
    exact congrArg Except.error (Except.error.inj h)
  | ok found =>
    obtain ⟨l, _ | bytes⟩ := found
    · rw [hi] at h
      cases h
    · rw [hi] at h
      cases h

/-- A file that need not be there is gone once it has been removed. -/
theorem clears_of_runIn_removeFile {s s' : Session} (hdots : ".." ∉ p.parts)
    (h : (Work.removeFile p).runIn s = (.ok (), s')) :
    s' = { s with workspace := s'.workspace } ∧
      Clears (· = s.workspace.place p) s.workspace s'.workspace := by
  rw [Work.runIn_removeFile] at h
  split at h
  · rename_i w' hremove
    cases h
    exact ⟨rfl, clears_removeFile hremove⟩
  · rename_i subject hremove
    cases h
    refine ⟨rfl, clears_of_none fun l hl => ?_⟩
    rw [hl]
    exact get?_of_inspect_eq_noEntry hdots (inspect_of_removeFile_eq_noEntry hremove)
  · cases h

/-- Removing a file that need not be there changes nothing else. -/
theorem keeps_runIn_removeFile (p : Path) (s : Session) :
    ((Work.removeFile p).runIn s).2 =
        { s with workspace := ((Work.removeFile p).runIn s).2.workspace } ∧
      Keeps (· = s.workspace.place p) s.workspace
        ((Work.removeFile p).runIn s).2.workspace := by
  rw [Work.runIn_removeFile]
  split
  · rename_i w' hremove
    exact ⟨rfl, (clears_removeFile hremove).toKeeps⟩
  · exact ⟨rfl, .refl _ _⟩
  · exact ⟨rfl, .refl _ _⟩

/-- A file that need not be there can be removed if there are only directories around it
    and the system takes its path. -/
theorem runIn_removeFile_eq_ok {s : Session} (hs : s.workspace.Starts p) (hp : p.Fits)
    (hdots : ".." ∉ p.parts) (hopen : s.workspace.IsOpen (s.workspace.place p))
    (hfile : s.workspace.files.get? (s.workspace.place p) ≠ some .directory) :
    ((Work.removeFile p).runIn s).1 = .ok () := by
  have hinspect := inspect_eq_of_isOpen hs hp hdots hopen
  rw [Work.runIn_removeFile, removeFile, hinspect]
  cases hget : s.workspace.files.get? (s.workspace.place p) with
  | none => rfl
  | some node =>
    cases node with
    | directory => exact absurd hget hfile
    | file bytes => rfl

end Workspace

end JavaBuild
