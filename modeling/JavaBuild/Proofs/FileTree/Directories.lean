import JavaBuild.Proofs.FileTree.Access
import Mathlib.Tactic.MkIffOfInductiveProp

/-!
# Making directories

Making directories adds directories on the route of the path and changes nothing
else (`makeDirectories_grows`), also when it fails half way. If it succeeds, the
path leads to a directory (`inspect_makeDirectories`). It succeeds if there are no
files on the route and the system takes the path (`makeDirectories_eq_ok`).
-/

namespace JavaBuild

/-- The text of a path starts with that of the path around it. -/
theorem Path.baseText_parent (p : Path) : ∃ rest, p.baseText = p.parent.baseText ++ rest := by
  unfold baseText parent
  rcases List.eq_nil_or_concat p.parts with h | ⟨q, name, h⟩
  · exact ⟨"", by simp [h]⟩
  · rw [List.concat_eq_append] at h
    rw [h, List.dropLast_concat]
    by_cases hq : q = []
    · exact ⟨name, by simp [hq]⟩
    · refine ⟨"/" ++ name, ?_⟩
      rw [String.intercalate_append_of_ne_nil hq (by simp), String.intercalate_singleton]
      simp only [String.append_assoc]

/-- The text of the parent is no longer. -/
theorem Path.Admissible.parent {p : Path} (h : p.Admissible) : p.parent.Admissible := by
  by_cases hhere : p.parent = .here
  · rw [hhere, Admissible]
    decide +kernel
  · have hp : p ≠ .here := by
      rintro rfl
      exact hhere rfl
    obtain ⟨rest, hrest⟩ := p.baseText_parent
    unfold Admissible Path.toString at *
    rw [if_neg hp, hrest] at h
    rw [if_neg hhere]
    refine ⟨fun hc => h.1 ?_, Nat.le_trans ?_ h.2⟩
    · rw [String.toList_append]
      exact List.mem_append_left _ hc
    · rw [String.utf8ByteSize_append]
      exact Nat.le_add_right _ _

/-- The system takes a path: its text, and each of its names. -/
@[mk_iff]
structure Path.Fits (p : Path) : Prop where
  text : p.Admissible
  names : ∀ name ∈ p.parts, name.utf8ByteSize ≤ Workspace.maxName

instance (p : Path) : Decidable p.Fits := decidable_of_iff' _ (Path.fits_iff p)

/-- If the system takes a path, it takes its parent. -/
theorem Path.Fits.parent {p : Path} (h : p.Fits) : p.parent.Fits :=
  ⟨h.text.parent, fun name hn => h.names name (List.dropLast_subset _ hn)⟩

namespace Workspace

variable {w w' a b c : Workspace} {p : Path} {l m : Location} {P Q : Location → Prop}

/-! ## Growth -/

/-- What is new in the second workspace is directories, at locations in `P`. -/
structure Grows (P : Location → Prop) (a b : Workspace) : Prop where
  frame : a.withFiles b.files = b
  files : ∀ l, b.files.get? l = a.files.get? l ∨
    (a.files.get? l = none ∧ b.files.get? l = some .directory ∧ P l)

theorem Grows.refl (P : Location → Prop) (w : Workspace) : Grows P w w :=
  ⟨rfl, fun _ => .inl rfl⟩

theorem Grows.mono (h : Grows P a b) (hPQ : ∀ l, P l → Q l) : Grows Q a b :=
  ⟨h.frame, fun l => (h.files l).imp_right fun ⟨h₁, h₂, h₃⟩ => ⟨h₁, h₂, hPQ l h₃⟩⟩

theorem Grows.here (h : Grows P a b) : b.here = a.here := here_of_withFiles h.frame

theorem Grows.start (h : Grows P a b) (p : Path) : b.start p = a.start p := start_congr h.here p

theorem Grows.place (h : Grows P a b) (p : Path) : b.place p = a.place p := place_congr h.here p

/-- Elsewhere, all is as it was. -/
theorem Grows.get?_of_not (h : Grows P a b) (hl : ¬P l) : b.files.get? l = a.files.get? l := by
  rcases h.files l with he | ⟨-, -, hP⟩
  · exact he
  · exact absurd hP hl

/-- No directory is lost, … -/
theorem Grows.directory (h : Grows P a b) (hl : a.files.get? l = some .directory) :
    b.files.get? l = some .directory := by
  rcases h.files l with he | ⟨_, hb, _⟩
  · rw [he, hl]
  · exact hb

/-- … so paths still start where they did. -/
theorem Grows.starts (h : Grows P a b) (hs : a.Starts p) : b.Starts p := by
  rw [Starts, h.start]
  exact h.directory hs

theorem Grows.trans (hab : Grows P a b) (hbc : Grows P b c) : Grows P a c := by
  refine ⟨withFiles_trans hab.frame hbc.frame, fun l => ?_⟩
  rcases hbc.files l with he | ⟨hb, hc, hP⟩
  · rw [he]
    exact hab.files l
  · rcases hab.files l with he | ⟨_, hb', _⟩
    · exact .inr ⟨he ▸ hb, hc, hP⟩
    · rw [hb] at hb'
      cases hb'

/-- The files are those of before. -/
theorem Grows.file_iff (h : Grows P a b) {bytes : ByteArray} :
    b.files.get? l = some (.file bytes) ↔ a.files.get? l = some (.file bytes) := by
  rcases h.files l with he | ⟨ha, hb, _⟩
  · rw [he]
  · rw [ha, hb]
    exact ⟨fun h => (nomatch h), fun h => (nomatch h)⟩

/-- Where a path has led, it still leads. -/
theorem Grows.locate (h : Grows P a b) (hl : a.locate p = .ok l) : b.locate p = .ok l :=
  locate_mono h.here (fun _ => h.directory) hl

/-! ## One directory -/

/-- A directory can be made where nothing is, in a directory. -/
theorem makeDirectory_eq_ok_iff : w.makeDirectory p = .ok w' ↔ ∃ l, w.locate p = .ok l ∧
    w.node? p l = none ∧ w.files.Allows l .directory ∧
      w.withFiles (w.files.put l .directory) = w' := by
  unfold makeDirectory
  rw [bind_eq_ok_iff]
  refine exists_congr fun l => and_congr_right fun _ => ?_
  split
  · rename_i hn
    exact ⟨fun h => (nomatch h), fun h => absurd hn (by simp [h.1])⟩
  · rename_i hn
    split
    · rename_i ha
      exact ⟨fun h => ⟨by simpa using hn, ha, Except.ok.inj h⟩, fun h => congrArg Except.ok h.2.2⟩
    · rename_i ha
      exact ⟨fun h => (nomatch h), fun h => absurd h.2.1 ha⟩

theorem ne_here_of_node?_eq_none (h : w.node? p l = none) : p ≠ .here := fun hp => by
  rw [node?, if_pos hp] at h
  cases h

/-- Making a directory adds this one. -/
theorem makeDirectory_grows (h : w.makeDirectory p = .ok w') : Grows (· = w.place p) w w' := by
  obtain ⟨l, hl, hn, ha, rfl⟩ := makeDirectory_eq_ok_iff.1 h
  rw [node?_of_ne (ne_here_of_node?_eq_none hn)] at hn
  refine ⟨rfl, fun m => ?_⟩
  change (w.files.put l .directory).get? m = _ ∨ _ ∧ (w.files.put l .directory).get? m = _ ∧ _
  rw [FileTree.get?_put ha]
  split
  · subst_vars
    exact .inr ⟨hn, rfl, place_of_locate hl⟩
  · exact .inl rfl

/-- A directory that has been made is found. -/
theorem inspect_makeDirectory (h : w.makeDirectory p = .ok w') :
    w'.inspect p = .ok (w.place p, .directory) := by
  have hgrows := makeDirectory_grows h
  obtain ⟨l, hl, hn, ha, rfl⟩ := makeDirectory_eq_ok_iff.1 h
  rw [← place_of_locate hl, inspect_eq_ok_iff, node?_of_ne (ne_here_of_node?_eq_none hn)]
  exact ⟨hgrows.locate hl, (FileTree.get?_put ha l).trans (if_pos rfl)⟩

theorem isDirectory_eq_true_iff :
    w.isDirectory p = .ok true ↔ ∃ l, w.inspect p = .ok (l, .directory) := by
  unfold isDirectory
  rw [map_eq_ok_iff]
  constructor
  · rintro ⟨_ | _ | bytes, hf, h⟩
    · cases h
    · exact inspect_of_find? hf
    · cases h
  · rintro ⟨l, hi⟩
    exact ⟨_, find?_of_inspect hi, rfl⟩

/-- A directory has been made, or was there. -/
theorem ensureDirectory_eq_ok (h : w.ensureDirectory p = .ok w') :
    w.makeDirectory p = .ok w' ∨ (w.isDirectory p = .ok true ∧ w' = w) := by
  unfold ensureDirectory at h
  split at h
  · cases h
  · obtain ⟨found, hd, h⟩ := bind_eq_ok_iff.1 h
    cases found with
    | true => exact .inr ⟨hd, (Except.ok.inj h).symm⟩
    | false => cases h
  · exact .inl h

/-- Making sure of a directory adds no other one, … -/
theorem ensureDirectory_grows (h : w.ensureDirectory p = .ok w') :
    Grows (· = w.place p) w w' := by
  rcases ensureDirectory_eq_ok h with h | ⟨-, rfl⟩
  · exact makeDirectory_grows h
  · exact .refl _ _

/-- … and it is there afterwards. -/
theorem inspect_ensureDirectory (h : w.ensureDirectory p = .ok w') :
    ∃ l, w'.inspect p = .ok (l, .directory) := by
  rcases ensureDirectory_eq_ok h with h | ⟨hd, rfl⟩
  · exact ⟨_, inspect_makeDirectory h⟩
  · exact isDirectory_eq_true_iff.1 hd

/-! ## Directories on a route -/

/-- The locations that a path leads through, its own the last. -/
def route (w : Workspace) (p : Path) : List Location := way (w.start p) p.parts ++ [w.place p]

theorem place_mem_route (w : Workspace) (p : Path) : w.place p ∈ w.route p :=
  List.mem_append_right _ (List.mem_singleton_self _)

theorem mem_route_of_mem_way (h : m ∈ way (w.start p) p.parts) : m ∈ w.route p :=
  List.mem_append_left _ h

/-- The way of a path is the route of its parent. -/
theorem way_eq_route_parent (w : Workspace) (h : p.parts ≠ []) :
    way (w.start p) p.parts = w.route p.parent := by
  conv_lhs => rw [← List.dropLast_concat_getLast h]
  rw [way_concat]
  rfl

/-- The route of a path depends on the working directory alone. -/
theorem route_congr (h : w'.here = w.here) (p : Path) : w'.route p = w.route p := by
  rw [route, route, place_congr h, start_congr h]

/-- A directory that is wanting is made after those around it. -/
theorem makeDirectories_of_noEntry {subject : Subject} (hne : p.parts ≠ [])
    (h : w.ensureDirectory p = .error (.os (.refused .noEntry subject))) :
    w.makeDirectories p = match w.makeDirectories p.parent with
      | (.error e, w') => (.error e, w')
      | (.ok (), w') => match w'.ensureDirectory p with
        | .ok w'' => (.ok (), w'')
        | .error e => (.error e, w') := by
  rw [makeDirectories, h]
  exact dif_neg hne

/-- A directory that cannot be made for another reason fails at once. -/
theorem makeDirectories_of_error {e : FileError} (h : w.ensureDirectory p = .error e)
    (hentry : ∀ subject, e ≠ .os (.refused .noEntry subject)) :
    w.makeDirectories p = (.error e, w) := by
  rw [makeDirectories, h]
  split
  · rename_i hok
    cases hok
  · rename_i subject he
    exact absurd (Except.error.inj he) (hentry subject)
  · rename_i he
    cases he
    rfl

/-- Making directories adds directories on the route of the path. -/
theorem makeDirectories_grows (w : Workspace) (p : Path) :
    Grows (· ∈ w.route p) w (w.makeDirectories p).2 := by
  fun_induction makeDirectories w p with
  | case1 p w' h =>
    exact (ensureDirectory_grows h).mono fun l hl => hl ▸ place_mem_route w p
  | case2 p => exact .refl _ _
  | case3 p _ _ hp _ e w' h ih =>
    rw [h] at ih
    exact ih.mono fun l hl => mem_route_of_mem_way (way_eq_route_parent w hp ▸ hl)
  | case4 p _ _ hp _ w' h w'' hw'' ih =>
    rw [h] at ih
    refine (ih.mono fun l hl => mem_route_of_mem_way (way_eq_route_parent w hp ▸ hl)).trans ?_
    refine (ensureDirectory_grows hw'').mono fun l hl => ?_
    rw [hl, ← route_congr ih.here]
    exact place_mem_route w' p
  | case5 p _ _ hp _ w' h _ _ ih =>
    rw [h] at ih
    exact ih.mono fun l hl => mem_route_of_mem_way (way_eq_route_parent w hp ▸ hl)
  | case6 p => exact .refl _ _

/-- When directories have been made, the path leads to one. -/
theorem inspect_makeDirectories (h : (w.makeDirectories p).1 = .ok ()) :
    ∃ l, (w.makeDirectories p).2.inspect p = .ok (l, .directory) := by
  rw [makeDirectories] at h ⊢
  split
  · rename_i he
    exact inspect_ensureDirectory he
  · split
    · simp_all
    · split
      · simp_all
      · split
        · rename_i he
          exact inspect_ensureDirectory he
        · simp_all
  · simp_all

/-- Once directories have been made, the path leads to one, and only those on its route are
    new. -/
theorem made_of_makeDirectories {made : Workspace} (h : w.makeDirectories p = (.ok (), made)) :
    Grows (· ∈ w.route p) w made ∧ ∃ l, made.inspect p = .ok (l, .directory) := by
  have hgrows := w.makeDirectories_grows p
  have hmade := inspect_makeDirectories (w := w) (p := p) (by rw [h])
  rw [h] at hgrows hmade
  exact ⟨hgrows, hmade⟩

/-! ## Success -/

/-- A path leads to its place if its way is there. -/
theorem locate_of_way (hs : w.Starts p) (hp : p.Fits)
    (hway : ∀ m ∈ way (w.start p) p.parts, w.files.get? m = some .directory) :
    w.locate p = .ok (w.place p) := by
  rw [locate_eq_ok_iff, follow_of_starts hs]
  exact ⟨hp.text, walk_eq_ok_iff.2 ⟨rfl, hway, hp.names⟩⟩

/-- What a path leads to, the system has taken. -/
theorem fits_of_locate (h : w.locate p = .ok l) : p.Fits := by
  obtain ⟨htext, hfollow⟩ := locate_eq_ok_iff.1 h
  refine ⟨htext, ?_⟩
  by_cases hs : w.Starts p
  · rw [follow_of_starts hs] at hfollow
    exact (walk_eq_ok_iff.1 hfollow).2.2
  · rw [follow_of_not_starts hs] at hfollow
    cases hparts : p.parts with
    | nil => simp
    | cons name names =>
      simp only [hparts] at hfollow
      split at hfollow
      · rename_i hname
        rw [hname]
        exact List.forall_mem_cons.2 ⟨by decide, (walk_eq_ok_iff.1 hfollow).2.2⟩
      · cases hfollow

/-- All of a route are directories if there is one at its end. -/
theorem get?_of_mem_route (hs : w.Starts p) (h : w.inspect p = .ok (l, .directory))
    (hm : m ∈ w.route p) : w.files.get? m = some .directory := by
  obtain ⟨hl, hn⟩ := inspect_eq_ok_iff.1 h
  have hfollow := (locate_eq_ok_iff.1 hl).2
  rw [follow_of_starts hs] at hfollow
  rcases List.mem_append.1 hm with hm | hm
  · exact (walk_eq_ok_iff.1 hfollow).2.1 m hm
  · rw [List.mem_singleton.1 hm]
    by_cases hp : p = .here
    · subst hp
      exact hs
    · rwa [node?_of_ne hp, place_of_locate hl] at hn

/-- What is around the place of a path is a directory if its way is there. -/
theorem isDirectory_dropLast_place (hs : w.Starts p)
    (hway : ∀ m ∈ way (w.start p) p.parts, w.files.get? m = some .directory) :
    w.files.isDirectory (w.place p).dropLast ∧ (w.files.get? (w.place p) = none →
      w.place p ≠ [] ∧ ".." ∉ w.place p) := by
  by_cases hp : p.parts = []
  · have hplace : w.place p = w.start p := by rw [place, hp]; rfl
    rw [hplace, FileTree.isDirectory_iff, hs]
    exact ⟨FileTree.get?_dropLast hs, fun h => absurd h (Option.some_ne_none _)⟩
  · obtain ⟨q, name, hq⟩ : ∃ q name, p.parts = q ++ [name] :=
      ⟨_, _, (List.dropLast_concat_getLast hp).symm⟩
    have hlast : w.files.get? (lexical (w.start p) q) = some .directory :=
      hway _ (by rw [hq, way_concat]; simp)
    have hplace : w.place p = step (lexical (w.start p) q) name := by
      rw [place, hq, lexical_concat]
    rw [hplace, FileTree.isDirectory_iff]
    -- A last `..` leads to a directory that is there, any other name below one.
    by_cases hname : name = ".."
    · rw [step, if_pos hname]
      have hup := FileTree.get?_dropLast hlast
      exact ⟨FileTree.get?_dropLast hup, fun h => by rw [hup] at h; cases h⟩
    · rw [step, if_neg hname, List.dropLast_concat]
      refine ⟨hlast, fun _ => ⟨by simp, ?_⟩⟩
      rw [List.mem_append, List.mem_singleton, not_or]
      exact ⟨FileTree.not_mem_of_get? hlast, fun h => hname h.symm⟩

theorem ensureDirectory_of_alreadyExists (h : w.makeDirectory p = .error (.on .alreadyExists p))
    (hd : w.isDirectory p = .ok true) : w.ensureDirectory p = .ok w := by
  simp only [ensureDirectory, h, FileError.on, hd, bind, Except.bind]
  rfl

/-- A directory that is found is left as it is. -/
theorem ensureDirectory_of_inspect (h : w.inspect p = .ok (l, .directory)) :
    w.ensureDirectory p = .ok w := by
  obtain ⟨hl, hn⟩ := inspect_eq_ok_iff.1 h
  refine ensureDirectory_of_alreadyExists ?_ (isDirectory_eq_true_iff.2 ⟨_, h⟩)
  simp only [makeDirectory, hl, bind, Except.bind, hn, Option.isSome_some]
  rfl

/-- There is nothing to make if the path leads to a directory. -/
theorem makeDirectories_of_inspect (h : w.inspect p = .ok (l, .directory)) :
    w.makeDirectories p = (.ok (), w) := by
  rw [makeDirectories, ensureDirectory_of_inspect h]

/-- What a path leads to is in a directory. -/
theorem inspect_parent (hl : w.locate p = .ok l) (hne : p.parts ≠ []) :
    ∃ m, w.inspect p.parent = .ok (m, .directory) := by
  obtain ⟨htext, hfollow⟩ := locate_eq_ok_iff.1 hl
  have hfound {m : Location} (hm : w.follow p.parent = .ok m)
      (hd : p.parent ≠ .here → w.files.get? m = some .directory) :
      w.inspect p.parent = .ok (m, .directory) := by
    refine inspect_eq_ok_iff.2 ⟨locate_eq_ok_iff.2 ⟨htext.parent, hm⟩, ?_⟩
    by_cases hp : p.parent = .here
    · exact if_pos hp
    · rw [node?_of_ne hp]
      exact hd hp
  by_cases hs : w.Starts p
  · rw [follow_of_starts hs] at hfollow
    obtain ⟨m, hm, hd⟩ := walk_dropLast hfollow hne
    exact ⟨m, hfound ((follow_of_starts (p := p.parent) hs).trans hm) fun _ => hd⟩
  · -- Only `..` leads on from a working directory that has been removed.
    have hs' : ¬w.Starts p.parent := hs
    rw [follow_of_not_starts hs] at hfollow
    obtain ⟨name, names, hparts⟩ := List.exists_cons_of_ne_nil hne
    simp only [hparts] at hfollow
    split at hfollow
    · rename_i hname
      cases names with
      | nil =>
        refine ⟨w.here, hfound ?_ fun hp => absurd ?_ hp⟩
        · rw [follow_of_not_starts hs', Path.parent, hparts]
          rfl
        · have := (not_not.1 (mt starts_iff.2 hs)).1
          rw [Path.parent, hparts, this]
          rfl
      | cons next rest =>
        obtain ⟨m, hm, hd⟩ := walk_dropLast hfollow (List.cons_ne_nil next rest)
        refine ⟨m, hfound ?_ fun _ => hd⟩
        rw [follow_of_not_starts hs', Path.parent, hparts]
        simp only [List.dropLast_cons_cons, if_pos hname]
        exact hm
    · cases hfollow

/-- A directory can be made at the end of its way if there is no file. -/
theorem ensureDirectory_of_locate (hs : w.Starts p) (hl : w.locate p = .ok (w.place p))
    (hfile : ∀ bytes, w.files.get? (w.place p) ≠ some (.file bytes)) :
    ∃ w', w.ensureDirectory p = .ok w' := by
  have hfollow := (locate_eq_ok_iff.1 hl).2
  rw [follow_of_starts hs] at hfollow
  have hplace := isDirectory_dropLast_place hs (walk_eq_ok_iff.1 hfollow).2.1
  -- Either there is a directory, or what is around its place is one.
  cases hn : w.node? p (w.place p) with
  | some node =>
    have hdir : node = .directory := by
      by_cases hp : p = .here
      · rw [node?, if_pos hp] at hn
        exact (Option.some.inj hn).symm
      · rw [node?_of_ne hp] at hn
        cases node with
        | directory => rfl
        | file bytes => exact absurd hn (hfile bytes)
    subst hdir
    exact ⟨w, ensureDirectory_of_inspect (inspect_eq_ok_iff.2 ⟨hl, hn⟩)⟩
  | none =>
    have hget := hn
    rw [node?_of_ne (ne_here_of_node?_eq_none hn)] at hget
    obtain ⟨hne, hnamed⟩ := hplace.2 hget
    have hmake := makeDirectory_eq_ok_iff.2
      ⟨_, hl, hn, ⟨hne, hnamed, hplace.1, .inl rfl⟩, rfl⟩
    exact ⟨_, by rw [ensureDirectory, hmake]⟩

/-- What cannot be reached for want of a directory around it cannot be made. -/
theorem ensureDirectory_of_noEntry (h : w.locate p = .error (.on .noEntry p)) :
    w.ensureDirectory p = .error (.on .noEntry p) := by
  have hmake : w.makeDirectory p = .error (.on .noEntry p) := by
    simp only [makeDirectory, h, bind, Except.bind]
  rw [ensureDirectory, hmake]
  rfl

/-- If the text of a path is taken, it fails for the reason for which it cannot be followed. -/
theorem locate_of_follow_eq_error {reason : Errno} (hp : p.Admissible)
    (h : w.follow p = .error reason) : w.locate p = .error (.on reason p) := by
  unfold locate
  simp [hp.1, Nat.not_lt.2 hp.2, h]

/-- There is no file on the route of a path. -/
def Clear (w : Workspace) (p : Path) : Prop :=
  ∀ m ∈ w.route p, ∀ bytes, w.files.get? m ≠ some (.file bytes)

theorem Clear.parent (h : w.Clear p) (hne : p.parts ≠ []) : w.Clear p.parent := fun m hm =>
  h m (mem_route_of_mem_way (way_eq_route_parent w hne ▸ hm))

/-- New directories are in no one's way. -/
theorem Grows.clear (h : Grows P a b) (hc : a.Clear p) : b.Clear p := fun m hm bytes hb =>
  hc m (route_congr h.here p ▸ hm) bytes (h.file_iff.1 hb)

/-- Without files on the way, nothing is found where nothing is. -/
theorem find?_of_clear (hs : w.Starts p) (hp : p.Fits) (hne : p.parts ≠ [])
    (hc : w.Clear p.parent) (hnone : w.node? p (w.place p) = none) : w.find? p = .ok none := by
  have hway : ∀ m ∈ way (w.start p) p.parts, ∀ bytes, w.files.get? m ≠ some (.file bytes) :=
    fun m hm => hc m (way_eq_route_parent w hne ▸ hm)
  rcases walk_ok_or_noEntry hway hp.names with h | h
  · rw [← follow_of_starts hs] at h
    exact find?_of_node?_eq_none (locate_eq_ok_iff.2 ⟨hp.text, h⟩) hnone
  · rw [← follow_of_starts hs] at h
    rw [find?, inspect, locate_of_follow_eq_error hp.text h]
    rfl

/-- Without files on the route, a directory is wanting at most on the way. -/
theorem ensureDirectory_ok_or_noEntry (hs : w.Starts p) (hp : p.Fits) (hc : w.Clear p) :
    (∃ w', w.ensureDirectory p = .ok w') ∨
      (p.parts ≠ [] ∧ w.ensureDirectory p = .error (.on .noEntry p)) := by
  rcases walk_ok_or_noEntry (fun m hm => hc m (mem_route_of_mem_way hm)) hp.names with h | h
  · rw [← follow_of_starts hs] at h
    exact .inl (ensureDirectory_of_locate hs (locate_eq_ok_iff.2 ⟨hp.text, h⟩)
      (hc _ (place_mem_route w p)))
  · have hne : p.parts ≠ [] := fun hnil => by
      rw [hnil] at h
      cases h
    rw [← follow_of_starts hs] at h
    exact .inr ⟨hne, ensureDirectory_of_noEntry (locate_of_follow_eq_error hp.text h)⟩

/-- In a directory that is there, another one can be made. -/
theorem ensureDirectory_of_parent (hs : w.Starts p) (hp : p.Fits) (hc : w.Clear p)
    (hne : p.parts ≠ []) (h : w.inspect p.parent = .ok (l, .directory)) :
    ∃ w', w.ensureDirectory p = .ok w' := by
  refine ensureDirectory_of_locate hs (locate_of_way hs hp fun m hm => ?_)
    (hc _ (place_mem_route w p))
  exact get?_of_mem_route (p := p.parent) hs h (way_eq_route_parent w hne ▸ hm)

/-- Directories can be made on a route without files if the system takes the path. -/
theorem makeDirectories_eq_ok (hs : w.Starts p) (hp : p.Fits) (hc : w.Clear p) :
    (w.makeDirectories p).1 = .ok () := by
  fun_induction makeDirectories w p with
  | case1 => rfl
  | case2 p _ h hnil =>
    rcases ensureDirectory_ok_or_noEntry hs hp hc with ⟨w', h'⟩ | ⟨hne, -⟩
    · rw [h'] at h
      cases h
    · exact absurd hnil hne
  | case3 p _ _ hne _ e w' h ih =>
    have hok := ih hs hp.parent (hc.parent hne)
    rw [h] at hok
    exact hok
  | case4 => rfl
  | case5 p _ _ hne _ w' h e he ih =>
    -- With the parent there, nothing can go wrong any more.
    obtain ⟨hgrows, l, hl⟩ := made_of_makeDirectories h
    obtain ⟨w'', h''⟩ := ensureDirectory_of_parent (hgrows.starts hs) hp (hgrows.clear hc) hne hl
    rw [he] at h''
    cases h''
  | case6 p e hno he =>
    rcases ensureDirectory_ok_or_noEntry hs hp hc with ⟨w', h'⟩ | ⟨-, h'⟩
    · rw [h'] at he
      cases he
    · rw [h'] at he
      exact absurd (Except.error.inj he).symm (hno _)

/-! ## Resolved paths -/

/-- A path is resolved to its place, unless there is a NUL in it or nowhere to start from. -/
theorem resolve_eq_ok_iff {q : Path} : w.resolve p = .ok q ↔
    '\x00' ∉ p.toString.toList ∧ w.Starts p ∧ q = ⟨.absolute, w.place p⟩ := by
  rw [resolve, starts_iff]
  by_cases hnul : '\x00' ∈ p.toString.toList
  · simp [hnul]
  · by_cases hs : p.anchor = .relative ∧ w.isAdrift
    · simp [hnul, hs]
    · rw [if_neg (by simpa using hnul), if_neg hs]
      exact ⟨fun h => ⟨hnul, hs, (Except.ok.inj h).symm⟩, fun h => congrArg Except.ok h.2.2.symm⟩

theorem Starts.not_mem_place (hs : w.Starts p) : ".." ∉ w.place p :=
  not_mem_lexical (FileTree.not_mem_of_get? hs) _

/-- A resolved path leads straight down to its place. -/
theorem prefix_of_mem_route_resolve {q : Path} (h : w.resolve p = .ok q) (hm : m ∈ w.route q) :
    m <+: w.place p := by
  obtain ⟨-, hs, rfl⟩ := resolve_eq_ok_iff.1 h
  have hnone := hs.not_mem_place
  rcases List.mem_append.1 hm with hm | hm
  · obtain ⟨names, hnames, -, rfl⟩ := mem_way_of_not_mem hnone hm
    exact hnames
  · rw [List.mem_singleton.1 hm, place]
    rw [show w.start ⟨.absolute, w.place p⟩ = [] from rfl, lexical_of_not_mem [] hnone]
    exact List.prefix_rfl

end Workspace

end JavaBuild
