import JavaBuild.Proofs.FileTree.NulPath
import JavaBuild.Proofs.FileTree.Removal

/-!
# Adding below directories

Work that only adds to the files keeps all that is there (`Workspace.Extends`), so a path that
leads to something goes on to do so.

A path *descends* if it leads straight down from a directory that is there, without any `..`
after it (`Workspace.Descends`). Making directories adds nothing above them then
(`makeDirectories_extend_grows`), so that a place where nothing was found is still free
afterwards. For other paths this fails: a path may lead to something only when directories
that it goes up from have been made.

Making directories once more comes to the same, and makes none (`makeDirectories_again`).
-/

namespace JavaBuild

theorem Path.extend_extend (base : Path) (names more : List String) :
    (base.extend names).extend more = base.extend (names ++ more) := by
  rw [extend, extend, extend, List.append_assoc]

theorem Path.parent_extend_concat (base : Path) (names : List String) (name : String) :
    (base.extend (names ++ [name])).parent = base.extend names := by
  rw [extend, extend, parent, ← List.append_assoc, List.dropLast_concat]

namespace Workspace

variable {w w' w'' made : Workspace} {p base : Path} {l m : Location} {node : FileNode}
  {names : List String} {bytes : ByteArray} {e : FileError} {P : Location → Prop}

/-! ## Extensions -/

/-- All that is there stays there. -/
structure Extends (w w' : Workspace) : Prop where
  frame : w.withFiles w'.files = w'
  kept : ∀ l node, w.files.get? l = some node → w'.files.get? l = some node

namespace Extends

theorem refl (w : Workspace) : Extends w w := ⟨rfl, fun _ _ h => h⟩

theorem trans (h : Extends w w') (h' : Extends w' w'') : Extends w w'' :=
  ⟨withFiles_trans h.frame h'.frame, fun l node hl => h'.kept l node (h.kept l node hl)⟩

theorem here (h : Extends w w') : w'.here = w.here := here_of_withFiles h.frame

theorem place (h : Extends w w') (p : Path) : w'.place p = w.place p := place_congr h.here p

/-- What is found is found again. -/
theorem inspect (h : Extends w w') (hi : w.inspect p = .ok (l, node)) :
    w'.inspect p = .ok (l, node) := by
  obtain ⟨hl, hn⟩ := inspect_eq_ok_iff.1 hi
  refine inspect_eq_ok_iff.2 ⟨locate_mono h.here (fun m hm => h.kept m _ hm) hl, ?_⟩
  by_cases hp : p = .here
  · rw [node?, if_pos hp] at hn ⊢
    exact hn
  · rw [node?_of_ne hp] at hn ⊢
    exact h.kept l node hn

end Extends

/-- Nothing is lost when directories are added. -/
theorem Grows.extends (h : Grows P w w') : Extends w w' where
  frame := h.frame
  kept l node hl := by
    rcases h.files l with hsame | ⟨hnone, -, -⟩
    · rw [hsame, hl]
    · rw [hnone] at hl
      cases hl

/-- A path exists exactly if something is found there. -/
theorem pathExists_eq_true_iff : w.pathExists p = .ok true ↔ ∃ found, w.inspect p = .ok found := by
  rw [pathExists_eq_ok_iff]
  constructor
  · rintro ⟨found, hfind, hsome⟩
    obtain ⟨node, rfl⟩ := Option.isSome_iff_exists.1 hsome
    obtain ⟨l, hl⟩ := inspect_of_find? hfind
    exact ⟨_, hl⟩
  · rintro ⟨⟨l, node⟩, hl⟩
    exact ⟨_, find?_of_inspect hl, rfl⟩

/-- What has existed still does. -/
theorem Extends.pathExists (h : Extends w w') (hp : w.pathExists p = .ok true) :
    w'.pathExists p = .ok true := by
  obtain ⟨⟨l, node⟩, hl⟩ := pathExists_eq_true_iff.1 hp
  exact pathExists_eq_true_iff.2 ⟨_, h.inspect hl⟩

/-- What there is to be read stays the same. -/
theorem Extends.readFile (h : Extends w w') (hp : w.pathExists p = .ok true) :
    w'.readFile p = w.readFile p := by
  obtain ⟨⟨l, node⟩, hl⟩ := pathExists_eq_true_iff.1 hp
  rw [Workspace.readFile, Workspace.readFile, hl, h.inspect hl]

/-- A file is added where nothing was. There may be new directories, but no other file. -/
structure AddsFile (l : Location) (bytes : ByteArray) (w w' : Workspace) : Prop
    extends Extends w w' where
  vacant : w.files.get? l = none
  file_iff : ∀ m found, w'.files.get? m = some (.file found) ↔
    w.files.get? m = some (.file found) ∨ (m = l ∧ found = bytes)

/-- A file is added when it is written after directories have been made. -/
theorem AddsFile.of_grows (hgrows : Grows P w made) (hwrite : made.writeFile p bytes = .ok w')
    (hvacant : made.files.get? (w.place p) = none) : AddsFile (w.place p) bytes w w' := by
  have hget := get?_writeFile hwrite
  rw [hgrows.place] at hget
  have hkept : Extends made w' := by
    refine ⟨withFiles_writeFile hwrite, fun l node hl => ?_⟩
    rw [hget, if_neg, hl]
    rintro rfl
    rw [hvacant] at hl
    cases hl
  refine ⟨hgrows.extends.trans hkept, ?_, fun m found => ?_⟩
  · rw [Option.eq_none_iff_forall_ne_some]
    intro node hnode
    rw [hgrows.extends.kept _ _ hnode] at hvacant
    cases hvacant
  · rw [hget, ← hgrows.file_iff]
    by_cases hm : m = w.place p
    · rw [if_pos hm, hm, hvacant]
      simp [eq_comm]
    · rw [if_neg hm]
      simp [hm]

/-! ## Descents -/

/-- Names can be looked up part by part. -/
theorem walk_append {t : FileTree} {loc : Location} (h : walk t loc names = .ok l)
    (more : List String) : walk t loc (names ++ more) = walk t l more := by
  induction names generalizing loc with
  | nil =>
    cases h
    rfl
  | cons name names ih =>
    rw [walk] at h
    rw [List.cons_append, walk]
    split at h
    · cases h
    · cases h
    · split at h
      · cases h
      · rename_i hshort
        rw [if_neg hshort]
        exact ih h

/-- From a directory that is found, names are followed from there. -/
theorem follow_extend (h : w.follow base = .ok l) (hl : w.files.get? l = some .directory)
    (names : List String) : w.follow (base.extend names) = walk w.files l names := by
  by_cases hs : w.Starts base
  · rw [follow_of_starts hs] at h
    have hs' : w.Starts (base.extend names) := hs
    rw [follow_of_starts hs']
    exact walk_append h names
  · rw [follow_of_not_starts hs] at h
    have hs' : ¬w.Starts (base.extend names) := hs
    rw [follow_of_not_starts hs', Path.extend]
    cases hparts : base.parts with
    | nil =>
      -- The working directory has been removed, so it is not there.
      rw [hparts] at h
      cases h
      rw [← start_of_not_starts hs] at hl
      exact absurd hl hs
    | cons name rest =>
      simp only [hparts] at h
      simp only [List.cons_append]
      split at h
      · rename_i hname
        rw [if_pos hname]
        exact walk_append h names
      · cases h

/-- Names below a path lead on from its place. -/
theorem place_extend_eq_lexical (w : Workspace) (base : Path) (names : List String) :
    w.place (base.extend names) = lexical (w.place base) names := by
  rw [Path.extend, place, lexical_append]
  rfl

/-- Names without `..` lead straight down from where a path leads. -/
theorem place_extend (h : w.inspect base = .ok (l, node)) (hdots : ".." ∉ names) :
    w.place (base.extend names) = l ++ names := by
  rw [place_extend_eq_lexical, lexical_of_not_mem _ hdots,
    place_of_locate (inspect_eq_ok_iff.1 h).1]

/-- What is below a directory that is found is found if the system takes its path. -/
theorem inspect_extend (hbase : w.inspect base = .ok (l, .directory)) (hdots : ".." ∉ names)
    (hne : names ≠ []) (hfits : (base.extend names).Fits)
    (hnode : w.files.get? (l ++ names) = some node) :
    w.inspect (base.extend names) = .ok (l ++ names, node) := by
  have hl : w.files.get? l = some .directory :=
    FileTree.get?_above hnode (List.prefix_append l names) (by simpa using hne)
  have hfollow := (locate_eq_ok_iff.1 (inspect_eq_ok_iff.1 hbase).1).2
  have hwalk : walk w.files l names = .ok (l ++ names) := by
    refine walk_eq_ok_iff.2 ⟨(lexical_of_not_mem l hdots).symm, fun m hm => ?_, fun name hname =>
      hfits.names name (List.mem_append_right _ hname)⟩
    obtain ⟨q, hq, hqne, rfl⟩ := mem_way_of_not_mem hdots hm
    exact FileTree.get?_above hnode ((List.prefix_append_right_inj l).2 hq) (by simpa using hqne)
  rw [← follow_extend hfollow hl] at hwalk
  refine inspect_eq_ok_iff.2 ⟨locate_eq_ok_iff.2 ⟨hfits.text, hwalk⟩, ?_⟩
  rw [node?_of_ne (ne_here_of_parts_ne_nil (List.append_ne_nil_of_right_ne_nil _ hne)), hnode]

/-- Making directories adds none but those below a directory that is found. -/
theorem makeDirectories_extend_grows (hbase : w.inspect base = .ok (l, .directory))
    (hdots : ".." ∉ names) : Grows (fun m => ∃ q, q <+: names ∧ m = l ++ q) w
      (w.makeDirectories (base.extend names)).2 := by
  -- Directories are made from the last name back, so the induction takes names off the end.
  induction names using List.reverseRecOn with
  | nil =>
    have hnil : base.extend [] = base := by rw [Path.extend, List.append_nil]
    rw [hnil, makeDirectories_of_inspect hbase]
    exact .refl _ _
  | append_singleton names name ih =>
    have hne : (base.extend (names ++ [name])).parts ≠ [] := by simp [Path.extend]
    have hplace := place_extend hbase hdots
    have haround := (ih fun h => hdots (List.mem_append_left _ h)).mono
      (Q := fun m => ∃ q, q <+: names ++ [name] ∧ m = l ++ q)
      fun m ⟨q, hq, hm⟩ => ⟨q, hq.trans (List.prefix_append _ _), hm⟩
    have hlast {w₁ w₂ : Workspace} (hplace : w₁.place (base.extend (names ++ [name])) =
        l ++ (names ++ [name])) (h : w₁.ensureDirectory (base.extend (names ++ [name])) = .ok w₂) :
        Grows (fun m => ∃ q, q <+: names ++ [name] ∧ m = l ++ q) w₁ w₂ :=
      (ensureDirectory_grows h).mono fun m hm => ⟨_, List.prefix_rfl, hm.trans hplace⟩
    cases hensure : w.ensureDirectory (base.extend (names ++ [name])) with
    | ok w₁ =>
      rw [makeDirectories, hensure]
      exact hlast hplace hensure
    | error e =>
      by_cases hentry : ∃ subject, e = .os (.refused .noEntry subject)
      · obtain ⟨subject, rfl⟩ := hentry
        rw [makeDirectories_of_noEntry hne hensure, Path.parent_extend_concat]
        generalize w.makeDirectories (base.extend names) = run at haround ⊢
        obtain ⟨e | ⟨⟩, w₁⟩ := run
        · exact haround
        · cases hensure₁ : w₁.ensureDirectory (base.extend (names ++ [name])) with
          | ok w₂ =>
            simp only [hensure₁]
            exact haround.trans (hlast ((haround.place _).trans hplace) hensure₁)
          | error e =>
            simp only [hensure₁]
            exact haround
      · -- Only for a missing entry are the directories before it made.
        rw [makeDirectories_of_error hensure (not_exists.1 hentry)]
        exact .refl _ _

/-- A path that leads straight down from a directory that is there. -/
def Descends (w : Workspace) (p : Path) : Prop :=
  ∃ base names l, p = base.extend names ∧ ".." ∉ names ∧ w.inspect base = .ok (l, .directory)

theorem Extends.descends (h : Extends w w') (hp : w.Descends p) : w'.Descends p := by
  obtain ⟨base, names, l, rfl, hdots, hbase⟩ := hp
  exact ⟨base, names, l, rfl, hdots, h.inspect hbase⟩

/-- A path that leads straight down may go on with further names. -/
theorem Descends.extend (h : w.Descends p) (hdots : ".." ∉ names) :
    w.Descends (p.extend names) := by
  obtain ⟨base, before, l, rfl, hbefore, hbase⟩ := h
  refine ⟨base, before ++ names, l, Path.extend_extend base before names, ?_, hbase⟩
  rw [List.mem_append, not_or]
  exact ⟨hbefore, hdots⟩

/-- Where nothing is found there is nothing, if the system takes the path. -/
theorem Descends.get?_place (h : w.Descends p) (hfits : p.Fits)
    (hexists : w.pathExists p = .ok false) : w.files.get? (w.place p) = none := by
  obtain ⟨base, names, l, rfl, hdots, hbase⟩ := h
  rw [Option.eq_none_iff_forall_ne_some, place_extend hbase hdots]
  intro node hnode
  have hfound : w.pathExists (base.extend names) = .ok true := by
    by_cases hne : names = []
    · rw [hne, Path.extend, List.append_nil]
      exact pathExists_eq_true_iff.2 ⟨_, hbase⟩
    · exact pathExists_eq_true_iff.2 ⟨_, inspect_extend hbase hdots hne hfits hnode⟩
  rw [hfound] at hexists
  cases hexists

/-- It is still free when the directories around it have been made. -/
theorem Descends.get?_place_made (h : w.Descends p) (hfits : p.Fits)
    (hexists : w.pathExists p = .ok false) :
    (w.makeDirectories p.parent).2.files.get? (w.place p) = none := by
  have hnone := h.get?_place hfits hexists
  obtain ⟨base, names, l, rfl, hdots, hbase⟩ := h
  rcases List.eq_nil_or_concat names with rfl | ⟨around, name, rfl⟩
  · rw [Path.extend, List.append_nil] at hexists
    rw [pathExists_eq_true_iff.2 ⟨_, hbase⟩] at hexists
    cases hexists
  · rw [List.concat_eq_append] at *
    have haround : ".." ∉ around := fun hmem => hdots (List.mem_append_left _ hmem)
    rw [Path.parent_extend_concat,
      (makeDirectories_extend_grows hbase haround).get?_of_not, hnone]
    rintro ⟨q, hq, hplace⟩
    rw [place_extend hbase hdots] at hplace
    have hlength := congrArg List.length hplace
    have hshort := hq.length_le
    simp only [List.length_append, List.length_singleton] at hlength
    omega

/-- Nothing is found there then either. -/
theorem Descends.pathExists_made (h : w.Descends p) (hne : p.parts ≠ [])
    (hexists : w.pathExists p = .ok false) :
    (w.makeDirectories p.parent).2.pathExists p ≠ .ok true := by
  intro hfound
  obtain ⟨⟨l, node⟩, hl⟩ := pathExists_eq_true_iff.1 hfound
  obtain ⟨hlocate, hnode⟩ := inspect_eq_ok_iff.1 hl
  rw [node?_of_ne (ne_here_of_parts_ne_nil hne), place_of_locate hlocate,
    (w.makeDirectories_grows p.parent).place,
    h.get?_place_made (fits_of_locate hlocate) hexists] at hnode
  cases hnode

/-! ## Trying again -/

/-- What leads somewhere in the end has its parent made at once. -/
theorem makeDirectories_parent_of_locate (hl : w.locate p = .ok l) (hne : p.parts ≠ []) :
    w.makeDirectories p.parent = (.ok (), w) := by
  obtain ⟨m, hm⟩ := inspect_parent hl hne
  exact makeDirectories_of_inspect hm

/-- A directory that has been made sure of has a location. -/
theorem locate_of_ensureDirectory (h : w.ensureDirectory p = .ok w') : ∃ l, w.locate p = .ok l := by
  rcases ensureDirectory_eq_ok h with hmake | ⟨hdir, -⟩
  · obtain ⟨l, hl, -⟩ := makeDirectory_eq_ok_iff.1 hmake
    exact ⟨l, hl⟩
  · obtain ⟨l, hl⟩ := isDirectory_eq_true_iff.1 hdir
    exact ⟨l, (inspect_eq_ok_iff.1 hl).1⟩

/-- If a directory cannot be made, and all around it is there or cannot be made either,
    nothing is. -/
theorem makeDirectories_of_parent (he : w.ensureDirectory p = .error e) (hne : p.parts ≠ [])
    (hparent : (w.makeDirectories p.parent).2 = w) :
    ∃ e', w.makeDirectories p = (.error e', w) := by
  by_cases hentry : ∃ subject, e = .os (.refused .noEntry subject)
  · obtain ⟨subject, rfl⟩ := hentry
    rw [makeDirectories_of_noEntry hne he]
    generalize w.makeDirectories p.parent = run at hparent
    obtain ⟨e' | ⟨⟩, w₁⟩ := run
    · exact ⟨e', congrArg (Prod.mk _) hparent⟩
    · simp only at hparent
      subst hparent
      simp only [he]
      exact ⟨_, rfl⟩
  · exact ⟨e, makeDirectories_of_error he (not_exists.1 hentry)⟩

/-- Where making directories has failed, it fails again, and makes none. -/
theorem makeDirectories_of_failed (h : (w.makeDirectories p).1 = .error e) :
    ∃ e', (w.makeDirectories p).2.makeDirectories p =
      (.error e', (w.makeDirectories p).2) := by
  fun_induction makeDirectories w p generalizing e with
  | case1 => cases h
  | case2 p subject hensure hnil =>
    rw [makeDirectories, hensure]
    exact ⟨_, dif_pos hnil⟩
  | case3 p _ _ hne _ e₁ w₁ hrun ih =>
    rw [hrun] at ih
    obtain ⟨e', he'⟩ := ih rfl
    cases hensure : w₁.ensureDirectory p with
    | ok w₂ =>
      -- The directories around it would have to be there.
      obtain ⟨l, hl⟩ := locate_of_ensureDirectory hensure
      rw [makeDirectories_parent_of_locate hl hne] at he'
      cases he'
    | error e₂ => exact makeDirectories_of_parent hensure hne (by rw [he'])
  | case4 => cases h
  | case5 p _ _ hne _ w₁ hrun e₂ he ih =>
    obtain ⟨-, l, hl⟩ := made_of_makeDirectories hrun
    exact makeDirectories_of_parent he hne (by rw [makeDirectories_of_inspect hl])
  | case6 p e₁ hno he => exact ⟨e₁, makeDirectories_of_error he hno⟩

/-- Making directories once more comes to the same, and makes none. -/
theorem makeDirectories_again (w : Workspace) (p : Path) :
    ∃ r, (w.makeDirectories p).2.makeDirectories p = (r, (w.makeDirectories p).2) ∧
      (r = .ok () ↔ (w.makeDirectories p).1 = .ok ()) := by
  cases h : (w.makeDirectories p).1 with
  | error e =>
    obtain ⟨e', he'⟩ := makeDirectories_of_failed h
    exact ⟨.error e', he', by simp⟩
  | ok _ =>
    obtain ⟨l, hl⟩ := inspect_makeDirectories h
    exact ⟨.ok (), makeDirectories_of_inspect hl, by simp⟩

end Workspace

end JavaBuild
