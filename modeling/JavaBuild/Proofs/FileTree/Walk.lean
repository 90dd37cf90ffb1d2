import JavaBuild.FileTree.Workspace
import Mathlib.Data.List.Induction
import Mathlib.Tactic.ByContra

/-!
# Following paths

A walk looks its names up one after the other, in the locations of its *way*
(`Workspace.way`). It ends where the names lead lexically, and succeeds if all of
its way are directories and no name is too long (`walk_eq_ok_iff`). So it depends
on its way only (`walk_congr`), and goes on to succeed while directories stay
(`locate_mono`).

A path leads to one location only, its `Workspace.place`, whatever is in the
tree (`place_of_locate`).
-/

namespace JavaBuild

theorem FileTree.get?_nil (t : FileTree) : t.get? [] = some .directory := if_pos rfl

/-- What is around a node is a directory. -/
theorem FileTree.get?_concat {t : FileTree} {loc : Location} {name : String} {node : FileNode}
    (h : t.get? (loc ++ [name]) = some node) : t.get? loc = some .directory := by
  rw [get?, if_neg (by simp)] at h
  rcases t.rooted loc name node h with rfl | hd
  · exact t.get?_nil
  · by_cases hl : loc = []
    · rw [hl, get?_nil]
    · rw [get?, if_neg hl, hd]

/-- What is around a node is a directory. -/
theorem FileTree.get?_dropLast {t : FileTree} {loc : Location} {node : FileNode}
    (h : t.get? loc = some node) : t.get? loc.dropLast = some .directory := by
  rcases List.eq_nil_or_concat loc with rfl | ⟨l, name, rfl⟩
  · exact t.get?_nil
  · rw [List.concat_eq_append] at h ⊢
    rw [List.dropLast_concat]
    exact get?_concat h

/-- Below what is not a directory there is nothing. -/
theorem FileTree.get?_append {t : FileTree} {loc names : Location}
    (h : t.get? loc ≠ some .directory) (hn : names ≠ []) : t.get? (loc ++ names) = none := by
  induction names using List.reverseRecOn with
  | nil => exact absurd rfl hn
  | append_singleton names name ih =>
    by_contra hne
    obtain ⟨node, hnode⟩ := Option.ne_none_iff_exists'.1 hne
    rw [← List.append_assoc] at hnode
    have hd := get?_concat hnode
    by_cases hnames : names = []
    · rw [hnames, List.append_nil] at hd
      exact h hd
    · rw [ih hnames] at hd
      exact Option.some_ne_none _ hd.symm

/-- The locations of a tree have no name `..`. -/
theorem FileTree.not_mem_of_get? {t : FileTree} {loc : Location} {node : FileNode}
    (h : t.get? loc = some node) : ".." ∉ loc := by
  by_cases hl : loc = []
  · simp [hl]
  · rw [get?, if_neg hl] at h
    exact t.named loc node h

/-- The text of a path can be handed to the system: it has no NUL and is not too
    long. -/
def Path.Admissible (p : Path) : Prop :=
  '\x00' ∉ p.toString.toList ∧ p.toString.utf8ByteSize ≤ Workspace.maxPath

instance (p : Path) : Decidable p.Admissible := inferInstanceAs (Decidable (_ ∧ _))

namespace Workspace

/-! ## Walks -/

/-- The locations in which names are looked up that are followed from `loc`. -/
def way (loc : Location) : List String → List Location
  | [] => []
  | name :: names => loc :: way (step loc name) names

theorem lexical_append (loc : Location) (names more : List String) :
    lexical loc (names ++ more) = lexical (lexical loc names) more :=
  List.foldl_append

theorem lexical_concat (loc : Location) (names : List String) (name : String) :
    lexical loc (names ++ [name]) = step (lexical loc names) name := by
  rw [lexical_append]
  rfl

/-- Names other than `..` lead downwards. -/
theorem lexical_of_not_mem (loc : Location) {names : List String} (h : ".." ∉ names) :
    lexical loc names = loc ++ names := by
  induction names generalizing loc with
  | nil => exact (List.append_nil loc).symm
  | cons name names ih =>
    rw [List.mem_cons, not_or] at h
    have hstep : step loc name = loc ++ [name] := if_neg (Ne.symm h.1)
    change lexical (step loc name) names = _
    rw [ih _ h.2, hstep, List.append_assoc, List.singleton_append]

/-- Locations hold no `..`, whatever names lead to them. -/
theorem not_mem_lexical {loc : Location} (hloc : ".." ∉ loc) (names : List String) :
    ".." ∉ lexical loc names := by
  induction names generalizing loc with
  | nil => exact hloc
  | cons name names ih =>
    refine ih ?_
    unfold step
    split
    · exact fun h => hloc (List.dropLast_subset _ h)
    · rename_i hne
      simp [hloc, Ne.symm hne]

/-- Names lead to names of where they start, and to themselves. -/
theorem mem_of_mem_lexical {loc : Location} {names : List String} {name : String}
    (h : name ∈ lexical loc names) : name ∈ loc ∨ name ∈ names := by
  induction names generalizing loc with
  | nil => exact .inl h
  | cons next names ih =>
    rcases ih h with hstep | hnames
    · unfold step at hstep
      split at hstep
      · exact .inl (List.dropLast_subset _ hstep)
      · rcases List.mem_append.1 hstep with hloc | hnext
        · exact .inl hloc
        · exact .inr (List.mem_singleton.1 hnext ▸ List.mem_cons_self)
    · exact .inr (List.mem_cons_of_mem _ hnames)

theorem way_append (loc : Location) (names more : List String) :
    way loc (names ++ more) = way loc names ++ way (lexical loc names) more := by
  induction names generalizing loc with
  | nil => rfl
  | cons name names ih => exact congrArg (loc :: ·) (ih _)

theorem way_concat (loc : Location) (names : List String) (name : String) :
    way loc (names ++ [name]) = way loc names ++ [lexical loc names] :=
  way_append loc names [name]

/-- The way of names other than `..` is what stands before them. -/
theorem mem_way_of_not_mem {loc l : Location} {names : List String} (h : ".." ∉ names)
    (hl : l ∈ way loc names) : ∃ q, q <+: names ∧ q ≠ names ∧ l = loc ++ q := by
  induction names generalizing loc with
  | nil => exact absurd hl List.not_mem_nil
  | cons name names ih =>
    rw [List.mem_cons, not_or] at h
    rcases List.mem_cons.1 hl with rfl | hl
    · exact ⟨[], List.nil_prefix, by simp, by simp⟩
    · have hstep : step loc name = loc ++ [name] := if_neg (Ne.symm h.1)
      obtain ⟨q, hq, hne, rfl⟩ := ih h.2 hl
      exact ⟨name :: q, List.cons_prefix_cons.2 ⟨rfl, hq⟩, by simpa using hne,
        by rw [hstep, List.append_assoc, List.singleton_append]⟩

/-- A walk succeeds if all of its way are directories and no name is too long. -/
theorem walk_eq_ok_iff {t : FileTree} {loc l : Location} {names : List String} :
    walk t loc names = .ok l ↔ l = lexical loc names ∧
      (∀ m ∈ way loc names, t.get? m = some .directory) ∧
      ∀ name ∈ names, name.utf8ByteSize ≤ maxName := by
  induction names generalizing loc with
  | nil => simp [walk, way, lexical, eq_comm]
  | cons name names ih =>
    rw [walk]
    rcases hloc : t.get? loc with _ | (_ | bytes)
    · simp [way, hloc]
    · by_cases hname : maxName < name.utf8ByteSize
      · rw [if_pos hname]
        exact ⟨fun h => by simp at h, fun h =>
          absurd (h.2.2 name List.mem_cons_self) (Nat.not_le.2 hname)⟩
      · -- The name is looked up; its own location is the first of the rest of the way.
        rw [if_neg hname, ih]
        simp [way, hloc, Nat.not_lt.1 hname, lexical]
    · simp [way, hloc]

/-- Before its last name, a walk is in a directory. -/
theorem walk_dropLast {t : FileTree} {loc l : Location} {names : List String}
    (h : walk t loc names = .ok l) (hne : names ≠ []) :
    ∃ m, walk t loc names.dropLast = .ok m ∧ t.get? m = some .directory := by
  obtain ⟨-, hway, hnames⟩ := walk_eq_ok_iff.1 h
  rw [← List.dropLast_concat_getLast hne, way_concat] at hway
  refine ⟨_, walk_eq_ok_iff.2 ⟨rfl, fun m hm => hway m (List.mem_append_left _ hm),
    fun name hn => hnames name (List.dropLast_subset _ hn)⟩, hway _ ?_⟩
  exact List.mem_append_right _ (List.mem_singleton_self _)

/-- A walk depends on its way only. -/
theorem walk_congr {t u : FileTree} {loc : Location} {names : List String}
    (h : ∀ m ∈ way loc names, t.get? m = u.get? m) : walk t loc names = walk u loc names := by
  induction names generalizing loc with
  | nil => rfl
  | cons name names ih =>
    rw [walk, walk, h loc List.mem_cons_self, ih fun m hm => h m (List.mem_cons_of_mem _ hm)]

/-- Without files on its way and names that are too long, a walk fails at most
    for want of a directory. -/
theorem walk_ok_or_noEntry {t : FileTree} {loc : Location} {names : List String}
    (hfile : ∀ m ∈ way loc names, ∀ bytes, t.get? m ≠ some (.file bytes))
    (hname : ∀ name ∈ names, name.utf8ByteSize ≤ maxName) :
    walk t loc names = .ok (lexical loc names) ∨ walk t loc names = .error .noEntry := by
  induction names generalizing loc with
  | nil => exact .inl rfl
  | cons name names ih =>
    rw [walk]
    rcases hloc : t.get? loc with _ | (_ | bytes)
    · exact .inr rfl
    · rw [if_neg (Nat.not_lt.2 (hname name List.mem_cons_self))]
      exact ih (fun m hm => hfile m (List.mem_cons_of_mem _ hm))
        fun n hn => hname n (List.mem_cons_of_mem _ hn)
    · exact absurd hloc (hfile loc List.mem_cons_self bytes)

/-! ## Paths -/

variable {w w' w'' : Workspace} {p : Path} {l : Location}

theorem here_of_withFiles (h : w.withFiles w'.files = w') : w'.here = w.here := by
  rw [← h]
  rfl

theorem withFiles_trans (h : w.withFiles w'.files = w') (h' : w'.withFiles w''.files = w'') :
    w.withFiles w''.files = w'' := by
  rw [← h', ← h]
  rfl

/-- Where a path starts depends on the working directory only, … -/
theorem start_congr (h : w'.here = w.here) (p : Path) : w'.start p = w.start p := by
  rw [start, start, h]

/-- … as does the location that it names. -/
theorem place_congr (h : w'.here = w.here) (p : Path) : w'.place p = w.place p := by
  rw [place, place, start_congr h]

/-- The location that a path starts at is a directory. -/
def Starts (w : Workspace) (p : Path) : Prop := w.files.get? (w.start p) = some .directory

instance (w : Workspace) (p : Path) : Decidable (w.Starts p) :=
  decidable_of_iff _ FileTree.isDirectory_iff

theorem Starts.parent (h : w.Starts p) : w.Starts p.parent := h

/-- A path has nowhere to start from only if it is seen from a working directory that is gone. -/
theorem starts_iff : w.Starts p ↔ ¬(p.anchor = .relative ∧ w.isAdrift) := by
  unfold Starts start isAdrift
  by_cases h : p.anchor = .relative
  · rw [if_pos h, ← FileTree.isDirectory_iff]
    simp [h]
  · rw [if_neg h]
    simp [h, FileTree.get?_nil]

/-- From where a path starts, its names are walked. -/
theorem follow_of_starts (h : w.Starts p) : w.follow p = walk w.files (w.start p) p.parts := by
  unfold follow
  rw [if_neg (starts_iff.1 h)]

/-- A path that does not start at a directory can only lead to its start, or out
    of it. -/
theorem follow_of_not_starts (h : ¬w.Starts p) : w.follow p = match p.parts with
    | [] => .ok w.here
    | name :: names =>
      if name = ".." then walk w.files w.here.dropLast names else .error .noEntry := by
  unfold follow
  exact if_pos (not_not.1 (mt starts_iff.2 h))

theorem start_of_not_starts (h : ¬w.Starts p) : w.start p = w.here :=
  if_pos (not_not.1 (mt starts_iff.2 h)).1

/-- A path that can be followed leads where it does lexically. -/
theorem place_of_follow (h : w.follow p = .ok l) : l = w.place p := by
  by_cases hs : w.Starts p
  · rw [follow_of_starts hs] at h
    exact (walk_eq_ok_iff.1 h).1
  · rw [follow_of_not_starts hs] at h
    rw [place, start_of_not_starts hs]
    cases hp : p.parts with
    | nil =>
      rw [hp] at h
      exact (Except.ok.inj h).symm
    | cons name names =>
      simp only [hp] at h
      split at h
      · subst_vars
        exact (walk_eq_ok_iff.1 h).1
      · cases h

/-- A path can still be followed when there are further directories. -/
theorem follow_mono (hhere : w'.here = w.here)
    (hdir : ∀ m, w.files.get? m = some .directory → w'.files.get? m = some .directory)
    (h : w.follow p = .ok l) : w'.follow p = .ok l := by
  have hstart := start_congr hhere p
  by_cases hs : w.Starts p
  · have hs' : w'.Starts p := by rw [Starts, hstart]; exact hdir _ hs
    rw [follow_of_starts hs] at h
    rw [follow_of_starts hs', hstart]
    obtain ⟨hl, hway, hname⟩ := walk_eq_ok_iff.1 h
    exact walk_eq_ok_iff.2 ⟨hl, fun m hm => hdir m (hway m hm), hname⟩
  · rw [follow_of_not_starts hs] at h
    cases hp : p.parts with
    | nil =>
      rw [hp] at h
      by_cases hs' : w'.Starts p
      · rw [follow_of_starts hs', hp, hstart, start_of_not_starts hs]
        exact h
      · rw [follow_of_not_starts hs', hp, hhere]
        exact h
    | cons name names =>
      simp only [hp] at h
      split at h
      · rename_i hname
        obtain ⟨hl, hway, hnames⟩ := walk_eq_ok_iff.1 h
        have hwalk : walk w'.files w.here.dropLast names = .ok l :=
          walk_eq_ok_iff.2 ⟨hl, fun m hm => hdir m (hway m hm), hnames⟩
        by_cases hs' : w'.Starts p
        · -- The working directory is back: leaving it leads to the same place.
          rw [follow_of_starts hs', hp, hstart, walk, ← hstart, hs', hstart,
            start_of_not_starts hs]
          subst hname
          exact hwalk
        · rw [follow_of_not_starts hs', hp, hhere]
          simp only [if_pos hname]
          exact hwalk
      · cases h

/-- Following a path depends on its start and its way only. -/
theorem follow_congr (hhere : w'.here = w.here)
    (hdir : w'.files.isDirectory w.here = w.files.isDirectory w.here)
    (hway : ∀ m ∈ way (w.start p) p.parts, w'.files.get? m = w.files.get? m) :
    w'.follow p = w.follow p := by
  have hstart := start_congr hhere p
  have hs : w'.Starts p ↔ w.Starts p := by
    rw [starts_iff, starts_iff, isAdrift, isAdrift, hhere, hdir]
  by_cases h : w.Starts p
  · rw [follow_of_starts h, follow_of_starts (hs.2 h), hstart]
    exact walk_congr hway
  · rw [follow_of_not_starts h, follow_of_not_starts (mt hs.1 h), hhere]
    cases hp : p.parts with
    | nil => rfl
    | cons name names =>
      simp only
      split
      · rename_i hname
        subst hname
        refine walk_congr fun m hm => hway m ?_
        rw [hp, start_of_not_starts h]
        exact List.mem_cons_of_mem _ hm
      · rfl

/-- A path leads to a location if its text is taken and it can be followed. -/
theorem locate_eq_ok_iff : w.locate p = .ok l ↔ p.Admissible ∧ w.follow p = .ok l := by
  unfold locate Path.Admissible
  by_cases hnul : '\x00' ∈ p.toString.toList
  · simp [hnul]
  · by_cases hlong : maxPath < p.toString.utf8ByteSize
    · simp [hnul, hlong, Nat.not_le.2 hlong]
    · cases hf : w.follow p <;> simp [hnul, hlong, Nat.not_lt.1 hlong]

theorem place_of_locate (h : w.locate p = .ok l) : l = w.place p :=
  place_of_follow (locate_eq_ok_iff.1 h).2

/-- A path that leads somewhere still does so when there are more directories. -/
theorem locate_mono (hhere : w'.here = w.here)
    (hdir : ∀ m, w.files.get? m = some .directory → w'.files.get? m = some .directory)
    (h : w.locate p = .ok l) : w'.locate p = .ok l := by
  rw [locate_eq_ok_iff] at h ⊢
  exact ⟨h.1, follow_mono hhere hdir h.2⟩

/-- Where a path leads depends on what is on its way alone. -/
theorem locate_congr (hhere : w'.here = w.here)
    (hdir : w'.files.isDirectory w.here = w.files.isDirectory w.here)
    (hway : ∀ m ∈ way (w.start p) p.parts, w'.files.get? m = w.files.get? m) :
    w'.locate p = w.locate p := by
  unfold locate
  rw [follow_congr hhere hdir hway]

end Workspace

end JavaBuild
