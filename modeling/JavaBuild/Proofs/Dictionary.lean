import JavaBuild.Dictionary
import Mathlib.Data.List.Induction

/-!
# Filling dictionaries

The keys of a dictionary that is filled step by step are those of the elements that
are the first with their key (`firsts`). The value of a key is what the elements with
this key have made of it, one after the other (`entries_foldl_update`). If a key keeps
its first value, this is the first element (`entries_foldl_setDefault`).
-/

namespace JavaBuild

variable {κ α β : Type} [DecidableEq κ]

/-! ## First elements -/

/-- The elements that are the first with their key. -/
def firsts (key : α → κ) (l : List α) : List α :=
  (l.zipIdx.filter fun (x, i) => key x ∉ (l.take i).map key).map Prod.fst

variable (key : α → κ)

/-- One more element is a first one if its key is new. -/
theorem firsts_concat (l : List α) (x : α) :
    firsts key (l ++ [x]) =
      if key x ∈ l.map key then firsts key l else firsts key l ++ [x] := by
  have hbefore : l.zipIdx.filter (fun (y, i) => key y ∉ ((l ++ [x]).take i).map key) =
      l.zipIdx.filter (fun (y, i) => key y ∉ (l.take i).map key) := by
    refine List.filter_congr fun (y, i) hy => ?_
    have hi : i < l.length := List.snd_lt_of_mem_zipIdx hy
    change decide (key y ∉ ((l ++ [x]).take i).map key) = decide (key y ∉ (l.take i).map key)
    rw [List.take_append_of_le_length (Nat.le_of_lt hi)]
  rw [firsts, List.zipIdx_append, List.filter_append, List.map_append, hbefore]
  split
  · rename_i h
    simp [firsts, h]
  · rename_i h
    simp [firsts, h]

variable {key} {l : List α} {x : α}

theorem mem_of_mem_firsts (h : x ∈ firsts key l) : x ∈ l := by
  obtain ⟨⟨y, i⟩, hy, rfl⟩ := List.mem_map.1 h
  exact List.fst_mem_of_mem_zipIdx (List.mem_filter.1 hy).1

/-- Each key has a first element. -/
theorem mem_map_firsts {k : κ} : k ∈ (firsts key l).map key ↔ k ∈ l.map key := by
  induction l using List.reverseRecOn with
  | nil => exact Iff.rfl
  | append_singleton l x ih =>
    rw [firsts_concat, List.map_append, List.mem_append]
    split
    · rename_i hx
      rw [ih, List.map_singleton, List.mem_singleton]
      constructor
      · exact .inl
      · rintro (h | rfl)
        · exact h
        · exact hx
    · rw [List.map_append, List.mem_append, ih]

theorem mem_keys_of_firsts {g : α → β} {k : κ} :
    k ∈ ((firsts key l).map fun x => (key x, g x)).map Prod.fst ↔ k ∈ l.map key := by
  rw [List.map_map]
  exact mem_map_firsts

/-- No two first elements have the same key. -/
theorem nodup_firsts (key : α → κ) (l : List α) : ((firsts key l).map key).Nodup := by
  induction l using List.reverseRecOn with
  | nil => exact List.nodup_nil
  | append_singleton l x ih =>
    rw [firsts_concat]
    split
    · exact ih
    · rename_i hx
      rw [List.map_append, List.map_singleton]
      refine List.nodup_append.2 ⟨ih, by simp, fun k hk m hm hkm => hx ?_⟩
      rw [List.mem_singleton.1 hm] at hkm
      exact mem_map_firsts.1 (hkm ▸ hk)

/-- Elements are the first with their key among those of their kind, if a key tells
    the kind. -/
theorem firsts_filter {p : α → Bool} (hp : ∀ x y, key x = key y → p x = p y) (l : List α) :
    firsts key (l.filter p) = (firsts key l).filter p := by
  induction l using List.reverseRecOn with
  | nil => rfl
  | append_singleton l x ih =>
    rw [List.filter_append, firsts_concat]
    cases hx : p x with
    | false =>
      rw [List.filter_cons_of_neg (by simp [hx]), List.filter_nil, List.append_nil, ih]
      split
      · rfl
      · rw [List.filter_append, List.filter_cons_of_neg (by simp [hx]), List.filter_nil,
          List.append_nil]
    | true =>
      -- All elements with the key of `x` are of its kind, so none of them is left out.
      have hmem : key x ∈ (l.filter p).map key ↔ key x ∈ l.map key := by
        constructor
        · intro h
          obtain ⟨y, hy, hyx⟩ := List.mem_map.1 h
          exact List.mem_map.2 ⟨y, (List.mem_filter.1 hy).1, hyx⟩
        · intro h
          obtain ⟨y, hy, hyx⟩ := List.mem_map.1 h
          exact List.mem_map.2 ⟨y, List.mem_filter.2 ⟨hy, (hp y x hyx).trans hx⟩, hyx⟩
      rw [List.filter_cons_of_pos hx, List.filter_nil, firsts_concat, ih]
      by_cases h : key x ∈ l.map key
      · rw [if_pos h, if_pos (hmem.2 h)]
      · rw [if_neg h, if_neg (mt hmem.1 h), List.filter_append, List.filter_cons_of_pos hx,
          List.filter_nil]

/-- The keys of the elements that are the first with their key are first of their kind. -/
theorem firsts_map (key : α → κ) (l : List α) :
    firsts id (l.map key) = (firsts key l).map key := by
  induction l using List.reverseRecOn with
  | nil => rfl
  | append_singleton l x ih =>
    rw [List.map_append, List.map_singleton, firsts_concat, firsts_concat, List.map_id, id_eq, ih]
    by_cases h : key x ∈ l.map key
    · rw [if_pos h, if_pos h]
    · rw [if_neg h, if_neg h, List.map_append, List.map_singleton]

/-- The elements that come last may be cut down to the first with their key, … -/
theorem firsts_append_firsts (key : α → κ) (l m : List α) :
    firsts key (l ++ firsts key m) = firsts key (l ++ m) := by
  induction m using List.reverseRecOn with
  | nil => rfl
  | append_singleton m x ih =>
    have hmem : key x ∈ (l ++ firsts key m).map key ↔ key x ∈ (l ++ m).map key := by
      simp only [List.map_append, List.mem_append, mem_map_firsts]
    rw [← List.append_assoc, firsts_concat key (l ++ m), firsts_concat]
    split
    · rename_i hx
      have hlater : key x ∈ (l ++ m).map key := by
        rw [List.map_append]
        exact List.mem_append_right _ hx
      rw [if_pos hlater, ih]
    · rw [← List.append_assoc, firsts_concat, ih]
      simp only [hmem]

/-- … and so may those that come before them. -/
theorem firsts_firsts_append (key : α → κ) (l m : List α) :
    firsts key (firsts key l ++ m) = firsts key (l ++ m) := by
  induction m using List.reverseRecOn with
  | nil => simpa using firsts_append_firsts key [] l
  | append_singleton m x ih =>
    have hmem : key x ∈ (firsts key l ++ m).map key ↔ key x ∈ (l ++ m).map key := by
      simp only [List.map_append, List.mem_append, mem_map_firsts]
    rw [← List.append_assoc, ← List.append_assoc, firsts_concat, firsts_concat, ih]
    simp only [hmem]

/-- A list without its duplicates is the elements that are the first of their kind. -/
theorem eraseDups_eq_firsts (l : List α) [DecidableEq α] : l.eraseDups = firsts id l := by
  induction l using List.reverseRecOn with
  | nil => rfl
  | append_singleton l x ih =>
    rw [List.eraseDups_append, firsts_concat, List.map_id, ih]
    split
    · rename_i hx
      have hold : [x].removeAll l = [] := by simpa [List.removeAll] using hx
      rw [hold, List.eraseDups_nil, List.append_nil]
    · rename_i hx
      have hnew : [x].removeAll l = [x] := by simpa [List.removeAll] using hx
      rw [hnew]
      rfl

/-- Duplicates in two lists may be erased before the lists are joined. -/
theorem eraseDups_append_eraseDups (l m : List α) [DecidableEq α] :
    (l.eraseDups ++ m.eraseDups).eraseDups = (l ++ m).eraseDups := by
  simp only [eraseDups_eq_firsts, firsts_append_firsts, firsts_firsts_append]

/-! ## Updating entries -/

section Update

variable {k : κ} {start : α} {f : α → α} {entries : List (κ × α)}

/-- A new key is added at the end. -/
theorem updateEntries_of_not_mem (h : k ∉ entries.map Prod.fst) :
    updateEntries k start f entries = entries ++ [(k, f start)] := by
  induction entries with
  | nil => rfl
  | cons entry rest ih =>
    obtain ⟨l, v⟩ := entry
    rw [List.map_cons, List.mem_cons, not_or] at h
    rw [updateEntries, if_neg (Ne.symm h.1), ih h.2]
    rfl

/-- The value of a key that is there is changed, and all others stay. -/
theorem updateEntries_of_mem (hnodup : (entries.map Prod.fst).Nodup)
    (h : k ∈ entries.map Prod.fst) :
    updateEntries k start f entries =
      entries.map fun e => (e.1, if e.1 = k then f e.2 else e.2) := by
  induction entries with
  | nil => exact absurd h List.not_mem_nil
  | cons entry rest ih =>
    obtain ⟨l, v⟩ := entry
    have hrest := List.nodup_cons.1 hnodup
    rw [updateEntries, List.map_cons]
    split
    · rename_i hl
      subst hl
      -- No key is there twice, so the entries after this one are not meant.
      have hsame : rest.map (fun e => (e.1, if e.1 = l then f e.2 else e.2)) = rest.map id := by
        refine List.map_congr_left fun e he => ?_
        have hne : e.1 ≠ l := fun hl => hrest.1 (List.mem_map.2 ⟨e, he, hl⟩)
        rw [if_neg hne]
        rfl
      rw [hsame, List.map_id]
    · rename_i hl
      rw [ih hrest.2 ((List.mem_cons.1 h).resolve_left (Ne.symm hl))]

end Update

/-! ## Filling dictionaries -/

section Fill

variable (key : β → κ) (start : α) (f : β → α → α)

/-- What the elements with a key make of a value, one after the other. -/
def made (l : List β) (k : κ) : α := (l.filter fun y => key y = k).foldl (fun v y => f y v) start

theorem made_concat (l : List β) (x : β) (k : κ) :
    made key start f (l ++ [x]) k =
      if key x = k then f x (made key start f l k) else made key start f l k := by
  rw [made, List.filter_append, List.foldl_append]
  split
  · rename_i h
    rw [List.filter_cons_of_pos (by simpa using h)]
    rfl
  · rename_i h
    rw [List.filter_cons_of_neg (by simpa using h)]
    rfl

theorem made_of_not_mem {l : List β} {k : κ} (h : k ∉ l.map key) :
    made key start f l k = start := by
  have hnone : l.filter (fun y => key y = k) = [] := by
    refine List.filter_eq_nil_iff.2 fun y hy hk => h ?_
    exact List.mem_map.2 ⟨y, hy, of_decide_eq_true hk⟩
  rw [made, hnone]
  rfl

/-- A dictionary that is filled has the keys of the first elements, each with what the
    elements with this key have made of the start. -/
theorem entries_foldl_update (l : List β) :
    (l.foldl (fun d x => d.update (key x) start (f x)) Dictionary.empty).entries =
      (firsts key l).map fun x => (key x, made key start f l (key x)) := by
  induction l using List.reverseRecOn with
  | nil => rfl
  | append_singleton l x ih =>
    rw [List.foldl_append, firsts_concat]
    have hnodup := (l.foldl (fun d x => d.update (key x) start (f x)) Dictionary.empty).nodup
    change updateEntries (key x) start (f x)
      (l.foldl (fun d x => d.update (key x) start (f x)) Dictionary.empty).entries = _
    rw [ih] at hnodup ⊢
    split
    · -- The key is there: its value goes on from what has been made of it.
      rename_i hx
      rw [updateEntries_of_mem hnodup (mem_keys_of_firsts.2 hx), List.map_map]
      refine List.map_congr_left fun y _ => ?_
      rw [made_concat]
      by_cases hy : key y = key x
      · simp [hy]
      · simp [hy, Ne.symm hy]
    · -- The key is new: nothing has been made of the start yet.
      rename_i hx
      rw [updateEntries_of_not_mem (mt mem_keys_of_firsts.1 hx), List.map_append,
        List.map_singleton, made_concat, if_pos rfl, made_of_not_mem key start f hx]
      congr 1
      refine List.map_congr_left fun y hy => ?_
      have hne : key x ≠ key y := fun h =>
        hx (h ▸ List.mem_map_of_mem (mem_of_mem_firsts hy))
      rw [made_concat, if_neg hne]

end Fill

/-- A dictionary whose keys keep their first values has the first elements. -/
theorem entries_foldl_setDefault (key : α → κ) (l : List α) :
    (l.foldl (fun d x => d.setDefault (key x) x) Dictionary.empty).entries =
      (firsts key l).map fun x => (key x, x) := by
  induction l using List.reverseRecOn with
  | nil => rfl
  | append_singleton l x ih =>
    rw [List.foldl_append, firsts_concat]
    have hnodup := (l.foldl (fun d x => d.setDefault (key x) x) Dictionary.empty).nodup
    change updateEntries (key x) x id
      (l.foldl (fun d x => d.setDefault (key x) x) Dictionary.empty).entries = _
    rw [ih] at hnodup ⊢
    split
    · rename_i hx
      rw [updateEntries_of_mem hnodup (mem_keys_of_firsts.2 hx), List.map_map]
      refine List.map_congr_left fun y _ => ?_
      simp
    · rename_i hx
      rw [updateEntries_of_not_mem (mt mem_keys_of_firsts.1 hx), List.map_append]
      rfl

end JavaBuild
