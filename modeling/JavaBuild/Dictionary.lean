/-!
# Dictionaries

A `Dictionary` has a value for each of its keys, which are kept in the order in
which they were added. `Dictionary.update` changes the value of a key, and adds the
key at the end if it is new.
-/

namespace JavaBuild

variable {κ α : Type} [DecidableEq κ]

/-- The entries with the value of a key changed, which starts from `start`. -/
def updateEntries (key : κ) (start : α) (f : α → α) : List (κ × α) → List (κ × α)
  | [] => [(key, f start)]
  | (k, v) :: rest =>
    if k = key then (k, f v) :: rest else (k, v) :: updateEntries key start f rest

theorem mem_updateEntries {key : κ} {start : α} {f : α → α} {entries : List (κ × α)} {k : κ}
    (h : k ∈ (updateEntries key start f entries).map Prod.fst) :
    k = key ∨ k ∈ entries.map Prod.fst := by
  induction entries with
  | nil => exact .inl (List.mem_singleton.1 h)
  | cons entry rest ih =>
    obtain ⟨l, v⟩ := entry
    rw [updateEntries] at h
    split at h
    · exact .inr h
    · rcases List.mem_cons.1 h with rfl | h
      · exact .inr List.mem_cons_self
      · exact (ih h).imp_right (List.mem_cons_of_mem _)

theorem nodup_updateEntries (key : κ) (start : α) (f : α → α) {entries : List (κ × α)}
    (h : (entries.map Prod.fst).Nodup) :
    ((updateEntries key start f entries).map Prod.fst).Nodup := by
  induction entries with
  | nil => exact List.nodup_cons.2 ⟨List.not_mem_nil, h⟩
  | cons entry rest ih =>
    obtain ⟨l, v⟩ := entry
    have hrest := List.nodup_cons.1 h
    rw [updateEntries]
    split
    · exact h
    · rename_i hne
      refine List.nodup_cons.2 ⟨fun hl => ?_, ih hrest.2⟩
      rcases mem_updateEntries hl with hl | hl
      · exact hne hl
      · exact hrest.1 hl

/-- Keys with their values, in the order in which the keys were added. -/
structure Dictionary (κ α : Type) where
  entries : List (κ × α)
  nodup : (entries.map Prod.fst).Nodup

namespace Dictionary

/-- The dictionary without keys. -/
def empty : Dictionary κ α := ⟨[], .nil⟩

variable (d : Dictionary κ α)

/-- The keys in the order in which they were added. -/
def keys : List κ := d.entries.map Prod.fst

/-- The values in the order of their keys. -/
def values : List α := d.entries.map Prod.snd

/-- Change the value of a key, which is `start` before if the key is new. -/
def update (key : κ) (start : α) (f : α → α) : Dictionary κ α :=
  ⟨updateEntries key start f d.entries, nodup_updateEntries key start f d.nodup⟩

/-- Give a key a value if it is new. -/
def setDefault (key : κ) (value : α) : Dictionary κ α := d.update key value id

end Dictionary

end JavaBuild
