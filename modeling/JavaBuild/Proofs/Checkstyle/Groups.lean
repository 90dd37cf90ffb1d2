import JavaBuild.Proofs.Checkstyle.Summary
import JavaBuild.Proofs.Dictionary
import Mathlib.Data.List.Perm.Basic

/-!
# Violations by files

The violations of a result are shown by the files that they are in. Each file with violations is
there once, as it is first found, with all of its violations in their order, and none is lost or
shown twice (`Partitions`). So whatever is counted in a result can be counted file by file
(`Result.byFile_faithful`).
-/

namespace JavaBuild

section Partition

variable {κ α : Type} [DecidableEq κ] {key : α → κ} {l : List α}

/-- Groups of the elements of a list by their keys. -/
structure Partitions (key : α → κ) (l : List α) (groups : List (κ × List α)) : Prop where
  keys_nodup : (groups.map Prod.fst).Nodup
  mem_keys_iff (k : κ) : k ∈ groups.map Prod.fst ↔ k ∈ l.map key
  /-- The keys are in the order in which they are first found. -/
  keys_ordered : (groups.map Prod.fst).Pairwise fun j k =>
    (l.map key).idxOf j < (l.map key).idxOf k
  group_ne_nil : ∀ g ∈ groups, g.2 ≠ []
  /-- A group has the elements with its key, in their order. -/
  group_eq : ∀ g ∈ groups, g.2 = l.filter fun x => key x = g.1
  /-- No element is lost, and none is added. -/
  perm : (groups.flatMap Prod.snd).Perm l

/-- A list without its duplicates is in the order in which its elements are first found. -/
theorem pairwise_idxOf_eraseDups (ks : List κ) :
    ks.eraseDups.Pairwise fun j k => ks.idxOf j < ks.idxOf k := by
  rw [eraseDups_eq_firsts]
  induction ks using List.reverseRecOn with
  | nil => exact .nil
  | append_singleton ks k ih =>
    have hmem {j : κ} : j ∈ firsts id ks ↔ j ∈ ks := by
      rw [← List.map_id (firsts id ks), mem_map_firsts, List.map_id]
    have hbefore : (firsts id ks).Pairwise fun i j =>
        (ks ++ [k]).idxOf i < (ks ++ [k]).idxOf j := by
      refine ih.imp_of_mem fun hi hj hij => ?_
      rwa [List.idxOf_append_of_mem (hmem.1 hi), List.idxOf_append_of_mem (hmem.1 hj)]
    rw [firsts_concat, List.map_id, id_eq]
    split
    · exact hbefore
    · -- A new key is first found behind all others.
      rename_i hk
      refine List.pairwise_append.2 ⟨hbefore, List.pairwise_singleton _ _, fun i hi j hj => ?_⟩
      obtain rfl := List.mem_singleton.1 hj
      rw [List.idxOf_append_of_mem (hmem.1 hi), List.idxOf_append_of_notMem hk]
      exact Nat.lt_add_right _ (List.idxOf_lt_length_of_mem (hmem.1 hi))

/-- The elements with each of the keys are all elements. -/
theorem flatMap_filter_perm {ks : List κ} (hnodup : ks.Nodup) (hkeys : ∀ x ∈ l, key x ∈ ks) :
    (ks.flatMap fun k => l.filter fun x => key x = k).Perm l := by
  induction ks generalizing l with
  | nil =>
    obtain rfl := List.eq_nil_iff_forall_not_mem.2 fun x hx => absurd (hkeys x hx) List.not_mem_nil
    exact .nil
  | cons k ks ih =>
    obtain ⟨hk, hnodup⟩ := List.nodup_cons.1 hnodup
    -- The elements with other keys than `k` are all that is left for the other groups.
    have hothers : ks.flatMap (fun j => l.filter fun x => key x = j) =
        ks.flatMap fun j => (l.filter fun x => !decide (key x = k)).filter fun x => key x = j := by
      refine List.flatMap_congr fun j hj => ?_
      rw [List.filter_filter]
      refine List.filter_congr fun x _ => ?_
      have hjk : j ≠ k := fun h => hk (h ▸ hj)
      by_cases hx : key x = j <;> simp [hx, hjk]
    have hleft : ∀ x ∈ l.filter fun x => !decide (key x = k), key x ∈ ks := by
      intro x hx
      obtain ⟨hx, hne⟩ := List.mem_filter.1 hx
      exact (List.mem_cons.1 (hkeys x hx)).resolve_left (by simpa using hne)
    rw [List.flatMap_cons, hothers]
    exact ((ih hnodup hleft).append_left _).trans (List.filter_append_perm _ l)

/-- The elements with the same key make up a group. -/
theorem partitions_eraseDups (key : α → κ) (l : List α) : Partitions key l
    ((l.map key).eraseDups.map fun k => (k, l.filter fun x => key x = k)) := by
  have hkeys : ((l.map key).eraseDups.map fun k => (k, l.filter fun x => key x = k)).map Prod.fst =
      (l.map key).eraseDups := by
    rw [List.map_map]
    exact List.map_id _
  have hnodup : (l.map key).eraseDups.Nodup := by
    rw [eraseDups_eq_firsts, firsts_map]
    exact nodup_firsts key l
  have hmem (k : κ) : k ∈ (l.map key).eraseDups ↔ k ∈ l.map key := List.mem_eraseDups
  exact
    { keys_nodup := by rwa [hkeys]
      mem_keys_iff := by
        intro k
        rw [hkeys, hmem]
      keys_ordered := by
        rw [hkeys]
        exact pairwise_idxOf_eraseDups _
      group_ne_nil := by
        intro g hg
        obtain ⟨k, hk, rfl⟩ := List.mem_map.1 hg
        obtain ⟨x, hx, rfl⟩ := List.mem_map.1 ((hmem k).1 hk)
        exact List.ne_nil_of_mem (List.mem_filter.2 ⟨hx, decide_eq_true rfl⟩)
      group_eq := by
        intro g hg
        obtain ⟨k, -, rfl⟩ := List.mem_map.1 hg
        rfl
      perm := by
        rw [List.flatMap_map]
        exact flatMap_filter_perm hnodup fun x hx => (hmem _).2 (List.mem_map_of_mem hx) }

end Partition

namespace Checkstyle

/-- The sum of what is counted in the violations of each file. -/
def total (count : Result → Nat) (groups : List (String × List Violation)) : Nat :=
  groups.foldr (fun g n => count { violations := g.2 } + n) 0

variable (groups : List (String × List Violation))

theorem total_cons (count : Result → Nat) (g : String × List Violation) :
    total count (g :: groups) = count { violations := g.2 } + total count groups := rfl

theorem total_countOf (severity : String) : total (·.countOf severity) groups =
    Result.countOf { violations := groups.flatMap Prod.snd } severity := by
  induction groups with
  | nil => rfl
  | cons g groups ih =>
    rw [total_cons, ih, List.flatMap_cons]
    exact List.countP_append.symm

theorem total_add (count count' : Result → Nat) :
    total (fun r => count r + count' r) groups = total count groups + total count' groups := by
  induction groups with
  | nil => rfl
  | cons g groups ih => rw [total_cons, total_cons, total_cons, ih, Nat.add_add_add_comm]

namespace Result

variable (r : Result)

theorem partitions_byFile : Partitions Violation.file r.violations r.byFile := by
  rw [r.byFile_eq]
  exact partitions_eraseDups _ _

/-- The violations of a severity can be counted file by file. -/
theorem total_countOf_byFile (severity : String) :
    total (·.countOf severity) r.byFile = r.countOf severity := by
  rw [total_countOf]
  exact r.partitions_byFile.perm.countP_eq _

/-- The files with violations are there once each, as they are first found, and none without its
    violations. These are all violations of the file in their order, no violation is lost or shown
    twice, and so the errors and warnings of the files are those of the result. -/
theorem byFile_faithful :
    Partitions Violation.file r.violations r.byFile ∧
    total errors r.byFile = r.errors ∧
    total warnings r.byFile = r.warnings ∧
    total (fun group => group.errors + group.warnings) r.byFile = r.errors + r.warnings := by
  have herrors : total errors r.byFile = r.errors := r.total_countOf_byFile "error"
  have hwarnings : total warnings r.byFile = r.warnings := r.total_countOf_byFile "warning"
  exact ⟨r.partitions_byFile, herrors, hwarnings, by rw [total_add, herrors, hwarnings]⟩

/-- A file that is told of twice has its violations together. -/
example :
    let found (file : String) (line : Int) : Violation := ⟨file, line, none, "error", "", ""⟩
    byFile { violations := [found "B" 1, found "A" 2, found "B" 3] } =
      [("B", [found "B" 1, found "B" 3]), ("A", [found "A" 2])] := by
  decide

end Result

end Checkstyle

end JavaBuild
