/-!
# File trees

A `FileTree` holds what is at each *location*, the list of names from the root:
a directory, or a file with its bytes. The root is always a directory, and so is
the location around each node; no name is `..`. Nodes are kept in increasing order
of their locations, so a tree is determined by what `FileTree.get?` finds
(`FileTree.ext_get?`).

There are two changes: `put` places a node in a directory, where it may replace
a file but not a directory by a file, and `prune` takes away all at and below a
location.
-/

namespace JavaBuild

/-- The names from the root to a place in a file tree. -/
abbrev Location := List String

/-- What is at a location. -/
inductive FileNode where
  | directory
  | file (bytes : ByteArray)

/-- Whether a node is a directory. -/
def FileNode.isDirectory : FileNode → Bool
  | directory => true
  | file _ => false

/-- The nodes of a file tree with their locations. -/
abbrev Nodes := List (Location × FileNode)

namespace Nodes

/-- The nodes with one placed in order, or put in the place of the one there. -/
def place (loc : Location) (node : FileNode) : Nodes → Nodes
  | [] => [(loc, node)]
  | (l, n) :: rest =>
    if loc < l then (loc, node) :: (l, n) :: rest
    else if loc = l then (loc, node) :: rest
    else (l, n) :: place loc node rest

/-- The nodes that are not at or below a location. -/
def prune (loc : Location) (nodes : Nodes) : Nodes :=
  nodes.filter fun (l, _) => !loc.isPrefixOf l

/-- The nodes are in increasing order of their locations. -/
def Sorted (nodes : Nodes) : Prop := nodes.Pairwise fun a b => a.1 < b.1

theorem lookup_cons (l k : Location) (n : FileNode) (rest : Nodes) :
    List.lookup l ((k, n) :: rest) = if l = k then some n else rest.lookup l := by
  by_cases h : l = k
  · simp [h]
  · rw [if_neg h, List.lookup_cons, beq_eq_false_iff_ne.2 h]

theorem lookup_place (loc : Location) (node : FileNode) (nodes : Nodes) (l : Location) :
    (place loc node nodes).lookup l = if l = loc then some node else nodes.lookup l := by
  induction nodes with
  | nil => rw [place, lookup_cons]
  | cons head rest ih =>
    obtain ⟨k, n⟩ := head
    simp only [place]
    split
    · rw [lookup_cons]
    · split
      · subst_vars
        rw [lookup_cons, lookup_cons]
        split <;> rfl
      · rename_i hne
        rw [lookup_cons, lookup_cons, ih]
        by_cases h : l = k
        · subst h
          rw [if_pos rfl, if_pos rfl, if_neg (Ne.symm hne)]
        · rw [if_neg h, if_neg h]

theorem lookup_prune (loc : Location) (nodes : Nodes) (l : Location) :
    (prune loc nodes).lookup l = if loc.isPrefixOf l then none else nodes.lookup l := by
  induction nodes with
  | nil => simp [prune]
  | cons head rest ih =>
    obtain ⟨k, n⟩ := head
    have hcons : prune loc ((k, n) :: rest) =
        if loc.isPrefixOf k then prune loc rest else (k, n) :: prune loc rest := by
      by_cases hk : loc.isPrefixOf k <;> simp [prune, hk]
    rw [hcons, lookup_cons]
    by_cases h : l = k
    · subst h
      by_cases hk : loc.isPrefixOf l
      · rw [if_pos hk, ih, if_pos hk, if_pos hk]
      · rw [if_neg hk, if_neg hk, lookup_cons, if_pos rfl, if_pos rfl]
    · by_cases hk : loc.isPrefixOf k
      · rw [if_pos hk, ih, if_neg h]
      · rw [if_neg hk, lookup_cons, if_neg h, ih, if_neg h]

theorem mem_place {loc : Location} {node : FileNode} {nodes : Nodes} {x : Location × FileNode}
    (h : x ∈ place loc node nodes) : x = (loc, node) ∨ x ∈ nodes := by
  induction nodes with
  | nil => simpa [place] using h
  | cons head rest ih =>
    obtain ⟨k, n⟩ := head
    simp only [place] at h
    split at h
    · simpa using h
    · split at h
      · rcases List.mem_cons.1 h with h | h
        · exact .inl h
        · exact .inr (List.mem_cons_of_mem _ h)
      · rcases List.mem_cons.1 h with h | h
        · exact .inr (h ▸ List.mem_cons_self)
        · exact (ih h).imp_right (List.mem_cons_of_mem _)

theorem Sorted.place {nodes : Nodes} (h : nodes.Sorted) (loc : Location) (node : FileNode) :
    (place loc node nodes).Sorted := by
  induction nodes with
  | nil => exact List.pairwise_singleton ..
  | cons head rest ih =>
    obtain ⟨k, n⟩ := head
    have hrest := List.pairwise_cons.1 h
    simp only [Nodes.place]
    split
    · rename_i hlt
      refine List.pairwise_cons.2 ⟨fun x hx => ?_, h⟩
      rcases List.mem_cons.1 hx with rfl | hx
      · exact hlt
      · exact List.lt_trans hlt (hrest.1 x hx)
    · split
      · subst_vars
        exact List.pairwise_cons.2 hrest
      · rename_i hlt hne
        refine List.pairwise_cons.2 ⟨fun x hx => ?_, ih hrest.2⟩
        rcases mem_place hx with rfl | hx
        · exact ((Std.lt_trichotomy loc k).resolve_left hlt).resolve_left hne
        · exact hrest.1 x hx

theorem Sorted.prune {nodes : Nodes} (h : nodes.Sorted) (loc : Location) :
    (prune loc nodes).Sorted :=
  List.Pairwise.filter _ h

/-- A location before all others is not found. -/
theorem lookup_eq_none {nodes : Nodes} {l : Location} (h : ∀ x ∈ nodes, l < x.1) :
    nodes.lookup l = none := by
  induction nodes with
  | nil => rfl
  | cons head rest ih =>
    have hne : l ≠ head.1 := fun he =>
      List.lt_irrefl _ (he ▸ h head List.mem_cons_self)
    exact (lookup_cons l head.1 head.2 rest).trans <|
      (if_neg hne).trans (ih fun x hx => h x (List.mem_cons_of_mem _ hx))

/-- Nodes in order are determined by what is found among them. -/
theorem Sorted.ext {a b : Nodes} (ha : a.Sorted) (hb : b.Sorted)
    (h : ∀ l, a.lookup l = b.lookup l) : a = b := by
  induction a generalizing b with
  | nil =>
    cases b with
    | nil => rfl
    | cons y bs =>
      have := h y.1
      rw [lookup_cons, if_pos rfl] at this
      simp at this
  | cons x as ih =>
    obtain ⟨k, n⟩ := x
    have hx := List.pairwise_cons.1 ha
    cases b with
    | nil => simpa using h k
    | cons y bs =>
      obtain ⟨k', n'⟩ := y
      have hy := List.pairwise_cons.1 hb
      have hkk : k = k' := by
        rcases Std.lt_trichotomy k k' with hlt | heq | hlt
        · have hnone : ((k', n') :: bs : Nodes).lookup k = none :=
            lookup_eq_none fun z hz => by
              rcases List.mem_cons.1 hz with rfl | hz
              · exact hlt
              · exact List.lt_trans hlt (hy.1 z hz)
          have := h k
          simp [hnone] at this
        · exact heq
        · have hnone : ((k, n) :: as : Nodes).lookup k' = none :=
            lookup_eq_none fun z hz => by
              rcases List.mem_cons.1 hz with rfl | hz
              · exact hlt
              · exact List.lt_trans hlt (hx.1 z hz)
          have := h k'
          simp [hnone] at this
      subst hkk
      have hn : n = n' := by simpa using h k
      subst hn
      congr 1
      refine ih hx.2 hy.2 fun l => ?_
      by_cases hl : l = k
      · subst hl
        rw [lookup_eq_none hx.1, lookup_eq_none hy.1]
      · have := h l
        rwa [lookup_cons, lookup_cons, if_neg hl, if_neg hl] at this

end Nodes

/-- The contents of a file system. -/
structure FileTree where
  nodes : Nodes
  sorted : nodes.Sorted
  /-- The root is not among the nodes: it is always there. -/
  rootless : nodes.lookup [] = none
  /-- What is around a node is a directory. -/
  rooted : ∀ loc name node, nodes.lookup (loc ++ [name]) = some node →
    loc = [] ∨ nodes.lookup loc = some .directory
  /-- The name `..` leads out of a directory, so nothing in it has that name. -/
  named : ∀ loc node, nodes.lookup loc = some node → ".." ∉ loc

namespace FileTree

/-- The tree of the root alone. -/
def empty : FileTree := ⟨[], .nil, rfl, by simp, by simp⟩

instance : Inhabited FileTree := ⟨empty⟩

/-- The node at a location. -/
def get? (t : FileTree) (loc : Location) : Option FileNode :=
  if loc = [] then some .directory else t.nodes.lookup loc

/-- Whether there is a directory at a location. -/
def isDirectory (t : FileTree) (loc : Location) : Bool :=
  (t.get? loc).any FileNode.isDirectory

/-- Whether a node may be placed: below the root, in a directory, and not a file
    in the place of a directory. -/
def Allows (t : FileTree) (loc : Location) (node : FileNode) : Prop :=
  loc ≠ [] ∧ ".." ∉ loc ∧ t.isDirectory loc.dropLast ∧ (node.isDirectory ∨ !t.isDirectory loc)

instance (t : FileTree) (loc : Location) (node : FileNode) : Decidable (t.Allows loc node) :=
  inferInstanceAs (Decidable (_ ∧ _ ∧ _ ∧ _))

theorem isDirectory_iff {t : FileTree} {loc : Location} :
    t.isDirectory loc ↔ t.get? loc = some .directory := by
  unfold isDirectory
  rcases t.get? loc with _ | (_ | b) <;> simp [FileNode.isDirectory]

theorem rooted_place {t : FileTree} {loc : Location} {node : FileNode} (h : t.Allows loc node)
    (l : Location) (name : String) (n : FileNode)
    (hl : (t.nodes.place loc node).lookup (l ++ [name]) = some n) :
    l = [] ∨ (t.nodes.place loc node).lookup l = some .directory := by
  obtain ⟨-, -, hparent, hnode⟩ := h
  by_cases hempty : l = []
  · exact .inl hempty
  refine .inr ?_
  rw [Nodes.lookup_place] at hl ⊢
  split at hl
  · rename_i he
    have hd : loc.dropLast = l := by rw [← he, List.dropLast_concat]
    rw [hd, isDirectory_iff, get?, if_neg hempty] at hparent
    rwa [if_neg (fun hc => by have := congrArg List.length (he.trans hc.symm); simp at this)]
  · have hdir := (t.rooted l name n hl).resolve_left hempty
    split
    · subst_vars
      have : t.isDirectory l := by rw [isDirectory_iff, get?, if_neg hempty, hdir]
      simp only [this, Bool.not_true, Bool.false_eq_true, or_false] at hnode
      cases node with
      | directory => rfl
      | file _ => simp [FileNode.isDirectory] at hnode
    · exact hdir

/-- The tree with a node placed, if that may be. -/
def put (t : FileTree) (loc : Location) (node : FileNode) : FileTree :=
  if h : t.Allows loc node then
    { nodes := t.nodes.place loc node
      sorted := t.sorted.place loc node
      rootless := by rw [Nodes.lookup_place, if_neg (Ne.symm h.1), t.rootless]
      rooted := rooted_place h
      named l n hl := by
        rw [Nodes.lookup_place] at hl
        split at hl
        · rename_i he
          exact he ▸ h.2.1
        · exact t.named l n hl }
  else t

/-- The tree without what is at and below a location. -/
def prune (t : FileTree) (loc : Location) : FileTree where
  nodes := t.nodes.prune loc
  sorted := t.sorted.prune loc
  rootless := by rw [Nodes.lookup_prune, t.rootless, ite_self]
  rooted l name n h := by
    rw [Nodes.lookup_prune] at h ⊢
    split at h
    · simp at h
    · rename_i hp
      have hl : ¬loc.isPrefixOf l := fun hc => hp <| by
        rw [List.isPrefixOf_iff_prefix] at hc ⊢
        exact hc.trans (List.prefix_append l [name])
      rw [if_neg hl]
      exact t.rooted l name n h
  named l n h := by
    rw [Nodes.lookup_prune] at h
    split at h
    · simp at h
    · exact t.named l n h

/-- Trees that hold the same are equal. -/
theorem ext_get? {s t : FileTree} (h : ∀ loc, s.get? loc = t.get? loc) : s = t := by
  have hnodes : s.nodes = t.nodes := s.sorted.ext t.sorted fun loc => by
    by_cases hl : loc = []
    · rw [hl, s.rootless, t.rootless]
    · simpa [get?, hl] using h loc
  obtain ⟨_, _, _, _, _⟩ := s
  obtain ⟨_, _, _, _, _⟩ := t
  subst hnodes
  rfl

theorem get?_put {t : FileTree} {loc : Location} {node : FileNode} (h : t.Allows loc node)
    (l : Location) : (t.put loc node).get? l = if l = loc then some node else t.get? l := by
  unfold put
  rw [dif_pos h]
  simp only [get?, Nodes.lookup_place]
  by_cases hl : l = []
  · subst hl
    simp [Ne.symm h.1]
  · simp [hl]

theorem get?_prune (t : FileTree) {loc : Location} (h : loc ≠ []) (l : Location) :
    (t.prune loc).get? l = if loc.isPrefixOf l then none else t.get? l := by
  simp only [prune, get?, Nodes.lookup_prune]
  by_cases hl : l = []
  · subst hl
    cases loc with
    | nil => exact absurd rfl h
    | cons x xs => simp
  · simp [hl]

end FileTree

end JavaBuild
