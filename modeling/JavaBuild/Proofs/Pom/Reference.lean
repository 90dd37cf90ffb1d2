import JavaBuild.Pom.Property
import Mathlib.Data.List.Infix

/-!
# Chains of references

A text that is a reference as a whole points to the value of the property that it names
(`PointsTo`), whatever characters are in texts and values, and resolving it comes to the last
text that is pointed to in turn within the reach (`resolveIn_eq_some_iff`).

On one line such a text links to the value (`LinksTo`), and links lead on from there (`Leads`). If
the values of all properties are on one line, a text stands for the one at the end of its chain,
or for the last one in its reach (`EndsAt.resolve_eq`). Only a text that holds a reference links
to another one, so a text without one is the last of its chain (`Reaches.endsAt`).
-/

namespace JavaBuild.Pom

variable {properties : Properties} {name s t u : String} {value : Option String}
  {cs ds : List Char} {k n : Nat} {depth : Int}

/-! ## Texts that hold references -/

/-- A text holds the start of a reference. -/
def HoldsReference (s : String) : Prop := opening <:+: s.toList

/-- A text holds a reference if what opens one is anywhere in it. -/
theorem holdsReference_iff : holdsReference s.toList = true ↔ HoldsReference s := by
  rw [HoldsReference]
  induction s.toList with
  | nil => simp [holdsReference, opening]
  | cons c cs ih =>
    rw [holdsReference, Bool.or_eq_true, ih, List.isPrefixOf_iff_prefix, List.infix_cons_iff]

instance : DecidablePred HoldsReference := fun _ => decidable_of_iff _ holdsReference_iff

/-- The reference to a name. -/
def reference (name : String) : String := "$\x7b" ++ name ++ "\x7d"

theorem toList_reference (name : String) :
    (reference name).toList = '$' :: '{' :: (name.toList ++ ['}']) := by
  simp [reference, String.toList_append]

theorem holdsReference_reference (name : String) : HoldsReference (reference name) := by
  rw [HoldsReference, toList_reference]
  exact List.IsPrefix.isInfix ⟨name.toList ++ ['}'], rfl⟩

/-! ## References as a whole -/

/-- A text is a reference as a whole, to a name that is on one line and not empty. A line feed
    may follow. -/
structure RefersTo (s name : String) : Prop where
  nonempty : name ≠ ""
  line : '\n' ∉ name.toList
  whole : s = reference name ∨ s = reference name ++ "\n"

/-- A text that is a reference as a whole holds one. -/
theorem RefersTo.holdsReference (h : RefersTo s name) : HoldsReference s := by
  rcases h.whole with rfl | rfl
  · exact holdsReference_reference name
  · rw [HoldsReference, String.toList_append]
    exact (holdsReference_reference name).trans List.infix_append_left

/-- One line feed is dropped at the end of a text. -/
theorem dropLastNewline_eq_iff {cs ds : List Char} (hline : ds.getLast? ≠ some '\n') :
    dropLastNewline cs = ds ↔ cs = ds ∨ cs = ds ++ ['\n'] := by
  rw [dropLastNewline]
  constructor
  · rintro rfl
    split
    · rename_i hlast
      exact .inr (List.dropLast_append_getLast? _ hlast).symm
    · exact .inl rfl
  · rintro (rfl | rfl)
    · exact if_neg hline
    · rw [if_pos List.getLast?_concat, List.dropLast_concat]

/-- A name is found in a text exactly if the text refers to it. -/
theorem referenceName?_eq_some_iff : referenceName? s = some name ↔ RefersTo s name := by
  -- A reference ends in its brace, so a line feed behind it is no part of it.
  have hclosed : (reference name).toList.getLast? ≠ some '\n' := by
    simp [toList_reference, List.getLast?_cons]
  have hwhole : dropLastNewline s.toList = (reference name).toList ↔
      s = reference name ∨ s = reference name ++ "\n" := by
    have happend : (reference name ++ "\n").toList = (reference name).toList ++ ['\n'] :=
      String.toList_append
    rw [dropLastNewline_eq_iff hclosed, ← happend, String.toList_inj, String.toList_inj]
  constructor
  · intro h
    rw [referenceName?] at h
    split at h
    · rename_i inside hinside
      obtain ⟨⟨hlast, hne, hline⟩, h⟩ := Option.ite_none_right_eq_some.1 h
      cases h
      refine ⟨?_, ?_, hwhole.1 ?_⟩
      · simpa using hne
      · simpa using hline
      · rw [hinside, toList_reference, String.toList_ofList, List.dropLast_append_getLast? _ hlast]
    · cases h
  · rintro ⟨hne, hline, h⟩
    have hnil : name.toList ≠ [] := fun h => hne (String.toList_injective h)
    rw [referenceName?, hwhole.2 h, toList_reference]
    simp [hline, hnil]

/-! ## Names -/

/-- A name without any `project.` in it, from its start on. -/
inductive DropsProject : List Char → List Char → Prop
  | nil : DropsProject [] []
  | part {cs ds : List Char} (h : DropsProject cs ds) : DropsProject (projectPart ++ cs) ds
  | char {c : Char} {cs ds : List Char} (hc : ¬projectPart <+: c :: cs) (h : DropsProject cs ds) :
    DropsProject (c :: cs) (c :: ds)

/-- As many characters as are to be skipped are skipped. -/
theorem dropProject_append (before cs : List Char) :
    dropProject before.length (before ++ cs) = dropProject 0 cs := by
  induction before with
  | nil => rfl
  | cons c before ih => exact ih

theorem dropProject_projectPart (cs : List Char) :
    dropProject 0 (projectPart ++ cs) = dropProject 0 cs :=
  dropProject_append projectPart.tail cs

theorem dropProject_cons {c : Char} (hc : ¬projectPart <+: c :: cs) :
    dropProject 0 (c :: cs) = c :: dropProject 0 cs := by
  rw [dropProject, if_neg fun h => hc (List.isPrefixOf_iff_prefix.1 h)]

/-- What is left of a name is determined, … -/
theorem DropsProject.eq (h : DropsProject cs ds) : dropProject 0 cs = ds := by
  induction h with
  | nil => rfl
  | part _ ih => rw [dropProject_projectPart, ih]
  | char hc _ ih => rw [dropProject_cons hc, ih]

/-- … and each name has something left. -/
theorem dropsProject_dropProject (cs : List Char) : DropsProject cs (dropProject 0 cs) := by
  -- By induction on the length, as more than one character is dropped at a time.
  induction hlen : cs.length using Nat.strongRecOn generalizing cs with
  | ind n ih =>
    cases cs with
    | nil => exact .nil
    | cons c cs =>
      by_cases hc : projectPart <+: c :: cs
      · obtain ⟨rest, hrest⟩ := hc
        rw [← hrest, dropProject_projectPart]
        refine .part (ih rest.length ?_ rest rfl)
        rw [← hlen, ← hrest, List.length_append]
        exact Nat.lt_add_of_pos_left (by decide)
      · rw [dropProject_cons hc]
        exact .char hc (ih cs.length (hlen ▸ Nat.lt_succ_self _) cs rfl)

/-- Removing each `project.` from a name leaves this. -/
theorem dropsProject_iff : DropsProject cs ds ↔ dropProject 0 cs = ds :=
  ⟨DropsProject.eq, fun h => h ▸ dropsProject_dropProject cs⟩

/-- The name itself is tried first, and then what is left of it. -/
theorem property?_eq_some_iff : property? properties name = some value ↔
    properties.lookup name = some value ∨ properties.lookup name = none ∧
      properties.lookup (String.ofList (dropProject 0 name.toList)) = some value := by
  rw [property?, candidates, List.findSome?_cons, List.findSome?_singleton]
  cases properties.lookup name <;> simp

/-- The value of a property by its name, or if there is none by the name without any
    `project.` in it. -/
inductive Names (properties : Properties) : String → Option String → Prop
  | own {name : String} {value : Option String} (h : properties.lookup name = some value) :
    Names properties name value
  | short {name short : String} {value : Option String} (hnone : properties.lookup name = none)
    (hshort : DropsProject name.toList short.toList)
    (h : properties.lookup short = some value) : Names properties name value

theorem names_iff : Names properties name value ↔ property? properties name = some value := by
  rw [property?_eq_some_iff]
  constructor
  · rintro (h | ⟨hnone, hshort, h⟩)
    · exact .inl h
    · refine .inr ⟨hnone, ?_⟩
      rw [dropsProject_iff.1 hshort, String.ofList_toList, h]
  · rintro (h | ⟨hnone, h⟩)
    · exact .own h
    · exact .short hnone (dropsProject_iff.2 String.toList_ofList.symm) h

/-! ## Pointing -/

/-- A text points to the value of the property that it refers to, which need not have one. -/
def PointsTo (properties : Properties) (s : String) (value : Option String) : Prop :=
  ∃ name, RefersTo s name ∧ Names properties name value

/-- A text points to what the name that it refers to stands for. -/
theorem pointsTo_iff :
    PointsTo properties s value ↔ (referenceName? s).bind (property? properties) = some value := by
  rw [Option.bind_eq_some_iff]
  simp only [PointsTo, referenceName?_eq_some_iff, names_iff]

theorem PointsTo.holdsReference (h : PointsTo properties s value) : HoldsReference s :=
  h.elim fun _ h => h.1.holdsReference

/-- There is one value at most that a text points to. -/
theorem PointsTo.unique {value' : Option String} (h : PointsTo properties s value)
    (h' : PointsTo properties s value') : value' = value :=
  Option.some.inj ((pointsTo_iff.1 h').symm.trans (pointsTo_iff.1 h))

/-! ## Chains -/

/-- From a text one comes to another one by pointing so many times. -/
inductive Follows (properties : Properties) : Nat → String → String → Prop
  | refl (s : String) : Follows properties 0 s s
  | step {k : Nat} {s t u : String} (h : PointsTo properties s (some t))
    (hrest : Follows properties k t u) : Follows properties (k + 1) s u

/-- The last text in reach: it points to nothing, or the reach ends there. -/
def StopsAt (properties : Properties) (reach : Nat) (s t : String) : Prop :=
  ∃ k ≤ reach, Follows properties k s t ∧ (k = reach ∨ ∀ value, ¬PointsTo properties t value)

/-- A text that points to nothing stops at itself only. -/
theorem stopsAt_of_not_pointsTo (hend : ∀ value, ¬PointsTo properties s value) :
    StopsAt properties n s t ↔ t = s := by
  constructor
  · rintro ⟨k, -, hfollows, -⟩
    cases hfollows with
    | refl => rfl
    | step h => exact absurd h (hend _)
  · rintro rfl
    exact ⟨0, Nat.zero_le n, .refl t, .inr hend⟩

/-- Out of reach, a text stops at itself. -/
theorem stopsAt_zero : StopsAt properties 0 s t ↔ t = s := by
  constructor
  · rintro ⟨k, hk, hfollows, -⟩
    obtain rfl := Nat.le_zero.1 hk
    cases hfollows
    rfl
  · rintro rfl
    exact ⟨0, le_rfl, .refl t, .inl rfl⟩

/-- One goes on from the text that is pointed to. -/
theorem stopsAt_succ (h : PointsTo properties s (some u)) :
    StopsAt properties (n + 1) s t ↔ StopsAt properties n u t := by
  constructor
  · rintro ⟨k, hk, hfollows, hend⟩
    cases hfollows with
    | refl => exact absurd h ((hend.resolve_left (Nat.succ_ne_zero n).symm) _)
    | @step k s v t hv hrest =>
      cases h.unique hv
      exact ⟨k, Nat.le_of_succ_le_succ hk, hrest, hend.imp_left Nat.succ.inj⟩
  · rintro ⟨k, hk, hfollows, hend⟩
    exact ⟨k + 1, Nat.succ_le_succ hk, .step h hfollows, hend.imp_left (congrArg Nat.succ)⟩

/-- A text that points to what has no value stops nowhere, unless nothing is in reach. -/
theorem not_stopsAt_succ (h : PointsTo properties s none) : ¬StopsAt properties (n + 1) s t := by
  rintro ⟨k, -, hfollows, hend⟩
  cases hfollows with
  | refl => exact (hend.resolve_left (Nat.succ_ne_zero n).symm) _ h
  | step hv => cases h.unique hv

/-! ## Resolving -/

/-- Resolving comes to the last text in reach. -/
theorem resolveIn_eq_some_iff :
    resolveIn properties n (some s) = some t ↔ StopsAt properties n s t := by
  -- By induction on the steps: each of them goes on from the text that is pointed to.
  induction n generalizing s with
  | zero => rw [stopsAt_zero, resolveIn, Option.some.injEq, eq_comm]
  | succ n ih =>
    cases hvalue : (referenceName? s).bind (property? properties) with
    | none =>
      have hend (value : Option String) : ¬PointsTo properties s value := by
        simp [pointsTo_iff, hvalue]
      rw [stopsAt_of_not_pointsTo hend, resolveIn, hvalue, Option.some.injEq, eq_comm]
    | some value =>
      have hpoints := pointsTo_iff.2 hvalue
      cases value with
      | none => simp [resolveIn, hvalue, not_stopsAt_succ hpoints]
      | some u =>
        rw [stopsAt_succ hpoints, resolveIn, hvalue]
        by_cases hu : HoldsReference u
        · simp only [holdsReference_iff.2 hu, if_true]
          exact ih
        · -- What holds no reference is taken as it is, and is the end of the chain.
          have hend (value : Option String) : ¬PointsTo properties u value :=
            fun h => hu h.holdsReference
          simp only [holdsReference_iff, hu, if_false]
          rw [stopsAt_of_not_pointsTo hend, Option.some.injEq, eq_comm]

/-- What holds no reference stands for itself. -/
theorem resolveIn_of_not_holdsReference (hfree : ¬HoldsReference s) (n : Nat) :
    resolveIn properties n (some s) = some s :=
  resolveIn_eq_some_iff.2 ((stopsAt_of_not_pointsTo fun _ h => hfree h.holdsReference).2 rfl)

/-- How many links are followed from a depth on. -/
def reachFrom (depth : Int) : Nat := (11 - depth).toNat

/-- A text is resolved to the one at which its chain stops. -/
theorem resolve_eq_some_iff : resolve properties (some s) depth = some t ↔
    StopsAt properties (reachFrom depth) s t := by
  have hsteps : maxDepth + 1 - depth = 11 - depth := rfl
  rw [resolve, hsteps, resolveIn_eq_some_iff, reachFrom]

/-! ## Links -/

/-- A reference as a whole links to the value of the property that it names. If there is none,
    its name counts without any `project.` in it. -/
inductive LinksTo (properties : Properties) : String → String → Prop
  | named {name value : String} (hname : name ≠ "")
    (h : properties.lookup name = some (some value)) : LinksTo properties (reference name) value
  | short {name short value : String} (hname : name ≠ "") (hnone : properties.lookup name = none)
    (hshort : DropsProject name.toList short.toList)
    (h : properties.lookup short = some (some value)) : LinksTo properties (reference name) value

theorem LinksTo.holdsReference (h : LinksTo properties s t) : HoldsReference s := by
  cases h <;> exact holdsReference_reference _

/-- A text on one line links to what it points to. -/
theorem linksTo_iff_pointsTo (hs : '\n' ∉ s.toList) :
    LinksTo properties s t ↔ PointsTo properties s (some t) := by
  have hrefers (name : String) : RefersTo s name ↔ name ≠ "" ∧ s = reference name := by
    constructor
    · rintro ⟨hname, -, rfl | rfl⟩
      · exact ⟨hname, rfl⟩
      · exact absurd (by simp [String.toList_append]) hs
    · rintro ⟨hname, rfl⟩
      exact ⟨hname, fun h => hs (by simp [toList_reference, h]), .inl rfl⟩
  simp only [PointsTo, hrefers]
  constructor
  · rintro (⟨hname, h⟩ | ⟨hname, hnone, hshort, h⟩)
    · exact ⟨_, ⟨hname, rfl⟩, .own h⟩
    · exact ⟨_, ⟨hname, rfl⟩, .short hnone hshort h⟩
  · rintro ⟨name, ⟨hname, rfl⟩, h | ⟨hnone, hshort, h⟩⟩
    · exact .named hname h
    · exact .short hname hnone hshort h

/-- On one line, a text links to a value exactly if it is found for it. -/
theorem linksTo_iff (hs : '\n' ∉ s.toList) : LinksTo properties s t ↔
    (referenceName? s).bind (property? properties) = some (some t) := by
  rw [linksTo_iff_pointsTo hs, pointsTo_iff]

/-- A text without a reference is taken as soon as it is linked to. -/
theorem resolveIn_of_linksTo_free (hs : '\n' ∉ s.toList) (hlink : LinksTo properties s t)
    (ht : ¬HoldsReference t) (n : Nat) : resolveIn properties (n + 1) (some s) = some t := by
  rw [resolveIn_eq_some_iff, stopsAt_succ ((linksTo_iff_pointsTo hs).1 hlink),
    ← resolveIn_eq_some_iff]
  exact resolveIn_of_not_holdsReference ht n

/-- So many links lead from a text to another one, each of them from a text that holds a
    reference (`LinksTo.holdsReference`). -/
inductive Leads (properties : Properties) : Nat → String → String → Prop
  | refl (s : String) : Leads properties 0 s s
  | link {k : Nat} {s t u : String} (h : LinksTo properties s t) (hrest : Leads properties k t u) :
    Leads properties (k + 1) s u

/-- All properties have values, and these are on one line. -/
def OnOneLine (properties : Properties) : Prop :=
  ∀ entry ∈ properties, ∃ v, entry.2 = some v ∧ '\n' ∉ v.toList

/-- The value of a property is on one line if all are. -/
theorem OnOneLine.lookup (h : OnOneLine properties) {value : Option String}
    (hvalue : properties.lookup name = some value) : ∃ v, value = some v ∧ '\n' ∉ v.toList := by
  obtain ⟨before, after, rfl, -⟩ := List.lookup_eq_some_iff.1 hvalue
  exact h _ List.mem_append_cons_self

/-- What a text points to is on one line. -/
theorem OnOneLine.pointsTo (h : OnOneLine properties) (hpoints : PointsTo properties s value) :
    ∃ v, value = some v ∧ '\n' ∉ v.toList := by
  obtain ⟨name, -, hvalue | ⟨-, -, hvalue⟩⟩ := hpoints
  · exact h.lookup hvalue
  · exact h.lookup hvalue

/-- Links are followed by pointing. -/
theorem Leads.follows (hlead : Leads properties k s t) (h : OnOneLine properties)
    (hs : '\n' ∉ s.toList) : Follows properties k s t ∧ '\n' ∉ t.toList := by
  -- Each text of the chain is on one line, as the values of all properties are.
  induction hlead with
  | refl s => exact ⟨.refl s, hs⟩
  | @link k s t u hlink _ ih =>
    have hpoints := (linksTo_iff_pointsTo hs).1 hlink
    obtain ⟨_, ⟨⟩, ht⟩ := h.pointsTo hpoints
    exact (ih ht).imp_left (.step hpoints)

/-- A text leads to the end of its chain, or as far as it is followed. -/
theorem exists_leads (properties : Properties) (n : Nat) (s : String) :
    ∃ k t, k ≤ n ∧ Leads properties k s t ∧ (k = n ∨ ∀ u, ¬LinksTo properties t u) := by
  induction n generalizing s with
  | zero => exact ⟨0, s, le_rfl, .refl s, .inl rfl⟩
  | succ n ih =>
    by_cases hlink : ∃ t, LinksTo properties s t
    · obtain ⟨t, hlink⟩ := hlink
      obtain ⟨k, u, hk, hlead, hend⟩ := ih t
      exact ⟨k + 1, u, Nat.succ_le_succ hk, .link hlink hlead, hend.imp_left (congrArg (· + 1))⟩
    · exact ⟨0, s, Nat.zero_le _, .refl s, .inr (not_exists.1 hlink)⟩

/-- A text is reached by as many links as are followed from this depth on. -/
def Reaches (properties : Properties) (depth : Int) (s t : String) : Prop :=
  ∃ k : Nat, (k : Int) ≤ 11 - depth ∧ Leads properties k s t

/-- The last text that is reached: it links to no other one, or no more links are followed. -/
def EndsAt (properties : Properties) (depth : Int) (s t : String) : Prop :=
  ∃ k : Nat, (k : Int) ≤ 11 - depth ∧ Leads properties k s t ∧
    ((k : Int) = 11 - depth ∨ ∀ u, ¬LinksTo properties t u)

theorem EndsAt.reaches (h : EndsAt properties depth s t) : Reaches properties depth s t :=
  h.imp fun _ => And.imp_right And.left

/-- A text without a reference is the last one. -/
theorem Reaches.endsAt (h : Reaches properties depth s t) (ht : ¬HoldsReference t) :
    EndsAt properties depth s t := by
  obtain ⟨k, hk, hlead⟩ := h
  exact ⟨k, hk, hlead, .inr fun u hlink => ht hlink.holdsReference⟩

/-- Each chain ends within the reach. -/
theorem exists_endsAt (properties : Properties) (s : String) (hdepth : depth ≤ 10) :
    ∃ t, EndsAt properties depth s t := by
  obtain ⟨n, hn⟩ : ∃ n : Nat, (n : Int) = 11 - depth := ⟨(11 - depth).toNat, by omega⟩
  obtain ⟨k, t, hk, hlead, hend⟩ := exists_leads properties n s
  exact ⟨t, k, by omega, hlead, hend.imp_left (by omega)⟩

/-- A text stands for the last one that is reached from it. -/
theorem EndsAt.resolve_eq (hend : EndsAt properties depth s t) (h : OnOneLine properties)
    (hs : '\n' ∉ s.toList) : resolve properties (some s) depth = some t := by
  obtain ⟨k, hk, hlead, hend⟩ := hend
  obtain ⟨hfollows, ht⟩ := hlead.follows h hs
  refine resolve_eq_some_iff.2 ⟨k, by rw [reachFrom]; omega, hfollows, ?_⟩
  refine hend.imp (fun hlast => by rw [reachFrom]; omega) fun hlinks value hpoints => ?_
  obtain ⟨u, rfl, -⟩ := h.pointsTo hpoints
  exact hlinks u ((linksTo_iff_pointsTo ht).2 hpoints)

end JavaBuild.Pom
