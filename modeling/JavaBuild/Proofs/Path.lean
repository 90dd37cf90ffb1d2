import JavaBuild.Path
import JavaBuild.Proofs.Text.Separated
import Mathlib.Tactic.MkIffOfInductiveProp

/-!
# The names of a path

A text that is a single name (`Path.IsName`) is read as the path of this name
(`ofString_of_isName`), and names with slashes between them as the path of these
(`ofString_intercalate`). All names of a path that has been read are such texts
(`isName_of_mem_ofString`). Joined to a path one after the other, names come to
stand at its end (`foldl_join`), and empty texts and dots leave no trace
(`foldl_join_filter`). The text of a path is made of its names and of slashes,
or it is a dot (`mem_toString_iff`).

Paths are joined as if the directories were entered one after the other
(`join_assoc`), and to enter the working directory changes nothing (`join_here`).
-/

namespace JavaBuild.Path

/-- A text that is read as a single name. -/
@[mk_iff]
structure IsName (name : String) : Prop where
  slash : '/' ∉ name.toList
  nonempty : name ≠ ""
  dot : name ≠ "."

instance (name : String) : Decidable (IsName name) := decidable_of_iff' _ (isName_iff name)

variable {name : String}

theorem anchorOf_of_head?_ne {cs : List Char} (h : cs.head? ≠ some '/') :
    anchorOf cs = .relative := by
  have hnone : cs.takeWhile (· == '/') = [] := by
    cases cs with
    | nil => rfl
    | cons c cs => exact List.takeWhile_cons_of_neg (by simpa using h)
  rw [anchorOf, hnone]
  rfl

theorem anchorOf_of_not_mem {cs : List Char} (h : '/' ∉ cs) : anchorOf cs = .relative :=
  anchorOf_of_head?_ne fun hhead => h (List.mem_of_head? hhead)

/-- A text without slashes is read as the path of this name, if it is one. -/
theorem ofString_of_not_mem (h : '/' ∉ name.toList) :
    ofString name = ⟨.relative, [name].filter fun name => name != "" && name != "."⟩ := by
  rw [ofString, anchorOf_of_not_mem h, namesOf, List.splitOn_eq_singleton h, List.map_singleton,
    String.ofList_toList]

theorem ofString_of_isName (h : IsName name) : ofString name = ⟨.relative, [name]⟩ := by
  rw [ofString_of_not_mem h.slash]
  simp [h.nonempty, h.dot]

/-- Names with slashes between them are read as the path of these names. -/
theorem ofString_intercalate {names : List String} (h : ∀ name ∈ names, IsName name)
    (hne : names ≠ []) : ofString ("/".intercalate names) = ⟨.relative, names⟩ := by
  have hsplit : (("/".intercalate names).toList.splitOn '/').map String.ofList = names :=
    Text.splitOn_intercalate rfl hne fun name hname => (h name hname).slash
  have hall : names.filter (fun name => name != "" && name != ".") = names :=
    List.filter_eq_self.2 fun name hname => by simp [(h name hname).nonempty, (h name hname).dot]
  have hanchor : anchorOf ("/".intercalate names).toList = .relative := by
    obtain ⟨name, names, rfl⟩ := List.exists_cons_of_ne_nil hne
    have hname := (List.forall_mem_cons.1 h).1
    refine anchorOf_of_head?_ne fun hhead => hname.slash ?_
    rw [Text.head?_intercalate hname.nonempty] at hhead
    exact List.mem_of_head? hhead
  rw [ofString, namesOf, hsplit, hall, hanchor]

/-- The names of a path that has been read are single names. -/
theorem isName_of_mem_ofString {text : String} (h : name ∈ (ofString text).parts) :
    IsName name := by
  obtain ⟨hmem, hname⟩ := List.mem_filter.1 h
  rw [Bool.and_eq_true, bne_iff_ne, bne_iff_ne] at hname
  exact ⟨Text.notMem_of_mem_splitOn hmem, hname.1, hname.2⟩

/-- Texts without slashes that are joined to a path stand at its end, but for those that are
    no names. -/
theorem foldl_join_filter {names : List String} (h : ∀ name ∈ names, '/' ∉ name.toList)
    (p : Path) : names.foldl (fun p name => p.join (.ofString name)) p =
      ⟨p.anchor, p.parts ++ names.filter fun name => name != "" && name != "."⟩ := by
  induction names generalizing p with
  | nil => rw [List.foldl_nil, List.filter_nil, List.append_nil]
  | cons name names ih =>
    obtain ⟨hname, hnames⟩ := List.forall_mem_cons.1 h
    have hsplit : name :: names = [name] ++ names := rfl
    rw [List.foldl_cons, ih hnames, ofString_of_not_mem hname, hsplit, List.filter_append,
      ← List.append_assoc]
    rfl

/-- Names that are joined to a path stand at its end. -/
theorem foldl_join {names : List String} (h : ∀ name ∈ names, IsName name) (p : Path) :
    names.foldl (fun p name => p.join (.ofString name)) p = ⟨p.anchor, p.parts ++ names⟩ := by
  have hall : names.filter (fun name => name != "" && name != ".") = names :=
    List.filter_eq_self.2 fun name hname => by simp [(h name hname).nonempty, (h name hname).dot]
  rw [foldl_join_filter fun name hname => (h name hname).slash, hall]

/-- The characters of a path other than slashes and dots are those of its names. -/
theorem mem_toString_iff {c : Char} (hslash : c ≠ '/') (hdot : c ≠ '.') (p : Path) :
    c ∈ p.toString.toList ↔ ∃ name ∈ p.parts, c ∈ name.toList := by
  have hanchor : c ∉ p.anchor.text.toList := by
    cases p.anchor <;> simp [Anchor.text, hslash]
  rw [toString]
  split
  · rename_i hhere
    subst hhere
    simp [here, hdot]
  · rw [baseText, String.toList_append, List.mem_append,
      Text.mem_intercalate_iff (by simp [hslash])]
    simp only [hanchor, false_or]

/-! ## Suffixes -/

/-- The suffix of a name starts at its last dot, unless the name does. -/
theorem splitSuffix_append (stem : String) {ending : List Char} (hne : ending ≠ [])
    (hdot : '.' ∉ ending) : splitSuffix (stem ++ String.ofList ('.' :: ending)) =
      if stem = "" then (String.ofList ('.' :: ending), "")
      else (stem, String.ofList ('.' :: ending)) := by
  have hchars : (stem ++ String.ofList ('.' :: ending)).toList = stem.toList ++ '.' :: ending := by
    rw [String.toList_append, String.toList_ofList]
  -- Seen from the end, the name runs to the dot in front of the ending.
  have hsuffix :
      ((stem.toList ++ '.' :: ending).reverse.takeWhile (· != '.')).reverse = ending := by
    have hall : ∀ c ∈ ending.reverse, (c != '.') = true := fun c hc => by
      rw [bne_iff_ne]
      rintro rfl
      exact hdot (List.mem_reverse.1 hc)
    rw [List.reverse_append, List.reverse_cons, List.append_assoc,
      List.takeWhile_append_of_pos hall]
    simp
  have hstem : (stem.toList ++ '.' :: ending).take
      ((stem.toList ++ '.' :: ending).length - ending.length - 1) = stem.toList := by
    rw [List.length_append, List.length_cons]
    exact List.take_left' (by omega)
  have hempty : stem.toList.isEmpty = true ↔ stem = "" := by
    rw [List.isEmpty_iff, String.toList_eq_nil_iff]
  simp only [splitSuffix, hchars, hsuffix, hstem]
  by_cases h : stem = ""
  · simp [h]
  · simp [h, hne]

/-! ## Joining -/

variable (p q r : Path)

theorem join_assoc : (p.join q).join r = p.join (q.join r) := by
  by_cases hr : r.anchor = .relative
  · by_cases hq : q.anchor = .relative
    · simp only [join, hr, hq, if_true, List.append_assoc]
    · simp only [join, hr, hq, if_true, if_false]
  · simp only [join, hr, if_false]

theorem join_here : p.join here = p := by
  rw [join, here, if_pos rfl, List.append_nil]

variable {p}

/-- An absolute path is the same from everywhere. -/
theorem join_of_ne_relative (h : p.anchor ≠ .relative) : q.join p = p := if_neg h

end JavaBuild.Path
