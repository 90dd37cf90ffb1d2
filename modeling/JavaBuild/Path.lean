import JavaBuild.Text.Quoted

/-!
# Paths

A `Path` is a list of names below an anchor: the working directory, the root, or
the root written with two slashes. Reading a path (`Path.ofString`) drops empty
names and the name `.`; the name `..` stays. `Path.toString` writes it again,
the empty path as `.`.

Paths are joined (`Path.join`), where an absolute path replaces what stands
before it, and ordered name by name (`Path.names`).
-/

namespace JavaBuild

/-- Where a path starts. -/
inductive Anchor where
  | relative
  | absolute
  /-- The root, written with two slashes. -/
  | doubled
  deriving DecidableEq, Repr

/-- The anchor as it is written. -/
def Anchor.text : Anchor → String
  | .relative => ""
  | .absolute => "/"
  | .doubled => "//"

/-- A path: the names below its anchor, from the outermost inwards. -/
structure Path where
  anchor : Anchor
  parts : List String
  deriving DecidableEq, Repr

namespace Path

/-- The names between the slashes of a text, without empty ones and `.`. -/
def namesOf (cs : List Char) : List String :=
  ((cs.splitOn '/').map String.ofList).filter fun name => name != "" && name != "."

/-- The anchor of a written path: two slashes at its start are kept apart from
    one, and more than two count as one. -/
def anchorOf (cs : List Char) : Anchor :=
  match (cs.takeWhile (· == '/')).length with
  | 0 => .relative
  | 2 => .doubled
  | _ => .absolute

/-- Read a path. -/
def ofString (s : String) : Path :=
  ⟨anchorOf s.toList, namesOf s.toList⟩

/-- The path of the working directory. -/
def here : Path := ⟨.relative, []⟩

/-- A path as what others are below, where the empty path is the empty text. -/
def baseText (p : Path) : String :=
  p.anchor.text ++ "/".intercalate p.parts

/-- Write a path. -/
def toString (p : Path) : String :=
  if p = here then "." else p.baseText

instance : ToString Path := ⟨Path.toString⟩

/-- The second path as seen from the first: an absolute path stands for itself. -/
def join (p q : Path) : Path :=
  if q.anchor = .relative then ⟨p.anchor, p.parts ++ q.parts⟩ else q

/-- The path of names below a path. -/
def extend (base : Path) (names : List String) : Path := ⟨base.anchor, base.parts ++ names⟩

/-- The path without its last name. The root and the working directory are
    their own parents. -/
def parent (p : Path) : Path :=
  ⟨p.anchor, p.parts.dropLast⟩

/-- The last name of a path. -/
def name? (p : Path) : Option String :=
  p.parts.getLast?

/-- A file name without its suffix, and the suffix with its dot. A dot at either
    end of the name starts no suffix. -/
def splitSuffix (name : String) : String × String :=
  let cs := name.toList
  let suffix := (cs.reverse.takeWhile (· != '.')).reverse
  let stem := cs.take (cs.length - suffix.length - 1)
  if suffix.isEmpty || stem.isEmpty then (name, "")
  else (String.ofList stem, String.ofList ('.' :: suffix))

/-- The suffix of the last name of a path. -/
def suffix (p : Path) : String :=
  match p.name? with
  | none => ""
  | some name => (splitSuffix name).2

/-- The path without the suffix of its last name, if it has a name. -/
def withoutSuffix? (p : Path) : Option Path :=
  p.name?.map fun name => ⟨p.anchor, p.parts.dropLast ++ [(splitSuffix name).1]⟩

/-- The path `p` as seen from `base`, if it lies there. -/
def relativeTo? (p base : Path) : Option Path :=
  if p.anchor = base.anchor ∧ base.parts.isPrefixOf p.parts then
    some ⟨.relative, p.parts.drop base.parts.length⟩
  else none

/-- The names of a path, an anchor that is not the working directory counting as
    the first. Paths are ordered by these. -/
def names (p : Path) : List String :=
  if p.anchor = .relative then p.parts else p.anchor.text :: p.parts

/-- The name that some messages show a path by. -/
def literal (p : Path) : String :=
  s!"PosixPath({Text.quoted p.toString})"

example : (ofString "./a//b/../c/").toString = "a/b/../c" := by decide +kernel
example : (ofString "///a").toString = "/a" := by decide +kernel
example : splitSuffix "a..java" = ("a.", ".java") := by decide +kernel
example : splitSuffix ".java" = (".java", "") := by decide +kernel

end Path

end JavaBuild
