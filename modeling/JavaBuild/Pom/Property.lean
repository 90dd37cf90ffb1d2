import JavaBuild.Pom.Project

/-!
# References to properties

A text that is a reference as a whole, `${name}`, stands for the property of
that name. If there is none, the name is tried without any `project.` in it. The
value of a property may be a reference in its turn; a chain is followed for a
bounded number of steps (`resolve`). A text with a reference only in a part of
it stands for itself.
-/

namespace JavaBuild.Pom

/-- The characters that open a reference. -/
def opening : List Char := ['$', '{']

/-- Whether a text holds the start of a reference. -/
def holdsReference : List Char → Bool
  | [] => false
  | c :: cs => opening.isPrefixOf (c :: cs) || holdsReference cs

/-- A text without a line feed at its end. -/
def dropLastNewline (cs : List Char) : List Char :=
  if cs.getLast? = some '\n' then cs.dropLast else cs

/-- The name that a text refers to as a whole, which may end in a line feed. -/
def referenceName? (s : String) : Option String :=
  match dropLastNewline s.toList with
  | '$' :: '{' :: inside =>
    let name := inside.dropLast
    if inside.getLast? = some '}' ∧ name ≠ [] ∧ ¬name.contains '\n' then
      some (String.ofList name)
    else none
  | _ => none

/-- The text that is dropped from names. -/
def projectPart : List Char := "project.".toList

/-- A name without any `project.` in it. While `skip` is not zero, so many
    characters belong to one. -/
def dropProject : (skip : Nat) → List Char → List Char
  | _, [] => []
  | n + 1, _ :: cs => dropProject n cs
  | 0, c :: cs =>
    if projectPart.isPrefixOf (c :: cs) then dropProject (projectPart.length - 1) cs
    else c :: dropProject 0 cs

/-- The names that are tried for a name. -/
def candidates (name : String) : List String :=
  [name, String.ofList (dropProject 0 name.toList)]

/-- The property that a name stands for, if there is one. -/
def property? (properties : Properties) (name : String) : Option (Option String) :=
  (candidates name).findSome? fun key => properties.lookup key

/-- Resolve a text in so many steps. -/
def resolveIn (properties : Properties) : (steps : Nat) → Option String → Option String
  | 0, value => value
  | _ + 1, none => none
  | n + 1, some s =>
    match (referenceName? s).bind (property? properties) with
    | none => some s
    | some none => none
    | some (some value) =>
      if holdsReference value.toList then resolveIn properties n (some value) else some value

/-- The greatest depth at which a reference is followed. -/
def maxDepth : Int := 10

/-- Resolve a text that has been reached at some depth. -/
def resolve (properties : Properties) (value : Option String) (depth : Int) : Option String :=
  resolveIn properties (maxDepth + 1 - depth).toNat value

/-- Properties with one added, unless there is one of that name. -/
def addProperty (name : String) (value : Option String) (properties : Properties) : Properties :=
  match value with
  | none | some "" => properties
  | some value =>
    if (properties.lookup name).isSome then properties else properties ++ [(name, some value)]

/-- The properties of a project, with its group and its version among them. -/
def allProperties (p : PomProject) : Properties :=
  addProperty "project.version" p.version
    (addProperty "project.groupId" (some p.groupId) p.properties)

example : resolve [("a", some "$\x7bb\x7d"), ("b", some "1")] (some "$\x7bproject.a\x7d") 0 =
    some "1" := by decide +kernel
example : resolve [("a", some "1")] (some "$\x7ba\x7d-x") 0 = some "$\x7ba\x7d-x" := by
  decide +kernel

end JavaBuild.Pom
