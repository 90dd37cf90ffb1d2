import JavaBuild.Entry
import JavaBuild.Text.Line

/-!
# Dependency lists

A dependency list is a text with one entry per line. What follows a `#` on a
line does not count. The words of a line are specs: one alone is a bare
artifact, several are a group of providers whose selected artifact comes first,
and a line without any is skipped.
-/

namespace JavaBuild.DependencyList

/-- The specs on a line. -/
def specsOf (line : List Char) : List String :=
  (Text.words (line.takeWhile (· != '#'))).map String.ofList

/-- The entry that the specs of a line stand for, if there is a spec. -/
def entryOf : List String → Except EntryError (Option Value)
  | [] => .ok none
  | [spec] => (Artifact.ofSpec spec).map fun a => some (.artifact a)
  | specs => (Value.toEntry (.list (specs.map .text))).map some

/-- The entries of lines, the first of which has this number. A malformed spec
    is told with the number of its line. -/
def ofLines : (number : Nat) → List (List Char) → Except (Nat × EntryError) (List Value)
  | _, [] => .ok []
  | n, line :: rest =>
    match entryOf (specsOf line) with
    | .error e => .error (n, e)
    | .ok entry => (ofLines (n + 1) rest).map fun entries => entry.toList ++ entries

/-- The entries of a dependency list. Lines are counted from one. -/
def parse (text : String) : Except (Nat × EntryError) (List Value) :=
  ofLines 1 (Text.lines text.toList)

end JavaBuild.DependencyList
