import JavaBuild.Checkstyle.Config

/-!
# Combined configurations

The configurations of several projects are combined into one that covers all
their sources (`aggregate`). Places, limits and patterns are those of a base
configuration. Rules and style are, too, if it has them; else the projects must
agree on one rules file, and on at most one style. The class path is the first
that is not empty, that of the base being tried before those of the projects.
-/

namespace JavaBuild.Checkstyle

/-- The distinct paths among these, those written with blanks only apart. -/
def distinctPaths (ps : List (Option Path)) : List Path :=
  ((ps.filterMap id).filter fun p => Text.trimmed p.toString != "").eraseDups

/-- The rules to check by: those of the base, or those that all projects agree on. -/
def commonRules (base : Config) (projects : List Config) : Work Path :=
  match base.rules with
  | some rules => pure rules
  | none => match distinctPaths (projects.map (·.rules)) with
    | [rules] => do
      Work.print s!"Setting checkstyle config to '{rules}'"
      return rules
    | found => throw (.checkstyle (.noSingleRules found))

/-- The style of the report: that of the base, or the only one of the projects. -/
def commonStyle (base : Config) (projects : List Config) : Work (Option Path) :=
  match base.style with
  | some style => pure (some style)
  | none => match distinctPaths (projects.map (·.style)) with
    | [] => pure none
    | [style] => do
      Work.print s!"Setting checkstyle html style to '{style}'"
      return some style
    | found => throw (.checkstyle (.severalStyles found))

/-- The configuration that covers all projects. -/
def aggregate (projects : List Config) (base : Config) : Work Config := do
  let rules ← commonRules base projects
  let style ← commonStyle base projects
  let classpaths := (base :: projects).map (·.classpath)
  return { base with
    rules := some rules
    style
    sources := (projects.flatMap (·.sources)).eraseDups
    classpath := (classpaths.find? fun classpath => !classpath.isEmpty).getD [] }

end JavaBuild.Checkstyle
