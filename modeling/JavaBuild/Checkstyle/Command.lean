import JavaBuild.Checkstyle.Config
import JavaBuild.Entry

/-!
# The command that runs Checkstyle

Checkstyle is a Java program. The command to run it (`Config.command`) needs the
rules and a class path with the artifacts that it is made of (`dependencies`).
-/

namespace JavaBuild.Checkstyle

/-- The specs of the artifacts that a version of Checkstyle is made of. -/
def dependencySpecs (version : String) : List String :=
  [s!"checkstyle:checkstyle:jar:{version}",
    "antlr:antlr:jar:2.7.6",
    "com.google.collections:google-collections:jar:0.9",
    "commons-beanutils:commons-beanutils-core:jar:1.7.0",
    "commons-cli:commons-cli:jar:1.0",
    "commons-logging:commons-logging:jar:1.0.3"]

/-- The artifacts that a version of Checkstyle is made of. -/
def dependencies (version : String) : Except EntryError (List Artifact) :=
  (dependencySpecs version).mapM Artifact.ofSpec

/-- The class that is run. -/
def mainClass : String := "com.puppycrawl.tools.checkstyle.Main"

/-- The failure for want of a class path. -/
def withoutClasspath (version : String) : Failure :=
  match dependencies version with
  | .ok needed => .checkstyle (.noClasspath (needed.map (·.id)))
  | .error e => .entry e

/-- The command that checks some sources. -/
def Config.command (c : Config) (sources : List Path) : Except Failure (List String) :=
  match c.rules with
  | none => .error (.checkstyle .noRules)
  | some rules =>
    if c.classpath.isEmpty then .error (withoutClasspath c.version)
    else .ok (["java", "-cp", ":".intercalate (c.classpath.map Path.toString), mainClass,
      "-c", rules.toString, "-f", "xml", "-o", c.dataFile.toString] ++ sources.map Path.toString)

end JavaBuild.Checkstyle
