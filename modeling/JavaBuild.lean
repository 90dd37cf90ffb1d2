import JavaBuild.Main
import JavaBuild.Proofs.Artifact.Spec
import JavaBuild.Proofs.Checkstyle.Aggregate
import JavaBuild.Proofs.Checkstyle.BaseDirectory
import JavaBuild.Proofs.Checkstyle.ClassName
import JavaBuild.Proofs.Checkstyle.Command
import JavaBuild.Proofs.Checkstyle.Groups
import JavaBuild.Proofs.Checkstyle.OwnFiles
import JavaBuild.Proofs.Checkstyle.Page
import JavaBuild.Proofs.Checkstyle.PatternCalls
import JavaBuild.Proofs.Checkstyle.ReportOnDisk
import JavaBuild.Proofs.Checkstyle.Selection
import JavaBuild.Proofs.Checkstyle.Settings
import JavaBuild.Proofs.Checkstyle.SourceFiles
import JavaBuild.Proofs.Checkstyle.Stages
import JavaBuild.Proofs.Checkstyle.StaleReport
import JavaBuild.Proofs.Checkstyle.Summary
import JavaBuild.Proofs.Checkstyle.WrittenReport
import JavaBuild.Proofs.CommandLine.Adding
import JavaBuild.Proofs.CommandLine.Cleaning
import JavaBuild.Proofs.CommandLine.Containment
import JavaBuild.Proofs.CommandLine.Fault
import JavaBuild.Proofs.CommandLine.Gate
import JavaBuild.Proofs.CommandLine.Listing
import JavaBuild.Proofs.CommandLine.Refusal
import JavaBuild.Proofs.Conflict.Lines
import JavaBuild.Proofs.DependencyList
import JavaBuild.Proofs.DependencyList.Blame
import JavaBuild.Proofs.DependencyTree
import JavaBuild.Proofs.Entry
import JavaBuild.Proofs.FileTree.Descent
import JavaBuild.Proofs.FileTree.Listing
import JavaBuild.Proofs.Pom.Again
import JavaBuild.Proofs.Pom.Artifacts
import JavaBuild.Proofs.Pom.Declaration
import JavaBuild.Proofs.Pom.Keys
import JavaBuild.Proofs.Pom.Leftover
import JavaBuild.Proofs.Pom.Namespace
import JavaBuild.Proofs.Pom.Reading
import JavaBuild.Proofs.Pom.Reference
import JavaBuild.Proofs.Pom.Repository
