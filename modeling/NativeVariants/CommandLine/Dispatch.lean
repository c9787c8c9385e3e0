import NativeVariants.CommandLine.BuildArguments
import NativeVariants.CommandLine.Flags
import NativeVariants.Project.Verification

set_option autoImplicit false

/-!
The commands of the program. Each of them ends with an exit status.
-/

namespace NativeVariants
open Metadata

def printLines (lines : List String) : Run Unit := lines.forM Run.print

def complainLines (lines : List String) : Run Unit := lines.forM Run.complain

def usage : List String :=
  ["Usage: ggml-tooling <command> [args...]",
    "Commands:",
    "  build [--features F] [--multi-variant] ...  - Generate bindings, build ggml, publish metadata",
    "  verify [--project-root P]                   - Check the vendored ggml source layout",
    "  metadata show|get KEY [--file F]            - Read a committed metadata record",
    "  keys [--package NAME]                       - List metadata key names"]

def workingDir : Run Path := do return .ofLocation (← get).workingDir

def buildCommand (args : List String) : Run Nat := do
  match BuildArguments.parse args with
  | .error .help =>
      printLines buildHelp
      return 0
  | .error (.usage fault) =>
      complainLines buildUsage
      Run.complain s!"ggml-tooling build: error: {fault.message}"
      return 2
  | .ok arguments =>
      if arguments.isVerbose then modify fun m => { m with isVerbose := true }
      runReported (arguments.toOptions (← workingDir))

/-- A path as a flag gives it, seen from the working directory. -/
def readPath (workingDir : Location) (text : String) : Except Failure Path :=
  let p := Path.ofText text
  if p.isNameable then .ok (.ofLocation (p.resolve workingDir)) else .error .badValue

/-- The value of the only flag of a command, and the arguments that are left over. -/
def oneFlag {α : Type} (flag : Flag α) (args : List String) : Run (α × List String) := do
  let (values, left) ← ofExcept (Flag.parse [flag] args)
  return ((values.get? flag.key).getD flag.default, left)

def rejectArgument (arg usage : String) : Run Nat := do
  complainLines [s!"Error: Unknown argument: {arg}", usage]
  return 1

def verifyCommand (args : List String) : Run Nat := do
  let here := (← get).workingDir
  let (root, left) ←
    oneFlag ⟨"project_root", "--project-root", .ofLocation here, readPath here⟩ args
  match left with
  | [] => verify root
  | arg :: _ => rejectArgument arg "Usage: ggml-tooling verify [--project-root <path>]"

def metadataUsage : String :=
  "Usage: ggml-tooling metadata show|get <KEY> [--file <metadata.json>]"

/-- Where a build leaves its record unless the project file says otherwise. -/
def defaultRecordFile (workingDir : Location) : Path :=
  ((Path.ofLocation workingDir).child Layout.default.outDir).child Layout.default.metadataFile

/-- The record of a file; one that does not exist has no facts. -/
def readRecord (p : Path) (package? : Option String) : Run Record := do
  if ← Run.isFile p then
    ofExcept (Record.ofFile (← Run.readText p) p.display package?)
  else return Record.ofMissingFile p.display package?

def showRecord (record : Record) : Run Nat := do
  if record.values.isEmpty then
    Run.print s!"⚠️  No metadata in {record.source?.getD default}"
  let entries ← ofExcept record.sortedValues
  entries.forM fun (key, value) => Run.print s!"{key.display}={value.display}"
  return 0

def getFact (record : Record) (key : String) : Run Nat := do
  Run.print (← ofExcept (record.get key)).display
  return 0

def queryRecord (file : Path) (left : List String) : Run Nat := do
  try
    let record ← readRecord file none
    match left with
    | ["show"] => showRecord record
    | ["get", key] => getFact record key
    | _ =>
        Run.complain metadataUsage
        return 1
  catch
    | .problem problem => do
        printProblem problem
        return 1
    | failure => throw failure

def metadataCommand (args : List String) : Run Nat := do
  let here := (← get).workingDir
  let (file, left) ← oneFlag ⟨"file", "--file", defaultRecordFile here, readPath here⟩ args
  if left.head? = some "show" || left.head? = some "get" then queryRecord file left
  else
    Run.complain metadataUsage
    return 1

def keysCommand (args : List String) : Run Nat := do
  let (package, left) ← oneFlag ⟨"package", "--package", defaultPackage, .ok⟩ args
  match left with
  | [] =>
      Run.print "# single-variant"
      printLines (expectedKeys package [Variant.default])
      Run.print "# multi-variant"
      printLines (expectedKeys package Variant.registered)
      return 0
  | arg :: _ => rejectArgument arg "Usage: ggml-tooling keys [--package <name>]"

def dispatch : List String → Run Nat
  | [] => do
      complainLines usage
      return 1
  | command :: args =>
      match command with
      | "build" => buildCommand args
      | "verify" => verifyCommand args
      | "metadata" => metadataCommand args
      | "keys" => keysCommand args
      | "-h" | "--help" | "help" => do
          complainLines usage
          return 0
      | _ => do
          Run.complain s!"Error: Unknown command: {command}"
          complainLines usage
          return 1

end NativeVariants
