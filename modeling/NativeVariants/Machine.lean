import NativeVariants.Command
import NativeVariants.FileTree
import NativeVariants.Header.Declaration

set_option autoImplicit false

/-!
The machine on which a run takes place: its files, its environment, and the other programs that
answer a run. Whatever a run does that can be seen from outside is an event.
-/

namespace NativeVariants

structure Host where
  machine : String
  system : String
  cpuCount? : Option Nat
  deriving DecidableEq, Repr

/-- Why a process is not started, although there is such a program. -/
inductive StartFault where
  | denied
  | notDirectory
  | badValue
  | refused
  deriving DecidableEq, Repr

def StartFault.failure : StartFault → Failure
  | denied => .file .denied
  | notDirectory => .file .notDirectory
  | badValue => .badValue
  | refused => .file .refused

/-- How a process ends. -/
inductive ProcessOutcome where
  /-- There is no such program, or no such directory to start it in. -/
  | missing
  | unstarted (fault : StartFault)
  /-- What it printed is no text. -/
  | undecodable (creates : List (Path × String))
  | finished (status : Int) (output errorOutput : String) (creates : List (Path × String))
  deriving DecidableEq, Repr

def ProcessOutcome.created : ProcessOutcome → List (Path × String)
  | missing => []
  | unstarted _ => []
  | undecodable creates => creates
  | finished _ _ _ creates => creates

inductive Event where
  | printed (text : String)
  | complained (text : String)
  | parsed (header : String) (arguments : List String)
  | ran (command : Command) (workingDir : String)
  | wrote (location : Location)
  deriving DecidableEq, Repr

inductive Recorder where
  | features
  | nativeBuild
  | packageConfig
  | staging
  | channel
  | header
  | pipeline
  deriving DecidableEq, Repr

def Recorder.name : Recorder → String
  | features => "ggml_tooling.features.resolver"
  | nativeBuild => "ggml_tooling.build.native"
  | packageConfig => "ggml_tooling.build.package_config"
  | staging => "ggml_tooling.build.runtime"
  | channel => "ggml_tooling.metadata.channel"
  | header => "ggml_tooling.gen.parser"
  | pipeline => "ggml_tooling.pipeline"

structure Machine where
  host : Host
  environ : Environ
  workingDir : Location
  files : FileTree
  /-- What the reader of headers reports in turn. The last report is repeated. -/
  units : List Header.HeaderUnit
  /-- How processes end in turn. Further ones succeed. -/
  outcomes : List ProcessOutcome
  /-- Whether all records are shown, or warnings alone. -/
  isVerbose : Bool
  events : List Event

def Machine.output (m : Machine) : String :=
  String.join (m.events.filterMap fun event =>
    match event with
    | .printed text => some text
    | _ => none)

def Machine.errorOutput (m : Machine) : String :=
  String.join (m.events.filterMap fun event =>
    match event with
    | .complained text => some text
    | _ => none)

/-- What runs on a machine. What was done before a failure stays done. -/
abbrev Run := ExceptT Failure (StateM Machine)

namespace Run

def report (event : Event) : Run Unit :=
  modify fun m => { m with events := m.events ++ [event] }

def print (line : String) : Run Unit := report (.printed (line ++ "\n"))

def complain (line : String) : Run Unit := report (.complained (line ++ "\n"))

def note (recorder : Recorder) (message : String) : Run Unit := do
  if (← get).isVerbose then complain s!"DEBUG {recorder.name}: {message}"

def warn (recorder : Recorder) (message : String) : Run Unit := do
  if (← get).isVerbose then complain s!"WARNING {recorder.name}: {message}"
  else complain message

def ofReported {α : Type} (result : Except Problem α) : Run α := ofExcept (reported result)

def setFiles (files : FileTree) : Run Unit := modify fun m => { m with files }

def locate (p : Path) : Run Location := do
  let m ← get
  if !p.isNameable then throw .badValue
  ofExcept ((m.files.locate m.workingDir p).mapError .file)

/-- The location of a path, which need not exist. -/
def resolve (p : Path) : Run Path := do
  if !p.isNameable then throw .badValue
  return .ofLocation (p.resolve (← get).workingDir)

def find? (p : Path) : Run (Option Entry) := do
  let m ← get
  return m.files.find? m.workingDir p

def present (p : Path) : Run Bool := do return (← find? p).isSome

def isDirectory (p : Path) : Run Bool := do return (← find? p) = some .directory

def isFile (p : Path) : Run Bool := do
  match ← find? p with
  | some (.file _) => return true
  | _ => return false

def readContent (p : Path) : Run Content := do
  let location ← locate p
  ofExcept (((← get).files.read location).mapError .file)

/-- Line breaks of all kinds become line feeds when a text is read. -/
def readLines : List Char → List Char
  | '\r' :: '\n' :: rest => '\n' :: readLines rest
  | '\r' :: rest => '\n' :: readLines rest
  | c :: rest => c :: readLines rest
  | [] => []

def readText (p : Path) : Run String := do
  match ← readContent p with
  | .text text => return String.ofList (readLines text.toList)
  | .raw _ => throw .undecodable

def writeContent (p : Path) (content : Content) : Run Unit := do
  let location ← locate p
  setFiles (← ofExcept (((← get).files.write location content).mapError .file))
  report (.wrote location)

def writeText (p : Path) (text : String) : Run Unit := writeContent p (.text text)

/-- The location at which a directory is to be made; a directory that exists is left alone. -/
def makeDirectoryAt (p : Path) : Run Unit := do
  let location ← locate p
  match (← get).files.makeDirectory location with
  | .ok files => setFiles files
  | .error fault => if !(← isDirectory p) then throw (.file fault)

def makeDirectories (p : Path) : Run Unit := go p.parts.length p
where
  go : Nat → Path → Run Unit
    | 0, p => makeDirectoryAt p
    | fuel + 1, p => do
        try makeDirectoryAt p
        catch failure =>
          if failure = .file .notFound && p.parent ≠ p then
            go fuel p.parent
            makeDirectoryAt p
          else throw failure

/-- One file takes the place of another in a single step. -/
def replace (source target : Path) : Run Unit := do
  let source ← locate source
  let isUpward := target.parts.getLast? = some Path.upward
  let target ← locate target
  if isUpward then throw (.file .busy)
  setFiles (← ofExcept (((← get).files.move source target).mapError .file))
  report (.wrote target)

/-- Writes a file whole: a reader sees the old content or the new one and nothing between. -/
def writeWhole (p : Path) (text : String) : Run Unit := do
  makeDirectories p.parent
  if p.name = "" then throw .badValue
  let draft := p.withName s!".{p.name}.tmp"
  writeText draft text
  replace draft p

/-- Copies a file into a place, or into a directory under its own name. -/
def copy (source target : Path) : Run Unit := do
  let target ← if ← isDirectory target then pure (target.child source.name) else pure target
  if (← locate source) = (← locate target) then throw (.file .sameFile)
  writeContent target (← readContent source)

def nextUnit (header : String) (arguments : List String) : Run Header.HeaderUnit := do
  report (.parsed header arguments)
  match (← get).units with
  | [] => return default
  | [u] => return u
  | u :: rest =>
      modify fun m => { m with units := rest }
      return u

def nextOutcome : Run ProcessOutcome := do
  match (← get).outcomes with
  | [] => return .finished 0 "" "" []
  | outcome :: rest =>
      modify fun m => { m with outcomes := rest }
      return outcome

/-- Puts the files in place that a process makes, as far as they have a place: what it made of the
others is part of how it ended. -/
def leave (created : List (Path × String)) : Run Unit :=
  created.forM fun (p, text) => do
    try
      makeDirectories p.parent
      writeText p text
    catch _ => pure ()

def start (command : Command) (workingDir : Path) : Run ProcessOutcome := do
  report (.ran command workingDir.display)
  let outcome ← nextOutcome
  leave outcome.created
  return outcome

end Run

end NativeVariants
