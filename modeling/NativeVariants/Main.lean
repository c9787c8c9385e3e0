import NativeVariants.CommandLine.Dispatch
import NativeVariants.FileTree.Changes

set_option autoImplicit false

/-!
The program on a real machine. It looks at the files that a command may need, runs the command on
what it saw, and brings the changes to disk. Headers are read and processes are started by other
programs only, so a build ends here with the report that its header cannot be read.
-/

namespace NativeVariants.Main

/-- Everything at and below a location. -/
partial def readTree (tree : FileTree) (location : Location) : IO FileTree := do
  let path := (Path.ofLocation location).display
  try
    let names := (← ((← IO.currentDir) / path).readDir).toList.map (·.fileName)
    names.foldlM (fun tree name => readTree tree (location ++ [name]))
      ((tree.withParents location).set location .directory)
  catch _ =>
    try
      let bytes ← IO.FS.readBinFile path
      return (tree.withParents location).set location (.file (.ofBytes bytes.data.toList))
    catch _ => return tree

/-- The lines of a system file; none if it cannot be read. -/
def systemLines (path : String) (separator : String) : IO (List String) := do
  try return (((← IO.FS.readFile path).splitOn separator).filter (· ≠ ""))
  catch _ => return []

def environ : IO Environ := do
  let entries ← systemLines "/proc/self/environ" "\x00"
  return Table.ofList (entries.map fun entry =>
    let key := entry.toList.takeWhile (· ≠ '=')
    (String.ofList key, String.ofList (entry.toList.drop (key.length + 1))))

def host : IO Host := do
  let machine := ((← systemLines "/proc/sys/kernel/arch" "\n").head?).getD ""
  let system := ((← systemLines "/proc/sys/kernel/ostype" "\n").head?).getD ""
  let processors := (← systemLines "/proc/cpuinfo" "\n").filter ("processor".isPrefixOf ·)
  return ⟨machine, system, if processors.isEmpty then none else some processors.length⟩

def unreadable : Header.HeaderUnit :=
  ⟨[], [⟨.fatal, "no reader of C headers is available", none, 0⟩]⟩

/-- The machine as a command sees it: the working directory, and what the arguments name. -/
def observe (args : List String) : IO Machine := do
  let here := (Path.ofText (← IO.currentDir).toString).parts
  let named := args.map fun arg => (Path.ofText arg).resolve here
  let roots := here :: named.filter fun location =>
    location ≠ [] && !here.isPrefixOf location && !location.isPrefixOf here
  return {
    host := ← host
    environ := ← environ
    workingDir := here
    files := ← roots.foldlM readTree (FileTree.empty.withParents (here ++ [""]))
    units := [unreadable]
    outcomes := []
    isVerbose := false
    events := [] }

def bytesOf : Content → ByteArray
  | .text text => text.toUTF8
  | .raw bytes => ⟨bytes.toArray⟩

def apply (changes : Changes) : IO Unit := do
  changes.made.forM fun name => IO.FS.createDirAll ("/" ++ name)
  changes.written.forM fun (name, content) => IO.FS.writeBinFile ("/" ++ name) (bytesOf content)
  changes.removed.forM fun name => IO.FS.removeFile ("/" ++ name)

/-- What is said about a failure that is no problem of the user's. -/
def complaint : Failure → String
  | .problem problem => problem.message
  | .wrongKind => "a value is of a kind that cannot be used"
  | .badValue => "a value cannot be used"
  | .noMembers => "a record has no members"
  | .unknownWord => "a word is not known"
  | .outOfBounds => "something refers to what does not exist"
  | .outOfRange => "a number is out of range"
  | .undecodable => "a file is not text"
  | .badPattern => "a pattern is malformed"
  | .file _ => "a file cannot be used"

end NativeVariants.Main

open NativeVariants in
def main (args : List String) : IO UInt32 := do
  let before ← Main.observe args
  let (result, after) := (dispatch args).run before
  IO.print after.output
  IO.eprint after.errorOutput
  Main.apply (before.files.changes after.files [])
  match result with
  | .ok status => return UInt32.ofNat status
  | .error failure =>
      IO.eprintln (Main.complaint failure)
      return 1
