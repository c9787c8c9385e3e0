import NativeVariants.Text.Case

set_option autoImplicit false

/-!
Target triples: the platform that a triple stands for and the names that files have there. A triple
is any text, and is recognised by the words in it.
-/

namespace NativeVariants
open Text

def occursIn (part text : List Char) : Bool :=
  part.isPrefixOf text ||
    match text with
    | [] => false
    | _ :: rest => occursIn part rest

structure Target where
  triple : String
  deriving DecidableEq, Repr

inductive Family where
  | windows
  | apple
  | other
  deriving DecidableEq, Repr

namespace Target

def mentions (target : Target) (word : String) : Bool :=
  occursIn word.toList target.triple.toList

def isApple (target : Target) : Bool := target.mentions "apple"

def isWindows (target : Target) : Bool := target.mentions "windows"

def isMsvc (target : Target) : Bool := target.mentions "msvc"

def family (target : Target) : Family :=
  if target.isWindows then .windows else if target.isApple then .apple else .other

/-- The C++ runtime to link, unless the toolchain links it by itself. -/
def cxxRuntime? (target : Target) : Option String :=
  if target.isMsvc then none
  else if target.isApple || target.mentions "freebsd" || target.mentions "openbsd" then
    some "c++"
  else if target.mentions "android" then some "c++_shared"
  else some "stdc++"

/-- The file that is loaded when a program runs. -/
def sharedLibrary (target : Target) (name : String) : String :=
  if target.isWindows then name ++ ".dll"
  else if target.isApple then "lib" ++ name ++ ".dylib"
  else "lib" ++ name ++ ".so"

/-- The file that the linker reads. It is the shared library, except on Windows. -/
def linkStub (target : Target) (name : String) : String :=
  if target.isWindows then
    if target.isMsvc then name ++ ".lib" else "lib" ++ name ++ ".dll.a"
  else target.sharedLibrary name

/-- Suffixes of the modules that are built on the target without being asked for. -/
def librarySuffixes (target : Target) : List String :=
  if target.isApple then ["blas"] else []

/-- Machine names that stand for another architecture name. -/
def architectures : List (String × String) :=
  [("x86_64", "x86_64"), ("amd64", "x86_64"), ("aarch64", "aarch64"), ("arm64", "aarch64")]

def ofHost (machine system : String) : Target :=
  let machine := lower machine
  let architecture :=
    (architectures.lookup machine).getD (if machine = "" then "x86_64" else machine)
  let rest :=
    match lower system with
    | "darwin" => "-apple-darwin"
    | "windows" => "-pc-windows-msvc"
    | "freebsd" => "-unknown-freebsd"
    | _ => "-unknown-linux-gnu"
  ⟨architecture ++ rest⟩

end Target

end NativeVariants
