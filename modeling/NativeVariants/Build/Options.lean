import NativeVariants.Build.Variant
import NativeVariants.Header.Allowlist
import NativeVariants.Metadata.Record
import NativeVariants.Project.File
import NativeVariants.Project.Paths

set_option autoImplicit false

/-!
What a build is asked for, and how it is settled. An option that is given by the caller counts
first, then the environment, then the project file, then the default.
-/

namespace NativeVariants
open Header

structure Options where
  projectRoot : Path
  outDir? : Option Path
  target? : Option String
  features? : Option (List String)
  multiVariant? : Option Bool
  /-- The number of jobs; null if it is not given. -/
  jobs : Datum
  stagingDir? : Option Path
  variants : List Variant
  tool : String
  deriving Repr

structure Settled where
  config : BuildConfig
  paths : ProjectPaths
  jobs : Datum
  allow : Allowlist

namespace Options

def default : Options where
  projectRoot := ⟨.here, []⟩
  outDir? := none
  target? := none
  features? := none
  multiVariant? := none
  jobs := .null
  stagingDir? := none
  variants := Variant.registered
  tool := "cmake"

def featuresVariable : String := "GGML_TOOLING_FEATURES"

def multiVariantVariable : String := "GGML_TOOLING_MULTI_VARIANT"

def targetVariable : String := "TARGET"

/-- The members of a value that stands for a list. Absent values have none. -/
def members (value? : Option Datum) : Except Failure (List Datum) :=
  match value? with
  | none => .ok []
  | some value =>
      if !value.isPresent then .ok []
      else
        match value with
        | .set items => .ok items
        | .pair first second => .ok [first, second]
        | .bytes values => .ok (values.map fun (n : Nat) => .int n)
        | _ => Metadata.Record.elements value

def fileFeatures (value? : Option Datum) : Except Failure (List String) :=
  match value? with
  | some (.text s) => .ok [s]
  | _ => do
      let items ← members value?
      if items.all Datum.isWritable then return items.map (·.display) else throw .badValue

def features (options : Options) (environ : Environ) (file : ProjectFile) :
    Except Failure (List String) :=
  match options.features? with
  | some names => .ok names
  | none =>
      match environ.get? featuresVariable with
      | some text => .ok [text]
      | none => fileFeatures (file.option? "features")

def multiVariant (options : Options) (environ : Environ) (file : ProjectFile) : Bool :=
  match options.multiVariant? with
  | some b => b
  | none =>
      if environ.contains multiVariantVariable then environ.flag multiVariantVariable
      else ((file.option? "multi_variant").map Datum.isPresent).getD false

/-- A value as a number of jobs. Decimals lose their fraction, and texts are read. -/
def readJobs? : Datum → Except Failure (Option Int)
  | .bool b => .ok (some (if b then 1 else 0))
  | .int n => .ok (some n)
  | .real (.infinite _) => .error .outOfRange
  | .real x => .ok x.truncate?
  | .text s => .ok (Text.readInt? 10 s.toList)
  | .bytes values =>
      .ok (if values.all (· < 0x80) then Text.readInt? 10 (values.map Char.ofNat) else none)
  | _ => .ok none

def chosenJobs (options : Options) (file : ProjectFile) : Except Failure Datum :=
  match options.jobs, (file.option? "jobs").getD .null with
  | .null, .null => .ok .null
  | .null, value => do
      match ← readJobs? value with
      | some n => return .int n
      | none =>
          if value.isWritable then throw (.problem (.badJobs value.quoted)) else throw .badValue
  | jobs, _ => .ok jobs

def allowlist (file : ProjectFile) : Except Failure Allowlist := do
  let value := (file.option? "allowlist").getD .null
  if !value.isPresent then return .default
  match value with
  | .map entries =>
      let patterns key := members (Datum.lookup? entries key)
      return Allowlist.default.extend
        ⟨← patterns "functions", ← patterns "types", ← patterns "constants"⟩
  | _ => throw (.problem .badAllowlist)

def target (options : Options) (environ : Environ) (host : Host) : Target :=
  match options.target?.filter (· ≠ "") with
  | some triple => ⟨triple⟩
  | none =>
      match environ.nonEmpty? targetVariable with
      | some triple => ⟨triple⟩
      | none => .ofHost host.machine host.system

def configNote (config : BuildConfig) : String :=
  let flag (b : Bool) := (Datum.bool b).quoted
  let names := Datum.list (config.features.backends.map fun b => .text b.name)
  s!"Resolved build config: target={config.target.triple} backends={names.quoted} " ++
    s!"openmp={flag config.features.openmp} multi_variant={flag config.multiVariant}"

/-- Settles the options. Nothing is changed on the machine. When only bindings are made, nothing is
required of the features but that they are known. -/
def settle (options : Options) (environ : Environ) : Run Settled := do
  let file ← ProjectFile.load options.projectRoot
  let paths ← ProjectPaths.resolve options.projectRoot file.layout options.outDir?
  let features ← ofExcept (options.features environ file)
  let config ← Run.ofReported (BuildConfig.resolve {
    features
    target := options.target environ (← get).host
    multiVariant := options.multiVariant environ file
    environ
    validate := environ.docsSignal?.isNone })
  Run.note .features (configNote config)
  let jobs ← ofExcept (options.chosenJobs file)
  let allow ← ofExcept (allowlist file)
  return { config, paths, jobs, allow }

end Options

end NativeVariants
