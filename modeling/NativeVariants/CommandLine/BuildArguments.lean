import NativeVariants.Build.Options

set_option autoImplicit false

/-!
The arguments of the build command. A long option may be shortened as long as it stays unambiguous;
short options may be written together, and a value may follow its option directly or after an equals
sign. What an argument is gets decided for all of them first; then they are taken in order.
-/

namespace NativeVariants

inductive BuildOption where
  | help
  | projectRoot
  | outDir
  | target
  | features
  | multiVariant
  | jobs
  | stagingDir
  | verbose
  deriving DecidableEq, Repr

namespace BuildOption

def spellings : List (String × BuildOption) :=
  [("-h", help), ("--help", help), ("--project-root", projectRoot), ("--out-dir", outDir),
    ("--target", target), ("--features", features), ("--multi-variant", multiVariant),
    ("--jobs", jobs), ("-j", jobs), ("--stage-runtime-dir", stagingDir),
    ("--verbose", verbose), ("-v", verbose)]

def takesValue : BuildOption → Bool
  | help => false
  | multiVariant => false
  | verbose => false
  | _ => true

def displayName (o : BuildOption) : String :=
  "/".intercalate ((spellings.filter (·.2 = o)).map (·.1))

end BuildOption

inductive UsageFault where
  | ambiguous (arg : String) (candidates : List String)
  | missingValue (option : BuildOption)
  | ignoredValue (option : BuildOption) (value : String)
  | notAnInteger (value : String)
  | tooSmall (value : String)
  | unrecognized (args : List String)
  deriving DecidableEq, Repr

def UsageFault.message : UsageFault → String
  | ambiguous arg candidates =>
      s!"ambiguous option: {arg} could match " ++ ", ".intercalate candidates
  | missingValue option => s!"argument {option.displayName}: expected one argument"
  | ignoredValue option value =>
      s!"argument {option.displayName}: ignored explicit argument {Text.quoted value}"
  | notAnInteger value => s!"argument {BuildOption.jobs.displayName}: not an integer: {value}"
  | tooSmall value => s!"argument {BuildOption.jobs.displayName}: must be >= 1: {value}"
  | unrecognized args => "unrecognized arguments: " ++ " ".intercalate args

/-- A value that is part of the same argument as its option. -/
inductive Attached where
  | nothing
  /-- Directly behind a short option. -/
  | joined (value : List Char)
  | afterEquals (value : List Char)
  deriving DecidableEq, Repr

inductive ArgumentRole where
  | value
  /-- The two dashes behind which there are no options. -/
  | separator
  | option (spelling : String) (option : BuildOption) (attached : Attached)
  /-- It looks like an option and is none. -/
  | unknown
  deriving DecidableEq, Repr

structure Argument where
  text : String
  role : ArgumentRole
  deriving DecidableEq, Repr

namespace Argument
open Text

def isNegativeNumber (text : List Char) : Bool :=
  let isEnd (rest : List Char) := rest.isEmpty || rest = ['\n']
  match text with
  | '-' :: rest =>
      let whole := rest.takeWhile isDecimal
      match rest.dropWhile isDecimal with
      | '.' :: fraction =>
          (fraction.head?.map isDecimal).getD false && isEnd (fraction.dropWhile isDecimal)
      | more => !whole.isEmpty && isEnd more
  | _ => false

/-- The text before the first equals sign, and the text after it if there is one. -/
def cutAtEquals (text : List Char) : List Char × Option (List Char) :=
  match text.dropWhile (· ≠ '=') with
  | [] => (text, none)
  | _ :: after => (text.takeWhile (· ≠ '='), some after)

/-- All options that a text may stand for, with what is attached to them. -/
def candidates (text : List Char) : List (String × BuildOption × Attached) :=
  let (before, after?) := cutAtEquals text
  let attached := (after?.map Attached.afterEquals).getD .nothing
  match text with
  | '-' :: '-' :: _ =>
      (BuildOption.spellings.filter fun (spelling, _) => before.isPrefixOf spelling.toList).map
        fun (spelling, option) => (spelling, option, attached)
  | _ =>
      (BuildOption.spellings.filter fun (spelling, _) => spelling.toList = text.take 2).map
        fun (spelling, option) => (spelling, option, .joined (text.drop 2))

/-- The role of an argument that begins with a dash and is no option as it stands. -/
def guessRole (text : String) : Except UsageFault ArgumentRole :=
  match candidates text.toList with
  | [(spelling, option, attached)] => .ok (.option spelling option attached)
  | [] =>
      if isNegativeNumber text.toList || text.toList.contains ' ' then .ok .value
      else .ok .unknown
  | several => .error (.ambiguous text (several.map (·.1)))

def roleOf (text : String) : Except UsageFault ArgumentRole :=
  match text.toList with
  | '-' :: _ :: _ =>
      let (before, after?) := cutAtEquals text.toList
      let known? spelling := BuildOption.spellings.lookup spelling
      match known? text, known? (String.ofList before), after? with
      | some option, _, _ => .ok (.option text option .nothing)
      | none, some option, some after =>
          .ok (.option (String.ofList before) option (.afterEquals after))
      | _, _, _ => guessRole text
  | _ => .ok .value

def classify : List String → Except UsageFault (List Argument)
  | [] => .ok []
  | arg :: rest =>
      if arg = "--" then .ok (⟨arg, .separator⟩ :: rest.map (⟨·, .value⟩))
      else do
        let role ← roleOf arg
        return ⟨arg, role⟩ :: (← classify rest)

end Argument

/-- An option with its value; the value is empty if it takes none. -/
structure OptionUse where
  option : BuildOption
  value : String
  deriving DecidableEq, Repr

/-- What one argument comes to: options in order, whether the following argument is the value of the
last one, and a part that is not recognized. -/
structure Reading where
  uses : List OptionUse
  wantsNext : Option BuildOption
  leftOver : List String
  deriving DecidableEq, Repr

namespace Reading

def isShort (spelling : String) : Bool := !("--".isPrefixOf spelling)

/-- Reads an option with what is attached to it. Behind a short option without a value there may be
further short options. -/
def ofOption (spelling : String) (option : BuildOption) :
    (fuel : Nat) → Attached → Except UsageFault Reading
  | 0, _ => .ok ⟨[], none, []⟩
  | fuel + 1, attached =>
      if option.takesValue then
        match attached with
        | .nothing => .ok ⟨[], some option, []⟩
        | .joined value => .ok ⟨[⟨option, String.ofList value⟩], none, []⟩
        | .afterEquals value => .ok ⟨[⟨option, String.ofList value⟩], none, []⟩
      else
        match attached with
        | .nothing => .ok ⟨[⟨option, ""⟩], none, []⟩
        | .afterEquals value => .error (.ignoredValue option (String.ofList value))
        | .joined [] => .error (.ignoredValue option "")
        | .joined (c :: rest) =>
            if !isShort spelling || c = '-' then
              .error (.ignoredValue option (String.ofList (c :: rest)))
            else
              let next := String.ofList ['-', c]
              match BuildOption.spellings.lookup next with
              | none => .ok ⟨[⟨option, ""⟩], none, [String.ofList ('-' :: c :: rest)]⟩
              | some nextOption => do
                  let attached :=
                    match rest with
                    | [] => .nothing
                    | '=' :: value => .afterEquals value
                    | _ => .joined rest
                  let reading ← ofOption next nextOption fuel attached
                  return { reading with uses := ⟨option, ""⟩ :: reading.uses }

end Reading

structure BuildArguments where
  projectRoot? : Option Path
  outDir? : Option Path
  target? : Option String
  features : List String
  multiVariant : Bool
  jobs? : Option Int
  stagingDir? : Option Path
  isVerbose : Bool
  deriving DecidableEq, Repr

/-- Why the arguments do not lead to a build. -/
inductive Refusal where
  | help
  | usage (fault : UsageFault)
  deriving DecidableEq, Repr

namespace BuildArguments

def empty : BuildArguments := ⟨none, none, none, [], false, none, none, false⟩

def readJobs (text : String) : Except UsageFault Int :=
  match Text.readInt? 10 text.toList with
  | none => .error (.notAnInteger text)
  | some n => if n < 1 then .error (.tooSmall text) else .ok n

/-- Takes one option. Help ends everything. -/
def take (arguments : BuildArguments) (use : OptionUse) : Except Refusal BuildArguments :=
  match use.option with
  | .help => .error .help
  | .projectRoot => .ok { arguments with projectRoot? := some (.ofText use.value) }
  | .outDir => .ok { arguments with outDir? := some (.ofText use.value) }
  | .target => .ok { arguments with target? := some use.value }
  | .features => .ok { arguments with features := arguments.features ++ [use.value] }
  | .multiVariant => .ok { arguments with multiVariant := true }
  | .jobs => do
      let jobs ← (readJobs use.value).mapError .usage
      return { arguments with jobs? := some jobs }
  | .stagingDir => .ok { arguments with stagingDir? := some (.ofText use.value) }
  | .verbose => .ok { arguments with isVerbose := true }

/-- What is done about the arguments, one thing at a time. -/
inductive Step where
  | use (use : OptionUse)
  | leave (text : String)
  | fail (fault : UsageFault)
  deriving DecidableEq, Repr

/-- What an argument comes to on its own. Values that follow no option are left over. -/
def readingOf (arg : Argument) : Except UsageFault Reading :=
  match arg.role with
  | .option spelling option attached =>
      Reading.ofOption spelling option (arg.text.length + 1) attached
  | _ => .ok ⟨[], none, [arg.text]⟩

def Step.ofReading (reading : Reading) : List Step :=
  reading.leftOver.map .leave ++ reading.uses.map .use

/-- The steps for all arguments, up to the first fault in what they look like. -/
def steps : List Argument → List Step
  | [] => []
  | [arg] =>
      match readingOf arg with
      | .error fault => [.fail fault]
      | .ok reading =>
          match reading.wantsNext with
          | none => Step.ofReading reading
          | some last => [.fail (.missingValue last)]
  | arg :: next :: rest =>
      match readingOf arg with
      | .error fault => [.fail fault]
      | .ok reading =>
          match reading.wantsNext with
          | none => Step.ofReading reading ++ steps (next :: rest)
          | some last =>
              if next.role = .value then
                Step.ofReading reading ++ .use ⟨last, next.text⟩ :: steps rest
              else [.fail (.missingValue last)]

def takeStep (state : BuildArguments × List String) :
    Step → Except Refusal (BuildArguments × List String)
  | .use use => do return (← take state.1 use, state.2)
  | .leave text => .ok (state.1, state.2 ++ [text])
  | .fail fault => .error (.usage fault)

/-- The arguments of the command. Those that are not recognized are reported last. -/
def parse (args : List String) : Except Refusal BuildArguments := do
  let classified ← (Argument.classify args).mapError .usage
  let (arguments, leftOver) ← (steps classified).foldlM takeStep (empty, [])
  if leftOver.isEmpty then return arguments else throw (.usage (.unrecognized leftOver))

def toOptions (arguments : BuildArguments) (workingDir : Path) : Options :=
  { Options.default with
    projectRoot := arguments.projectRoot?.getD workingDir
    outDir? := arguments.outDir?
    target? := arguments.target?
    features? := if arguments.features.isEmpty then none else some arguments.features
    multiVariant? := if arguments.multiVariant then some true else none
    jobs := (arguments.jobs?.map Datum.int).getD .null
    stagingDir? := arguments.stagingDir? }

end BuildArguments

def buildUsage : List String :=
  ["usage: ggml-tooling build [-h] [--project-root PROJECT_ROOT]",
    "                          [--out-dir OUT_DIR] [--target TARGET]",
    "                          [--features FEATURES] [--multi-variant]",
    "                          [--jobs JOBS]",
    "                          [--stage-runtime-dir STAGE_RUNTIME_DIR] [--verbose]"]

def buildHelp : List String :=
  buildUsage ++
  ["",
    "Build ggml (once per variant), generate bindings and publish metadata",
    "",
    "options:",
    "  -h, --help            show this help message and exit",
    "  --project-root PROJECT_ROOT",
    "                        Project root (default: cwd)",
    "  --out-dir OUT_DIR     Output root (default: build/ggml-tooling)",
    "  --target TARGET       Target triple (default: $TARGET, then host)",
    "  --features FEATURES   Backends to enable, comma separated (cuda, metal,",
    "                        vulkan, openblas, hipblas, intel-sycl, openmp)",
    "  --multi-variant       Build every registered variant under its own basename",
    "  --jobs JOBS, -j JOBS  Parallel compile jobs",
    "  --stage-runtime-dir STAGE_RUNTIME_DIR",
    "                        Copy the built shared libraries into this directory",
    "  --verbose, -v         Debug logging"]

end NativeVariants
