import NativeVariants.Table

set_option autoImplicit false

/-!
What can go wrong in a way that is reported to the user. `Problem` lists the causes, `Report` is the
common form in which they are shown: a message, perhaps a hint, and named facts.
-/

namespace NativeVariants

inductive FailureClass where
  | configuration
  | source
  | bindings
  | nativeBuild (variant : String)
  | metadataKey (key : String)
  | metadataConflict (key : String)
  deriving DecidableEq, Repr

def FailureClass.code : FailureClass → String
  | .configuration => "E_CONFIG"
  | .source => "E_SOURCE"
  | .bindings => "E_BINDINGS"
  | .nativeBuild _ => "E_NATIVE_BUILD"
  | .metadataKey _ => "E_METADATA_KEY"
  | .metadataConflict _ => "E_METADATA_CONFLICT"

structure Report where
  failureClass : FailureClass
  summary : String
  hint? : Option String
  facts : Table String String
  deriving DecidableEq, Repr

namespace Report

/-- The summary, the hint and the facts that are not empty, a line each. -/
def message (r : Report) : String :=
  let hintLines :=
    match r.hint? with
    | some hint => if hint = "" then [] else ["Hint: " ++ hint]
    | none => []
  let factLines :=
    r.facts.entries.filterMap fun (key, value) =>
      if value = "" then none else some s!"  {key}: {value}"
  "\n".intercalate (r.summary :: hintLines ++ factLines)

/-- The variant comes first among the facts; a fact of that name replaces it. -/
def ofNativeBuild (summary variant : String) (hint? : Option String)
    (facts : Table String String) : Report :=
  ⟨.nativeBuild variant, summary, hint?, (Table.ofList [("variant", variant)]).setAll facts.entries⟩

def ofMetadataKey (key : String) (hint? : Option String) : Report :=
  ⟨.metadataKey key, s!"Metadata key not found: {key}", hint?, Table.ofList [("key", key)]⟩

def ofMetadataConflict (key published rejected : String) : Report :=
  ⟨.metadataConflict key, s!"Metadata key {key} already published with a different value", none,
    Table.ofList [("key", key), ("published", published), ("rejected", rejected)]⟩

end Report

inductive Problem where
  | missingTarget
  | unknownFeature (name : String) (known : List String)
  | conflictingFeatures (names : List String)
  | appleOnlyFeature (name target : String)
  | missingVariable (feature variableName : String)
  | duplicateVariantName (name : String)
  | duplicateVariantBasename (basename name : String)
  | reservedBasename (name basename : String)
  | unknownVariant (name : String) (registered : List String)
  | malformedProjectFile (path detail : String)
  | projectFileNotMapping (path : String)
  | badJobs (value : String)
  | badAllowlist
  | missingSource (path sourceDir : String)
  | missingHeader (path : String)
  | badHeader (path : String) (complaints : List String) (location : String)
  | noDeclarations (path : String) (includeDirs : List String)
  | missingTool (tool step variant : String)
  | failedStep (step variant : String) (status : Int) (command output errorOutput : String)
  | metadataKey (key : String) (hint : String)
  | metadataConflict (key published rejected : String)
  | malformedMetadata (path detail : String)
  deriving DecidableEq, Repr

namespace Problem

def configuration (summary : String) (hint? : Option String) (facts : List (String × String)) :
    Report :=
  ⟨.configuration, summary, hint?, Table.ofList facts⟩

def report : Problem → Report
  | .missingTarget =>
      configuration "Target triple is required" (some "Pass --target or set TARGET") []
  | .unknownFeature name known =>
      configuration s!"Unknown feature: {name}"
        (some ("Known features: " ++ ", ".intercalate known)) []
  | .conflictingFeatures names =>
      configuration
        ("Features " ++ " and ".intercalate names ++
          " are mutually exclusive: each selects its own C/C++ compiler")
        none [("features", ", ".intercalate names)]
  | .appleOnlyFeature name target =>
      configuration s!"Feature {name} is only available on Apple targets (target: {target})"
        none []
  | .missingVariable feature variableName =>
      configuration s!"Feature {feature} requires the {variableName} environment variable"
        (some s!"Install the SDK and set {variableName} to its location")
        [("variable", variableName)]
  | .duplicateVariantName name =>
      configuration s!"Duplicate variant name in registry: {name}" none []
  | .duplicateVariantBasename basename name =>
      configuration s!"Duplicate variant basename in registry: {basename}" none
        [("variant", name)]
  | .reservedBasename name basename =>
      configuration s!"Variant {name} reuses the unnamespaced basename {basename}" none []
  | .unknownVariant name registered =>
      configuration s!"Unknown variant: {name}"
        (some ("Registered: " ++ ", ".intercalate registered)) []
  | .malformedProjectFile path detail =>
      configuration s!"Invalid YAML in {path}" none [("error", detail)]
  | .projectFileNotMapping path =>
      configuration s!"{path} must contain a mapping at top level" none []
  | .badJobs value => configuration s!"jobs must be an integer, got {value}" none []
  | .badAllowlist =>
      configuration "allowlist must be a mapping of functions/types/constants to pattern lists"
        none []
  | .missingSource path sourceDir =>
      ⟨.source, s!"Required source path not found: {path}",
        some "Is the ggml source tree vendored (git submodule update --init)?",
        Table.ofList [("source_dir", sourceDir)]⟩
  | .missingHeader path =>
      ⟨.bindings, s!"Wrapper header not found: {path}",
        some "The wrapper header must include ggml.h and gguf.h.", ∅⟩
  | .badHeader path complaints location =>
      ⟨.bindings, s!"Failed to parse {path}: " ++ complaints.headD "",
        some "Check the include directories and that the ggml headers are complete.",
        Table.ofList [("location", location), ("diagnostics", "; ".intercalate complaints)]⟩
  | .noDeclarations path includeDirs =>
      ⟨.bindings, s!"No allowlisted declarations found in {path}",
        some
          "Check that the wrapper header includes the ggml headers and the allowlist patterns.",
        Table.ofList [("include_dirs", ", ".intercalate includeDirs)]⟩
  | .missingTool tool step variant =>
      .ofNativeBuild s!"{tool} not found while running CMake {step} for variant {variant}" variant
        (some "Install CMake and a C/C++ toolchain") ∅
  | .failedStep step variant status command output errorOutput =>
      .ofNativeBuild s!"CMake {step} failed for variant {variant} (exit code {status})" variant
        none
        (Table.ofList [("command", command), ("stdout", output), ("stderr", errorOutput)])
  | .metadataKey key hint => .ofMetadataKey key (some hint)
  | .metadataConflict key published rejected => .ofMetadataConflict key published rejected
  | .malformedMetadata path detail =>
      configuration s!"Metadata file is not valid JSON: {path}" none [("error", detail)]

def message (problem : Problem) : String := problem.report.message

end Problem

end NativeVariants
