import NativeVariants.Proofs.Build.BindingsOnly
import NativeVariants.Proofs.Build.RepeatedBindings
import NativeVariants.Proofs.BuildConfig.RequestOrder

set_option autoImplicit false

/-!
Where options come from. What they are settled to is a function of the environment, the host, the
working directory and the entries of the project file (`Options.fst_settle`). A source that counts
hides those below it, and what is hidden makes no difference, not even to a failure
(`Options.settle_eq_of_sameSources`).
-/

namespace NativeVariants

theorem fst_runFrom_bind {σ α β : Type} (x : Stateful σ α) (f : α → Stateful σ β) (s : σ) :
    (runFrom (x >>= f) s).1 =
      (runFrom x s).1 >>= fun a => (runFrom (f a) (runFrom x s).2).1 := by
  rw [runFrom_bind]
  rcases runFrom x s with ⟨_ | a, s'⟩ <;> rfl

/-! ### The entries of the project file -/

namespace ProjectFile

/-- The entries of a document; an empty one has none. -/
def entriesOf (path text : String) : Except Failure (List (Datum × Datum)) := do
  match ← (Yaml.load text).mapError (.ofYaml path faultMark) with
  | .null => return []
  | .map entries => return entries
  | _ => throw (.problem (.projectFileNotMapping path))

/-- The entries of the file in a project's root; without a file there are none. -/
def entriesIn (root : Path) : Run (List (Datum × Datum)) := do
  let path := root.child name
  if ← Run.isFile path then ofExcept (entriesOf path.display (← Run.readText path))
  else return []

def optionsOf (entries : List (Datum × Datum)) : List (String × Datum) :=
  optionKeys.filterMap fun key => (Datum.lookup? entries key).map (key, ·)

theorem ofText_eq_bind (path text : String) :
    ofText path text = entriesOf path text >>= ofEntries := by
  unfold ofText entriesOf
  rw [bind_assoc]
  refine bind_congr fun document => ?_
  cases document <;> rfl

theorem load_eq_bind (root : Path) :
    load root = entriesIn root >>= fun entries => ofExcept (ofEntries entries) := by
  have read (path text : String) : (ofExcept (ofText path text) : Run ProjectFile) =
      ofExcept (entriesOf path text) >>= fun entries => ofExcept (ofEntries entries) := by
    rw [ofText_eq_bind]
    cases entriesOf path text <;> rfl
  unfold load entriesIn
  simp only [bind_assoc]
  refine bind_congr fun there => ?_
  cases there with
  | false => rfl
  | true => simp only [if_true, bind_assoc, read]

theorem snd_entriesIn (root : Path) (m : Machine) : (runFrom (entriesIn root) m).2 = m := by
  have kept : Respects Eq (entriesIn root) := by
    refine (Run.respects_isFile _).bind fun there => .ite (fun _ => ?_) fun _ => respects_pure _
    exact (Run.respects_readText _).bind fun text => respects_ofExcept _
  exact (kept m).symm

theorem ofEntries_eq_map (entries : List (Datum × Datum)) :
    ofEntries entries = (Layout.ofEntries entries).map (⟨·, optionsOf entries⟩) := by
  unfold ofEntries
  cases Layout.ofEntries entries <;> rfl

theorem lookup_filterMap_key {α : Type} (keys : List String) (value? : String → Option α)
    (key : String) :
    (keys.filterMap fun k => (value? k).map (k, ·)).lookup key =
      if key ∈ keys then value? key else none := by
  induction keys with
  | nil => rfl
  | cons first rest ih =>
      by_cases here : key = first
      · subst here
        cases found : value? key with
        | none => simp [ih, found]
        | some value => simp [found]
      · cases found : value? first with
        | none => simp [ih, found, here]
        | some value => simp [ih, found, here, Table.lookup_cons_eq_ite]

/-- What a project file sets is what is among its entries. -/
theorem option?_ofEntries (layout : Layout) (entries : List (Datum × Datum)) (key : String) :
    option? ⟨layout, optionsOf entries⟩ key =
      if key ∈ optionKeys then Datum.lookup? entries key else none :=
  lookup_filterMap_key optionKeys _ key

end ProjectFile

/-! ### Settling as a function -/

def ProjectPaths.ofLayout? (workingDir : Location) (projectRoot : Path) (layout : Layout)
    (outDir? : Option Path) : Except Failure ProjectPaths :=
  if (resolved workingDir projectRoot layout outDir?).all (·.isNameable) then
    .ok (ofLayout workingDir projectRoot layout outDir?)
  else .error .badValue

theorem ProjectPaths.runFrom_resolve (root : Path) (layout : Layout) (outDir? : Option Path)
    (m : Machine) :
    runFrom (resolve root layout outDir?) m = (ofLayout? m.workingDir root layout outDir?, m) := by
  have step {p : Path} {f : Path → Run ProjectPaths} {rest : Bool} {paths : ProjectPaths}
      (next : runFrom (f (p.absolute m.workingDir)) m =
        (if rest then .ok paths else .error .badValue, m)) :
      runFrom (Run.resolve p >>= f) m =
        (if p.isNameable && rest then .ok paths else .error .badValue, m) := by
    rw [runFrom_bind, Run.runFrom_resolve]
    cases p.isNameable with
    | true => exact next
    | false => rfl
  exact step (step (step (step rfl)))

namespace Options

def settleWith (options : Options) (environ : Environ) (host : Host) (workingDir : Location)
    (file : ProjectFile) : Except Failure Settled := do
  let paths ← ProjectPaths.ofLayout? workingDir options.projectRoot file.layout options.outDir?
  let features ← options.features environ file
  let config ← (BuildConfig.resolve (options.buildRequest environ host file features)).mapError
    .problem
  let jobs ← options.chosenJobs file
  let allow ← allowlist file
  return { config, paths, jobs, allow }

theorem fst_settle (options : Options) (environ : Environ) (m : Machine) :
    (runFrom (options.settle environ) m).1 =
      (runFrom (ProjectFile.entriesIn options.projectRoot) m).1 >>= fun entries =>
        ProjectFile.ofEntries entries >>= options.settleWith environ m.host m.workingDir := by
  unfold settle settleWith
  rw [ProjectFile.load_eq_bind, bind_assoc, fst_runFrom_bind, ProjectFile.snd_entriesIn]
  refine bind_congr fun entries => ?_
  rw [fst_runFrom_bind, runFrom_ofExcept]
  refine bind_congr fun file => ?_
  rw [fst_runFrom_bind, ProjectPaths.runFrom_resolve]
  refine bind_congr fun paths => ?_
  rw [fst_runFrom_bind, runFrom_ofExcept]
  refine bind_congr fun features => ?_
  rw [runFrom_bind_of_ok (runFrom_get m), fst_runFrom_bind, Run.ofReported, runFrom_ofExcept]
  refine bind_congr fun config => ?_
  rw [(Run.returns_note _ _).runFrom_bind, fst_runFrom_bind, runFrom_ofExcept]
  refine bind_congr fun jobs => ?_
  rw [fst_runFrom_bind, runFrom_ofExcept]
  rfl

/-! ### What is hidden -/

/-- The option counts before a variable. -/
def HidesVariable (options : Options) (key : String) : Prop :=
  (key = targetVariable ∧ ∃ triple ∈ options.target?, triple ≠ "") ∨
    (key = featuresVariable ∧ options.features?.isSome) ∨
    (key = multiVariantVariable ∧ options.multiVariant?.isSome)

/-- The option counts before an entry of the project file, or a variable does that is set, be it to
the empty text. -/
def HidesEntry (options : Options) (environ : Environ) (key : String) : Prop :=
  (key = "features" ∧ (options.features?.isSome ∨ environ.contains featuresVariable)) ∨
    (key = "multi_variant" ∧
      (options.multiVariant?.isSome ∨ environ.contains multiVariantVariable)) ∨
    (key = "jobs" ∧ options.jobs ≠ .null)

/-- There is a target, so the host does not count. -/
def HidesHost (options : Options) (environ : Environ) : Prop :=
  (∃ triple ∈ options.target?, triple ≠ "") ∨ ∃ triple, environ.nonEmpty? targetVariable = some triple

/-- Both project files are the same but for entries that are hidden. -/
inductive SameDocument (hidden : String → Prop) :
    Except Failure (List (Datum × Datum)) → Except Failure (List (Datum × Datum)) → Prop
  | unreadable (failure : Failure) : SameDocument hidden (.error failure) (.error failure)
  | read {entries others : List (Datum × Datum)}
      (same : ∀ key, ¬hidden key → Datum.lookup? others key = Datum.lookup? entries key) :
      SameDocument hidden (.ok entries) (.ok others)

/-- Both machines and environments are the same as far as the options have to do with them, but for
what is hidden. -/
structure SameSources (options : Options) (environ other : Environ) (m m' : Machine) : Prop where
  workingDir : m'.workingDir = m.workingDir
  host : ¬options.HidesHost environ → m'.host = m.host
  environs : ∀ key, ¬options.HidesVariable key → other.get? key = environ.get? key
  document : SameDocument (options.HidesEntry environ)
    (runFrom (ProjectFile.entriesIn options.projectRoot) m).1
    (runFrom (ProjectFile.entriesIn options.projectRoot) m').1

section Hidden

variable {options : Options} {environ : Environ}

@[simp]
theorem hidesVariable_target :
    options.HidesVariable targetVariable ↔ ∃ triple ∈ options.target?, triple ≠ "" := by
  simp [HidesVariable, targetVariable, featuresVariable, multiVariantVariable]

@[simp]
theorem hidesVariable_features :
    options.HidesVariable featuresVariable ↔ options.features?.isSome = true := by
  simp [HidesVariable, targetVariable, featuresVariable, multiVariantVariable]

@[simp]
theorem hidesVariable_multiVariant :
    options.HidesVariable multiVariantVariable ↔ options.multiVariant?.isSome = true := by
  simp [HidesVariable, targetVariable, featuresVariable, multiVariantVariable]

theorem HidesVariable.mem_asked {key : String} (hidden : options.HidesVariable key) :
    key ∈ asked := by
  rcases hidden with ⟨rfl, _⟩ | ⟨rfl, _⟩ | ⟨rfl, _⟩ <;> decide

theorem HidesEntry.mem {key : String} (hidden : options.HidesEntry environ key) :
    key ∈ ["features", "multi_variant", "jobs"] := by
  rcases hidden with ⟨rfl, _⟩ | ⟨rfl, _⟩ | ⟨rfl, _⟩ <;> decide

end Hidden

section Environment

variable {options : Options} {environ other : Environ}
  (same : ∀ key, ¬options.HidesVariable key → other.get? key = environ.get? key)
include same

/-- Variables that stand in for options do not reach a configuration by another way. -/
theorem get?_of_isConsulted {key : String} (consulted : BuildConfig.IsConsulted key) :
    other.get? key = environ.get? key := by
  have apart : ∀ key ∈ asked, isForwarded key = false ∧ key ∉ optionalVariables ∧
      ∀ b ∈ Backend.all, b.kitVariable? ≠ some key := by
    decide +kernel
  refine same key fun hidden => ?_
  obtain ⟨noDefine, notOptional, noKit⟩ := apart key hidden.mem_asked
  rcases consulted with isDefine | optional | ⟨b, kit⟩
  · rw [noDefine] at isDefine
    cases isDefine
  · exact notOptional optional
  · exact noKit b b.mem_all kit

theorem docsSignal?_of_unhidden : other.docsSignal? = environ.docsSignal? := by
  have unasked : ∀ signal ∈ Environ.docsSignals, signal ∉ asked := by decide
  exact Environ.docsSignal?_congr fun key isSignal =>
    same key fun hidden => unasked key isSignal hidden.mem_asked

theorem target_congr {host host' : Host} (sameHost : ¬options.HidesHost environ → host' = host) :
    options.target other host' = options.target environ host := by
  by_cases given : ∃ triple ∈ options.target?, triple ≠ ""
  · obtain ⟨triple, isTarget, named⟩ := given
    have kept : options.target?.filter (· ≠ "") = some triple :=
      Option.filter_eq_some_iff.mpr ⟨isTarget, by simpa using named⟩
    unfold target
    rw [kept]
  · have sameVariable : other.nonEmpty? targetVariable = environ.nonEmpty? targetVariable := by
      apply BuildConfig.nonEmpty?_congr
      exact same targetVariable (mt hidesVariable_target.mp given)
    unfold target
    rw [sameVariable]
    cases set : environ.nonEmpty? targetVariable with
    | some triple => rfl
    | none =>
        have unhidden : ¬options.HidesHost environ := by
          rintro (isGiven | ⟨triple, isSet⟩)
          · exact given isGiven
          · rw [set] at isSet
            cases isSet
        rw [sameHost unhidden]

end Environment

section Entries

variable {options : Options} {environ other : Environ} {file otherFile : ProjectFile}

section File

variable (sameFile : ∀ key, ¬options.HidesEntry environ key →
  otherFile.option? key = file.option? key)
include sameFile

theorem chosenJobs_congr : options.chosenJobs otherFile = options.chosenJobs file := by
  by_cases given : options.jobs = .null
  · unfold chosenJobs
    rw [sameFile "jobs" (by simp [HidesEntry, given])]
  · have chosen (f : ProjectFile) : options.chosenJobs f = .ok options.jobs := by
      unfold chosenJobs
      split <;> first | rfl | contradiction
    rw [chosen, chosen]

theorem allowlist_congr : allowlist otherFile = allowlist file := by
  unfold allowlist
  rw [sameFile "allowlist" (by simp [HidesEntry])]

end File

variable (sameEnviron : ∀ key, ¬options.HidesVariable key → other.get? key = environ.get? key)
  (sameFile : ∀ key, ¬options.HidesEntry environ key → otherFile.option? key = file.option? key)
include sameEnviron sameFile

theorem features_congr : options.features other otherFile = options.features environ file := by
  unfold features
  cases given : options.features? with
  | some names => rfl
  | none =>
      rw [sameEnviron featuresVariable (by simp [given])]
      cases set : environ.get? featuresVariable with
      | some text => rfl
      | none => rw [sameFile "features" (by simp [HidesEntry, given, Table.contains, set])]

theorem multiVariant_congr :
    options.multiVariant other otherFile = options.multiVariant environ file := by
  unfold multiVariant
  cases given : options.multiVariant? with
  | some b => rfl
  | none =>
      have sameVariable : other.get? multiVariantVariable = environ.get? multiVariantVariable :=
        sameEnviron _ (by simp [given])
      unfold Environ.flag Table.contains
      rw [sameVariable]
      cases set : environ.get? multiVariantVariable with
      | some text => rfl
      | none =>
          rw [sameFile "multi_variant" (by simp [HidesEntry, given, Table.contains, set])]

theorem settleWith_congr {host host' : Host} {workingDir : Location}
    (sameHost : ¬options.HidesHost environ → host' = host)
    (sameLayout : otherFile.layout = file.layout) :
    options.settleWith other host' workingDir otherFile =
      options.settleWith environ host workingDir file := by
  have request (features : List String) :
      BuildConfig.resolve (options.buildRequest other host' otherFile features) =
        BuildConfig.resolve (options.buildRequest environ host file features) := by
    have asks : options.buildRequest other host' otherFile features =
        { options.buildRequest environ host file features with environ := other } := by
      unfold buildRequest
      rw [target_congr sameEnviron sameHost, multiVariant_congr sameEnviron sameFile,
        docsSignal?_of_unhidden sameEnviron]
    have demands : BuildConfig.ofFeatures
        { options.buildRequest environ host file features with environ := other } =
          BuildConfig.ofFeatures (options.buildRequest environ host file features) :=
      BuildConfig.ofFeatures_environ fun key => get?_of_isConsulted sameEnviron
    rw [asks, BuildConfig.resolve_eq_bind, BuildConfig.resolve_eq_bind, demands]
  unfold settleWith
  simp only [sameLayout, features_congr sameEnviron sameFile, request, chosenJobs_congr sameFile,
    allowlist_congr sameFile]

end Entries

theorem layoutOfEntries_congr {options : Options} {environ : Environ}
    {entries others : List (Datum × Datum)}
    (same : ∀ key, ¬options.HidesEntry environ key →
      Datum.lookup? others key = Datum.lookup? entries key) :
    Layout.ofEntries others = Layout.ofEntries entries := by
  have part {key : String} (own : key ∉ ["features", "multi_variant", "jobs"])
      (default : String) : Layout.part others key default = Layout.part entries key default := by
    unfold Layout.part
    rw [same key (mt HidesEntry.mem own)]
  unfold Layout.ofEntries
  rw [part (by decide), part (by decide), part (by decide), part (by decide), part (by decide),
    part (by decide)]

/-- Options are settled in the same way, or fail to be for the same reason, whatever the sources
say that are hidden. -/
theorem settle_eq_of_sameSources {options : Options} {environ other : Environ} {m m' : Machine}
    (same : options.SameSources environ other m m') :
    (runFrom (options.settle other) m').1 = (runFrom (options.settle environ) m).1 := by
  rw [fst_settle, fst_settle, same.workingDir]
  obtain ⟨_, host, environs, document⟩ := same
  generalize (runFrom (ProjectFile.entriesIn options.projectRoot) m).1 = entries,
    (runFrom (ProjectFile.entriesIn options.projectRoot) m').1 = others at document ⊢
  cases document with
  | unreadable failure => simp only [bind, Except.bind]
  | read sameEntries =>
      change ProjectFile.ofEntries _ >>= _ = ProjectFile.ofEntries _ >>= _
      rw [ProjectFile.ofEntries_eq_map, ProjectFile.ofEntries_eq_map,
        layoutOfEntries_congr sameEntries]
      cases Layout.ofEntries _ with
      | error failure => simp only [Except.map, bind, Except.bind]
      | ok layout =>
          refine settleWith_congr environs (fun key unhidden => ?_) host rfl
          rw [ProjectFile.option?_ofEntries, ProjectFile.option?_ofEntries,
            sameEntries key unhidden]

def ofMac : Options :=
  { Options.default with
    projectRoot := .ofText "."
    target? := some "aarch64-apple-darwin"
    features? := some ["metal"]
    multiVariant? := some true
    jobs := .int 2 }

/-- A project whose file says what nobody could use. -/
def strangeProject : Machine :=
  { smallProject [] with
    host := ⟨"AMD64", "Windows", none⟩
    files := (smallProject []).files.set ["work", "ggml-tooling.yaml"]
      (.file (.text "features: 5\njobs: many\nmulti_variant: []\n")) }

def strangeEnviron : Environ :=
  ((Table.ofList [("GGML_NATIVE", "OFF")]).set featuresVariable "no such").set targetVariable ""

theorem eq_text_of_sameKey {a : Datum} {k : String} (same : a.sameKey (.text k) = true) :
    a = .text k := by
  unfold Datum.sameKey Datum.asInt? at same
  cases a with
  | text s => exact congrArg Datum.text (of_decide_eq_true same)
  | real x =>
      cases whole : x.toInt? with
      | none => simp [whole] at same
      | some n => simp [whole] at same
  | _ => simp at same

theorem lookup?_eq_none {entries : List (Datum × Datum)} {keys : List String} {key : String}
    (only : (entries.all fun entry => keys.any fun k => entry.1.sameKey (.text k)) = true)
    (absent : key ∉ keys) : Datum.lookup? entries key = none := by
  unfold Datum.lookup?
  rw [Option.map_eq_none_iff, List.find?_eq_none]
  intro entry inside found
  obtain ⟨k, isKey, same⟩ := List.any_eq_true.mp (List.all_eq_true.mp only entry inside)
  have texts : Datum.text k = .text key := (eq_text_of_sameKey same).symm.trans (eq_text_of_sameKey found)
  cases texts
  exact absent isKey

/-- The strange project is settled like the small one. -/
theorem settle_strangeProject :
    ofMac.SameSources (.ofList [("GGML_NATIVE", "OFF")]) strangeEnviron (smallProject [])
        strangeProject ∧
      (runFrom (ofMac.settle strangeEnviron) strangeProject).1 =
        (runFrom (ofMac.settle (.ofList [("GGML_NATIVE", "OFF")])) (smallProject [])).1 ∧
      (runFrom (ofMac.settle strangeEnviron) strangeProject).1.isOk = true := by
  have none : (runFrom (ProjectFile.entriesIn (.ofText ".")) (smallProject [])).1 = .ok [] := rfl
  have strange : ((runFrom (ProjectFile.entriesIn (.ofText ".")) strangeProject).1.map fun entries =>
      entries.all fun entry => ["features", "multi_variant", "jobs"].any fun k =>
        entry.1.sameKey (.text k)) = .ok true := by
    decide +kernel
  have same : ofMac.SameSources (.ofList [("GGML_NATIVE", "OFF")]) strangeEnviron (smallProject [])
      strangeProject := by
    refine ⟨rfl, fun shown => ?_, fun key shown => ?_, ?_⟩
    · exact absurd (.inl ⟨_, rfl, by decide⟩) shown
    · have noTarget : key ≠ targetVariable := by
        rintro rfl
        exact shown (.inl ⟨rfl, _, rfl, by decide⟩)
      have noFeatures : key ≠ featuresVariable := by
        rintro rfl
        exact shown (.inr (.inl ⟨rfl, rfl⟩))
      unfold strangeEnviron
      rw [Table.get?_set, if_neg noTarget, Table.get?_set, if_neg noFeatures]
    · change SameDocument _ (runFrom (ProjectFile.entriesIn (.ofText ".")) (smallProject [])).1
        (runFrom (ProjectFile.entriesIn (.ofText ".")) strangeProject).1
      rw [none]
      generalize (runFrom (ProjectFile.entriesIn (.ofText ".")) strangeProject).1 = others
        at strange ⊢
      cases others with
      | error failure => cases strange
      | ok others =>
          refine .read fun key shown => lookup?_eq_none (Except.ok.inj strange) fun isKey => ?_
          simp only [List.mem_cons, List.not_mem_nil, or_false] at isKey
          rcases isKey with rfl | rfl | rfl
          · exact shown (.inl ⟨rfl, .inl rfl⟩)
          · exact shown (.inr (.inl ⟨rfl, .inl rfl⟩))
          · exact shown (.inr (.inr ⟨rfl, nofun⟩))
  refine ⟨same, settle_eq_of_sameSources same, ?_⟩
  rw [settle_eq_of_sameSources same]
  decide +kernel

end Options

end NativeVariants
