import NativeVariants.Proofs.Build.Problems
import NativeVariants.Proofs.Build.RepeatedBindings
import NativeVariants.Proofs.Strays

set_option autoImplicit false

/-!
Options that cannot be used and are not reported either. Settling checks what a project file sets
only in part: a value of a kind that it does not expect leads astray (`Options.strays_settle_iff`).
-/

namespace NativeVariants

def Datum.hasMembers : Datum → Bool
  | .text _ => true
  | .bytes _ => true
  | .pair _ _ => true
  | .list _ => true
  | .set _ => true
  | .map _ => true
  | _ => false

/-- The value is there and cannot be taken as a list. -/
def Datum.IsUnlisted (value : Datum) : Prop := value.isPresent = true ∧ value.hasMembers = false

/-- The value is no list of names that can be written. -/
def Datum.IsNoFeatureList (value : Datum) : Prop :=
  value.IsUnlisted ∨
    ∃ items, Options.members (some value) = .ok items ∧ ∃ item ∈ items, item.isWritable = false

/-- The value is no number of jobs, and nothing is said about it. -/
def Datum.IsUnreportedJobs (value : Datum) : Prop :=
  (∃ negative, value = .real (.infinite negative)) ∨
    Options.readJobs? value = .ok none ∧ value.isWritable = false

section Values

theorem Layout.strays_part_iff {entries : List (Datum × Datum)} {key : String} (default : String) :
    Strays (part entries key default) ↔
      ∃ value, Datum.lookup? entries key = some value ∧ value.isWritable = false := by
  unfold part
  cases Datum.lookup? entries key with
  | none => simp
  | some value =>
      cases value with
      | null => simp [Datum.isWritable]
      | _ =>
          simp only [Option.some.injEq, exists_eq_left']
          split <;> simp_all [Failure.IsStray]

theorem Layout.strays_ofEntries_iff {entries : List (Datum × Datum)} :
    Strays (ofEntries entries) ↔ ∃ key ∈ Layout.default.toEntries.map (·.1),
      ∃ value, Datum.lookup? entries key = some value ∧ value.isWritable = false := by
  have part {key text : String} {f : String → Except Failure Layout} {P : Prop}
      (next : ∀ text, Strays (f text) ↔ P) : Strays (part entries key text >>= f) ↔
        (∃ value, Datum.lookup? entries key = some value ∧ value.isWritable = false) ∨ P := by
    rw [← strays_part_iff text]
    exact Strays.bind_iff_of_quiet (failsOnly_part _ _ _ _) next
  unfold ofEntries
  refine (part fun _ => part fun _ => part fun _ => part fun _ => part fun _ => part fun _ =>
    iff_false_intro (Strays.not_ok _)).trans ?_
  simp [toEntries]

theorem Options.strays_members_iff {value? : Option Datum} :
    Strays (members value?) ↔ ∃ value, value? = some value ∧ value.IsUnlisted := by
  unfold members Datum.IsUnlisted
  cases value? with
  | none => simp
  | some value =>
      cases present : value.isPresent with
      | false => simp [present]
      | true =>
          cases value <;>
            simp_all [Datum.hasMembers, Metadata.Record.elements, Failure.IsStray]

theorem Options.members_text (s : String) :
    members (some (.text s)) = .ok (s.toList.map fun c => .text (String.singleton c)) := by
  unfold members
  by_cases empty : s = ""
  · simp [empty, Datum.isPresent]
  · simp [empty, Datum.isPresent, Metadata.Record.elements]

theorem Options.strays_fileFeatures_iff {value? : Option Datum} :
    Strays (fileFeatures value?) ↔ ∃ value, value? = some value ∧ value.IsNoFeatureList := by
  have listed : Strays (do
      let items ← members value?
      if items.all Datum.isWritable then return items.map (·.display) else throw .badValue) ↔
        ∃ value, value? = some value ∧ value.IsNoFeatureList := by
    rw [Strays.bind_iff, strays_members_iff]
    cases value? with
    | none => simp [members]
    | some value =>
        simp only [Option.some.injEq, exists_eq_left', Datum.IsNoFeatureList]
        refine or_congr_right (exists_congr fun items => and_congr_right fun _ => ?_)
        simp [apply_ite Strays, Failure.IsStray]
  unfold fileFeatures
  split
  · rename_i s
    simp [Datum.IsNoFeatureList, Datum.IsUnlisted, Datum.hasMembers, members_text,
      Datum.isWritable]
  · exact listed

theorem Options.strays_readJobs?_iff {value : Datum} :
    Strays (readJobs? value) ↔ ∃ negative, value = .real (.infinite negative) := by
  unfold readJobs?
  split <;> simp_all [Failure.IsStray]

theorem Options.strays_chosenJobs_iff {options : Options} {file : ProjectFile} :
    Strays (options.chosenJobs file) ↔ options.jobs = .null ∧
      ∃ value, file.option? "jobs" = some value ∧ value.IsUnreportedJobs := by
  have read {value : Datum} {f : Option Int → Except Failure Datum}
      (returns : ∀ n, ¬Strays (f (some n))) (fails : Strays (f none) ↔ value.isWritable = false) :
      Strays (readJobs? value >>= f) ↔ value.IsUnreportedJobs := by
    rw [Strays.bind_iff, strays_readJobs?_iff]
    refine or_congr_right ⟨?_, ?_⟩
    · rintro ⟨n?, found, astray⟩
      cases n? with
      | some n => exact absurd astray (returns n)
      | none => exact ⟨found, fails.mp astray⟩
    · rintro ⟨found, tooLong⟩
      exact ⟨none, found, fails.mpr tooLong⟩
  unfold chosenJobs
  cases options.jobs with
  | null =>
      cases file.option? "jobs" with
      | none => simp
      | some value =>
          simp only [Option.some.injEq, exists_eq_left', true_and]
          cases value with
          | null => simp [Datum.IsUnreportedJobs, readJobs?, Datum.isWritable]
          | _ =>
              exact read (fun _ => Strays.not_ok _) (by simp [Failure.IsStray, apply_ite Strays])
  | _ => simp

theorem Options.strays_allowlist_iff {file : ProjectFile} :
    Strays (allowlist file) ↔ ∃ entries, file.option? "allowlist" = some (.map entries) ∧
      ∃ key ∈ ["functions", "types", "constants"], ∃ value,
        Datum.lookup? entries key = some value ∧ value.IsUnlisted := by
  have patterns {entries : List (Datum × Datum)} {key : String}
      {f : List Datum → Except Failure Header.Allowlist} {P : Prop}
      (next : ∀ items, Strays (f items) ↔ P) :
      Strays (members (Datum.lookup? entries key) >>= f) ↔
        (∃ value, Datum.lookup? entries key = some value ∧ value.IsUnlisted) ∨ P := by
    rw [← strays_members_iff]
    exact Strays.bind_iff_of_quiet (failsOnly_members _) next
  unfold allowlist
  cases file.option? "allowlist" with
  | none => simp [Datum.isPresent]
  | some value =>
      simp only [Option.getD_some, Option.some.injEq]
      cases value with
      | map entries =>
          cases entries with
          | nil => simp [Datum.isPresent, Datum.lookup?]
          | cons entry rest =>
              simp only [Datum.isPresent]
              refine (patterns fun _ => patterns fun _ => patterns fun _ =>
                iff_false_intro (Strays.not_ok _)).trans ?_
              simp
      | _ =>
          simp only [reduceCtorEq, false_and, exists_false, iff_false]
          split <;> simp

end Values

/-! ### The project file -/

def ProjectFile.document (text : String) : Except Yaml.Fault Datum :=
  Yaml.load (String.ofList (Run.readLines text.toList))

/-- The project file cannot be used, and nothing is said about it. -/
inductive ProjectFile.IsUnusable (root : Path) (m : Machine) : Prop
  | encoding {bytes : List UInt8} (there : m.fileAt? (root.child name) = some (.raw bytes))
  | scalar {text : String} {fault : Yaml.Fault}
      (there : m.fileAt? (root.child name) = some (.text text))
      (faulty : document text = .error fault) (wellFormed : fault ≠ .malformed)
  | layout {text : String} {entries : List (Datum × Datum)} {key : String} {value : Datum}
      (there : m.fileAt? (root.child name) = some (.text text))
      (loaded : document text = .ok (.map entries))
      (isPart : key ∈ Layout.default.toEntries.map (·.1))
      (set : Datum.lookup? entries key = some value) (tooLong : value.isWritable = false)

theorem ProjectFile.strays_ofEntries_iff {entries : List (Datum × Datum)} :
    Strays (ofEntries entries) ↔ ∃ key ∈ Layout.default.toEntries.map (·.1),
      ∃ value, Datum.lookup? entries key = some value ∧ value.isWritable = false := by
  unfold ofEntries
  rw [Strays.bind_iff, Layout.strays_ofEntries_iff, or_iff_left]
  rintro ⟨_, _, astray⟩
  exact Strays.not_ok _ astray

theorem ProjectFile.not_strays_ofEntries_nil : ¬Strays (ofEntries []) := by
  rw [strays_ofEntries_iff]
  simp [Datum.lookup?]

theorem ProjectFile.strays_ofText_iff {path text : String} :
    Strays (ofText path text) ↔
      (∃ fault, Yaml.load text = .error fault ∧ fault ≠ .malformed) ∨
        ∃ entries, Yaml.load text = .ok (.map entries) ∧ Strays (ofEntries entries) := by
  unfold ofText
  rw [Strays.bind_iff]
  cases Yaml.load text with
  | error fault =>
      cases fault <;> simp [Except.mapError, Failure.ofYaml, Failure.IsStray]
  | ok document =>
      cases document <;> simp [Except.mapError, not_strays_ofEntries_nil]

theorem ProjectFile.strays_load_iff {root : Path} {m : Machine} :
    Strays (runFrom (load root) m).1 ↔ IsUnusable root m := by
  unfold load
  rw [runFrom_bind_of_ok (Run.runFrom_isFile _ m)]
  cases there : m.fileAt? (root.child name) with
  | none =>
      rw [Option.isSome_none, if_neg Bool.false_ne_true, runFrom_ofExcept]
      refine iff_of_false not_strays_ofEntries_nil ?_
      rintro (held | held | held) <;> simp [there] at held
  | some content =>
      have offers := Machine.fileAt?_eq_some_iff.mp there
      rw [Option.isSome_some, if_pos rfl]
      cases content with
      | raw bytes =>
          refine iff_of_true ?_ (.encoding there)
          unfold Run.readText
          rw [bind_assoc, runFrom_bind_of_ok (Run.runFrom_readContent_of_offers offers)]
          exact .error nofun
      | text text =>
          rw [runFrom_bind_of_ok (Run.runFrom_readText_of_offers offers), runFrom_ofExcept,
            strays_ofText_iff]
          constructor
          · rintro (⟨fault, faulty, wellFormed⟩ | ⟨entries, loaded, astray⟩)
            · exact .scalar there faulty wellFormed
            · obtain ⟨key, isPart, value, set, tooLong⟩ := strays_ofEntries_iff.mp astray
              exact .layout there loaded isPart set tooLong
          · intro unusable
            cases unusable with
            | encoding held =>
                rw [there] at held
                cases held
            | scalar held faulty wellFormed =>
                rw [there] at held
                cases held
                exact .inl ⟨_, faulty, wellFormed⟩
            | layout held loaded isPart set tooLong =>
                rw [there] at held
                cases held
                exact .inr ⟨_, loaded, strays_ofEntries_iff.mpr ⟨_, isPart, _, set, tooLong⟩⟩

/-! ### All options -/

/-- The project file is loaded and the paths can be named, so that the values of options are asked
for. -/
structure Options.Begins (options : Options) (m : Machine) (file : ProjectFile) : Prop where
  loaded : runFrom (ProjectFile.load options.projectRoot) m = (.ok file, m)
  nameable : ∀ p ∈ ProjectPaths.resolved m.workingDir options.projectRoot file.layout
    options.outDir?, p.isNameable = true

/-- The features come together to a configuration. -/
structure Options.Configures (options : Options) (m : Machine) (file : ProjectFile) : Prop
    extends options.Begins m file where
  config : ∃ features config, options.features m.environ file = .ok features ∧
    BuildConfig.resolve (options.buildRequest m.environ m.host file features) = .ok config

/-- The options cannot be used, and nothing is said about it. -/
inductive Options.AreUnusable (options : Options) (m : Machine) : Prop
  | file (unusable : ProjectFile.IsUnusable options.projectRoot m)
  | place {file : ProjectFile} {p : Path}
      (loaded : runFrom (ProjectFile.load options.projectRoot) m = (.ok file, m))
      (asked : p ∈ ProjectPaths.resolved m.workingDir options.projectRoot file.layout
        options.outDir?)
      (nameless : p.isNameable = false)
  | features {file : ProjectFile} {value : Datum} (begins : options.Begins m file)
      (left : options.features? = none ∧ m.environ.get? featuresVariable = none)
      (set : file.option? "features" = some value) (noList : value.IsNoFeatureList)
  | jobs {file : ProjectFile} {value : Datum} (configures : options.Configures m file)
      (left : options.jobs = .null) (set : file.option? "jobs" = some value)
      (unreported : value.IsUnreportedJobs)
  | allowlist {file : ProjectFile} {jobs : Datum} {entries : List (Datum × Datum)} {key : String}
      {value : Datum} (configures : options.Configures m file)
      (chosen : options.chosenJobs file = .ok jobs)
      (set : file.option? "allowlist" = some (.map entries))
      (isKind : key ∈ ["functions", "types", "constants"])
      (listed : Datum.lookup? entries key = some value) (noList : value.IsUnlisted)

theorem ProjectPaths.strays_resolve_iff {root : Path} {layout : Layout} {outDir? : Option Path}
    {m : Machine} :
    Strays (runFrom (resolve root layout outDir?) m).1 ↔
      ∃ p ∈ resolved m.workingDir root layout outDir?, p.isNameable = false := by
  rw [Strays.iff_not_returned (reports_resolve root layout outDir?)]
  simp only [resolve_eq_ok_iff, not_exists, not_and]
  constructor
  · intro failed
    by_contra none
    refine failed _ m (fun p asked => ?_) rfl rfl
    by_contra nameless
    exact none ⟨p, asked, Bool.eq_false_iff.mpr nameless⟩
  · rintro ⟨p, asked, nameless⟩ _ _ nameable
    rw [nameable p asked] at nameless
    cases nameless

theorem Options.strays_features_iff {options : Options} {environ : Environ} {file : ProjectFile} :
    Strays (options.features environ file) ↔
      (options.features? = none ∧ environ.get? featuresVariable = none) ∧
        ∃ value, file.option? "features" = some value ∧ value.IsNoFeatureList := by
  unfold features
  rw [← strays_fileFeatures_iff]
  cases options.features? with
  | some names => simp
  | none =>
      cases environ.get? featuresVariable with
      | some text => simp
      | none => simp

theorem Options.Begins.placed {options : Options} {m : Machine} {file : ProjectFile}
    (begins : options.Begins m file) : ∃ paths, runFrom (ProjectPaths.resolve options.projectRoot
      file.layout options.outDir?) m = (.ok paths, m) :=
  ⟨_, ProjectPaths.resolve_eq_ok_iff.mpr ⟨begins.nameable, rfl, rfl⟩⟩

theorem Options.Configures.runFrom_settle {options : Options} {m : Machine} {file : ProjectFile}
    (configures : options.Configures m file) :
    ∃ config paths m', runFrom (options.settle m.environ) m = runFrom (do
      let jobs ← ofExcept (options.chosenJobs file)
      let allow ← ofExcept (allowlist file)
      return ({ config, paths, jobs, allow } : Settled)) m' := by
  obtain ⟨features, config, asked, configured⟩ := configures.config
  obtain ⟨paths, placed⟩ := configures.placed
  unfold buildRequest at configured
  refine ⟨config, paths, (runFrom (Run.note .features (configNote config)) m).2, ?_⟩
  unfold settle
  rw [runFrom_bind_of_ok configures.loaded, runFrom_bind_of_ok placed,
    runFrom_bind_of_ok (runFrom_ofExcept_eq_ok_iff.mpr ⟨asked, rfl⟩),
    runFrom_bind_of_ok (runFrom_get m),
    runFrom_bind_of_ok (runFrom_ofReported_eq_ok_iff.mpr ⟨configured, rfl⟩),
    (Run.returns_note _ _).runFrom_bind]

theorem Options.areUnusable_of_strays {options : Options} {m : Machine}
    (astray : Strays (runFrom (options.settle m.environ) m).1) : options.AreUnusable m := by
  have whole := astray
  unfold settle at astray
  rcases Strays.runFrom_bind_iff.mp astray with here | ⟨file, m₁, loaded, astray⟩
  · exact .file (ProjectFile.strays_load_iff.mp here)
  obtain rfl : m = m₁ := (ProjectFile.respects_load _).of_run loaded
  rcases Strays.runFrom_bind_iff.mp astray with here | ⟨paths, m₂, placed, astray⟩
  · obtain ⟨p, asked, nameless⟩ := ProjectPaths.strays_resolve_iff.mp here
    exact .place loaded asked nameless
  obtain ⟨nameable, _, same⟩ := ProjectPaths.resolve_eq_ok_iff.mp placed
  subst m₂
  have begins : options.Begins m file := ⟨loaded, nameable⟩
  rcases Strays.runFrom_bind_iff.mp astray with here | ⟨features, m₃, asked, astray⟩
  · rw [runFrom_ofExcept] at here
    obtain ⟨left, value, set, noList⟩ := strays_features_iff.mp here
    exact .features begins left set noList
  obtain ⟨askedEq, same⟩ := runFrom_ofExcept_eq_ok_iff.mp asked
  subst m₃
  rw [runFrom_bind_of_ok (runFrom_get _)] at astray
  rcases Strays.runFrom_bind_iff.mp astray with here | ⟨config, m₄, configured, _⟩
  · rw [Run.ofReported, runFrom_ofExcept] at here
    exact absurd here (Strays.not_reported _)
  have configures : options.Configures m file :=
    ⟨begins, features, config, askedEq, (ofReported_eq_ok configured).1⟩
  obtain ⟨_, _, m₅, rest⟩ := configures.runFrom_settle
  rw [rest] at whole
  rcases Strays.runFrom_bind_iff.mp whole with here | ⟨jobs, m₆, chosen, later⟩
  · rw [runFrom_ofExcept] at here
    obtain ⟨left, value, set, unreported⟩ := strays_chosenJobs_iff.mp here
    exact .jobs configures left set unreported
  rcases Strays.runFrom_bind_iff.mp later with here | ⟨allow, m₇, _, returned⟩
  · rw [runFrom_ofExcept] at here
    obtain ⟨entries, set, key, isKind, value, listed, noList⟩ := strays_allowlist_iff.mp here
    exact .allowlist configures (runFrom_ofExcept_eq_ok_iff.mp chosen).1 set isKind listed noList
  exact absurd returned (Strays.not_ok _)

/-- Options lead a run astray while they are settled if they cannot be used, and then only. -/
theorem Options.strays_settle_iff {options : Options} {m : Machine} :
    Strays (runFrom (options.settle m.environ) m).1 ↔ options.AreUnusable m := by
  refine ⟨areUnusable_of_strays, fun unusable => ?_⟩
  cases unusable with
  | file unusable =>
      exact Strays.runFrom_bind_iff.mpr (.inl (ProjectFile.strays_load_iff.mpr unusable))
  | place loaded asked nameless =>
      unfold settle
      rw [runFrom_bind_of_ok loaded, Strays.runFrom_bind_iff]
      exact .inl (ProjectPaths.strays_resolve_iff.mpr ⟨_, asked, nameless⟩)
  | features begins left set noList =>
      obtain ⟨paths, placed⟩ := begins.placed
      unfold settle
      rw [runFrom_bind_of_ok begins.loaded, runFrom_bind_of_ok placed, Strays.runFrom_bind_iff,
        runFrom_ofExcept]
      exact .inl (strays_features_iff.mpr ⟨left, _, set, noList⟩)
  | jobs configures left set unreported =>
      obtain ⟨_, _, m', rest⟩ := configures.runFrom_settle
      rw [rest, Strays.runFrom_bind_iff, runFrom_ofExcept]
      exact .inl (strays_chosenJobs_iff.mpr ⟨left, _, set, unreported⟩)
  | allowlist configures chosen set isKind listed noList =>
      obtain ⟨_, _, m', rest⟩ := configures.runFrom_settle
      rw [rest, runFrom_bind_of_ok (runFrom_ofExcept_eq_ok_iff.mpr ⟨chosen, rfl⟩),
        Strays.runFrom_bind_iff, runFrom_ofExcept]
      exact .inl (strays_allowlist_iff.mpr ⟨_, set, _, isKind, _, listed, noList⟩)

end NativeVariants
