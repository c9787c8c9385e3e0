import Mathlib.Data.List.Nodup
import NativeVariants.Feature
import NativeVariants.Proofs.Registry
import NativeVariants.Proofs.Build.Repetition

set_option autoImplicit false

/-!
Libraries of different variants. A module of a variant is called as its primary library, with a dash
and the name of the module added. So two variants of a registry share the name of a library only if
the primary library of one is called as a module of the other (`libraryNames_disjoint_iff`). The
check of a registry does not look at modules.
-/

namespace NativeVariants

/-- A part without dashes is what stands behind the last dash. -/
theorem eq_of_append_dash {first second part part' : List Char} (plain : '-' ∉ part)
    (same : first ++ '-' :: part = second ++ '-' :: part') (longer : first.length ≤ second.length) :
    first = second ∧ part = part' := by
  rcases List.append_eq_append_iff.mp same with ⟨middle, rfl, rest⟩ | ⟨middle, rfl, rest⟩
  · cases middle with
    | nil => exact ⟨(List.append_nil first).symm, (List.cons.inj rest).2⟩
    | cons c more =>
        rw [List.cons_append, List.cons.injEq] at rest
        exact absurd (by simp [rest.2]) plain
  · rw [List.length_append] at longer
    have none : middle = [] := List.eq_nil_of_length_eq_zero (by omega)
    rw [none] at rest ⊢
    exact ⟨List.append_nil second, (List.cons.inj rest).2.symm⟩

theorem append_dash_inj {first second part part' : String} (plain : '-' ∉ part.toList)
    (plain' : '-' ∉ part'.toList) :
    first ++ "-" ++ part = second ++ "-" ++ part' ↔ first = second ∧ part = part' := by
  have dash : "-".toList = ['-'] := rfl
  constructor
  · intro same
    have chars := congrArg String.toList same
    simp only [String.toList_append, dash, List.append_assoc, List.singleton_append] at chars
    rcases Nat.le_total first.toList.length second.toList.length with longer | longer
    · obtain ⟨firsts, parts⟩ := eq_of_append_dash plain chars longer
      exact ⟨String.toList_injective firsts, String.toList_injective parts⟩
    · obtain ⟨firsts, parts⟩ := eq_of_append_dash plain' chars.symm longer
      exact ⟨(String.toList_injective firsts).symm, (String.toList_injective parts).symm⟩
  · rintro ⟨rfl, rfl⟩
    rfl

theorem dash_not_mem_suffix (b : Backend) : '-' ∉ b.suffix.toList := by
  cases b <;> decide

theorem Target.sharedLibrary_inj (target : Target) {name name' : String} :
    target.sharedLibrary name = target.sharedLibrary name' ↔ name = name' := by
  unfold sharedLibrary
  split
  · exact String.append_left_inj _
  · split <;> simp

namespace Variant

def IsModuleOf (v w : Variant) (suffixes : List String) : Prop :=
  ∃ part ∈ coreModules ++ suffixes, v.basename = w.basename ++ "-" ++ part

instance (v w : Variant) (suffixes : List String) : Decidable (v.IsModuleOf w suffixes) :=
  inferInstanceAs (Decidable (∃ _ ∈ _, _))

section Names

variable {v w : Variant} {suffixes : List String}

theorem mem_libraryNames_iff {name : String} :
    name ∈ v.libraryNames suffixes ↔
      name = v.basename ∨ ∃ part ∈ coreModules ++ suffixes, name = v.basename ++ "-" ++ part := by
  unfold libraryNames
  simp only [List.mem_cons, List.mem_map, eq_comm]

theorem disjoint_libraryNames_iff (different : v.basename ≠ w.basename)
    (plain : ∀ suffix ∈ suffixes, '-' ∉ suffix.toList) :
    (v.libraryNames suffixes).Disjoint (w.libraryNames suffixes) ↔
      ¬v.IsModuleOf w suffixes ∧ ¬w.IsModuleOf v suffixes := by
  have plainPart : ∀ part ∈ coreModules ++ suffixes, '-' ∉ part.toList := by
    have ofCore : ∀ part ∈ coreModules, '-' ∉ part.toList := by
      decide
    intro part inside
    exact (List.mem_append.mp inside).elim (ofCore part) (plain part)
  constructor
  · intro apart
    constructor
    · intro isModule
      exact apart (mem_libraryNames_iff.mpr (.inl rfl)) (mem_libraryNames_iff.mpr (.inr isModule))
    · intro isModule
      exact apart (mem_libraryNames_iff.mpr (.inr isModule)) (mem_libraryNames_iff.mpr (.inl rfl))
  · rintro ⟨notFirst, notSecond⟩ name inFirst inSecond
    rcases mem_libraryNames_iff.mp inFirst with rfl | ⟨part, inParts, rfl⟩
    · rcases mem_libraryNames_iff.mp inSecond with same | isModule
      · exact different same
      · exact notFirst isModule
    · rcases mem_libraryNames_iff.mp inSecond with same | ⟨part', inParts', same⟩
      · exact notSecond ⟨part, inParts, same.symm⟩
      · exact different ((append_dash_inj (plainPart part inParts) (plainPart part' inParts')).mp same).1

theorem not_isModuleOf_of_plain (plain : '-' ∉ v.basename.toList) : ¬v.IsModuleOf w suffixes := by
  rintro ⟨part, _, same⟩
  rw [same] at plain
  simp at plain

end Names

end Variant

section Copies

variable {artifacts : Artifacts} {dest : Path} {target : Target} {m m' : Machine}

/-- A library is looked for under the name of its file, in one of the directories of its set. -/
theorem exists_directory_of_mem_candidates {name : String} {source : Path}
    (inside : source ∈ artifacts.candidates target name) :
    ∃ directory ∈ [artifacts.libDir, artifacts.binDir],
      source = directory.child (target.sharedLibrary name) := by
  unfold Artifacts.candidates at inside
  split at inside
  · rcases List.mem_pair.mp inside with rfl | rfl
    · exact ⟨_, by simp, rfl⟩
    · exact ⟨_, by simp, rfl⟩
  · exact ⟨_, by simp, List.mem_singleton.mp inside⟩

theorem name_of_mem_candidates {name : String} {source : Path} (plain : '/' ∉ name.toList)
    (inside : source ∈ artifacts.candidates target name) :
    source.name = target.sharedLibrary name := by
  obtain ⟨directory, _, rfl⟩ := exists_directory_of_mem_candidates inside
  exact Path.name_child (target.isName_sharedLibrary plain) _

theorem eq_child_of_stageLibrary {name : String} {copied? : Option Path}
    (plain : '/' ∉ name.toList)
    (ran : runFrom (stageLibrary artifacts dest target name) m = (.ok copied?, m')) :
    ∀ copy ∈ copied?, copy = dest.child (target.sharedLibrary name) := by
  unfold stageLibrary at ran
  obtain ⟨source?, m₁, found, ran⟩ := runFrom_bind_eq_ok.mp ran
  cases source? with
  | none =>
      obtain ⟨_, m₂, _, ran⟩ := runFrom_bind_eq_ok.mp ran
      obtain ⟨_, m₃, _, ran⟩ := runFrom_bind_eq_ok.mp ran
      cases ran
      simp
  | some source =>
      obtain ⟨_, m₂, _, ran⟩ := runFrom_bind_eq_ok.mp ran
      obtain ⟨_, m₃, _, ran⟩ := runFrom_bind_eq_ok.mp ran
      cases ran
      intro copy isCopy
      rw [← Option.some.inj isCopy, name_of_mem_candidates plain (mem_of_firstFile? found)]

theorem staged_subset_of_stageLibraries {staged : List Path}
    (plain : ∀ name ∈ artifacts.libraries, '/' ∉ name.toList)
    (ran : runFrom (stageLibraries artifacts dest target) m = (.ok staged, m')) :
    staged ⊆ artifacts.libraries.map fun name => dest.child (target.sharedLibrary name) := by
  unfold stageLibraries at ran
  obtain ⟨_, m₁, _, ran⟩ := runFrom_bind_eq_ok.mp ran
  obtain ⟨copies, m₂, copied, ran⟩ := runFrom_bind_eq_ok.mp ran
  cases ran
  intro copy isStaged
  obtain ⟨copied?, inCopies, isCopy⟩ := List.mem_filterMap.mp isStaged
  obtain ⟨name, isLibrary, n, n', single⟩ := mem_of_runFrom_mapM copied copied? inCopies
  rw [eq_child_of_stageLibrary (plain name isLibrary) single copy isCopy]
  exact List.mem_map_of_mem isLibrary

/-- Libraries of different names are copied to different places. -/
theorem disjoint_staged {built built' : Artifacts} {n n' : Machine} {staged staged' : List Path}
    (plain : ∀ name ∈ built.libraries, '/' ∉ name.toList)
    (plain' : ∀ name ∈ built'.libraries, '/' ∉ name.toList)
    (apart : built.libraries.Disjoint built'.libraries)
    (first : runFrom (stageLibraries built dest target) m = (.ok staged, m'))
    (second : runFrom (stageLibraries built' dest target) n = (.ok staged', n')) :
    staged.Disjoint staged' := by
  intro copy inFirst inSecond
  obtain ⟨name, isLibrary, rfl⟩ :=
    List.mem_map.mp (staged_subset_of_stageLibraries plain first inFirst)
  obtain ⟨name', isLibrary', same⟩ :=
    List.mem_map.mp (staged_subset_of_stageLibraries plain' second inSecond)
  have isName := target.isName_sharedLibrary (plain name isLibrary)
  have isName' := target.isName_sharedLibrary (plain' name' isLibrary')
  have sameFile := congrArg Path.name same
  rw [Path.name_child isName', Path.name_child isName, target.sharedLibrary_inj] at sameFile
  subst sameFile
  exact apart isLibrary isLibrary'

end Copies

namespace Variant

variable {v w : Variant} {suffixes : List String}

/-- The backends that a build may be given have modules without dashes, so nothing else can be
shared. What is not shared is staged at different places. -/
theorem libraryNames_disjoint_iff {variants : List Variant} (accepted : validate variants = .ok ())
    (inV : v ∈ variants) (inW : w ∈ variants) (different : v ≠ w)
    (known : ∀ suffix ∈ suffixes, ∃ b : Backend, suffix = b.suffix) :
    ((v.libraryNames suffixes).Disjoint (w.libraryNames suffixes) ↔
        ¬v.IsModuleOf w suffixes ∧ ¬w.IsModuleOf v suffixes) ∧
      ((v.libraryNames suffixes).Disjoint (default.libraryNames suffixes) ↔
        ¬v.IsModuleOf default suffixes) ∧
      (∀ target : Target,
        ((v.libraryNames suffixes).map target.sharedLibrary).Disjoint
            ((w.libraryNames suffixes).map target.sharedLibrary) ↔
          (v.libraryNames suffixes).Disjoint (w.libraryNames suffixes)) ∧
      ∀ (target : Target) (dest : Path) (built built' : Artifacts) (m m' n n' : Machine)
        (staged staged' : List Path),
        '/' ∉ v.basename.toList → '/' ∉ w.basename.toList →
        built.libraries = v.libraryNames suffixes → built'.libraries = w.libraryNames suffixes →
        runFrom (stageLibraries built dest target) m = (.ok staged, m') →
        runFrom (stageLibraries built' dest target) n = (.ok staged', n') →
        ¬v.IsModuleOf w suffixes → ¬w.IsModuleOf v suffixes → staged.Disjoint staged' := by
  have registry := validate_eq_ok_iff.mp accepted
  have basenames : v.basename ≠ w.basename := by
    intro same
    exact different (List.inj_on_of_nodup_map registry.basenames inV inW same)
  have plain : ∀ suffix ∈ suffixes, '-' ∉ suffix.toList := by
    intro suffix inside
    obtain ⟨b, rfl⟩ := known suffix inside
    exact dash_not_mem_suffix b
  have noSlash : ∀ suffix ∈ suffixes, '/' ∉ suffix.toList := by
    intro suffix inside
    obtain ⟨b, rfl⟩ := known suffix inside
    cases b <;> decide
  have names := disjoint_libraryNames_iff basenames plain
  refine ⟨names, ?_, ?_, ?_⟩
  · rw [disjoint_libraryNames_iff (registry.namespaced v inV) plain]
    exact and_iff_left (not_isModuleOf_of_plain (by decide))
  · intro target
    constructor
    · intro apart name inFirst inSecond
      exact apart (List.mem_map_of_mem inFirst) (List.mem_map_of_mem inSecond)
    · exact List.disjoint_map fun _ _ => target.sharedLibrary_inj.mp
  · intro target dest built built' m m' n n' staged staged' noSlashV noSlashW ofV ofW first second
      notV notW
    refine disjoint_staged ?_ ?_ ?_ first second
    · rw [ofV]
      exact slash_not_mem_libraryNames noSlashV noSlash
    · rw [ofW]
      exact slash_not_mem_libraryNames noSlashW noSlash
    · rw [ofV, ofW]
      exact names.mpr ⟨notV, notW⟩

/-- The registered variants and the default build have no library in common. -/
theorem disjoint_registered :
    let llama : Variant := ⟨"llama", "ggml_llama"⟩
    let whisper : Variant := ⟨"whisper", "ggml_whisper"⟩
    let suffixes := Backend.all.map (·.suffix)
    validate registered = .ok () ∧
      (llama.libraryNames suffixes).Disjoint (whisper.libraryNames suffixes) ∧
      (llama.libraryNames suffixes).Disjoint (default.libraryNames suffixes) := by
  have accepted : validate registered = .ok () := by decide
  have known : ∀ suffix ∈ Backend.all.map (·.suffix), ∃ b : Backend, suffix = b.suffix := by
    intro suffix inside
    obtain ⟨b, _, rfl⟩ := List.mem_map.mp inside
    exact ⟨b, rfl⟩
  have facts := libraryNames_disjoint_iff accepted (v := ⟨"llama", "ggml_llama"⟩)
    (w := ⟨"whisper", "ggml_whisper"⟩) (by decide) (by decide) (by decide) known
  exact ⟨accepted, facts.1.mpr (by decide), facts.2.1.mpr (by decide)⟩

end Variant

/-- A build of two variants, the second of which is called as a module of the first. -/
def Options.ofModule : Options :=
  { Options.ofRegistered with
    variants := [⟨"small", "ggml_x"⟩, ⟨"large", "ggml_x-cpu"⟩]
    stagingDir? := some (.ofText "dist") }

/-- A project in which both variants leave a library of the shared name. -/
def sharingProject : Machine :=
  smallProject
    (leavingResults [("small/lib/libggml_x-cpu.so", "module")] ++
      leavingResults [("large/lib/libggml_x-cpu.so", "primary")])

/-- A registry is accepted although libraries have one name. What is staged for the first variant
is lost. -/
theorem clash_ofModule :
    let run := runFrom (runPipeline .ofModule) sharingProject
    Variant.validate Options.ofModule.variants = .ok () ∧
      (∀ v ∈ Options.ofModule.variants, "ggml_x-cpu" ∈ v.libraryNames []) ∧
      Variant.validate [⟨"plain", "ggml-cpu"⟩] = .ok () ∧
      (∀ v ∈ [Variant.default, ⟨"plain", "ggml-cpu"⟩], "ggml-cpu" ∈ v.libraryNames []) ∧
      run.1.toOption.bind (·.built?.map (·.staged)) =
        some [.ofText "dist/libggml_x-cpu.so", .ofText "dist/libggml_x-cpu.so"] ∧
      run.2.files.entry? ["work", "dist", "libggml_x-cpu.so"] = some (.file (.text "primary")) := by
  decide +kernel

end NativeVariants
