import NativeVariants.Build.Pipeline
import NativeVariants.Proofs.Machine.Files

set_option autoImplicit false

/-!
Staging keeps every file at whose place none of its copies is (`keeps_stageAll`).
-/

namespace NativeVariants

/-- A place at which a library of the given name is copied: directly in a directory, or inside what
is there already. -/
def IsCopy (dest : Path) (workingDir : Location) (name : String) (l : Location) : Prop :=
  l = (dest.child name).resolve workingDir ∨
    l = ((dest.child name).child name).resolve workingDir

/-- A staged library is at the location. -/
def IsStagedAt (dest : Path) (workingDir : Location) (staged : List Path) (l : Location) : Prop :=
  ∃ name, dest.child name ∈ staged ∧ IsCopy dest workingDir name l

section Operations

variable {R : Machine → Machine → Prop} [IsPreorder Machine R] {dest : Path} {target : Target}

theorem respects_firstFile? (places : List Path) : Respects R (firstFile? places) := by
  induction places with
  | nil => exact respects_pure _
  | cons p rest ih =>
      exact (Run.respects_isFile p).bind fun there => .ite (fun _ => respects_pure _) fun _ => ih

theorem mem_of_firstFile? {places : List Path} {p : Path} {m m' : Machine}
    (found : runFrom (firstFile? places) m = (.ok (some p), m')) : p ∈ places := by
  induction places generalizing m with
  | nil => cases found
  | cons q rest ih =>
      unfold firstFile? at found
      obtain ⟨there, m₁, _, found⟩ := runFrom_bind_eq_ok.mp found
      cases there with
      | true =>
          cases found
          exact List.mem_cons_self
      | false => exact List.mem_cons_of_mem _ (ih found)

/-- A library can be copied from where it is found. -/
def Artifacts.Admit (artifacts : Artifacts) (target : Target) (dest : Path)
    (written : Path → Prop) : Prop :=
  ∀ name ∈ artifacts.libraries, ∀ source ∈ artifacts.candidates target name,
    written (dest.child source.name) ∧ written ((dest.child source.name).child source.name)

variable {written : Path → Prop} (admits : Run.Admits R written)
include admits

theorem Run.Admits.stageLibraries {artifacts : Artifacts}
    (expected : artifacts.Admit target dest written) :
    Respects R (stageLibraries artifacts dest target) := by
  refine (admits.makeDirectories dest).bind fun _ => ?_
  refine (respects_mapM fun name isLibrary => ?_).bind fun _ => respects_pure _
  refine (respects_firstFile? _).bind_of fun source? found => ?_
  cases source? with
  | none => exact (admits.note _ _).bind fun _ => (admits.print _).bind fun _ => respects_pure _
  | some source =>
      obtain ⟨m, m', found⟩ := found
      obtain ⟨direct, below⟩ := expected name isLibrary source (mem_of_firstFile? found)
      exact (admits.copy direct below).bind fun _ => (admits.print _).bind fun _ => respects_pure _

theorem Run.Admits.stageAll {sets : List Artifacts} {dest? : Option Path}
    (expected : ∀ dest ∈ dest?, ∀ artifacts ∈ sets, artifacts.Admit target dest written) :
    Respects R (stageAll sets dest? target) := by
  cases dest? with
  | none => exact respects_pure _
  | some dest =>
      refine (respects_mapM fun artifacts inSets => ?_).bind fun _ => respects_pure _
      exact admits.stageLibraries (expected dest rfl artifacts inSets)

end Operations

section Staging

variable {workingDir l : Location} {dest : Path} {target : Target}

theorem keeps_stageLibrary {artifacts : Artifacts} {name : String} {copied? : Option Path}
    {m m' : Machine} (ran : runFrom (stageLibrary artifacts dest target name) m = (.ok copied?, m'))
    (apart : ∀ copied ∈ copied?, ¬IsStagedAt dest workingDir [copied] l) :
    Machine.KeepsIn workingDir l m m' := by
  unfold stageLibrary at ran
  obtain ⟨source?, m₁, found, ran⟩ := runFrom_bind_eq_ok.mp ran
  refine trans_of (Machine.KeepsIn workingDir l) ((respects_firstFile? _).of_run found) ?_
  cases source? with
  | none =>
      have reported : Keeping workingDir l (do
          Run.note .staging s!"Runtime library {name} not found for {artifacts.variant}"
          Run.print s!"⚠️  {artifacts.variant}: runtime library {name} not found, skipping"
          return (none : Option Path)) :=
        (Run.keeping_note _ _).bind fun _ => (Run.keeping_print _).bind fun _ => respects_pure _
      exact reported.of_run ran
  | some source =>
      obtain ⟨_, m₂, copied, ran⟩ := runFrom_bind_eq_ok.mp ran
      obtain ⟨_, m₃, printed, ran⟩ := runFrom_bind_eq_ok.mp ran
      cases ran
      have elsewhere : ¬IsCopy dest workingDir source.name l :=
        fun here => apart _ rfl ⟨source.name, by simp, here⟩
      have kept : Keeping workingDir l (Run.copy source (dest.child source.name)) :=
        Run.admits_keeping.copy (fun same => elsewhere (.inl same.symm))
          fun same => elsewhere (.inr same.symm)
      exact trans_of (Machine.KeepsIn workingDir l) (kept.of_run copied)
        ((Run.keeping_print _).of_run printed)

theorem IsStagedAt.mono {staged more : List Path} (here : IsStagedAt dest workingDir staged l)
    (part : staged ⊆ more) : IsStagedAt dest workingDir more l := by
  obtain ⟨name, inside, copy⟩ := here
  exact ⟨name, part inside, copy⟩

theorem keeps_stageLibraries {artifacts : Artifacts} {staged : List Path} {m m' : Machine}
    (ran : runFrom (stageLibraries artifacts dest target) m = (.ok staged, m'))
    (apart : ¬IsStagedAt dest workingDir staged l) : Machine.KeepsIn workingDir l m m' := by
  unfold stageLibraries at ran
  obtain ⟨_, m₁, made, ran⟩ := runFrom_bind_eq_ok.mp ran
  obtain ⟨copies, m₂, copied, ran⟩ := runFrom_bind_eq_ok.mp ran
  cases ran
  refine trans_of (Machine.KeepsIn workingDir l)
    ((Run.admits_keeping.makeDirectories dest).of_run made) ?_
  refine related_mapM_of_ok (fun name _ _ _ _ => keeps_stageLibrary) copied ?_
  intro copied? inCopies copied isCopied here
  refine apart (here.mono ?_)
  rw [List.cons_subset]
  exact ⟨List.mem_filterMap.mpr ⟨copied?, inCopies, isCopied⟩, List.nil_subset _⟩

/-- A file is kept unless one of the staged libraries is at its place. -/
theorem keeps_stageAll {sets : List Artifacts} {dest? : Option Path} {staged : List Path}
    {m m' : Machine} (ran : runFrom (stageAll sets dest? target) m = (.ok staged, m'))
    (apart : ∀ dest ∈ dest?, ¬IsStagedAt dest workingDir staged l) :
    Machine.KeepsIn workingDir l m m' := by
  cases dest? with
  | none =>
      cases ran
      exact refl_of (Machine.KeepsIn workingDir l) _
  | some dest =>
      unfold stageAll at ran
      obtain ⟨parts, m₁, copied, ran⟩ := runFrom_bind_eq_ok.mp ran
      cases ran
      refine related_mapM_of_ok (fun artifacts _ _ _ _ => keeps_stageLibraries) copied ?_
      intro part inParts here
      refine apart dest rfl (here.mono ?_)
      intro p inPart
      exact List.mem_flatten.mpr ⟨part, inParts, inPart⟩

end Staging

end NativeVariants
