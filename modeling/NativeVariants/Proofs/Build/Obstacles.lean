import NativeVariants.Proofs.Build.RepeatedVariants
import NativeVariants.Proofs.Machine.Proceeding
import NativeVariants.Proofs.Strays

set_option autoImplicit false

/-!
What can go wrong once a header has been read. The rest of a build writes the bindings, builds the
variants and publishes what was built; it ends with a problem, or there is an obstacle
(`Settled.Obstacle`). Up to there it prints no directive (`Settled.isPart_conclude`).
-/

namespace NativeVariants
open Metadata

namespace Settled

/-- Everything that is written can be a file. -/
structure CanName (settled : Settled) (options : Options) : Prop where
  sourceDir : settled.paths.sourceDir.isNameable = true
  outDir : settled.paths.outDir.isNameable = true
  results : ∀ p ∈ [settled.paths.bindings, settled.paths.metadata],
    p.isNameable = true ∧ p.name ≠ ""
  stagingDir : ∀ dest ∈ options.stagingDir?, dest.isNameable = true

def IsConfigOf (settled : Settled) (options : Options) (m : Machine) (v : Variant) (p : Path) :
    Prop :=
  v ∈ settled.variants options.variants ∧
    p ∈ v.configPlaces (v.installDir (settled.paths.outDir.absolute m.workingDir))

/-- The build cannot go on, and nothing is said about it. -/
inductive Obstacle (settled : Settled) (options : Options) (m : Machine) :
    Failure → Machine → Prop
  | fault {s : Machine} (fault : FileFault) : Obstacle settled options m (.file fault) s
  | naming {s : Machine} (unnamed : ¬settled.CanName options) :
      Obstacle settled options m .badValue s
  | jobs {s : Machine} {failure : Failure}
      (none : ¬(⟨settled.jobs, options.tool⟩ : BuildSettings).HasJobs m.host)
      (isValue : failure = .wrongKind ∨ failure = .badValue) : Obstacle settled options m failure s
  | unstarted {s : Machine} {fault : StartFault} (ends : .unstarted fault ∈ m.outcomes) :
      Obstacle settled options m fault.failure s
  | undecodable {s : Machine} {created : List (Path × String)}
      (ends : .undecodable created ∈ m.outcomes) : Obstacle settled options m .undecodable s
  | encoding {s : Machine} {v : Variant} {p : Path} {bytes : List UInt8}
      (isConfig : settled.IsConfigOf options m v p) (held : s.fileAt? p = some (.raw bytes)) :
      Obstacle settled options m .undecodable s
  | renaming {s : Machine} {v : Variant} {p : Path} {text : String} {fault : PackageConfig.Fault}
      (isConfig : settled.IsConfigOf options m v p) (held : s.fileAt? p = some (.text text))
      (faulty : PackageConfig.rename (String.ofList (Run.readLines text.toList)) v.basename =
        .error fault) :
      Obstacle settled options m (.ofPackageConfig fault) s

/-- The failure is a problem, or there is an obstacle. -/
def Expects (settled : Settled) (options : Options) (m : Machine) (failure : Failure)
    (s : Machine) : Prop :=
  failure.IsStray → settled.Obstacle options m failure s

/-- A part of the build after the header was read. -/
abbrev IsPart (settled : Settled) (options : Options) (m : Machine) {α : Type} (x : Run α) : Prop :=
  Proceeding m (settled.Expects options m) x

variable {settled : Settled} {options : Options} {m : Machine}

theorem expects_problem (problem : Problem) (s : Machine) :
    settled.Expects options m (.problem problem) s :=
  fun stray => absurd rfl (stray problem)

theorem expects_fault {failure : Failure} {s : Machine}
    (fault : IsFault (settled.CanName options) failure s) :
    settled.Expects options m failure s := by
  intro _
  rcases fault with ⟨fault, rfl⟩ | ⟨rfl, unnamed⟩
  · exact .fault fault
  · exact .naming unnamed

theorem isPart_of_fault {α : Type} {x : Run α}
    (proceeding : Proceeding m (IsFault (settled.CanName options)) x) :
    settled.IsPart options m x :=
  proceeding.mono fun _ _ => expects_fault

theorem isPart_ofReported {α : Type} (result : Except Problem α) :
    settled.IsPart options m (Run.ofReported result) := by
  refine .ofExcept fun failure failed s _ => ?_
  cases result with
  | error problem =>
      cases failed
      exact expects_problem problem s
  | ok a => cases failed

theorem isPart_writeResult {p : Path}
    (isResult : p ∈ [settled.paths.bindings, settled.paths.metadata]) (text : String) :
    settled.IsPart options m (Run.writeWhole p text) :=
  isPart_of_fault (Run.proceeding_writeWhole (fun canName => (canName.results p isResult).1)
    (fun canName => (canName.results p isResult).2) text)

/-! ### One variant -/

theorem isPart_runStep (command : Command) (v : Variant) (step : BuildStep) (workingDir : Path) :
    settled.IsPart options m (runStep command v step workingDir) := by
  refine (Run.proceeding_note _ _).bind fun _ => ?_
  intro s before
  obtain ⟨s', ran⟩ := exists_of_result
    (congrArg Prod.fst (Run.runFrom_start command workingDir s))
  have started : settled.IsPart options m (Run.start command workingDir) :=
    Run.proceeding_start _ _
  have after : m.Proceeds s' := started.of_run before ran
  have given (ends : s.outcome 0 ≠ .finished 0 "" "" []) : s.outcome 0 ∈ m.outcomes :=
    before.outcomes.subset ((s.outcome_cases 0).resolve_right ends)
  refine .of_ran ran ?_
  generalize s.outcome 0 = outcome at given
  cases outcome with
  | missing => exact Proceeding.throw (fun s _ => expects_problem _ s) _ after
  | unstarted fault => exact Proceeding.throw (fun _ _ _ => .unstarted (given nofun)) _ after
  | undecodable created => exact Proceeding.throw (fun _ _ _ => .undecodable (given nofun)) _ after
  | finished status output errorOutput created =>
      exact Proceeding.check (fun _ s _ => expects_problem _ s)
        (fun _ => Run.proceeding_note _ _) _ after

theorem isPart_chosenJobs : settled.IsPart options m (chosenJobs ⟨settled.jobs, options.tool⟩) := by
  refine Proceeding.get.bind_of fun found s s' ran here => ?_
  cases ran
  have host := here.host
  split
  · rename_i none
    refine Proceeding.throw (fun _ _ _ => Obstacle.jobs ?_ (.inl rfl)) _ here
    rintro ⟨jobs, found, _⟩
    rw [host, found] at none
    cases none
  · rename_i jobs chosen
    refine Proceeding.ite (fun _ => .pure _)
      (fun long => .throw fun _ _ _ => Obstacle.jobs ?_ (.inr rfl)) _ here
    rintro ⟨other, found, writable⟩
    rw [host, found] at chosen
    cases chosen
    exact long writable

theorem isPart_compile (v : Variant) (sourceDir installDir : Path) :
    settled.IsPart options m
      (v.compile settled.config sourceDir installDir ⟨settled.jobs, options.tool⟩) := by
  refine (Proceeding.forM fun _ _ => Run.proceeding_warn _ _).bind fun _ => ?_
  refine (Run.proceeding_print (by simp [String.toList_append, toString])).bind fun _ => ?_
  refine (isPart_runStep _ _ _ _).bind fun _ => isPart_chosenJobs.bind fun jobs => ?_
  exact (isPart_runStep _ _ _ _).bind fun _ => isPart_runStep _ _ _ _

theorem isPart_patchPackageConfig {v : Variant} {places : List Path}
    (areConfigs : ∀ p ∈ places, settled.IsConfigOf options m v p) :
    settled.IsPart options m (patchPackageConfig.go v.basename places) := by
  induction places with
  | nil => exact .pure _
  | cons p rest ih =>
      have isConfig := areConfigs p List.mem_cons_self
      have later := ih fun q inRest => areConfigs q (List.mem_cons_of_mem p inRest)
      refine (Run.proceeding_isFile p).bind_of fun there s s' ran here => ?_
      rw [Run.runFrom_isFile] at ran
      cases ran
      -- An obstacle is what the file holds where the run fails, so the reading is followed from
      -- the very machine on which the file was found.
      cases held : s.fileAt? p with
      | none => exact (Run.proceeding_note _ _).bind (fun _ => later) s here
      | some content =>
          have offers := Machine.fileAt?_eq_some_iff.mp held
          rw [Option.isSome_some, if_pos rfl]
          cases content with
          | raw bytes =>
              unfold Run.readText
              rw [bind_assoc]
              refine .of_ran (Run.runFrom_readContent_of_offers offers) ⟨here, fun _ failed => ?_⟩
              cases failed
              exact fun _ => .encoding isConfig held
          | text text =>
              refine .of_ran (Run.runFrom_readText_of_offers offers) ?_
              cases renamed : PackageConfig.rename
                (String.ofList (Run.readLines text.toList)) v.basename with
              | error fault =>
                  refine ⟨here, fun _ failed => ?_⟩
                  cases failed
                  exact fun _ => .renaming isConfig held renamed
              | ok patched =>
                  have wrote : settled.IsPart options m (Run.writeText p patched) :=
                    isPart_of_fault (Run.proceeding_writeContent (fun _ => offers.nameable) _)
                  refine .of_ran rfl (Proceeding.ite (fun _ => ?_) (fun _ => ?_) s here)
                  · exact (Run.proceeding_note _ _).bind fun _ => .pure _
                  · exact wrote.bind fun _ => (Run.proceeding_note _ _).bind fun _ => .pure _

theorem isPart_noteInstalled (v : Variant) (libDir : Path) :
    settled.IsPart options m (noteInstalled v libDir) := by
  refine (Run.proceeding_isDirectory libDir).bind_of fun there s s' ran here => ?_
  have found : decide (s.files.find? s.workingDir libDir = some .directory) = there :=
    Except.ok.inj (Prod.mk.inj ran).1
  refine Proceeding.ite (fun isDirectory => ?_) (fun _ => .pure _) s' here
  rw [← found, decide_eq_true_iff] at isDirectory
  have nameable := (Machine.find?_eq_some_iff.mp isDirectory).1.nameable
  have located : settled.IsPart options m (Run.locate libDir) :=
    isPart_of_fault (Run.proceeding_locate fun _ => nameable)
  exact Proceeding.get.bind fun _ => located.bind fun _ => .forM fun _ _ => Run.proceeding_note _ _

theorem isPart_buildVariant {v : Variant} (isVariant : v ∈ settled.variants options.variants) :
    settled.IsPart options m (buildVariant settled.config v settled.paths.sourceDir
      settled.paths.outDir ⟨settled.jobs, options.tool⟩) := by
  rw [buildVariant_eq]
  have resolved {p : Path} (nameable : settled.CanName options → p.isNameable = true) :
      settled.IsPart options m (Run.resolve p) := isPart_of_fault (Run.proceeding_resolve nameable)
  refine (resolved CanName.sourceDir).bind fun source => ?_
  refine (resolved CanName.outDir).bind_of fun out s s' ran here => ?_
  obtain ⟨rfl, rfl⟩ := Run.runFrom_resolve_eq_ok ran
  rw [here.workingDir]
  have patched : settled.IsPart options m (patchPackageConfig.go v.basename
      (v.configPlaces (v.installDir (settled.paths.outDir.absolute m.workingDir)))) :=
    isPart_patchPackageConfig fun p inside => ⟨isVariant, inside⟩
  have closed (artifacts : Artifacts) : settled.IsPart options m (v.close artifacts) :=
    (isPart_noteInstalled _ _).bind fun _ =>
      (Run.proceeding_print (by simp [String.toList_append, toString])).bind fun _ => .pure _
  exact ((isPart_compile _ _ _).bind fun _ => (patched.map _).bind fun _ => closed _) s' here

/-! ### All variants -/

theorem isPart_publish (channel : Channel) (items : List (String × String)) :
    settled.IsPart options m (publish channel items) :=
  (isPart_ofReported _).bind fun _ => (Proceeding.forM fun _ _ => Run.proceeding_note _ _).bind
    fun _ => .pure _

theorem isPart_buildAll (channel : Channel) {variants : List Variant}
    (areVariants : variants ⊆ settled.variants options.variants) :
    settled.IsPart options m (buildAll settled options.tool channel variants) := by
  induction variants generalizing channel with
  | nil => exact .pure _
  | cons v rest ih =>
      obtain ⟨isVariant, inRest⟩ := List.cons_subset.mp areVariants
      have built : settled.IsPart options m (buildAndPublish settled options.tool channel v) :=
        (isPart_buildVariant isVariant).bind fun _ => (isPart_publish _ _).bind fun _ =>
          (Run.proceeding_note _ _).bind fun _ => .pure _
      exact built.bind fun published => (ih published.1 inRest).bind fun _ => .pure _

theorem isPart_commit (channel : Channel) :
    settled.IsPart options m (commit channel settled.paths.metadata) :=
  (isPart_writeResult (by simp) _).bind fun _ => Run.proceeding_note _ _

theorem isPart_firstFile? (places : List Path) :
    settled.IsPart options m (firstFile? places) := by
  induction places with
  | nil => exact .pure _
  | cons p rest ih =>
      exact (Run.proceeding_isFile p).bind fun there => .ite (fun _ => .pure _) fun _ => ih

theorem isNameable_of_firstFile? {places : List Path} {p : Path} {s s' : Machine}
    (found : runFrom (firstFile? places) s = (.ok (some p), s')) : p.isNameable = true := by
  induction places with
  | nil => cases found
  | cons q rest ih =>
      unfold firstFile? at found
      rw [runFrom_bind_of_ok (Run.runFrom_isFile q s)] at found
      cases held : s.fileAt? q with
      | none =>
          rw [held] at found
          exact ih found
      | some content =>
          rw [held] at found
          cases found
          exact (Machine.fileAt?_eq_some_iff.mp held).nameable

theorem isPart_stageLibrary (artifacts : Artifacts) {dest : Path}
    (isDest : dest ∈ options.stagingDir?) (target : Target) (name : String) :
    settled.IsPart options m (stageLibrary artifacts dest target name) := by
  refine (isPart_firstFile? _).bind_of fun source? s s' ran here => ?_
  cases source? with
  | none =>
      exact ((Run.proceeding_note _ _).bind fun _ => (Run.proceeding_print
        (by simp [String.toList_append, toString])).bind fun _ => .pure _) s' here
  | some source =>
      have nameable := isNameable_of_firstFile? ran
      have copied : settled.IsPart options m (Run.copy source (dest.child source.name)) :=
        isPart_of_fault (Run.proceeding_copy (fun _ => nameable) fun canName =>
          Path.isNameable_child (canName.stagingDir dest isDest) (Path.not_mem_name nameable))
      exact (copied.bind fun _ => (Run.proceeding_print
        (by simp [String.toList_append, toString])).bind fun _ => .pure _) s' here

theorem isPart_stageAll (sets : List Artifacts) (target : Target) :
    settled.IsPart options m (stageAll sets options.stagingDir? target) := by
  cases given : options.stagingDir? with
  | none => exact .pure _
  | some dest =>
      have copied (artifacts : Artifacts) :
          settled.IsPart options m (stageLibraries artifacts dest target) := by
        refine (isPart_of_fault (Run.proceeding_makeDirectories
          fun canName => canName.stagingDir dest given)).bind fun _ => ?_
        exact (Proceeding.mapM fun name _ => isPart_stageLibrary artifacts given target name).bind
          fun _ => .pure _
      exact (Proceeding.mapM fun artifacts _ => copied artifacts).bind fun _ => .pure _

theorem isPart_buildVariants : settled.IsPart options m (buildVariants options settled) := by
  refine (isPart_publish _ _).bind fun opened => (isPart_ofReported _).bind_of
    fun variants s s' ran here => ?_
  have chosen : settled.variants options.variants = variants := by
    unfold Settled.variants
    rw [(ofReported_eq_ok ran).1]
    rfl
  have built : settled.IsPart options m (buildAll settled options.tool opened variants) :=
    isPart_buildAll opened (by rw [chosen]; exact List.Subset.refl variants)
  exact (built.bind fun published => (isPart_commit published.1).bind fun _ =>
    (isPart_stageAll _ _).bind fun _ => .pure _) s' here

/-! ### The rest of a build -/

def conclude (settled : Settled) (options : Options) (signal? : Option String)
    (surface : Header.Surface) : Run PipelineResult := do
  discard <| settled.bindingRequest.write surface
  options.finish signal? settled

theorem isPart_conclude (signal? : Option String) (surface : Header.Surface) :
    settled.IsPart options m (settled.conclude options signal? surface) := by
  have written : settled.IsPart options m (settled.bindingRequest.write surface) := by
    refine (isPart_writeResult ?_ _).bind fun _ => (Run.proceeding_print ?_).bind fun _ => .pure _
    · exact List.mem_cons_self
    · simp [String.toList_append, toString]
  refine (written.map _).bind fun _ => ?_
  cases signal? with
  | some signal =>
      exact (Run.proceeding_print (by simp [String.toList_append, toString])).bind fun _ => .pure _
  | none => exact isPart_buildVariants.bind fun _ => .pure _

end Settled

end NativeVariants
