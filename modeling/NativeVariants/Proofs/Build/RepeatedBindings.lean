import NativeVariants.Proofs.Build.Settling
import NativeVariants.Proofs.Build.Steps
import NativeVariants.Proofs.Machine.Repetition

set_option autoImplicit false

/-!
Bindings that are generated once more. The options are settled as before if the project file was
left alone (`Options.replays_settle`), and the bindings that were generated from a header are
generated again from the same header without a change (`Settled.IsGenerated.again`).
-/

namespace NativeVariants
open Header

/-! ### The options once more -/

section Settling

variable {root : Path} {file : ProjectFile} {m m' last : Machine}

theorem ProjectFile.load_eq_ok (loaded : runFrom (load root) m = (.ok file, m')) :
    m.fileAt? (root.child name) = none ∧ ofEntries [] = .ok file ∨
      ∃ text, m.Offers (root.child name) (.text text) ∧
        ofText (root.child name).display (String.ofList (Run.readLines text.toList)) =
          .ok file := by
  unfold load at loaded
  rw [runFrom_bind_of_ok (Run.runFrom_isFile _ m)] at loaded
  cases found : m.fileAt? (root.child name) with
  | none =>
      rw [found, Option.isSome_none, if_neg Bool.false_ne_true] at loaded
      exact .inl ⟨rfl, (runFrom_ofExcept_eq_ok_iff.mp loaded).1⟩
  | some content =>
      rw [found, Option.isSome_some, if_pos rfl] at loaded
      obtain ⟨lines, m₁, read, parsed⟩ := runFrom_bind_eq_ok.mp loaded
      obtain ⟨_, text, offers, rfl⟩ := Run.readText_eq_ok read
      exact .inr ⟨text, offers, (runFrom_ofExcept_eq_ok_iff.mp parsed).1⟩

theorem ProjectFile.replays_load (loaded : runFrom (load root) m = (.ok file, m'))
    (same : last.fileAt? (root.child name) = m.fileAt? (root.child name)) :
    Replays last (load root) file := by
  apply (Run.replays_isFile _).bind
  rw [same]
  rcases load_eq_ok loaded with ⟨absent, parsed⟩ | ⟨text, offers, parsed⟩
  · rw [absent]
    exact replays_of_ok parsed
  · have found := Machine.fileAt?_eq_some_iff.mpr offers
    rw [found]
    apply (Run.replays_readText (Machine.fileAt?_eq_some_iff.mp (same.trans found))).bind
    exact replays_of_ok parsed

def Options.projectFile (options : Options) : Path := options.projectRoot.child ProjectFile.name

variable {options : Options} {environ : Environ} {settled : Settled}

/-- The project file is the same as before if its place was not written, as long as its directory is
found without leading back or was there before. -/
theorem Options.fileAt?_projectFile {writes drafts : Location → Prop}
    (changes : m.Changes writes drafts m') (sound : m.files.IsSound)
    (rooted : Path.upward ∉ options.projectRoot.parts ∨ m.HasDirectory options.projectRoot)
    (apart : ¬writes (options.projectFile.resolve m.workingDir)) :
    m'.fileAt? options.projectFile = m.fileAt? options.projectFile := by
  have isName : Path.IsName ProjectFile.name := by decide
  have below : options.projectFile =
      ⟨options.projectRoot.anchor, options.projectRoot.parts ++ [ProjectFile.name]⟩ :=
    Path.child_of_isName isName _
  rcases rooted with straight | there
  · apply changes.fileAt?_of_straight sound _ apart
    rw [below]
    simp [straight, isName.2.symm]
  · apply changes.fileAt?_of_reaches _ apart
    rw [below]
    exact there.reaches_below isName.2 (by decide)

theorem Options.replays_settle (settles : (runFrom (options.settle environ) m).1 = .ok settled)
    (host : last.host = m.host) (here : last.workingDir = m.workingDir)
    (same : last.fileAt? options.projectFile = m.fileAt? options.projectFile) :
    Replays last (options.settle environ) settled := by
  obtain ⟨m', settling⟩ := exists_of_result settles
  obtain ⟨file, loaded, settlesTo, _⟩ := settle_eq_ok_iff.mp settling
  intro n repeats
  obtain ⟨n₁, loading, repeatsHere⟩ := ProjectFile.replays_load loaded same n repeats
  obtain rfl : n = n₁ := (ProjectFile.respects_load _).of_run loading
  obtain ⟨n₂, noted, repeatsNoted⟩ := Run.replays_note _ _ n repeatsHere
  refine ⟨n₂, settle_eq_ok_iff.mpr ⟨file, loading, ?_, noted⟩, repeatsNoted⟩
  rw [repeats.host, repeats.workingDir, host, here]
  exact settlesTo

end Settling

/-! ### The sources once more -/

section Checking

variable {paths : ProjectPaths} {m m' last : Machine}

theorem ProjectPaths.check_eq_ok (checked : runFrom paths.check m = (.ok (), m')) :
    ∀ p ∈ paths.required, (m.files.find? m.workingDir p).isSome = true := by
  unfold check at checked
  generalize paths.required = places at checked
  induction places with
  | nil => simp
  | cons p rest ih =>
      rw [forM_cons] at checked
      obtain ⟨_, m₁, looked, later⟩ := runFrom_bind_eq_ok.mp checked
      have present : runFrom (Run.present p) m =
          (.ok (m.files.find? m.workingDir p).isSome, m) := rfl
      rw [runFrom_bind_of_ok present] at looked
      cases there : (m.files.find? m.workingDir p).isSome with
      | false =>
          rw [there] at looked
          cases looked
      | true =>
          rw [there] at looked
          cases looked
          exact List.forall_mem_cons.mpr ⟨there, ih later⟩

theorem ProjectPaths.runFrom_check_of_present
    (present : ∀ p ∈ paths.required, (m.files.find? m.workingDir p).isSome = true) :
    runFrom paths.check m = (.ok (), m) := by
  unfold check
  generalize paths.required = places at present
  induction places with
  | nil => rfl
  | cons p rest ih =>
      obtain ⟨there, later⟩ := List.forall_mem_cons.mp present
      have looked : runFrom (do
          if !(← Run.present p) then
            throw (.problem (.missingSource p.display paths.sourceDir.display))) m = (.ok (), m) := by
        have found : runFrom (Run.present p) m =
            (.ok (m.files.find? m.workingDir p).isSome, m) := rfl
        rw [runFrom_bind_of_ok found, there]
        rfl
      rw [forM_cons, runFrom_bind_of_ok looked]
      exact ih later

theorem ProjectPaths.replays_check
    (present : ∀ p ∈ paths.required, (last.files.find? last.workingDir p).isSome = true) :
    Replays last paths.check ⟨⟩ := by
  apply replays_forM
  intro p isRequired
  apply (Run.replays_present p).bind
  rw [present p isRequired]
  exact replays_pure _

end Checking

/-! ### The header once more -/

def Machine.nextUnit (m : Machine) : HeaderUnit := m.units.headD default

namespace Run

theorem runFrom_nextUnit_fst (header : String) (arguments : List String) (m : Machine) :
    (runFrom (nextUnit header arguments) m).1 = .ok m.nextUnit := by
  rcases m with ⟨host, environ, location, files, _ | ⟨u, _ | _⟩, outcomes, shown, events⟩
  all_goals rfl

theorem returns_note (recorder : Recorder) (message : String) :
    Returns (note recorder message) () := by
  intro m
  obtain ⟨events, noted⟩ := runFrom_note recorder message m
  rw [noted]

theorem returns_print (line : String) : Returns (print line) () := fun _ => rfl

theorem returns_warn (recorder : Recorder) (message : String) :
    Returns (warn recorder message) () := by
  intro m
  unfold warn
  rw [runFrom_bind_of_ok (runFrom_get m)]
  split
  · rfl
  · rfl

end Run

theorem Machine.Talks.fileAt?_eq {m m' : Machine} (talks : m.Talks m') (p : Path) :
    m'.fileAt? p = m.fileAt? p := by
  unfold fileAt?
  rw [talks.files, talks.workingDir]

theorem Machine.Untouched.nextUnit {m m' : Machine} (untouched : m.Untouched m') :
    m'.nextUnit = m.nextUnit := by
  obtain ⟨records, rfl⟩ := untouched
  rfl

/-- A header is collected from what is reported of it, whatever was done before. -/
theorem runFrom_readHeader_fst (request : BindingRequest) (m : Machine) :
    (runFrom (readHeader request) m).1 =
      (collectUnit request.allow .empty request.header.display m.nextUnit).surface := by
  unfold readHeader
  rw [(Run.returns_note _ _).runFrom_bind]
  have noted : ∀ message, (runFrom (Run.note .header message) m).2.nextUnit = m.nextUnit :=
    fun message => Machine.Untouched.nextUnit (Run.untouched_note .header message m)
  obtain ⟨m₁, read⟩ := exists_of_result (Run.runFrom_nextUnit_fst _ _ _)
  rw [runFrom_bind_of_ok read, noted]
  generalize collectUnit request.allow .empty request.header.display m.nextUnit = outcome
  have warned : Returns (outcome.unmapped.forM fun spelling =>
      Run.warn .header (unmappedWarning spelling)) ⟨⟩ :=
    returns_forM fun _ _ => Run.returns_warn _ _
  rw [warned.runFrom_bind]
  cases outcome.surface with
  | error failure => rfl
  | ok surface =>
      change (runFrom (Run.note .header _ >>= fun _ => pure surface) _).1 = _
      rw [(Run.returns_note _ _).runFrom_bind]
      rfl

structure BindingRequest.Gives (request : BindingRequest) (u : HeaderUnit) (surface : Surface) :
    Prop where
  collected : (collectUnit request.allow .empty request.header.display u).surface = .ok surface
  filled : surface.isEmpty = false
  renderable : Bindings.isRenderable surface = true

section Reading

variable {request : BindingRequest} {surface : Surface} {m m' : Machine}

theorem BindingRequest.read_eq_ok (ran : runFrom request.read m = (.ok surface, m')) :
    (m.fileAt? request.header).isSome = true ∧ request.Gives m.nextUnit surface := by
  unfold read at ran
  rw [runFrom_bind_of_ok (Run.runFrom_isFile _ m)] at ran
  cases there : (m.fileAt? request.header).isSome with
  | false =>
      rw [there] at ran
      cases ran
  | true =>
      rw [there, if_pos rfl] at ran
      obtain ⟨_, m₁, printed, reading⟩ := runFrom_bind_eq_ok.mp ran
      cases printed
      obtain ⟨found, m₂, read, checking⟩ := runFrom_bind_eq_ok.mp reading
      have collected := congrArg Prod.fst read
      rw [runFrom_readHeader_fst] at collected
      split at checking
      · cases checking
      · rename_i filled
        split at checking
        · rename_i renderable
          cases checking
          exact ⟨rfl, collected, Bool.eq_false_iff.mpr filled, renderable⟩
        · cases checking

theorem BindingRequest.Gives.read (gives : request.Gives m.nextUnit surface)
    (there : (m.fileAt? request.header).isSome = true) :
    ∃ m', runFrom request.read m = (.ok surface, m') := by
  unfold BindingRequest.read
  rw [runFrom_bind_of_ok (Run.runFrom_isFile _ m), there, if_pos rfl]
  rw [(Run.returns_print _).runFrom_bind]
  obtain ⟨m₁, read⟩ := exists_of_result
    ((runFrom_readHeader_fst request (runFrom (Run.print _) m).2).trans gives.collected)
  rw [runFrom_bind_of_ok read, gives.filled, if_neg Bool.false_ne_true, if_pos gives.renderable]
  exact ⟨m₁, rfl⟩

end Reading

/-! ### The bindings once more -/

/-- The bindings were generated from what the reader of headers reports, and the sources are there
to do it again. -/
structure Settled.IsGenerated (settled : Settled) (u : HeaderUnit) (m : Machine) : Prop where
  sources : ∀ p ∈ settled.paths.required, (m.files.find? m.workingDir p).isSome = true
  header : (m.fileAt? settled.paths.wrapperHeader).isSome = true
  bindings : ∃ surface, settled.bindingRequest.Gives u surface ∧
    m.HoldsWhole settled.paths.bindings
      (Bindings.render surface settled.paths.wrapperHeader.name)

namespace Settled

variable {settled : Settled} {u : HeaderUnit} {m m' last : Machine}

theorem wrapperHeader_mem_required (paths : ProjectPaths) :
    paths.wrapperHeader ∈ paths.required := by simp [ProjectPaths.required]

theorem IsGenerated.of_changes {writes drafts : Location → Prop}
    (isGenerated : settled.IsGenerated u m) (changes : m.Changes writes drafts m')
    (sources : ∀ p ∈ settled.paths.required, ¬drafts (p.resolve m.workingDir))
    (apart : ¬writes (settled.paths.bindings.resolve m.workingDir)) :
    settled.IsGenerated u m' where
  sources p isRequired := changes.present (isGenerated.sources p isRequired) (sources p isRequired)
  header := changes.isSome_fileAt? isGenerated.header
    (sources _ (wrapperHeader_mem_required settled.paths))
  bindings := by
    obtain ⟨surface, gives, holds⟩ := isGenerated.bindings
    exact ⟨surface, gives, holds.of_changes changes apart⟩

def draft (settled : Settled) (workingDir : Location) : Location :=
  (Run.draftOf settled.paths.bindings).resolve workingDir

theorem isGenerated_of_generate (sound : m.files.IsSound)
    (apart : ∀ p ∈ settled.paths.required, p.resolve m.workingDir ≠ settled.draft m.workingDir)
    (ran : runFrom settled.generate m = (.ok (), m')) :
    settled.IsGenerated m.nextUnit m' ∧
      m.Changes (fun l => l = settled.draft m.workingDir ∨
        l = settled.paths.bindings.resolve m.workingDir) (· = settled.draft m.workingDir) m' ∧
      m'.outcomes = m.outcomes := by
  unfold generate at ran
  obtain ⟨_, m₁, checked, noting⟩ := runFrom_bind_eq_ok.mp ran
  obtain ⟨_, m₂, noted, discarding⟩ := runFrom_bind_eq_ok.mp noting
  obtain rfl : m = m₁ := settled.paths.respects_check.of_run checked
  have sources := ProjectPaths.check_eq_ok checked
  have untouched : m.Untouched m₂ := (Run.untouched_note _ _).of_run noted
  obtain ⟨surface, generated⟩ := discard_eq_ok discarding
  obtain ⟨m₃, m₄, read, reading, written, told⟩ := generateBindings_eq_ok generated
  obtain ⟨header, gives⟩ := BindingRequest.read_eq_ok read
  have talks : m.Talks m₃ := trans_of Machine.Talks untouched.talks reading
  have before : m.Changes (fun _ => False) (fun _ => False) m₃ := talks.changes sound _ _
  have later : m₄.Talks m' := told
  have holds := Run.holdsWhole_of_writeWhole before.sound written
  have idle : Idle m₃.workingDir (fun _ => True) (Run.writeWhole settled.paths.bindings
      (Bindings.render surface settled.paths.wrapperHeader.name)) :=
    Run.idle_writeWhole trivial trivial _
  have outcomes := (idle.of_run written rfl).outcomes
  have changes := Run.changes_of_writeWhole before.sound written
  rw [talks.workingDir] at changes
  have after : m₄.Changes (fun _ => False) (fun _ => False) m' := later.changes changes.sound _ _
  have whole := (before.mono (fun _ => False.elim) fun _ => False.elim).trans
    (changes.trans (after.mono (fun _ => False.elim) fun _ => False.elim))
  refine ⟨⟨?_, ?_, surface, ?_, ?_⟩, whole, ?_⟩
  · exact fun p isRequired => whole.present (sources p isRequired) (apart p isRequired)
  · rw [untouched.talks.fileAt?_eq] at header
    exact whole.isSome_fileAt? header (apart _ (wrapperHeader_mem_required settled.paths))
  · rw [← untouched.nextUnit]
    exact gives
  · exact holds.of_changes after not_false
  · rw [later.outcomes, outcomes, talks.outcomes]

/-- Bindings that were generated are generated again from the same header without a change. -/
theorem IsGenerated.again {n : Machine} (isGenerated : settled.IsGenerated u last)
    (sound : last.files.IsSound)
    (free : last.files.entry? (settled.draft last.workingDir) = none)
    (repeats : last.Repeats n) (reads : n.nextUnit = u) :
    ∃ n', runFrom settled.generate n = (.ok (), n') ∧ last.Repeats n' := by
  obtain ⟨surface, gives, holds⟩ := isGenerated.bindings
  obtain ⟨n₁, checked, repeatsChecked⟩ :=
    settled.paths.replays_check isGenerated.sources n repeats
  obtain rfl : n = n₁ := settled.paths.respects_check.of_run checked
  obtain ⟨n₂, noted, repeatsNoted⟩ := Run.replays_note .pipeline
    s!"Source tree {settled.paths.sourceDir.display}, output {settled.paths.outDir.display}" n
    repeatsChecked
  have untouched : n.Untouched n₂ := (Run.untouched_note _ _).of_run noted
  have readsNext : settled.bindingRequest.Gives n₂.nextUnit surface := by
    rw [untouched.nextUnit, reads]
    exact gives
  have header : (n₂.fileAt? settled.paths.wrapperHeader).isSome = true := by
    rw [repeatsNoted.fileAt?_eq]
    exact isGenerated.header
  obtain ⟨n₃, read⟩ := readsNext.read header
  have repeatsRead := repeatsNoted.of_talks (settled.bindingRequest.talks_read.of_run read)
  have writes : Replays last (settled.bindingRequest.write surface) surface :=
    (Run.replays_writeWhole sound holds free).bind
      ((Run.replays_print _).bind (replays_pure _))
  obtain ⟨n₄, written, repeatsWritten⟩ := writes n₃ repeatsRead
  refine ⟨n₄, ?_, repeatsWritten⟩
  unfold generate
  rw [runFrom_bind_of_ok checked, runFrom_bind_of_ok noted,
    settled.bindingRequest.generateBindings_eq]
  change runFrom ((fun _ => PUnit.unit) <$>
    (settled.bindingRequest.read >>= settled.bindingRequest.write)) n₂ = _
  rw [runFrom_map, runFrom_bind_of_ok read, written]
  rfl

end Settled

end NativeVariants
