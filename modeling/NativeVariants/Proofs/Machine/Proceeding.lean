import NativeVariants.Link
import NativeVariants.Proofs.Build.ProcessPlan
import NativeVariants.Proofs.Machine.PlainPaths

set_option autoImplicit false

/-!
Runs that go on from a machine. Whatever such a run does, it stays on the host, its processes end as
the machine says, and it prints no directive; if it fails, it does so in one of the expected ways
(`Proceeding`). An operation on files that can be named fails by a fault of the file system alone.
-/

namespace NativeVariants

/-! ### Lines that are no directives -/

/-- A line that begins with another letter than directives do. -/
abbrev IsRemark (line : String) : Prop := line.toList.head? ≠ some 'l'

theorem head?_append {a b : String} {c : Char} (first : a.toList.head? = some c) :
    (a ++ b).toList.head? = some c := by
  rw [String.toList_append, List.head?_append, first]
  rfl

theorem LinkDirective.head?_render (d : LinkDirective) : d.render.toList.head? = some 'l' := by
  cases d with
  | search path => exact head?_append (by decide)
  | library name => exact head?_append (head?_append (head?_append (by decide)))
  | system name => exact head?_append (head?_append (head?_append (by decide)))
  | framework name => exact head?_append (head?_append (head?_append (by decide)))

/-- No directive for the linker is printed among the events. -/
def IsUnlinked (events : List Event) : Prop :=
  ∀ d : LinkDirective, .printed (d.render ++ "\n") ∉ events

theorem IsUnlinked.append {events more : List Event} (first : IsUnlinked events)
    (second : IsUnlinked more) : IsUnlinked (events ++ more) := by
  intro d inside
  rcases List.mem_append.mp inside with inFirst | inSecond
  · exact first d inFirst
  · exact second d inSecond

theorem isUnlinked_print {line : String} (remark : IsRemark line) :
    IsUnlinked [.printed (line ++ "\n")] := by
  intro d inside
  have same := Event.printed.inj (List.mem_singleton.mp inside)
  rw [String.append_left_inj] at same
  exact remark (same ▸ d.head?_render)

/-! ### Going on from a machine -/

/-- A run has gone on from one machine to the other. -/
structure Machine.Proceeds (m m' : Machine) : Prop where
  host : m'.host = m.host
  workingDir : m'.workingDir = m.workingDir
  outcomes : m'.outcomes <:+ m.outcomes
  output : ∃ added, m'.events = m.events ++ added ∧ IsUnlinked added

theorem Machine.Proceeds.of_events {m m' : Machine} (host : m'.host = m.host)
    (workingDir : m'.workingDir = m.workingDir) (outcomes : m'.outcomes = m.outcomes)
    {added : List Event} (events : m'.events = m.events ++ added) (unlinked : IsUnlinked added) :
    m.Proceeds m' :=
  ⟨host, workingDir, outcomes ▸ List.suffix_refl _, added, events, unlinked⟩

instance : IsPreorder Machine Machine.Proceeds where
  refl m := .of_events rfl rfl rfl (List.append_nil _).symm (fun _ => List.not_mem_nil)
  trans m m' m'' first second := by
    obtain ⟨added, addedEq, unlinked⟩ := first.output
    obtain ⟨more, moreEq, stillUnlinked⟩ := second.output
    refine ⟨second.host.trans first.host, second.workingDir.trans first.workingDir,
      second.outcomes.trans first.outcomes, added ++ more, ?_, unlinked.append stillUnlinked⟩
    rw [moreEq, addedEq, List.append_assoc]

/-- The run leaves a machine that has gone on from `m`, and if it fails, it does so in an expected
way. -/
def ProceedsFrom (s m : Machine) (expected : Failure → Machine → Prop) {α : Type} (x : Run α) :
    Prop :=
  m.Proceeds (runFrom x s).2 ∧
    ∀ failure, (runFrom x s).1 = .error failure → expected failure (runFrom x s).2

/-- The run goes on from every machine that has gone on from `m`. -/
def Proceeding (m : Machine) (expected : Failure → Machine → Prop) {α : Type} (x : Run α) : Prop :=
  ∀ s, m.Proceeds s → ProceedsFrom s m expected x

theorem ProceedsFrom.of_ran {m s s' : Machine} {expected : Failure → Machine → Prop} {α β : Type}
    {x : Run α} {f : α → Run β} {a : α} (ran : runFrom x s = (.ok a, s'))
    (next : ProceedsFrom s' m expected (f a)) : ProceedsFrom s m expected (x >>= f) := by
  unfold ProceedsFrom
  rw [runFrom_bind_of_ok ran]
  exact next

namespace Proceeding

variable {m : Machine} {expected expected' : Failure → Machine → Prop} {α β : Type}

theorem of_run {x : Run α} (proceeding : Proceeding m expected x) {s s' : Machine}
    {result : Except Failure α} (before : m.Proceeds s) (ran : runFrom x s = (result, s')) :
    m.Proceeds s' := by
  have after := (proceeding s before).1
  rwa [ran] at after

theorem of_failed {x : Run α} (proceeding : Proceeding m expected x) {s s' : Machine}
    {failure : Failure} (before : m.Proceeds s) (ran : runFrom x s = (.error failure, s')) :
    expected failure s' := by
  have after := (proceeding s before).2 failure
  rw [ran] at after
  exact after rfl

theorem mono {x : Run α} (proceeding : Proceeding m expected x)
    (weaker : ∀ failure s, expected failure s → expected' failure s) : Proceeding m expected' x :=
  fun s before => ⟨(proceeding s before).1,
    fun failure failed => weaker _ _ ((proceeding s before).2 failure failed)⟩

theorem of_returns {x : Run α} (steps : Respects Machine.Proceeds x)
    (returns : ∀ s, ∃ a, (runFrom x s).1 = .ok a) : Proceeding m expected x := by
  intro s before
  refine ⟨trans_of Machine.Proceeds before (steps s), fun failure failed => ?_⟩
  obtain ⟨a, returned⟩ := returns s
  rw [returned] at failed
  cases failed

theorem pure (a : α) : Proceeding m expected (pure a : Run α) :=
  .of_returns (respects_pure a) fun _ => ⟨a, rfl⟩

theorem get : Proceeding m expected (get : Run Machine) :=
  .of_returns respects_get fun s => ⟨s, rfl⟩

theorem throw {failure : Failure} (holds : ∀ s, m.Proceeds s → expected failure s) :
    Proceeding m expected (throw failure : Run α) := by
  intro s before
  refine ⟨before, fun other failed => ?_⟩
  cases failed
  exact holds s before

theorem ofExcept {result : Except Failure α}
    (holds : ∀ failure, result = .error failure → ∀ s, m.Proceeds s → expected failure s) :
    Proceeding m expected (ofExcept result : Run α) := by
  intro s before
  unfold ProceedsFrom
  rw [runFrom_ofExcept]
  exact ⟨before, fun failure failed => holds failure failed s before⟩

/-- The continuation has to go on from the machines alone on which the first part returns. -/
theorem bind_of {x : Run α} {f : α → Run β} (first : Proceeding m expected x)
    (next : ∀ a s s', runFrom x s = (.ok a, s') → m.Proceeds s' →
      ProceedsFrom s' m expected (f a)) : Proceeding m expected (x >>= f) := by
  intro s before
  unfold ProceedsFrom
  rw [runFrom_bind]
  rcases ran : runFrom x s with ⟨failure | a, s'⟩
  · refine ⟨first.of_run before ran, fun other same => ?_⟩
    cases same
    exact first.of_failed before ran
  · exact next a s s' ran (first.of_run before ran)

theorem bind {x : Run α} {f : α → Run β} (first : Proceeding m expected x)
    (next : ∀ a, Proceeding m expected (f a)) : Proceeding m expected (x >>= f) :=
  first.bind_of fun a _ s' _ => next a s'

theorem map {x : Run α} (proceeding : Proceeding m expected x) (g : α → β) :
    Proceeding m expected (g <$> x) := by
  change Proceeding m expected (x >>= fun a => Pure.pure (g a))
  exact proceeding.bind fun _ => pure _

theorem ite {condition : Prop} [Decidable condition] {x y : Run α}
    (yes : condition → Proceeding m expected x) (no : ¬condition → Proceeding m expected y) :
    Proceeding m expected (if condition then x else y) := by
  split
  · exact yes ‹_›
  · exact no ‹_›

theorem check {condition : Prop} [Decidable condition] {failure : Failure} {x : Run α}
    (holds : condition → ∀ s, m.Proceeds s → expected failure s)
    (rest : ¬condition → Proceeding m expected x) :
    Proceeding m expected
      (if condition then (MonadExcept.throw failure : Run PUnit) >>= fun _ => x else x) := by
  split
  · rename_i holdsHere
    intro s before
    refine ⟨before, fun other failed => ?_⟩
    cases failed
    exact holds holdsHere s before
  · exact rest ‹_›

theorem tryCatch {x : Run α} {recover : Failure → Run α} (first : Proceeding m expected' x)
    (next : ∀ failure s, expected' failure s → Proceeding m expected (recover failure)) :
    Proceeding m expected (MonadExcept.tryCatch x recover) := by
  intro s before
  unfold ProceedsFrom
  rw [runFrom_tryCatch]
  rcases ran : runFrom x s with ⟨failure | a, s'⟩
  · exact next failure s' (first.of_failed before ran) s' (first.of_run before ran)
  · exact ⟨first.of_run before ran, nofun⟩

theorem forM {xs : List α} {f : α → Run PUnit} (each : ∀ a ∈ xs, Proceeding m expected (f a)) :
    Proceeding m expected (xs.forM f) := by
  induction xs with
  | nil => exact pure _
  | cons a rest ih =>
      exact (each a List.mem_cons_self).bind fun _ =>
        ih fun b inRest => each b (List.mem_cons_of_mem a inRest)

theorem mapM {xs : List α} {f : α → Run β} (each : ∀ a ∈ xs, Proceeding m expected (f a)) :
    Proceeding m expected (xs.mapM f) := by
  induction xs with
  | nil => exact pure _
  | cons a rest ih =>
      rw [List.mapM_cons]
      refine (each a List.mem_cons_self).bind fun b => ?_
      exact (ih fun c inRest => each c (List.mem_cons_of_mem a inRest)).bind fun bs => pure _

end Proceeding

/-! ### Operations -/

/-- The file system refuses something, or one of the paths that are needed names no file. -/
def IsFault (named : Prop) (failure : Failure) (_ : Machine) : Prop :=
  (∃ fault, failure = .file fault) ∨ failure = .badValue ∧ ¬named

namespace Run

variable {m : Machine} {expected : Failure → Machine → Prop} {named : Prop}

theorem proceeds_report {event : Event} (unlinked : IsUnlinked [event]) :
    Respects Machine.Proceeds (report event) :=
  fun _ => .of_events rfl rfl rfl rfl unlinked

theorem proceeds_print {line : String} (remark : IsRemark line) :
    Respects Machine.Proceeds (print line) := proceeds_report (isUnlinked_print remark)

theorem proceeds_complain (line : String) : Respects Machine.Proceeds (complain line) :=
  proceeds_report fun _ => by simp

theorem proceeds_note (recorder : Recorder) (message : String) :
    Respects Machine.Proceeds (note recorder message) :=
  respects_get.bind fun _ => .ite (fun _ => proceeds_complain _) fun _ => respects_pure _

theorem proceeds_warn (recorder : Recorder) (message : String) :
    Respects Machine.Proceeds (warn recorder message) :=
  respects_get.bind fun _ => .ite (fun _ => proceeds_complain _) fun _ => proceeds_complain _

theorem proceeds_nextUnit (header : String) (arguments : List String) :
    Respects Machine.Proceeds (nextUnit header arguments) := by
  have unlinked : IsUnlinked [.parsed header arguments] := fun _ => by simp
  rintro ⟨host, environ, location, files, _ | ⟨u, _ | _⟩, outcomes, shown, events⟩
  all_goals exact .of_events rfl rfl rfl rfl unlinked

theorem proceeding_print {line : String} (remark : IsRemark line) :
    Proceeding m expected (print line) :=
  .of_returns (proceeds_print remark) fun _ => ⟨_, rfl⟩

theorem proceeding_note (recorder : Recorder) (message : String) :
    Proceeding m expected (note recorder message) := by
  refine .of_returns (proceeds_note _ _) fun s => ?_
  obtain ⟨events, noted⟩ := runFrom_note recorder message s
  exact ⟨_, congrArg Prod.fst noted⟩

theorem proceeding_warn (recorder : Recorder) (message : String) :
    Proceeding m expected (warn recorder message) := by
  refine .of_returns (proceeds_warn _ _) fun s => ⟨(), ?_⟩
  unfold warn
  rw [runFrom_bind_of_ok (runFrom_get s)]
  split
  · rfl
  · rfl

theorem proceeding_setFiles (files : FileTree) : Proceeding m expected (setFiles files) :=
  .of_returns (fun _ => .of_events rfl rfl rfl (List.append_nil _).symm fun _ => List.not_mem_nil)
    fun _ => ⟨_, rfl⟩

theorem proceeding_wrote (location : Location) :
    Proceeding m expected (report (.wrote location)) :=
  .of_returns (proceeds_report fun _ => by simp) fun _ => ⟨_, rfl⟩

theorem proceeding_isDirectory (p : Path) : Proceeding m expected (isDirectory p) :=
  .of_returns (respects_isDirectory p) fun _ => ⟨_, rfl⟩

theorem proceeding_isFile (p : Path) : Proceeding m expected (isFile p) :=
  .of_returns (respects_isFile p) fun s => ⟨_, congrArg Prod.fst (runFrom_isFile p s)⟩

theorem proceeding_ofFault {α : Type} (result : Except FileFault α) :
    Proceeding m (IsFault named) (ofExcept (result.mapError .file) : Run α) := by
  refine .ofExcept fun failure failed _ _ => ?_
  cases result with
  | error fault =>
      cases failed
      exact .inl ⟨fault, rfl⟩
  | ok a => cases failed

variable {p : Path} (nameable : named → p.isNameable = true)
include nameable

theorem proceeding_resolve : Proceeding m (IsFault named) (resolve p) := by
  intro s before
  unfold ProceedsFrom
  rw [runFrom_resolve]
  refine ⟨before, fun failure failed => ?_⟩
  split at failed
  · cases failed
  · rename_i nameless
    cases failed
    exact .inr ⟨rfl, fun holds => nameless (nameable holds)⟩

theorem proceeding_locate : Proceeding m (IsFault named) (locate p) := by
  refine Proceeding.get.bind fun _ => .check (fun nameless _ _ => ?_) fun _ => proceeding_ofFault _
  refine .inr ⟨rfl, fun holds => ?_⟩
  rw [nameable holds] at nameless
  cases nameless

theorem proceeding_readContent : Proceeding m (IsFault named) (readContent p) :=
  (proceeding_locate nameable).bind fun _ => Proceeding.get.bind fun _ => proceeding_ofFault _

theorem proceeding_writeContent (content : Content) :
    Proceeding m (IsFault named) (writeContent p content) :=
  (proceeding_locate nameable).bind fun location => Proceeding.get.bind fun _ =>
    (proceeding_ofFault _).bind fun files => (proceeding_setFiles files).bind fun _ =>
      proceeding_wrote location

theorem proceeding_makeDirectoryAt : Proceeding m (IsFault named) (makeDirectoryAt p) := by
  refine (proceeding_locate nameable).bind fun location => Proceeding.get.bind fun s => ?_
  split
  · exact proceeding_setFiles _
  · rename_i fault _
    refine (proceeding_isDirectory p).bind fun there => .ite (fun _ => ?_) fun _ => .pure _
    exact .throw fun _ _ => .inl ⟨fault, rfl⟩

theorem proceeding_makeDirectories : Proceeding m (IsFault named) (makeDirectories p) := by
  suffices loop : ∀ fuel (p : Path), (named → p.isNameable = true) →
      Proceeding m (IsFault named) (makeDirectories.go fuel p) from loop _ p nameable
  intro fuel
  induction fuel with
  | zero => exact fun p nameable => proceeding_makeDirectoryAt nameable
  | succ fuel ih =>
      intro p nameable
      have made : Proceeding m (IsFault named) (makeDirectoryAt p) :=
        proceeding_makeDirectoryAt nameable
      refine made.tryCatch fun _ _ fault => .ite (fun _ => ?_) fun _ => ?_
      · exact (ih p.parent fun holds => Path.isNameable_parent (nameable holds)).bind fun _ => made
      · exact .throw fun _ _ => fault

theorem proceeding_replace {source : Path} (sourceNameable : named → source.isNameable = true) :
    Proceeding m (IsFault named) (replace source p) := by
  refine (proceeding_locate sourceNameable).bind fun _ => (proceeding_locate nameable).bind
    fun location => .check (fun _ _ _ => .inl ⟨.busy, rfl⟩) fun _ => ?_
  exact Proceeding.get.bind fun _ => (proceeding_ofFault _).bind fun files =>
    (proceeding_setFiles files).bind fun _ => proceeding_wrote location

theorem proceeding_writeWhole (hasName : named → p.name ≠ "") (text : String) :
    Proceeding m (IsFault named) (writeWhole p text) := by
  have above : named → p.parent.isNameable = true :=
    fun holds => Path.isNameable_parent (nameable holds)
  have drafted : named → (draftOf p).isNameable = true := by
    intro holds
    refine Path.isNameable_withName (nameable holds) ?_
    have free := Path.not_mem_name (nameable holds)
    simpa [String.toList_append, toString] using free
  refine (proceeding_makeDirectories above).bind fun _ =>
    .check (fun nameless _ _ => ?_) fun _ => ?_
  · exact .inr ⟨rfl, fun holds => hasName holds nameless⟩
  · exact (proceeding_writeContent drafted _).bind fun _ => proceeding_replace nameable drafted

theorem proceeding_copy {target : Path} (targetNameable : named → target.isNameable = true) :
    Proceeding m (IsFault named) (copy p target) := by
  have copied {place : Path} (placeNameable : named → place.isNameable = true) :
      Proceeding m (IsFault named) (do
        if (← locate p) = (← locate place) then throw (.file .sameFile)
        writeContent place (← readContent p)) := by
    refine (proceeding_locate nameable).bind fun _ => (proceeding_locate placeNameable).bind
      fun _ => .check (fun _ _ _ => .inl ⟨.sameFile, rfl⟩) fun _ => ?_
    exact (proceeding_readContent nameable).bind fun content =>
      proceeding_writeContent placeNameable content
  have below : named → (target.child p.name).isNameable = true :=
    fun holds => Path.isNameable_child (targetNameable holds) (Path.not_mem_name (nameable holds))
  exact (proceeding_isDirectory target).bind fun _ =>
    .ite (fun _ => copied below) fun _ => copied targetNameable

omit nameable

theorem proceeding_leave (created : List (Path × String)) :
    Proceeding m expected (leave created) := by
  refine .forM fun file _ => ?_
  have placed : Proceeding m (IsFault False) (do
      makeDirectories file.1.parent
      writeText file.1 file.2) :=
    (proceeding_makeDirectories False.elim).bind fun _ => proceeding_writeContent False.elim _
  exact placed.tryCatch fun _ _ _ => .pure _

theorem proceeding_start (command : Command) (workingDir : Path) :
    Proceeding m expected (start command workingDir) := by
  intro s before
  have step : s.Proceeds (s.started command workingDir) :=
    ⟨rfl, rfl, List.drop_suffix _ _, _, rfl, fun _ => by simp⟩
  have left : ProceedsFrom _ m expected (leave (s.outcome 0).created) :=
    proceeding_leave _ _ (trans_of Machine.Proceeds before step)
  unfold ProceedsFrom
  rw [runFrom_start]
  exact ⟨left.1, nofun⟩

end Run

end NativeVariants
