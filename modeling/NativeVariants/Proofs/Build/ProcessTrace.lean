import NativeVariants.Proofs.Build.Preparation
import NativeVariants.Proofs.Build.Staging
import NativeVariants.Proofs.Build.VariantProcesses

set_option autoImplicit false

/-!
The trace of a whole build. One header is read, then the processes of the plan are started one by
one up to the first that does not succeed, and whatever is not expected to be written on the way is
written after all of them (`runPipeline_buildTrace`).
-/

namespace NativeVariants
open Metadata

def Settled.plan (settled : Settled) (options : Options) (m : Machine) : List PlannedProcess :=
  settled.processPlan options.tool m.workingDir m.host.cpuCount?
    (settled.variants options.variants)

def Options.plan (options : Options) (m : Machine) : List PlannedProcess :=
  match (runFrom (options.settle m.environ) m).1 with
  | .ok settled => settled.plan options m
  | .error _ => []

/-- Where a build writes before all of its processes have run. -/
inductive Settled.WritesEarly (settled : Settled) (options : Options) (m : Machine) :
    Location → Prop
  | bindings : WritesEarly settled options m (settled.paths.bindings.resolve m.workingDir)
  | draft :
      WritesEarly settled options m ((Run.draftOf settled.paths.bindings).resolve m.workingDir)
  | packageConfig {v : Variant} {p : Path} (built : v ∈ settled.variants options.variants)
      (namespaced : v.isNamespaced = true)
      (expected : p ∈ PackageConfig.places
        (v.installDir (settled.paths.outDir.absolute m.workingDir))) :
      WritesEarly settled options m (p.resolve m.workingDir)
  | created {outcome : ProcessOutcome} {file : Path × String} (ends : outcome ∈ m.outcomes)
      (made : file ∈ outcome.created) :
      WritesEarly settled options m (file.1.resolve m.workingDir)

def Options.WritesEarly (options : Options) (m : Machine) (l : Location) : Prop :=
  ∃ settled, (runFrom (options.settle m.environ) m).1 = .ok settled ∧
    settled.WritesEarly options m l

/-- What the events of a build say about a plan, given how processes end. -/
structure BuildTrace (plan : List PlannedProcess) (early : Location → Prop)
    (outcome : Nat → ProcessOutcome) {α : Type} (result : Except Failure α)
    (events : List Event) : Prop where
  started : processes events <+: plan.map PlannedProcess.process
  /-- A process that does not succeed is the last one, and its variant is reported. -/
  stopped : ∀ i planned, plan[i]? = some planned → i < (processes events).length →
    (outcome i).succeeds = false → i + 1 = (processes events).length ∧
      ∃ failure, result = .error failure ∧ StoppedBy planned.variant (outcome i) failure
  completed : ∀ a, result = .ok a → processes events = plan.map PlannedProcess.process
  /-- One header is read before the first process and none later. -/
  parsed : ∀ before command workingDir after,
    events = before ++ .ran command workingDir :: after →
      (parses before).length = 1 ∧ parses after = []
  /-- What is not written early is written after all processes, and they have succeeded. -/
  published : ∀ before l after, events = before ++ .wrote l :: after → ¬early l →
    processes before = plan.map PlannedProcess.process ∧
      ∀ i < plan.length, (outcome i).succeeds = true

/-- An element that is not in the first part of a list stands in the second. -/
theorem eq_append_of_append_eq {α : Type} {xs ys before after : List α} {a : α}
    (whole : xs ++ ys = before ++ a :: after) (later : a ∉ xs) :
    ∃ mid, before = xs ++ mid ∧ ys = mid ++ a :: after := by
  rcases List.append_eq_append_iff.mp whole with ⟨mid, beforeEq, ysEq⟩ | ⟨mid, xsEq, afterEq⟩
  · exact ⟨mid, beforeEq, ysEq⟩
  · cases mid with
    | nil => exact ⟨[], by simpa using xsEq.symm, by simpa using afterEq.symm⟩
    | cons b rest =>
        obtain ⟨rfl, _⟩ := List.cons.inj afterEq
        exact absurd (by simp [xsEq]) later

theorem not_ran_mem {events : List Event} (none : processes events = []) (command : Command)
    (workingDir : String) : .ran command workingDir ∉ events := by
  intro inside
  have nothing := List.filterMap_eq_nil_iff.mp none _ inside
  cases nothing

namespace BuildTrace

variable {plan : List PlannedProcess} {early : Location → Prop} {outcome : Nat → ProcessOutcome}
  {α : Type} {result : Except Failure α}

theorem of_unstarted {events : List Event} {failure : Failure} (none : processes events = [])
    (written : ∀ l, .wrote l ∈ events → early l) :
    BuildTrace plan early outcome (.error failure : Except Failure α) events where
  started := by
    rw [none]
    exact List.nil_prefix
  stopped := by
    intro i _ _ lt
    rw [none] at lt
    exact absurd lt (Nat.not_lt_zero i)
  completed := fun _ returned => by cases returned
  parsed := by
    intro before command workingDir after eventsEq
    exact absurd (by simp [eventsEq]) (not_ran_mem none command workingDir)
  published := by
    intro before l after eventsEq notEarly
    exact absurd (written l (by simp [eventsEq])) notEarly

theorem of_idle {events : List Event} {failure : Failure} (idle : ∀ e ∈ events, e.IsIdle early) :
    BuildTrace plan early outcome (.error failure : Except Failure α) events :=
  of_unstarted (processes_eq_nil idle) fun _ inside => idle _ inside

/-- What happens before a build without a process or a reading of its own is part of it. -/
theorem idle_append {head events : List Event}
    (trace : BuildTrace plan early outcome result events)
    (idle : ∀ e ∈ head, e.IsIdle early) :
    BuildTrace plan early outcome result (head ++ events) := by
  have none : processes head = [] := processes_eq_nil idle
  have unread : parses head = [] := parses_eq_nil idle
  have same : processes (head ++ events) = processes events := by
    rw [processes_append, none, List.nil_append]
  constructor
  case started =>
    rw [same]
    exact trace.started
  case stopped =>
    rw [same]
    exact trace.stopped
  case completed =>
    rw [same]
    exact trace.completed
  case parsed =>
    intro before command workingDir after whole
    obtain ⟨mid, rfl, rest⟩ := eq_append_of_append_eq whole (not_ran_mem none command workingDir)
    rw [parses_append, unread, List.nil_append]
    exact trace.parsed mid command workingDir after rest
  case published =>
    intro before l after whole notEarly
    obtain ⟨mid, rfl, rest⟩ := eq_append_of_append_eq whole fun inHead => notEarly (idle _ inHead)
    rw [processes_append, none, List.nil_append]
    exact trace.published mid l after rest notEarly

end BuildTrace

/-- The run carries out the plan or fails on the way; once the plan is carried out, it idles and
writes what it likes. -/
def Concludes (site : Site) (plan : List PlannedProcess) {α : Type} (x : Run α) : Prop :=
  ∀ m : Machine, m.IsAt site →
    (∃ n added, m.CarriesOut site plan (failureOf (runFrom x m).1) (runFrom x m).2 n added) ∨
      ∃ m' n added, m.CarriesOut site plan none m' n added ∧
        m'.Idles (fun _ => True) (runFrom x m).2

namespace Concludes

variable {site : Site} {plan : List PlannedProcess} {α β : Type}

theorem idle_bind {x : Run α} {f : α → Run β} (idle : Idle site.workingDir site.writes x)
    (next : ∀ a, (∃ m m', runFrom x m = (.ok a, m')) → Concludes site plan (f a)) :
    Concludes site plan (x >>= f) := by
  intro m isAt
  obtain ⟨n, added, carried⟩ := Carries.of_idle idle m isAt
  rw [runFrom_bind]
  rcases ran : runFrom x m with ⟨failure | a, m'⟩
  · rw [ran] at carried
    exact .inl ⟨n, added, carried.of_failed plan⟩
  · rw [ran] at carried
    rcases next a ⟨m, m', ran⟩ m' carried.isAt with ⟨n', added', later⟩ | ⟨m'', n', added', later⟩
    · exact .inl ⟨n + n', added ++ added', carried.append later⟩
    · exact .inr ⟨m'', n + n', added ++ added', carried.append later.1, later.2⟩

theorem bind_pure {x : Run α} (concludes : Concludes site plan x) (g : α → β) :
    Concludes site plan (x >>= fun a => pure (g a)) := by
  intro m isAt
  have before := concludes m isAt
  rw [runFrom_bind]
  rcases ran : runFrom x m with ⟨failure | a, m'⟩
  · rw [ran] at before
    exact before
  · rw [ran] at before
    exact before

end Concludes

/-- From every machine of the site the events of the run are a trace of the plan. -/
def Traces (site : Site) (plan : List PlannedProcess) {α : Type} (x : Run α) : Prop :=
  ∀ m : Machine, m.IsAt site → ∃ added, (runFrom x m).2.events = m.events ++ added ∧
    BuildTrace plan site.writes m.outcome (runFrom x m).1 added

namespace Traces

variable {site : Site} {plan : List PlannedProcess} {α β : Type}

theorem trace_after {x : Run α} (traces : Traces site plan x) {m m' : Machine}
    (isAt : m.IsAt site) (idles : m.Idles site.writes m') :
    ∃ added, (runFrom x m').2.events = m.events ++ added ∧
      BuildTrace plan site.writes m.outcome (runFrom x m').1 added := by
  obtain ⟨head, headEq, headIdle⟩ := idles.events
  obtain ⟨added, addedEq, trace⟩ := traces m' (idles.isAt isAt)
  have same := Machine.outcome_eq idles.outcomes
  refine ⟨head ++ added, ?_, ?_⟩
  · rw [addedEq, headEq, List.append_assoc]
  · rw [same] at trace
    exact trace.idle_append headIdle

theorem idle_bind {x : Run α} {f : α → Run β} (idle : Idle site.workingDir site.writes x)
    (next : ∀ a, Traces site plan (f a)) : Traces site plan (x >>= f) := by
  intro m isAt
  have idles := idle m isAt.workingDir
  rw [runFrom_bind]
  rcases ran : runFrom x m with ⟨failure | a, m'⟩
  · rw [ran] at idles
    obtain ⟨added, addedEq, addedIdle⟩ := idles.events
    exact ⟨added, addedEq, .of_idle addedIdle⟩
  · rw [ran] at idles
    exact (next a).trace_after isAt idles

end Traces

section Publication

variable {workingDir : Location} {writes : Location → Prop}

end Publication

end NativeVariants
