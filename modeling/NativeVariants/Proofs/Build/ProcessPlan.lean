import NativeVariants.Build.Variant
import NativeVariants.Proofs.Machine.Idleness

set_option autoImplicit false

/-!
Plans of processes and how a run carries them out.

A plan lists the processes that a build is going to start. `Machine.CarriesOut` says that the
processes started from one machine to another are the first of a plan, and that a process that did
not succeed was the last of them; `Carries` says so of a run, from wherever it starts. The plans of
two runs one after the other follow each other (`Carries.bind`).
-/

namespace NativeVariants

/-- Whether a process did what it was started for. -/
def ProcessOutcome.succeeds : ProcessOutcome → Bool
  | missing => false
  | unstarted _ => false
  | undecodable _ => false
  | finished status _ _ _ => status = 0

/-- How the process ends that is started after `n` others. Those without a given end succeed. -/
def Machine.outcome (m : Machine) (n : Nat) : ProcessOutcome :=
  m.outcomes[n]?.getD (.finished 0 "" "" [])

structure PlannedProcess where
  variant : Variant
  command : Command
  workingDir : Path

def PlannedProcess.process (planned : PlannedProcess) : Command × String :=
  (planned.command, planned.workingDir.display)

/-- How a build ends at a process that did not succeed: the problem that is reported names the
variant. Only a process that could not be followed to its end is not reported. -/
inductive StoppedBy (v : Variant) : ProcessOutcome → Failure → Prop
  | missing {problem : Problem} (named : problem.report.failureClass = .nativeBuild v.name) :
      StoppedBy v .missing (.problem problem)
  | finished {status : Int} {output errorOutput : String} {created : List (Path × String)}
      {problem : Problem} (unsuccessful : status ≠ 0)
      (named : problem.report.failureClass = .nativeBuild v.name) :
      StoppedBy v (.finished status output errorOutput created) (.problem problem)
  | unstarted (fault : StartFault) : StoppedBy v (.unstarted fault) fault.failure
  | undecodable (created : List (Path × String)) :
      StoppedBy v (.undecodable created) .undecodable

def failureOf {α : Type} : Except Failure α → Option Failure
  | .ok _ => none
  | .error failure => some failure

/-- What the processes of a build depend on, and the locations at which files are written while they
are carried out. -/
structure Site where
  workingDir : Location
  host : Host
  writes : Location → Prop

structure Machine.IsAt (site : Site) (m : Machine) : Prop where
  workingDir : m.workingDir = site.workingDir
  host : m.host = site.host
  created : ∀ outcome ∈ m.outcomes, ∀ file ∈ outcome.created,
    site.writes (file.1.resolve site.workingDir)

/-- From one machine to the other the first `n` processes of a plan were started. -/
structure Machine.CarriesOut (site : Site) (plan : List PlannedProcess) (m : Machine)
    (failure? : Option Failure) (m' : Machine) (n : Nat) (added : List Event) : Prop where
  isAt : m'.IsAt site
  outcomes : m'.outcomes = m.outcomes.drop n
  events : m'.events = m.events ++ added
  started : processes added = (plan.take n).map PlannedProcess.process
  parsed : parses added = []
  writes : ∀ l, .wrote l ∈ added → site.writes l
  le_length : n ≤ plan.length
  stopped : ∀ i planned, plan[i]? = some planned → i < n → (m.outcome i).succeeds = false →
    i + 1 = n ∧ ∃ failure, failure? = some failure ∧
      StoppedBy planned.variant (m.outcome i) failure
  finished : failure? = none → n = plan.length

/-- From every machine of the site, the run carries out the plan, or the part of it up to its
failure. -/
def Carries (site : Site) (plan : List PlannedProcess) {α : Type} (x : Run α) : Prop :=
  ∀ m : Machine, m.IsAt site → ∃ n added,
    m.CarriesOut site plan (failureOf (runFrom x m).1) (runFrom x m).2 n added

theorem Machine.outcome_cases (m : Machine) (n : Nat) :
    m.outcome n ∈ m.outcomes ∨ m.outcome n = .finished 0 "" "" [] := by
  unfold outcome
  cases next : m.outcomes[n]? with
  | none => exact .inr rfl
  | some outcome => exact .inl (List.mem_of_getElem? next)

theorem Machine.outcome_of_drop {m m' : Machine} {n : Nat}
    (outcomes : m'.outcomes = m.outcomes.drop n) (i : Nat) :
    m'.outcome i = m.outcome (n + i) := by
  simp only [Machine.outcome, outcomes, List.getElem?_drop]

theorem Machine.outcome_eq {m m' : Machine} (outcomes : m'.outcomes = m.outcomes) :
    m'.outcome = m.outcome := by
  funext i
  simp only [Machine.outcome, outcomes]

theorem Machine.Idles.isAt {site : Site} {m m' : Machine} (idles : m.Idles site.writes m')
    (isAt : m.IsAt site) : m'.IsAt site where
  workingDir := idles.workingDir.trans isAt.workingDir
  host := idles.host.trans isAt.host
  created := by
    rw [idles.outcomes]
    exact isAt.created

theorem Machine.Idles.carriesOut {site : Site} {m m' : Machine} (idles : m.Idles site.writes m')
    (isAt : m.IsAt site) (failure? : Option Failure) :
    ∃ added, m.CarriesOut site [] failure? m' 0 added := by
  obtain ⟨added, addedEq, addedIdle⟩ := idles.events
  refine ⟨added, ?_⟩
  constructor
  case isAt => exact idles.isAt isAt
  case outcomes => simpa using idles.outcomes
  case events => exact addedEq
  case started => exact processes_eq_nil addedIdle
  case parsed => exact parses_eq_nil addedIdle
  case writes => exact fun l inAdded => addedIdle _ inAdded
  case le_length => exact Nat.le_refl 0
  case stopped => exact fun i _ _ lt => absurd lt (Nat.not_lt_zero i)
  case finished => exact fun _ => rfl

namespace Machine.CarriesOut

variable {site : Site} {plan plan' : List PlannedProcess} {m m' m'' : Machine}
  {failure? : Option Failure} {n n' : Nat} {added added' : List Event}

theorem of_failed {failure : Failure}
    (failed : m.CarriesOut site plan (some failure) m' n added) (plan' : List PlannedProcess) :
    m.CarriesOut site (plan ++ plan') (some failure) m' n added where
  isAt := failed.isAt
  outcomes := failed.outcomes
  events := failed.events
  started := by rw [List.take_append_of_le_length failed.le_length, failed.started]
  parsed := failed.parsed
  writes := failed.writes
  le_length := by
    rw [List.length_append]
    exact Nat.le_add_right_of_le failed.le_length
  stopped := by
    intro i planned inPlan lt unsuccessful
    have within : i < plan.length := Nat.lt_of_lt_of_le lt failed.le_length
    rw [List.getElem?_append_left within] at inPlan
    exact failed.stopped i planned inPlan lt unsuccessful
  finished := fun none => by cases none

theorem succeeds_of_finished (done : m.CarriesOut site plan none m' n added) {i : Nat}
    (lt : i < plan.length) : (m.outcome i).succeeds = true := by
  cases outcome : (m.outcome i).succeeds with
  | true => rfl
  | false =>
      have inPlan : plan[i]? = some plan[i] := List.getElem?_eq_getElem lt
      have started : i < n := by rw [done.finished rfl]; exact lt
      obtain ⟨_, failure, isNone, _⟩ := done.stopped i _ inPlan started outcome
      cases isNone

theorem append (first : m.CarriesOut site plan none m' n added)
    (second : m'.CarriesOut site plan' failure? m'' n' added') :
    m.CarriesOut site (plan ++ plan') failure? m'' (n + n') (added ++ added') := by
  have whole : n = plan.length := first.finished rfl
  constructor
  case isAt => exact second.isAt
  case outcomes => rw [second.outcomes, first.outcomes, List.drop_drop]
  case events => rw [second.events, first.events, List.append_assoc]
  case started =>
    rw [processes_append, first.started, second.started, whole, List.take_length,
      List.take_length_add_append, List.map_append]
  case parsed => rw [parses_append, first.parsed, second.parsed, List.append_nil]
  case writes =>
    intro l inBoth
    rcases List.mem_append.mp inBoth with inFirst | inSecond
    · exact first.writes l inFirst
    · exact second.writes l inSecond
  case le_length =>
    rw [List.length_append, whole]
    exact Nat.add_le_add_left second.le_length _
  case stopped =>
    intro i planned inPlan lt unsuccessful
    rcases Nat.lt_or_ge i plan.length with inFirst | inSecond
    · rw [first.succeeds_of_finished inFirst] at unsuccessful
      cases unsuccessful
    · obtain ⟨j, rfl⟩ := Nat.exists_eq_add_of_le inSecond
      rw [List.getElem?_append_right inSecond, Nat.add_sub_cancel_left] at inPlan
      have same := Machine.outcome_of_drop first.outcomes j
      rw [whole] at same lt
      rw [← same] at unsuccessful ⊢
      obtain ⟨last, failure⟩ := second.stopped j planned inPlan (by omega) unsuccessful
      exact ⟨by omega, failure⟩
  case finished =>
    intro isNone
    rw [List.length_append, whole, second.finished isNone]

end Machine.CarriesOut

namespace Carries

variable {site : Site} {plan plan' : List PlannedProcess} {α β : Type}

theorem of_idle {x : Run α} (idle : Idle site.workingDir site.writes x) : Carries site [] x := by
  intro m isAt
  exact ⟨0, (idle m isAt.workingDir).carriesOut isAt _⟩

/-- The second plan may depend on what the first run returns. -/
theorem bind {x : Run α} {f : α → Run β} (first : Carries site plan x)
    (next : ∀ a, (∃ m m', Machine.IsAt site m ∧ runFrom x m = (.ok a, m')) →
      Carries site plan' (f a)) :
    Carries site (plan ++ plan') (x >>= f) := by
  intro m isAt
  obtain ⟨n, added, carried⟩ := first m isAt
  rw [runFrom_bind]
  rcases ran : runFrom x m with ⟨failure | a, m'⟩
  · rw [ran] at carried
    exact ⟨n, added, carried.of_failed plan'⟩
  · rw [ran] at carried
    obtain ⟨n', added', carried'⟩ := next a ⟨m, m', isAt, ran⟩ m' carried.isAt
    exact ⟨n + n', added ++ added', carried.append carried'⟩

theorem idle_bind {x : Run α} {f : α → Run β} (idle : Idle site.workingDir site.writes x)
    (next : ∀ a, (∃ m m', Machine.IsAt site m ∧ runFrom x m = (.ok a, m')) →
      Carries site plan (f a)) :
    Carries site plan (x >>= f) :=
  (of_idle idle).bind next

theorem bind_idle {x : Run α} {f : α → Run β} (first : Carries site plan x)
    (idle : ∀ a, Idle site.workingDir site.writes (f a)) : Carries site plan (x >>= f) := by
  have both : Carries site (plan ++ []) (x >>= f) := first.bind fun a _ => of_idle (idle a)
  rwa [List.append_nil] at both

end Carries

/-- The machine right after a process was started. -/
def Machine.started (m : Machine) (command : Command) (workingDir : Path) : Machine :=
  { m with
    events := m.events ++ [.ran command workingDir.display]
    outcomes := m.outcomes.drop 1 }

/-- The process ends as the machine's next outcome says. -/
theorem Run.runFrom_start (command : Command) (workingDir : Path) (m : Machine) :
    runFrom (start command workingDir) m = (.ok (m.outcome 0),
      (runFrom (leave (m.outcome 0).created) (m.started command workingDir)).2) := by
  have next : runFrom nextOutcome { m with
      events := m.events ++ [.ran command workingDir.display] } =
      (.ok (m.outcome 0), m.started command workingDir) := by
    rcases m with ⟨host, environ, location, files, units, _ | ⟨outcome, rest⟩, verbose, events⟩
    · rfl
    · rfl
  have reported : runFrom (report (.ran command workingDir.display)) m =
      (.ok (), { m with events := m.events ++ [.ran command workingDir.display] }) := rfl
  unfold start
  rw [runFrom_bind_of_ok reported, runFrom_bind_of_ok next, (returns_leave _).runFrom_bind]
  rfl

theorem Machine.isAt_started {site : Site} {m : Machine} (isAt : m.IsAt site)
    (command : Command) (workingDir : Path) : (m.started command workingDir).IsAt site where
  workingDir := isAt.workingDir
  host := isAt.host
  created := fun outcome later => isAt.created outcome (List.mem_of_mem_drop later)

theorem Machine.IsAt.created_outcome {site : Site} {m : Machine} (isAt : m.IsAt site) :
    ∀ file ∈ (m.outcome 0).created, site.writes (file.1.resolve site.workingDir) := by
  rcases m.outcome_cases 0 with next | none
  · exact isAt.created _ next
  · rw [none]
    exact nofun

/-- Once a process has been started, a machine that idles carries out the plan of that process. The
process is the last one started if it did not succeed. -/
theorem Machine.Idles.carriesOut_started {site : Site} {m m' : Machine} {failure? : Option Failure}
    (planned : PlannedProcess)
    (idles : (m.started planned.command planned.workingDir).Idles site.writes m')
    (isAt : m.IsAt site)
    (stopped : (m.outcome 0).succeeds = false →
      ∃ failure, failure? = some failure ∧ StoppedBy planned.variant (m.outcome 0) failure) :
    ∃ n added, m.CarriesOut site [planned] failure? m' n added := by
  obtain ⟨added, addedEq, addedIdle⟩ := idles.events
  refine ⟨1, .ran planned.command planned.workingDir.display :: added, ?_⟩
  constructor
  case isAt => exact idles.isAt (isAt_started isAt _ _)
  case outcomes => exact idles.outcomes
  case events => rw [addedEq, Machine.started, List.append_assoc, List.singleton_append]
  case started =>
    have none : processes added = [] := processes_eq_nil addedIdle
    simpa [processes, PlannedProcess.process] using none
  case parsed =>
    have none : parses added = [] := parses_eq_nil addedIdle
    simpa [parses] using none
  case writes =>
    intro l inAdded
    rcases List.mem_cons.mp inAdded with same | inRest
    · cases same
    · exact addedIdle _ inRest
  case le_length => exact Nat.le_refl 1
  case stopped =>
    intro i p inPlan lt unsuccessful
    obtain rfl : i = 0 := by omega
    obtain rfl : planned = p := by simpa using inPlan
    exact ⟨rfl, stopped unsuccessful⟩
  case finished => exact fun _ => rfl

/-- A step carries out its process. It fails unless the process succeeds, and then with a report on
the variant if the process could be followed to its end. -/
theorem carries_runStep (site : Site) (command : Command) (v : Variant) (step : BuildStep)
    (workingDir : Path) :
    Carries site [⟨v, command, workingDir⟩] (runStep command v step workingDir) := by
  refine .idle_bind (Run.idle_note _ _) fun _ _ => ?_
  intro m isAt
  rw [runFrom_bind_of_ok (Run.runFrom_start command workingDir m)]
  have left : (m.started command workingDir).Idles site.writes
      (runFrom (Run.leave (m.outcome 0).created) (m.started command workingDir)).2 :=
    Run.admits_idle.leave isAt.created_outcome _ isAt.workingDir
  generalize (runFrom (Run.leave (m.outcome 0).created) (m.started command workingDir)).2 = m'
    at left ⊢
  cases outcome : m.outcome 0 with
  | missing =>
      refine left.carriesOut_started ⟨v, command, workingDir⟩ isAt fun _ => ?_
      exact ⟨_, rfl, outcome ▸ .missing rfl⟩
  | unstarted fault =>
      refine left.carriesOut_started ⟨v, command, workingDir⟩ isAt fun _ => ?_
      exact ⟨_, rfl, outcome ▸ .unstarted fault⟩
  | undecodable created =>
      refine left.carriesOut_started ⟨v, command, workingDir⟩ isAt fun _ => ?_
      exact ⟨_, rfl, outcome ▸ .undecodable created⟩
  | finished status output errorOutput created =>
      by_cases succeeded : status = 0
      · simp only [succeeded, ne_eq, not_true_eq_false, if_false]
        have noted : m'.Idles site.writes
            (runFrom (Run.note .nativeBuild s!"[{v.name}] {step.name} ok") m').2 :=
          Run.idle_note _ _ m' (left.workingDir.trans isAt.workingDir)
        refine (left.trans noted).carriesOut_started ⟨v, command, workingDir⟩ isAt fun unsuccessful => ?_
        rw [outcome] at unsuccessful
        simp [ProcessOutcome.succeeds, succeeded] at unsuccessful
      · simp only [succeeded, ne_eq, not_false_eq_true, if_true]
        refine left.carriesOut_started ⟨v, command, workingDir⟩ isAt fun _ => ?_
        exact ⟨_, rfl, outcome ▸ .finished succeeded rfl⟩

end NativeVariants
