import NativeVariants.Proofs.Machine.Operations

set_option autoImplicit false

/-!
What a run does between its processes. While a machine idles, events are added at the end, none of
them starts a process or reads a header, and files are written at the expected places only. Every
operation of a run idles, but for the start of a process and the reading of a header.
-/

namespace NativeVariants

/-- The processes among some events, each with the directory in which it is started. -/
def processes (events : List Event) : List (Command × String) :=
  events.filterMap fun event =>
    match event with
    | .ran command workingDir => some (command, workingDir)
    | _ => none

/-- The headers that are read among some events. -/
def parses (events : List Event) : List String :=
  events.filterMap fun event =>
    match event with
    | .parsed header _ => some header
    | _ => none

@[simp]
theorem processes_nil : processes [] = [] := rfl

@[simp]
theorem processes_append (xs ys : List Event) :
    processes (xs ++ ys) = processes xs ++ processes ys := List.filterMap_append

@[simp]
theorem parses_nil : parses [] = [] := rfl

@[simp]
theorem parses_append (xs ys : List Event) : parses (xs ++ ys) = parses xs ++ parses ys :=
  List.filterMap_append

/-- An event between processes. Files are written at the given locations only. -/
def Event.IsIdle (writes : Location → Prop) : Event → Prop
  | .printed _ => True
  | .complained _ => True
  | .parsed _ _ => False
  | .ran _ _ => False
  | .wrote location => writes location

theorem processes_eq_nil {writes : Location → Prop} {events : List Event}
    (idle : ∀ e ∈ events, e.IsIdle writes) : processes events = [] := by
  apply List.filterMap_eq_nil_iff.mpr
  intro e inEvents
  have eIdle := idle e inEvents
  cases e with
  | ran command workingDir => exact eIdle.elim
  | _ => rfl

theorem parses_eq_nil {writes : Location → Prop} {events : List Event}
    (idle : ∀ e ∈ events, e.IsIdle writes) : parses events = [] := by
  apply List.filterMap_eq_nil_iff.mpr
  intro e inEvents
  have eIdle := idle e inEvents
  cases e with
  | parsed header arguments => exact eIdle.elim
  | _ => rfl

/-- From one machine to the other only idle events were added, and nothing that later processes
depend on has changed but the files. -/
structure Machine.Idles (writes : Location → Prop) (m m' : Machine) : Prop where
  host : m'.host = m.host
  environ : m'.environ = m.environ
  workingDir : m'.workingDir = m.workingDir
  outcomes : m'.outcomes = m.outcomes
  events : ∃ added, m'.events = m.events ++ added ∧ ∀ e ∈ added, e.IsIdle writes

namespace Machine.Idles

variable {writes : Location → Prop} {m m' m'' : Machine}

theorem of_events_eq (host : m'.host = m.host) (environ : m'.environ = m.environ)
    (workingDir : m'.workingDir = m.workingDir) (outcomes : m'.outcomes = m.outcomes)
    (events : m'.events = m.events) : m.Idles writes m' where
  host := host
  environ := environ
  workingDir := workingDir
  outcomes := outcomes
  events := ⟨[], by simpa using events, by simp⟩

theorem refl (m : Machine) : m.Idles writes m := of_events_eq rfl rfl rfl rfl rfl

theorem trans (first : m.Idles writes m') (second : m'.Idles writes m'') :
    m.Idles writes m'' where
  host := second.host.trans first.host
  environ := second.environ.trans first.environ
  workingDir := second.workingDir.trans first.workingDir
  outcomes := second.outcomes.trans first.outcomes
  events := by
    obtain ⟨added, addedEq, addedIdle⟩ := first.events
    obtain ⟨more, moreEq, moreIdle⟩ := second.events
    refine ⟨added ++ more, ?_, ?_⟩
    · rw [moreEq, addedEq, List.append_assoc]
    · intro e inBoth
      rcases List.mem_append.mp inBoth with inAdded | inMore
      · exact addedIdle e inAdded
      · exact moreIdle e inMore

end Machine.Idles

def Machine.IdlesIn (workingDir : Location) (writes : Location → Prop) (m m' : Machine) : Prop :=
  m.workingDir = workingDir → m.Idles writes m'

instance (workingDir : Location) (writes : Location → Prop) :
    IsPreorder Machine (Machine.IdlesIn workingDir writes) where
  refl m := fun _ => .refl m
  trans _ _ _ first second := fun here =>
    (first here).trans (second ((first here).workingDir.trans here))

/-- The run idles wherever it starts in the given directory, and writes at the given locations. -/
abbrev Idle (workingDir : Location) (writes : Location → Prop) {α : Type} (x : Run α) : Prop :=
  Respects (Machine.IdlesIn workingDir writes) x

namespace Run

variable {workingDir : Location} {writes : Location → Prop} {α : Type}

theorem idle_report {event : Event} (isIdle : event.IsIdle writes) :
    Idle workingDir writes (report event) := by
  intro m _
  refine ⟨rfl, rfl, rfl, rfl, [event], rfl, ?_⟩
  intro e inOne
  rw [List.mem_singleton.mp inOne]
  exact isIdle

theorem idle_print (line : String) : Idle workingDir writes (print line) := idle_report trivial

theorem idle_complain (line : String) : Idle workingDir writes (complain line) :=
  idle_report trivial

theorem idle_setFiles (files : FileTree) : Idle workingDir writes (setFiles files) :=
  fun _ _ => .of_events_eq rfl rfl rfl rfl rfl

theorem idle_writeContent {p : Path} (expected : writes (p.resolve workingDir))
    (content : Content) : Idle workingDir writes (writeContent p content) := by
  intro m here
  refine related_bind (R := Machine.IdlesIn workingDir writes) (respects_locate p m) ?_ here
  intro location m' located
  obtain ⟨rfl, rfl⟩ := runFrom_locate_eq_ok located
  intro here
  rw [here]
  have written : Idle workingDir writes (do
      setFiles (← ofExcept (((← get).files.write (p.resolve workingDir) content).mapError .file))
      report (.wrote (p.resolve workingDir))) :=
    respects_get.bind fun _ => (respects_ofExcept _).bind fun _ =>
      (idle_setFiles _).bind fun _ => idle_report expected
  exact written m' here

theorem idle_makeDirectoryAt (p : Path) : Idle workingDir writes (makeDirectoryAt p) := by
  refine (respects_locate p).bind fun location => respects_get.bind fun m => ?_
  split
  · exact idle_setFiles _
  · exact (respects_isDirectory p).bind fun there =>
      .ite (fun _ => respects_throw _) fun _ => respects_pure _

theorem admits_idle :
    Admits (Machine.IdlesIn workingDir writes) fun p => writes (p.resolve workingDir) where
  print := idle_print
  complain := idle_complain
  makeDirectoryAt := idle_makeDirectoryAt
  writeContent := fun _ expected content => idle_writeContent expected content

theorem idle_replace {target : Path} (source : Path)
    (expected : writes (target.resolve workingDir)) :
    Idle workingDir writes (replace source target) := by
  refine (respects_locate source).bind fun sourceLocation => ?_
  intro m here
  refine related_bind (R := Machine.IdlesIn workingDir writes) (respects_locate target m) ?_ here
  intro location m' located
  obtain ⟨rfl, rfl⟩ := runFrom_locate_eq_ok located
  intro here
  rw [here]
  have moved : Idle workingDir writes (do
      setFiles (← ofExcept (((← get).files.move sourceLocation
        (target.resolve workingDir)).mapError .file))
      report (.wrote (target.resolve workingDir))) :=
    respects_get.bind fun _ => (respects_ofExcept _).bind fun _ =>
      (idle_setFiles _).bind fun _ => idle_report expected
  exact Respects.ite (fun _ => (respects_throw _).bind fun _ => moved) (fun _ => moved) m' here

theorem idle_writeWhole {p : Path} (draft : writes ((draftOf p).resolve workingDir))
    (expected : writes (p.resolve workingDir)) (text : String) :
    Idle workingDir writes (writeWhole p text) :=
  admits_idle.writeWhole draft (idle_replace _ expected) text

theorem idle_note (recorder : Recorder) (message : String) :
    Idle workingDir writes (note recorder message) := admits_idle.note recorder message

theorem idle_warn (recorder : Recorder) (message : String) :
    Idle workingDir writes (warn recorder message) := admits_idle.warn recorder message

end Run

end NativeVariants
