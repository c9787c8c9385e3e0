import NativeVariants.Build.Generation
import NativeVariants.Build.Options
import NativeVariants.Proofs.Machine.Files

set_option autoImplicit false

/-!
What a build does before its processes. The options are settled and the sources checked on a machine
that idles and writes nothing; the generation of the bindings reads one header and writes the
bindings and their draft.
-/

namespace NativeVariants
open Header

section Settling

variable {R : Machine → Machine → Prop} [IsPreorder Machine R]

theorem ProjectFile.respects_load (root : Path) : Respects R (load root) := by
  refine (Run.respects_isFile _).bind fun there => .ite (fun _ => ?_) fun _ => ?_
  · exact (Run.respects_readText _).bind fun text => respects_ofExcept _
  · exact respects_ofExcept _

theorem ProjectPaths.respects_resolve (root : Path) (layout : Layout) (outDir? : Option Path) :
    Respects R (resolve root layout outDir?) := by
  refine (Run.respects_resolve _).bind fun root => (Run.respects_resolve _).bind fun sourceDir => ?_
  exact (Run.respects_resolve _).bind fun outDir =>
    (Run.respects_resolve _).bind fun wrapper => respects_pure _

theorem ProjectPaths.respects_check (paths : ProjectPaths) : Respects R paths.check := by
  refine respects_forM fun p _ => (Run.respects_present p).bind fun there => ?_
  exact .ite (fun _ => respects_throw _) fun _ => respects_pure _

theorem Options.respects_settle
    (noted : ∀ recorder message, Respects R (Run.note recorder message))
    (options : Options) (environ : Environ) : Respects R (options.settle environ) := by
  refine (ProjectFile.respects_load _).bind fun file => ?_
  refine (ProjectPaths.respects_resolve _ _ _).bind fun paths => ?_
  refine (respects_ofExcept _).bind fun features => respects_get.bind fun m => ?_
  refine (respects_ofExcept _).bind fun config => (noted _ _).bind fun _ => ?_
  refine (respects_ofExcept _).bind fun jobs => (respects_ofExcept _).bind fun allow => ?_
  exact respects_pure _

theorem ProjectPaths.idle_check {workingDir : Location} {writes : Location → Prop}
    (paths : ProjectPaths) : Idle workingDir writes paths.check := paths.respects_check

theorem Options.idle_settle {workingDir : Location} {writes : Location → Prop} (options : Options)
    (environ : Environ) : Idle workingDir writes (options.settle environ) :=
  options.respects_settle Run.idle_note environ

/-- The output directory is resolved, and the headers are in the source tree. -/
theorem ProjectPaths.resolve_eq_ok {root : Path} {layout : Layout} {outDir? : Option Path}
    {paths : ProjectPaths} {m m' : Machine}
    (ran : runFrom (resolve root layout outDir?) m = (.ok paths, m')) :
    paths.includeDir = paths.sourceDir.child "include" ∧
      ∃ p : Path, paths.outDir = p.absolute m.workingDir := by
  unfold resolve at ran
  obtain ⟨absolute, m₁, rooted, next⟩ := runFrom_bind_eq_ok.mp ran
  obtain ⟨sourceDir, m₂, sources, later⟩ := runFrom_bind_eq_ok.mp next
  obtain ⟨outDir, m₃, results, last⟩ := runFrom_bind_eq_ok.mp later
  obtain ⟨wrapper, m₄, wrapped, returned⟩ := runFrom_bind_eq_ok.mp last
  cases returned
  refine ⟨rfl, outDir?.getD (absolute.child layout.outDir), ?_⟩
  rw [(Run.runFrom_resolve_eq_ok results).1, (Run.runFrom_resolve_eq_ok sources).2,
    (Run.runFrom_resolve_eq_ok rooted).2]

end Settling

/-- From one machine to the other the headers were read in turn, and otherwise it idled. -/
structure Machine.Reads (writes : Location → Prop) (headers : List String) (m m' : Machine) :
    Prop where
  host : m'.host = m.host
  environ : m'.environ = m.environ
  workingDir : m'.workingDir = m.workingDir
  outcomes : m'.outcomes = m.outcomes
  events : ∃ added, m'.events = m.events ++ added ∧ processes added = [] ∧
    parses added = headers ∧ ∀ l, .wrote l ∈ added → writes l

namespace Machine

variable {writes : Location → Prop} {headers headers' : List String} {m m' m'' : Machine}

theorem Idles.reads (idles : m.Idles writes m') : m.Reads writes [] m' where
  host := idles.host
  environ := idles.environ
  workingDir := idles.workingDir
  outcomes := idles.outcomes
  events := by
    obtain ⟨added, addedEq, addedIdle⟩ := idles.events
    exact ⟨added, addedEq, processes_eq_nil addedIdle, parses_eq_nil addedIdle,
      fun l inAdded => addedIdle _ inAdded⟩

theorem Reads.trans (first : m.Reads writes headers m') (second : m'.Reads writes headers' m'') :
    m.Reads writes (headers ++ headers') m'' where
  host := second.host.trans first.host
  environ := second.environ.trans first.environ
  workingDir := second.workingDir.trans first.workingDir
  outcomes := second.outcomes.trans first.outcomes
  events := by
    obtain ⟨added, addedEq, started, read, written⟩ := first.events
    obtain ⟨more, moreEq, started', read', written'⟩ := second.events
    refine ⟨added ++ more, ?_, ?_, ?_, ?_⟩
    · rw [moreEq, addedEq, List.append_assoc]
    · rw [processes_append, started, started', List.append_nil]
    · rw [parses_append, read, read']
    · intro l inBoth
      rcases List.mem_append.mp inBoth with inAdded | inMore
      · exact written l inAdded
      · exact written' l inMore

end Machine

/-- From every machine in the directory the run reads one header, or it fails and has read none. -/
def ReadsOnce (workingDir : Location) (writes : Location → Prop) (header : String) {α : Type}
    (x : Run α) : Prop :=
  ∀ m : Machine, m.workingDir = workingDir →
    m.Reads writes [header] (runFrom x m).2 ∨
      m.Idles writes (runFrom x m).2 ∧ ∃ failure, (runFrom x m).1 = .error failure

namespace ReadsOnce

variable {workingDir : Location} {writes : Location → Prop} {header : String} {α β : Type}

theorem idle_bind {x : Run α} {f : α → Run β} (idle : Idle workingDir writes x)
    (next : ∀ a, ReadsOnce workingDir writes header (f a)) :
    ReadsOnce workingDir writes header (x >>= f) := by
  intro m here
  have before := idle m here
  rw [runFrom_bind]
  rcases ran : runFrom x m with ⟨failure | a, m'⟩
  · rw [ran] at before
    exact .inr ⟨before, failure, rfl⟩
  · rw [ran] at before
    rcases next a m' (before.workingDir.trans here) with reads | ⟨idles, failed⟩
    · exact .inl (before.reads.trans reads)
    · exact .inr ⟨before.trans idles, failed⟩

theorem bind_idle {x : Run α} {f : α → Run β} (once : ReadsOnce workingDir writes header x)
    (idle : ∀ a, Idle workingDir writes (f a)) :
    ReadsOnce workingDir writes header (x >>= f) := by
  intro m here
  have before := once m here
  rw [runFrom_bind]
  rcases ran : runFrom x m with ⟨failure | a, m'⟩
  · rw [ran] at before
    rcases before with reads | ⟨idles, _⟩
    · exact .inl reads
    · exact .inr ⟨idles, failure, rfl⟩
  · rw [ran] at before
    rcases before with reads | ⟨_, failure, failed⟩
    · have after := (idle a m' (reads.workingDir.trans here)).reads
      exact .inl (by simpa using reads.trans after)
    · cases failed

end ReadsOnce

section Generation

variable {workingDir : Location} {writes : Location → Prop}

theorem Run.readsOnce_nextUnit (header : String) (arguments : List String) :
    ReadsOnce workingDir writes header (nextUnit header arguments) := by
  intro m _
  refine .inl ⟨?_, ?_, ?_, ?_, [.parsed header arguments], ?_, rfl, rfl, by simp⟩
  all_goals rcases m with ⟨host, environ, location, files, _ | ⟨u, _ | _⟩, outcomes, shown, events⟩
  all_goals rfl

theorem readsOnce_readHeader (request : BindingRequest) :
    ReadsOnce workingDir writes request.header.display (readHeader request) := by
  refine .idle_bind (Run.idle_note _ _) fun _ => ?_
  refine (Run.readsOnce_nextUnit _ _).bind_idle fun u => ?_
  refine (respects_forM fun _ _ => Run.idle_warn _ _).bind fun _ => ?_
  exact (respects_ofExcept _).bind fun _ => (Run.idle_note _ _).bind fun _ => respects_pure _

theorem talks_readHeader (request : BindingRequest) :
    Respects Machine.Talks (readHeader request) := by
  refine (Run.talks_note _ _).bind fun _ => (Run.talks_nextUnit _ _).bind fun u => ?_
  refine (respects_forM fun _ _ => Run.talks_warn _ _).bind fun _ => ?_
  exact (respects_ofExcept _).bind fun _ => (Run.talks_note _ _).bind fun _ => respects_pure _

namespace BindingRequest

def read (request : BindingRequest) : Run Surface := do
  if ← Run.isFile request.header then
    Run.print s!"🔗 Generating bindings from {request.header.name}..."
    let surface ← readHeader request
    if surface.isEmpty then
      throw (.problem (.noDeclarations request.header.display
        (request.includeDirs.map (·.display))))
    else if Bindings.isRenderable surface then return surface
    else throw .badValue
  else throw (.problem (.missingHeader request.header.display))

def write (request : BindingRequest) (surface : Surface) : Run Surface := do
  Run.writeWhole request.target (Bindings.render surface request.header.name)
  Run.print s!"✅ Bindings written to {request.target.display} ({surface.summary})"
  return surface

theorem generateBindings_eq (request : BindingRequest) :
    generateBindings request = request.read >>= request.write := by
  unfold generateBindings read
  simp only [bind_assoc]
  refine bind_congr fun there => ?_
  cases there with
  | false => rfl
  | true =>
      simp only [Bool.not_true, Bool.false_eq_true, if_false, if_true, bind_assoc]
      refine bind_congr fun _ => bind_congr fun surface => ?_
      by_cases empty : surface.isEmpty = true
      · rw [if_pos empty, if_pos empty]
        rfl
      · rw [if_neg empty, if_neg empty]
        cases Bindings.isRenderable surface with
        | false => rfl
        | true =>
            rw [if_pos rfl, pure_bind]
            rfl

theorem talks_read (request : BindingRequest) : Respects Machine.Talks request.read := by
  refine (Run.respects_isFile _).bind fun there => .ite (fun _ => ?_) fun _ => respects_throw _
  refine (Run.talks_print _).bind fun _ => (talks_readHeader request).bind fun surface => ?_
  refine .ite (fun _ => respects_throw _) fun _ => ?_
  exact .ite (fun _ => respects_pure _) fun _ => respects_throw _

theorem readsOnce_read (request : BindingRequest) :
    ReadsOnce workingDir writes request.header.display request.read := by
  refine .idle_bind (Run.respects_isFile _) fun there => ?_
  cases there with
  | false => exact fun m _ => .inr ⟨.refl m, _, rfl⟩
  | true =>
      refine .idle_bind (Run.idle_print _) fun _ => ?_
      refine (readsOnce_readHeader request).bind_idle fun surface => ?_
      refine .ite (fun _ => respects_throw _) fun _ => ?_
      exact .ite (fun _ => respects_pure _) fun _ => respects_throw _

end BindingRequest

/-- The bindings come from one reading of one header. -/
theorem readsOnce_generateBindings (request : BindingRequest)
    (draft : writes ((Run.draftOf request.target).resolve workingDir))
    (target : writes (request.target.resolve workingDir)) :
    ReadsOnce workingDir writes request.header.display (generateBindings request) := by
  rw [request.generateBindings_eq]
  refine request.readsOnce_read.bind_idle fun surface => ?_
  exact (Run.idle_writeWhole draft target _).bind fun _ =>
    (Run.idle_print _).bind fun _ => respects_pure _

theorem generateBindings_eq_ok {request : BindingRequest} {surface : Surface} {m m' : Machine}
    (ran : runFrom (generateBindings request) m = (.ok surface, m')) :
    ∃ m₁ m₂, runFrom request.read m = (.ok surface, m₁) ∧ m.Talks m₁ ∧
      runFrom (Run.writeWhole request.target (Bindings.render surface request.header.name)) m₁ =
        (.ok (), m₂) ∧
      m₂.Talks m' := by
  rw [request.generateBindings_eq] at ran
  obtain ⟨found, m₁, read, writing⟩ := runFrom_bind_eq_ok.mp ran
  obtain ⟨_, m₂, written, telling⟩ := runFrom_bind_eq_ok.mp writing
  obtain ⟨_, m₃, told, returned⟩ := runFrom_bind_eq_ok.mp telling
  cases returned
  exact ⟨m₁, m₂, read, request.talks_read.of_run read, written, (Run.talks_print _).of_run told⟩

def Settled.bindingRequest (settled : Settled) : BindingRequest :=
  ⟨settled.paths.wrapperHeader, [settled.paths.includeDir], settled.paths.bindings,
    settled.allow, []⟩

end Generation

def Options.ofRegistered : Options := { Options.default with multiVariant? := some true }

/-- A machine on which the sources of a small project are, and how processes end on it. -/
def smallProject (outcomes : List ProcessOutcome) : Machine where
  host := ⟨"x86_64", "Linux", some 4⟩
  environ := ∅
  workingDir := ["work"]
  files := ⟨Table.ofList
    [(["work"], .directory), (["work", "wrapper.h"], .file (.text "")),
      (["work", "ggml"], .directory), (["work", "ggml", "CMakeLists.txt"], .file (.text "")),
      (["work", "ggml", "include"], .directory),
      (["work", "ggml", "include", "ggml.h"], .file (.text "")),
      (["work", "ggml", "include", "gguf.h"], .file (.text ""))]⟩
  units := [⟨[.define "GGML_MAX_DIMS" ["GGML_MAX_DIMS", "4"]], []⟩]
  outcomes := outcomes
  isVerbose := false
  events := []

end NativeVariants
