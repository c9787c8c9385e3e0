import NativeVariants.Proofs.Machine.Idleness

set_option autoImplicit false

/-!
What becomes of a file. Writing a file whole leaves the text at its place (`runFrom_writeWhole`).
A file is kept by all that does not write at its place (`Keeping`): a directory is only made where
nothing is.
-/

namespace NativeVariants

namespace FileTree

theorem entry?_set (tree : FileTree) {location : Location} (entry : Entry) {other : Location}
    (below : other ≠ []) :
    entry? (tree.set location entry) other =
      if other = location then some entry else tree.entry? other := by
  simp only [set, FileTree.entry?, if_neg below, Table.get?_set]

/-- What is there stays unless something else is put in its place. -/
theorem entry?_set_of_entry? {tree : FileTree} {location other : Location} {entry found : Entry}
    (there : tree.entry? other = some found) (replaced : other = location → entry = found) :
    FileTree.entry? (tree.set location entry) other = some found := by
  by_cases atRoot : other = []
  · rw [atRoot] at there ⊢
    exact there
  · rw [entry?_set _ _ atRoot]
    split
    · rw [replaced ‹_›]
    · exact there

theorem ne_nil_of_entry? {tree : FileTree} {location : Location} {content : Content}
    (there : tree.entry? location = some (.file content)) : location ≠ [] := by
  rintro rfl
  cases there

theorem ne_nil_of_not_directory {tree : FileTree} {location : Location}
    (noDirectory : tree.entry? location ≠ some .directory) : location ≠ [] := by
  rintro rfl
  exact noDirectory rfl

theorem write_eq_ok_iff {tree tree' : FileTree} {location : Location} {content : Content} :
    tree.write location content = .ok tree' ↔
      tree.entry? location.dropLast = some .directory ∧ tree.entry? location ≠ some .directory ∧
        tree' = tree.set location (.file content) := by
  unfold write
  generalize tree.entry? location.dropLast = parent?, tree.entry? location = entry?
  rcases parent? with _ | _ | _ <;> rcases entry? with _ | _ | _ <;> simp [eq_comm]

theorem makeDirectory_eq_ok_iff {tree tree' : FileTree} {location : Location} :
    tree.makeDirectory location = .ok tree' ↔
      tree.entry? location.dropLast = some .directory ∧ tree.entry? location = none ∧
        tree' = tree.set location .directory := by
  unfold makeDirectory
  generalize tree.entry? location.dropLast = parent?, tree.entry? location = entry?
  rcases parent? with _ | _ | _ <;> rcases entry? with _ | _ | _ <;> simp [eq_comm]

theorem read_eq_ok_iff {tree : FileTree} {location : Location} {content : Content} :
    tree.read location = .ok content ↔ tree.entry? location = some (.file content) := by
  unfold read
  cases found : tree.entry? location with
  | none => simp
  | some entry =>
      cases entry with
      | directory => simp
      | file other => simp

theorem move_eq_ok_iff {tree tree' : FileTree} {source target : Location} :
    tree.move source target = .ok tree' ↔
      tree.entry? target ≠ some .directory ∧ ∃ content,
        tree.entry? source = some (.file content) ∧
          tree' = (tree.remove source).set target (.file content) := by
  unfold move
  cases found : tree.read source with
  | error fault =>
      constructor
      · intro moved
        cases moved
      · rintro ⟨_, content, held, _⟩
        rw [read_eq_ok_iff.mpr held] at found
        cases found
  | ok content =>
      have held := read_eq_ok_iff.mp found
      by_cases isDirectory : tree.entry? target = some .directory
      · constructor
        · intro moved
          simp only [isDirectory, if_true] at moved
          cases moved
        · rintro ⟨noDirectory, _⟩
          exact absurd isDirectory noDirectory
      · constructor
        · intro moved
          simp only [isDirectory, if_false] at moved
          cases moved
          exact ⟨isDirectory, content, held, rfl⟩
        · rintro ⟨_, other, heldOther, rfl⟩
          rw [held] at heldOther
          cases heldOther
          simp only [isDirectory, if_false]
          rfl

end FileTree

/-- From one machine to the other things were said and headers read, and nothing else was done. -/
structure Machine.Talks (m m' : Machine) : Prop where
  host : m'.host = m.host
  environ : m'.environ = m.environ
  workingDir : m'.workingDir = m.workingDir
  files : m'.files = m.files
  outcomes : m'.outcomes = m.outcomes

instance : IsPreorder Machine Machine.Talks where
  refl _ := ⟨rfl, rfl, rfl, rfl, rfl⟩
  trans _ _ _ first second :=
    ⟨second.host.trans first.host, second.environ.trans first.environ,
      second.workingDir.trans first.workingDir, second.files.trans first.files,
      second.outcomes.trans first.outcomes⟩

namespace Run

theorem talks_report (event : Event) : Respects Machine.Talks (report event) :=
  fun _ => ⟨rfl, rfl, rfl, rfl, rfl⟩

theorem talks_print (line : String) : Respects Machine.Talks (print line) := talks_report _

theorem talks_note (recorder : Recorder) (message : String) :
    Respects Machine.Talks (note recorder message) :=
  respects_get.bind fun _ => .ite (fun _ => talks_report _) fun _ => respects_pure _

theorem talks_warn (recorder : Recorder) (message : String) :
    Respects Machine.Talks (warn recorder message) :=
  respects_get.bind fun _ => .ite (fun _ => talks_report _) fun _ => talks_report _

theorem talks_nextUnit (header : String) (arguments : List String) :
    Respects Machine.Talks (nextUnit header arguments) := by
  refine (talks_report _).bind fun _ => respects_get.bind fun m => ?_
  split
  · exact respects_pure _
  · exact respects_pure _
  · have popped (rest : List Header.HeaderUnit) :
        Respects Machine.Talks (modify fun m => { m with units := rest } : Run PUnit) :=
      fun _ => ⟨rfl, rfl, rfl, rfl, rfl⟩
    exact (popped _).bind fun _ => respects_pure _

end Run

/-- Nothing was done from one machine to the other but to leave records. -/
def Machine.Untouched (m m' : Machine) : Prop :=
  ∃ records : List String, m' = { m with events := m.events ++ records.map .complained }

instance : IsPreorder Machine Machine.Untouched where
  refl m := ⟨[], by simp⟩
  trans _ _ _ := by
    rintro ⟨records, rfl⟩ ⟨more, rfl⟩
    exact ⟨records ++ more, by simp⟩

theorem Run.untouched_note (recorder : Recorder) (message : String) :
    Respects Machine.Untouched (note recorder message) := by
  refine respects_get.bind fun m => .ite (fun _ => ?_) fun _ => respects_pure _
  exact fun m => ⟨[_], rfl⟩

theorem Machine.Untouched.idles {m m' : Machine} (untouched : m.Untouched m')
    (writes : Location → Prop) : m.Idles writes m' := by
  obtain ⟨records, rfl⟩ := untouched
  refine ⟨rfl, rfl, rfl, rfl, records.map .complained, rfl, ?_⟩
  intro e inRecords
  obtain ⟨text, _, rfl⟩ := List.mem_map.mp inRecords
  trivial

theorem Machine.Untouched.talks {m m' : Machine} (untouched : m.Untouched m') : m.Talks m' := by
  obtain ⟨records, rfl⟩ := untouched
  exact ⟨rfl, rfl, rfl, rfl, rfl⟩

/-! ### The outcomes of the operations -/

/-- A path leads somewhere, whether there is a file or not. -/
structure Machine.Reaches (p : Path) (m : Machine) : Prop where
  nameable : p.isNameable = true
  located : m.files.locate m.workingDir p = .ok (p.resolve m.workingDir)

structure Machine.HasDirectory (p : Path) (m : Machine) : Prop extends m.Reaches p where
  isDirectory : m.files.entry? (p.resolve m.workingDir) = some .directory

namespace Run

/-- A file is written where a path leads in a directory. -/
structure Writes (p : Path) (content : Content) (m m' : Machine) : Prop where
  reaches : m.Reaches p
  parent : m.files.entry? (p.resolve m.workingDir).dropLast = some .directory
  noDirectory : m.files.entry? (p.resolve m.workingDir) ≠ some .directory
  result : m' = { m with
    files := m.files.set (p.resolve m.workingDir) (.file content)
    events := m.events ++ [.wrote (p.resolve m.workingDir)] }

variable {p : Path} {m m' : Machine}

theorem runFrom_locate_of_reaches (reaches : m.Reaches p) :
    runFrom (locate p) m = (.ok (p.resolve m.workingDir), m) :=
  runFrom_locate_eq_ok_iff.mpr ⟨rfl, reaches.nameable, reaches.located⟩

theorem runFrom_isDirectory (p : Path) (m : Machine) :
    runFrom (isDirectory p) m = (.ok (m.files.find? m.workingDir p = some .directory), m) := rfl

theorem find?_eq_of_reaches (reaches : m.Reaches p) :
    m.files.find? m.workingDir p = m.files.entry? (p.resolve m.workingDir) := by
  rw [FileTree.find?, if_pos reaches.nameable, reaches.located]

/-- A path leads to the location that it names, or the run fails. -/
theorem runFrom_locate_cases (p : Path) (m : Machine) :
    (∃ failure, runFrom (locate p) m = (.error failure, m)) ∨ m.Reaches p := by
  rcases ran : runFrom (locate p) m with ⟨failure | location, m'⟩
  · have same := runFrom_locate_snd p m
    rw [ran] at same
    exact .inl ⟨failure, by rw [← same]⟩
  · obtain ⟨_, nameable, located⟩ := runFrom_locate_eq_ok_iff.mp ran
    refine .inr ⟨nameable, ?_⟩
    rw [located, FileTree.locate_eq_ok located]

theorem runFrom_writeContent_of_writes {content : Content} (writes : Writes p content m m') :
    runFrom (writeContent p content) m = (.ok (), m') := by
  have wrote : m.files.write (p.resolve m.workingDir) content = .ok _ :=
    FileTree.write_eq_ok_iff.mpr ⟨writes.parent, writes.noDirectory, rfl⟩
  unfold writeContent
  rw [runFrom_bind_of_ok (runFrom_locate_of_reaches writes.reaches),
    runFrom_bind_of_ok (runFrom_get m), wrote, writes.result]
  rfl

/-- A file is written, or the run fails and changes nothing. -/
theorem runFrom_writeContent_cases (p : Path) (content : Content) (m : Machine) :
    (∃ failure, runFrom (writeContent p content) m = (.error failure, m)) ∨
      ∃ m', Writes p content m m' := by
  rcases runFrom_locate_cases p m with ⟨failure, failed⟩ | reaches
  · exact .inl ⟨failure, runFrom_bind_of_error failed _⟩
  · cases wrote : m.files.write (p.resolve m.workingDir) content with
    | error fault =>
        left
        unfold writeContent
        rw [runFrom_bind_of_ok (runFrom_locate_of_reaches reaches),
          runFrom_bind_of_ok (runFrom_get m), wrote]
        exact ⟨.file fault, rfl⟩
    | ok tree =>
        obtain ⟨parent, noDirectory, rfl⟩ := FileTree.write_eq_ok_iff.mp wrote
        exact .inr ⟨_, reaches, parent, noDirectory, rfl⟩

theorem writes_of_runFrom {content : Content}
    (written : runFrom (writeContent p content) m = (.ok (), m')) : Writes p content m m' := by
  rcases runFrom_writeContent_cases p content m with ⟨failure, failed⟩ | ⟨m'', writes⟩
  · rw [failed] at written
    cases written
  · rw [runFrom_writeContent_of_writes writes] at written
    cases written
    exact writes

/-- What is written lies below the root. -/
theorem Writes.ne_nil {content : Content} (writes : Writes p content m m') :
    p.resolve m.workingDir ≠ [] := FileTree.ne_nil_of_not_directory writes.noDirectory

theorem runFrom_makeDirectoryAt_of_hasDirectory (there : m.HasDirectory p) :
    runFrom (makeDirectoryAt p) m = (.ok (), m) := by
  unfold makeDirectoryAt
  rw [runFrom_bind_of_ok (runFrom_locate_of_reaches there.toReaches),
    runFrom_bind_of_ok (runFrom_get m)]
  cases made : m.files.makeDirectory (p.resolve m.workingDir) with
  | ok tree =>
      obtain ⟨_, free, _⟩ := FileTree.makeDirectory_eq_ok_iff.mp made
      rw [there.isDirectory] at free
      cases free
  | error fault =>
      have found : decide (m.files.find? m.workingDir p = some .directory) = true := by
        rw [find?_eq_of_reaches there.toReaches, there.isDirectory]
        rfl
      simp only
      rw [runFrom_bind_of_ok (runFrom_isDirectory p m), found]
      rfl

theorem runFrom_makeDirectories_of_hasDirectory (there : m.HasDirectory p) :
    runFrom (makeDirectories p) m = (.ok (), m) := by
  unfold makeDirectories
  cases p.parts.length with
  | zero => exact runFrom_makeDirectoryAt_of_hasDirectory there
  | succ fuel =>
      rw [makeDirectories.go, runFrom_tryCatch, runFrom_makeDirectoryAt_of_hasDirectory there]

theorem runFrom_makeDirectoryAt_cases (p : Path) (m : Machine) :
    (∃ failure, runFrom (makeDirectoryAt p) m = (.error failure, m)) ∨ m.HasDirectory p ∨
      m.Reaches p ∧ m.files.entry? (p.resolve m.workingDir).dropLast = some .directory ∧
        m.files.entry? (p.resolve m.workingDir) = none ∧
        runFrom (makeDirectoryAt p) m =
          (.ok (), { m with files := m.files.set (p.resolve m.workingDir) .directory }) := by
  rcases runFrom_locate_cases p m with ⟨failure, failed⟩ | reaches
  · exact .inl ⟨failure, runFrom_bind_of_error failed _⟩
  · by_cases isDirectory : m.files.entry? (p.resolve m.workingDir) = some .directory
    · exact .inr (.inl ⟨reaches, isDirectory⟩)
    · unfold makeDirectoryAt
      rw [runFrom_bind_of_ok (runFrom_locate_of_reaches reaches),
        runFrom_bind_of_ok (runFrom_get m)]
      cases made : m.files.makeDirectory (p.resolve m.workingDir) with
      | ok tree =>
          obtain ⟨parent, free, rfl⟩ := FileTree.makeDirectory_eq_ok_iff.mp made
          exact .inr (.inr ⟨reaches, parent, free, rfl⟩)
      | error fault =>
          have found : decide (m.files.find? m.workingDir p = some .directory) = false := by
            rw [find?_eq_of_reaches reaches, decide_eq_false isDirectory]
          simp only
          rw [runFrom_bind_of_ok (runFrom_isDirectory p m), found]
          exact .inl ⟨.file fault, rfl⟩

end Run

/-! ### What is kept -/

/-- From one machine to the other the file at a location has kept its content. -/
structure Machine.Keeps (l : Location) (m m' : Machine) : Prop where
  workingDir : m'.workingDir = m.workingDir
  files : ∀ content, m.files.entry? l = some (.file content) →
    m'.files.entry? l = some (.file content)

def Machine.KeepsIn (workingDir l : Location) (m m' : Machine) : Prop :=
  m.workingDir = workingDir → m.Keeps l m'

instance (workingDir l : Location) : IsPreorder Machine (Machine.KeepsIn workingDir l) where
  refl _ := fun _ => ⟨rfl, fun _ there => there⟩
  trans _ _ _ first second := fun here =>
    have before := first here
    have after := second (before.workingDir.trans here)
    ⟨after.workingDir.trans before.workingDir,
      fun content there => after.files content (before.files content there)⟩

abbrev Keeping (workingDir l : Location) {α : Type} (x : Run α) : Prop :=
  Respects (Machine.KeepsIn workingDir l) x

namespace Run

variable {workingDir l : Location} {α : Type}

theorem keeping_report (event : Event) : Keeping workingDir l (report event) :=
  fun _ _ => ⟨rfl, fun _ there => there⟩

theorem keeping_print (line : String) : Keeping workingDir l (print line) := keeping_report _

theorem keeping_writeContent {p : Path} (apart : p.resolve workingDir ≠ l) (content : Content) :
    Keeping workingDir l (writeContent p content) := by
  intro m here
  rcases runFrom_writeContent_cases p content m with ⟨failure, failed⟩ | ⟨m', writes⟩
  · rw [failed]
    exact refl_of (Machine.KeepsIn workingDir l) m here
  · rw [runFrom_writeContent_of_writes writes, writes.result]
    refine ⟨rfl, fun other there => ?_⟩
    have below := FileTree.ne_nil_of_entry? there
    have untouched : l ≠ p.resolve m.workingDir := by
      rw [here]
      exact apart.symm
    rw [FileTree.entry?_set _ _ below, if_neg untouched, there]

theorem keeping_makeDirectoryAt (p : Path) : Keeping workingDir l (makeDirectoryAt p) := by
  intro m here
  rcases runFrom_makeDirectoryAt_cases p m with ⟨failure, failed⟩ | there | ⟨_, _, free, made⟩
  · rw [failed]
    exact refl_of (Machine.KeepsIn workingDir l) m here
  · rw [runFrom_makeDirectoryAt_of_hasDirectory there]
    exact refl_of (Machine.KeepsIn workingDir l) m here
  · rw [made]
    refine ⟨rfl, fun other there => ?_⟩
    have below := FileTree.ne_nil_of_entry? there
    have untouched : l ≠ p.resolve m.workingDir := by
      rintro rfl
      rw [free] at there
      cases there
    rw [FileTree.entry?_set _ _ below, if_neg untouched, there]

theorem admits_keeping :
    Admits (Machine.KeepsIn workingDir l) fun p => p.resolve workingDir ≠ l where
  print := keeping_print
  complain := fun _ => keeping_report _
  makeDirectoryAt := keeping_makeDirectoryAt
  writeContent := fun _ apart content => keeping_writeContent apart content

theorem keeping_note (recorder : Recorder) (message : String) :
    Keeping workingDir l (note recorder message) := admits_keeping.note recorder message

end Run

/-- From one machine to the other all directories were kept. -/
structure Machine.KeepsDirectories (m m' : Machine) : Prop where
  workingDir : m'.workingDir = m.workingDir
  directories : ∀ l, m.files.entry? l = some .directory → m'.files.entry? l = some .directory

instance : IsPreorder Machine Machine.KeepsDirectories where
  refl _ := ⟨rfl, fun _ there => there⟩
  trans _ _ _ first second :=
    ⟨second.workingDir.trans first.workingDir,
      fun l there => second.directories l (first.directories l there)⟩

namespace Run

theorem admits_keepsDirectories : Admits Machine.KeepsDirectories fun _ => True where
  print := fun _ _ => ⟨rfl, fun _ there => there⟩
  complain := fun _ _ => ⟨rfl, fun _ there => there⟩
  makeDirectoryAt := by
    intro p m
    rcases runFrom_makeDirectoryAt_cases p m with ⟨failure, failed⟩ | there | ⟨_, _, _, made⟩
    · rw [failed]
      exact refl_of Machine.KeepsDirectories m
    · rw [runFrom_makeDirectoryAt_of_hasDirectory there]
      exact refl_of Machine.KeepsDirectories m
    · rw [made]
      refine ⟨rfl, fun l there => ?_⟩
      exact FileTree.entry?_set_of_entry? there fun _ => rfl
  writeContent := by
    intro p _ content m
    rcases runFrom_writeContent_cases p content m with ⟨failure, failed⟩ | ⟨m', writes⟩
    · rw [failed]
      exact refl_of Machine.KeepsDirectories m
    · rw [runFrom_writeContent_of_writes writes, writes.result]
      refine ⟨rfl, fun l there => ?_⟩
      refine FileTree.entry?_set_of_entry? there fun same => ?_
      rw [same] at there
      exact absurd there writes.noDirectory

/-- One file takes the place of another one, or a free place that its path leads to. -/
structure Replaces (source target : Path) (content : Content) (m m' : Machine) : Prop where
  leaves : m.Reaches source
  held : m.files.entry? (source.resolve m.workingDir) = some (.file content)
  reaches : m.Reaches target
  plain : target.parts.getLast? ≠ some Path.upward
  noDirectory : m.files.entry? (target.resolve m.workingDir) ≠ some .directory
  result : m' = { m with
    files := (m.files.remove (source.resolve m.workingDir)).set
      (target.resolve m.workingDir) (.file content)
    events := m.events ++ [.wrote (target.resolve m.workingDir)] }

variable {source target : Path} {m m' : Machine}

theorem runFrom_replace_of_replaces {content : Content}
    (replaces : Replaces source target content m m') :
    runFrom (replace source target) m = (.ok (), m') := by
  have moved : m.files.move (source.resolve m.workingDir) (target.resolve m.workingDir) = .ok _ :=
    FileTree.move_eq_ok_iff.mpr ⟨replaces.noDirectory, content, replaces.held, rfl⟩
  unfold replace
  rw [runFrom_bind_of_ok (runFrom_locate_of_reaches replaces.leaves),
    runFrom_bind_of_ok (runFrom_locate_of_reaches replaces.reaches), if_neg replaces.plain,
    runFrom_bind_of_ok (runFrom_get m), moved, replaces.result]
  rfl

/-- A file takes its place, or the run fails and changes nothing. -/
theorem runFrom_replace_cases (source target : Path) (m : Machine) :
    (∃ failure, runFrom (replace source target) m = (.error failure, m)) ∨
      ∃ content m', Replaces source target content m m' := by
  rcases runFrom_locate_cases source m with ⟨failure, failed⟩ | leaves
  · exact .inl ⟨failure, runFrom_bind_of_error failed _⟩
  rcases runFrom_locate_cases target m with ⟨failure, failed⟩ | reaches
  · left
    unfold replace
    rw [runFrom_bind_of_ok (runFrom_locate_of_reaches leaves)]
    exact ⟨failure, runFrom_bind_of_error failed _⟩
  by_cases upwards : target.parts.getLast? = some Path.upward
  · left
    unfold replace
    rw [runFrom_bind_of_ok (runFrom_locate_of_reaches leaves),
      runFrom_bind_of_ok (runFrom_locate_of_reaches reaches), if_pos upwards]
    exact ⟨.file .busy, rfl⟩
  cases moved : m.files.move (source.resolve m.workingDir) (target.resolve m.workingDir) with
  | error fault =>
      left
      unfold replace
      rw [runFrom_bind_of_ok (runFrom_locate_of_reaches leaves),
        runFrom_bind_of_ok (runFrom_locate_of_reaches reaches), if_neg upwards,
        runFrom_bind_of_ok (runFrom_get m), moved]
      exact ⟨.file fault, rfl⟩
  | ok tree =>
      obtain ⟨noDirectory, content, held, rfl⟩ := FileTree.move_eq_ok_iff.mp moved
      exact .inr ⟨content, _, leaves, held, reaches, upwards, noDirectory, rfl⟩

theorem replaces_of_runFrom (replaced : runFrom (replace source target) m = (.ok (), m')) :
    ∃ content, Replaces source target content m m' := by
  rcases runFrom_replace_cases source target m with ⟨failure, failed⟩ | ⟨content, m'', replaces⟩
  · rw [failed] at replaced
    cases replaced
  · rw [runFrom_replace_of_replaces replaces] at replaced
    cases replaced
    exact ⟨content, replaces⟩

/-- A file is written whole by way of a draft that holds the text. -/
theorem writeWhole_eq_ok {p : Path} {text : String}
    (written : runFrom (writeWhole p text) m = (.ok (), m')) :
    p.name ≠ "" ∧ ∃ m₁ m₂, runFrom (makeDirectories p.parent) m = (.ok (), m₁) ∧
      Writes (draftOf p) (.text text) m₁ m₂ ∧ Replaces (draftOf p) p (.text text) m₂ m' := by
  unfold writeWhole at written
  obtain ⟨_, m₁, made, written⟩ := runFrom_bind_eq_ok.mp written
  split at written
  · cases written
  · rename_i named
    obtain ⟨_, m₂, drafted, written⟩ := runFrom_bind_eq_ok.mp written
    have writes : Writes (draftOf p) (.text text) m₁ m₂ := writes_of_runFrom drafted
    change runFrom (replace (draftOf p) p) m₂ = _ at written
    obtain ⟨content, replaces⟩ := replaces_of_runFrom written
    refine ⟨named, m₁, m₂, made, writes, ?_⟩
    have held : m₂.files.entry? ((draftOf p).resolve m₂.workingDir) =
        some (.file (.text text)) := by
      rw [writes.result]
      exact (FileTree.entry?_set _ _ writes.ne_nil).trans (if_pos rfl)
    have same := replaces.held
    rw [held] at same
    cases same
    exact replaces

theorem entry?_of_writeWhole {p : Path} {text : String}
    (written : runFrom (writeWhole p text) m = (.ok (), m')) :
    m'.workingDir = m.workingDir ∧
      m'.files.entry? (p.resolve m.workingDir) = some (.file (.text text)) := by
  obtain ⟨_, m₁, m₂, made, writes, replaces⟩ := writeWhole_eq_ok written
  have kept : m.Keeps [] m₁ := (admits_keeping.makeDirectories _).of_run made rfl
  have here : m₂.workingDir = m.workingDir := by
    rw [writes.result]
    exact kept.workingDir
  have below := FileTree.ne_nil_of_not_directory replaces.noDirectory
  rw [replaces.result, ← here]
  exact ⟨rfl, (FileTree.entry?_set _ _ below).trans (if_pos rfl)⟩

end Run

end NativeVariants
