import NativeVariants.Proofs.Machine.PlainPaths

set_option autoImplicit false

/-!
Runs that change nothing when they are repeated. A run is replayed on the files that an earlier one
has left (`Replays`) if it finds the files that it read before and writes the ones that are there. A
file that is written once more with its content leaves the tree as it is, and so does a draft that
comes and goes.
-/

namespace NativeVariants

theorem Table.set_of_get? {κ α : Type} [DecidableEq κ] {table : Table κ α} {key : κ} {value : α}
    (there : table.get? key = some value) : table.set key value = table := by
  have same : ∀ entries : List (κ × α), entries.lookup key = some value →
      setIn key value entries = entries := by
    intro entries found
    induction entries with
    | nil => cases found
    | cons entry rest ih =>
        obtain ⟨k, v⟩ := entry
        rw [lookup_cons_eq_ite] at found
        rw [setIn]
        by_cases here : key = k
        · rw [if_pos here] at found
          rw [if_pos here.symm, Option.some.inj found]
        · rw [if_neg here] at found
          rw [if_neg (Ne.symm here), ih found]
  exact Table.ext (same table.entries there)

namespace FileTree

variable {tree : FileTree} {location draft : Location} {entry : Entry}

theorem set_of_entry? (below : location ≠ []) (there : tree.entry? location = some entry) :
    tree.set location entry = tree := by
  unfold FileTree.entry? at there
  rw [if_neg below] at there
  unfold FileTree.set
  rw [Table.set_of_get? there]

/-- A new file that vanishes again leaves the tree as it was. -/
theorem IsSound.remove_set (sound : tree.IsSound) (free : tree.entry? draft = none) :
    (tree.set draft entry).remove draft = tree := by
  have notRoot : draft ≠ [] := by
    rintro rfl
    cases free
  have fresh : draft ∉ tree.entries.keys := by
    rw [Table.mem_keys_iff, Table.contains]
    unfold FileTree.entry? at free
    rw [if_neg notRoot] at free
    rw [free]
    exact Bool.false_ne_true
  have kept : ∀ e ∈ tree.entries.entries, (!draft.isPrefixOf e.1) = true := by
    intro e inside
    rw [Bool.not_eq_true', ← Bool.not_eq_true, List.isPrefixOf_iff_prefix]
    intro below
    have isKey : e.1 ∈ tree.entries.keys := List.mem_map_of_mem inside
    have other : draft ≠ e.1 := by
      intro same
      exact fresh (same ▸ isKey)
    have lower : e.1 ≠ [] := by
      intro none
      rw [none] at below
      exact notRoot (List.prefix_nil.mp below)
    have there : tree.entry? e.1 = some e.2 :=
      (if_neg lower).trans (Table.get?_eq_some_of_mem inside)
    have isDirectory := sound.entry?_of_prefix there below other
    rw [free] at isDirectory
    cases isDirectory
  have placed : (tree.entries.set draft entry).entries = tree.entries.entries ++ [(draft, entry)] :=
    Table.setIn_of_fresh fresh entry
  have gone : (!draft.isPrefixOf draft) = false := by
    rw [Bool.not_eq_false']
    exact List.isPrefixOf_iff_prefix.mpr (List.prefix_refl draft)
  have filtered : ((tree.entries.set draft entry).filter fun l => !draft.isPrefixOf l) =
      tree.entries := by
    apply Table.ext
    change (tree.entries.set draft entry).entries.filter (fun e => !draft.isPrefixOf e.1) = _
    rw [placed, List.filter_append, List.filter_eq_self.mpr kept,
      List.filter_cons_of_neg (by simp [gone]), List.filter_nil, List.append_nil]
  exact congrArg FileTree.mk filtered

end FileTree

/-! ### Runs that are replayed -/

/-- A process that ends well and leaves no files. -/
def ProcessOutcome.IsQuiet (outcome : ProcessOutcome) : Prop :=
  ∃ output errorOutput, outcome = .finished 0 output errorOutput []

/-- A machine with the files of another one, on which all processes to come are quiet. -/
structure Machine.Repeats (last n : Machine) : Prop where
  host : n.host = last.host
  workingDir : n.workingDir = last.workingDir
  files : n.files = last.files
  quiet : ∀ outcome ∈ n.outcomes, outcome.IsQuiet

/-- On the files of a machine the run returns a value and leaves all files as they are. -/
def Replays (last : Machine) {α : Type} (x : Run α) (a : α) : Prop :=
  ∀ n, last.Repeats n → ∃ n', runFrom x n = (.ok a, n') ∧ last.Repeats n'

theorem Machine.Repeats.of_talks {last n n' : Machine} (repeats : last.Repeats n)
    (talks : n.Talks n') : last.Repeats n' where
  host := talks.host.trans repeats.host
  workingDir := talks.workingDir.trans repeats.workingDir
  files := talks.files.trans repeats.files
  quiet := by
    rw [talks.outcomes]
    exact repeats.quiet

theorem Machine.Repeats.fileAt?_eq {last n : Machine} (repeats : last.Repeats n) (p : Path) :
    n.fileAt? p = last.fileAt? p := by
  unfold fileAt?
  rw [repeats.files, repeats.workingDir]

theorem Machine.Repeats.reaches {last n : Machine} {p : Path} (repeats : last.Repeats n)
    (reaches : last.Reaches p) : n.Reaches p := by
  refine ⟨reaches.nameable, ?_⟩
  rw [repeats.files, repeats.workingDir]
  exact reaches.located

section Replays

variable {α β : Type} {last : Machine}

theorem Replays.bind {x : Run α} {f : α → Run β} {a : α} {b : β} (first : Replays last x a)
    (next : Replays last (f a) b) : Replays last (x >>= f) b := by
  intro n repeats
  obtain ⟨n₁, ran, repeats⟩ := first n repeats
  obtain ⟨n₂, ranNext, repeats⟩ := next n₁ repeats
  exact ⟨n₂, (runFrom_bind_of_ok ran f).trans ranNext, repeats⟩

theorem replays_pure (a : α) : Replays last (pure a) a := fun n repeats => ⟨n, rfl, repeats⟩

theorem Replays.map {x : Run α} {a : α} (first : Replays last x a) (g : α → β) :
    Replays last (g <$> x) (g a) := by
  rw [map_eq_pure_bind]
  exact first.bind (replays_pure _)

theorem replays_of_ok {result : Except Failure α} {a : α} (ok : result = .ok a) :
    Replays last (ofExcept result) a := by
  intro n repeats
  rw [runFrom_ofExcept, ok]
  exact ⟨n, rfl, repeats⟩

theorem replays_ofReported {result : Except Problem α} {a : α} (ok : result = .ok a) :
    Replays last (Run.ofReported result) a := by
  rw [ok]
  exact replays_of_ok rfl

theorem replays_get_bind {f : Machine → Run β} {b : β}
    (each : ∀ n, last.Repeats n → Replays last (f n) b) : Replays last (get >>= f) b := by
  intro n repeats
  rw [runFrom_bind_of_ok (runFrom_get n)]
  exact each n repeats n repeats

theorem Replays.of_talks {x : Run α} {a : α} (talks : Respects Machine.Talks x)
    (returns : ∀ n, last.Repeats n → (runFrom x n).1 = .ok a) : Replays last x a := by
  intro n repeats
  exact ⟨(runFrom x n).2, Prod.ext (returns n repeats) rfl, repeats.of_talks (talks n)⟩

theorem replays_forM {xs : List α} {f : α → Run PUnit}
    (each : ∀ a ∈ xs, Replays last (f a) ⟨⟩) : Replays last (xs.forM f) ⟨⟩ := by
  induction xs with
  | nil => exact replays_pure _
  | cons a rest ih =>
      exact (each a List.mem_cons_self).bind
        (ih fun b inRest => each b (List.mem_cons_of_mem a inRest))

theorem replays_mapM {xs : List α} {f : α → Run β} {bs : List β}
    (each : List.Forall₂ (fun a b => Replays last (f a) b) xs bs) :
    Replays last (xs.mapM f) bs := by
  induction each with
  | nil => exact replays_pure _
  | cons here later ih =>
      rw [List.mapM_cons]
      exact here.bind (ih.bind (replays_pure _))

namespace Run

variable {p : Path}

theorem replays_report (event : Event) : Replays last (report event) ⟨⟩ :=
  .of_talks (talks_report event) fun _ _ => rfl

theorem replays_print (line : String) : Replays last (print line) ⟨⟩ := replays_report _

theorem replays_note (recorder : Recorder) (message : String) :
    Replays last (note recorder message) ⟨⟩ := by
  refine replays_get_bind fun n _ => ?_
  split
  · exact replays_report _
  · exact replays_pure _

theorem replays_warn (recorder : Recorder) (message : String) :
    Replays last (warn recorder message) ⟨⟩ := by
  refine replays_get_bind fun n _ => ?_
  split
  · exact replays_report _
  · exact replays_report _

theorem replays_resolve (nameable : p.isNameable = true) :
    Replays last (resolve p) (p.absolute last.workingDir) := by
  intro n repeats
  rw [runFrom_resolve, if_pos nameable, repeats.workingDir]
  exact ⟨n, rfl, repeats⟩

theorem replays_find? (p : Path) :
    Replays last (find? p) (last.files.find? last.workingDir p) := by
  intro n repeats
  rw [runFrom_find?, repeats.files, repeats.workingDir]
  exact ⟨n, rfl, repeats⟩

theorem replays_present (p : Path) :
    Replays last (present p) (last.files.find? last.workingDir p).isSome :=
  (replays_find? p).bind (replays_pure _)

theorem replays_isDirectory (p : Path) :
    Replays last (isDirectory p) (last.files.find? last.workingDir p = some .directory) :=
  (replays_find? p).bind (replays_pure _)

theorem replays_isFile (p : Path) : Replays last (isFile p) (last.fileAt? p).isSome := by
  intro n repeats
  rw [runFrom_isFile, repeats.fileAt?_eq]
  exact ⟨n, rfl, repeats⟩

theorem replays_locate (reaches : last.Reaches p) :
    Replays last (locate p) (p.resolve last.workingDir) := by
  intro n repeats
  rw [runFrom_locate_of_reaches (repeats.reaches reaches), repeats.workingDir]
  exact ⟨n, rfl, repeats⟩

theorem replays_readContent {content : Content} (offers : last.Offers p content) :
    Replays last (readContent p) content := by
  refine (replays_locate offers.toReaches).bind (replays_get_bind fun n repeats => ?_)
  apply replays_of_ok
  rw [repeats.files, FileTree.read_eq_ok_iff.mpr offers.held]
  rfl

theorem replays_readText {text : String} (offers : last.Offers p (.text text)) :
    Replays last (readText p) (String.ofList (readLines text.toList)) :=
  (replays_readContent offers).bind (replays_pure _)

theorem replays_setFiles : Replays last (setFiles last.files) ⟨⟩ := by
  intro n repeats
  exact ⟨_, rfl, repeats.host, repeats.workingDir, rfl, repeats.quiet⟩

/-- A file that is written once more with its content changes nothing. -/
theorem replays_writeContent {content : Content} (sound : last.files.IsSound)
    (offers : last.Offers p content) : Replays last (writeContent p content) ⟨⟩ := by
  refine (replays_locate offers.toReaches).bind (replays_get_bind fun n repeats => ?_)
  have below := FileTree.ne_nil_of_entry? offers.held
  have written : last.files.write (p.resolve last.workingDir) content = .ok last.files := by
    rw [FileTree.write_eq_ok_iff]
    refine ⟨sound _ _ offers.held, ?_, (FileTree.set_of_entry? below offers.held).symm⟩
    rw [offers.held]
    exact nofun
  rw [repeats.files]
  refine (replays_of_ok (a := last.files) ?_).bind (replays_setFiles.bind (replays_report _))
  rw [written]
  rfl

theorem replays_makeDirectories (there : last.HasDirectory p) :
    Replays last (makeDirectories p) ⟨⟩ := by
  intro n repeats
  have here : n.HasDirectory p := by
    refine ⟨repeats.reaches there.toReaches, ?_⟩
    rw [repeats.files, repeats.workingDir]
    exact there.isDirectory
  exact ⟨n, runFrom_makeDirectories_of_hasDirectory here, repeats⟩

end Run

/-! ### Files that were written whole -/

structure Machine.HoldsWhole (p : Path) (text : String) (m : Machine) : Prop
    extends m.Offers p (.text text) where
  named : p.name ≠ ""
  plain : p.name ≠ Path.upward
  directory : m.HasDirectory p.parent
  drafting : m.Reaches (Run.draftOf p)

theorem Machine.HoldsWhole.of_changes {p : Path} {text : String} {m m' : Machine}
    {writes drafts : Location → Prop} (holds : m.HoldsWhole p text)
    (changes : m.Changes writes drafts m') (apart : ¬writes (p.resolve m.workingDir)) :
    m'.HoldsWhole p text where
  toOffers := holds.toOffers.of_changes changes apart
  named := holds.named
  plain := holds.plain
  directory := holds.directory.mono changes.toKeepsDirectories
  drafting := holds.drafting.mono changes.toKeepsDirectories

namespace Run

variable {p : Path} {text : String} {m m' : Machine}

theorem hasDirectory_of_makeDirectoryAt (made : runFrom (makeDirectoryAt p) m = (.ok (), m')) :
    m'.HasDirectory p := by
  rcases runFrom_makeDirectoryAt_cases p m with
    ⟨failure, failed⟩ | there | ⟨reaches, parent, free, ran⟩
  · rw [failed] at made
    cases made
  · rw [runFrom_makeDirectoryAt_of_hasDirectory there] at made
    cases made
    exact there
  · have kept := admits_keepsDirectories.makeDirectoryAt p m
    rw [ran] at made kept
    cases made
    refine ⟨reaches.mono kept, ?_⟩
    by_cases atRoot : p.resolve m.workingDir = []
    · rw [atRoot] at free
      cases free
    · exact (FileTree.entry?_set _ _ atRoot).trans (if_pos rfl)

theorem hasDirectory_of_makeDirectories (made : runFrom (makeDirectories p) m = (.ok (), m')) :
    m'.HasDirectory p := by
  unfold makeDirectories at made
  generalize p.parts.length = fuel at made
  cases fuel with
  | zero => exact hasDirectory_of_makeDirectoryAt made
  | succ fuel =>
      rw [makeDirectories.go, runFrom_tryCatch] at made
      rcases first : runFrom (makeDirectoryAt p) m with ⟨failure | _, m₁⟩
      · rw [first] at made
        simp only at made
        split at made
        · obtain ⟨_, m₂, _, last⟩ := runFrom_bind_eq_ok.mp made
          exact hasDirectory_of_makeDirectoryAt last
        · cases made
      · rw [first] at made
        cases made
        exact hasDirectory_of_makeDirectoryAt first

theorem holdsWhole_of_writeWhole (sound : m.files.IsSound)
    (written : runFrom (writeWhole p text) m = (.ok (), m')) : m'.HoldsWhole p text := by
  obtain ⟨named, m₁, m₂, made, writes, replaces⟩ := writeWhole_eq_ok written
  have making : m.Changes (fun _ => False) (fun _ => False) m₁ :=
    (admits_changes.makeDirectories _).of_run made rfl sound
  have drafting := (writes.changes making.sound fun _ => False).1
  have replacing := (replaces.changes named drafting.sound).1
  have kept : m₁.KeepsDirectories m' :=
    trans_of Machine.KeepsDirectories drafting.toKeepsDirectories replacing.toKeepsDirectories
  exact ⟨offers_of_writeWhole written, named, replaces.name_ne_upward named,
    (hasDirectory_of_makeDirectories made).mono kept, writes.reaches.mono kept⟩

/-- What is changed by writing a file whole: the draft comes and goes. -/
theorem changes_of_writeWhole (sound : m.files.IsSound)
    (written : runFrom (writeWhole p text) m = (.ok (), m')) :
    m.Changes (fun l => l = (draftOf p).resolve m.workingDir ∨ l = p.resolve m.workingDir)
      (· = (draftOf p).resolve m.workingDir) m' := by
  rcases WritesWhole.of_run sound written with _ | _ | ⟨changes, _, _⟩
  exact changes

/-- A file that is written whole once more changes nothing if there is no draft. -/
theorem replays_writeWhole (sound : last.files.IsSound) (holds : last.HoldsWhole p text)
    (free : last.files.entry? ((draftOf p).resolve last.workingDir) = none) :
    Replays last (writeWhole p text) ⟨⟩ := by
  refine (replays_makeDirectories holds.directory).bind ?_
  rw [if_neg holds.named]
  intro n repeats
  change ∃ n', runFrom (writeContent (draftOf p) (.text text) >>= fun _ => replace (draftOf p) p) n =
    (.ok (), n') ∧ last.Repeats n'
  have apart : ¬(draftOf p).resolve last.workingDir <+: p.resolve last.workingDir :=
    Path.not_prefix_draftOf holds.named holds.plain _
  have there : p.resolve last.workingDir ≠ [] := FileTree.ne_nil_of_entry? holds.held
  have draftBelow : (draftOf p).resolve last.workingDir ≠ [] := by
    intro atRoot
    rw [atRoot] at free
    cases free
  -- The draft comes,
  obtain ⟨n₁, writes⟩ : ∃ n₁, Writes (draftOf p) (.text text) n n₁ := by
    refine ⟨_, repeats.reaches holds.drafting, ?_, ?_, rfl⟩
    · rw [repeats.files, repeats.workingDir, Path.resolve_draftOf, List.dropLast_concat]
      exact holds.directory.isDirectory
    · rw [repeats.files, repeats.workingDir, free]
      exact nofun
  have here : n₁.workingDir = last.workingDir := by
    rw [writes.result]
    exact repeats.workingDir
  have drafted : n₁.files = last.files.set ((draftOf p).resolve last.workingDir)
      (.file (.text text)) := by
    rw [writes.result, repeats.files, repeats.workingDir]
  have kept := (admits_keepsDirectories.writeContent (draftOf p) trivial _).of_run
    (runFrom_writeContent_of_writes writes)
  -- and goes.
  obtain ⟨n₂, replaces⟩ : ∃ n₂, Replaces (draftOf p) p (.text text) n₁ n₂ := by
    refine ⟨_, (repeats.reaches holds.drafting).mono kept, ?_,
      (repeats.reaches holds.toReaches).mono kept, ?_, ?_, rfl⟩
    · rw [here, drafted]
      exact (FileTree.entry?_set _ _ draftBelow).trans (if_pos rfl)
    · rw [Path.parts_of_name holds.named, List.getLast?_concat]
      exact fun same => holds.plain (Option.some.inj same)
    · rw [here, drafted, FileTree.entry?_set _ _ there, holds.held]
      split
      · exact nofun
      · exact nofun
  rw [runFrom_bind_of_ok (runFrom_writeContent_of_writes writes),
    runFrom_replace_of_replaces replaces]
  have restored : n₂.files = last.files := by
    rw [replaces.result]
    simp only [here, drafted]
    rw [sound.remove_set free, FileTree.set_of_entry? there holds.held]
  refine ⟨n₂, rfl, ?_, ?_, restored, ?_⟩
  · rw [replaces.result, writes.result]
    exact repeats.host
  · rw [replaces.result, writes.result]
    exact repeats.workingDir
  · rw [replaces.result, writes.result]
    exact repeats.quiet

end Run

/-! ### Copies -/

structure Machine.HoldsCopy (source target place : Path) (content : Content) (m : Machine) :
    Prop where
  original : m.Offers source content
  copied : m.Offers place content
  apart : source.resolve m.workingDir ≠ place.resolve m.workingDir
  placed : m.HasDirectory target ∧ place = target.child source.name ∨ place = target

theorem Machine.HoldsCopy.of_changes {source target place : Path} {content : Content}
    {m m' : Machine} {writes drafts : Location → Prop}
    (holds : m.HoldsCopy source target place content) (changes : m.Changes writes drafts m')
    (sourceApart : ¬writes (source.resolve m.workingDir))
    (placeApart : ¬writes (place.resolve m.workingDir)) :
    m'.HoldsCopy source target place content where
  original := holds.original.of_changes changes sourceApart
  copied := holds.copied.of_changes changes placeApart
  apart := by
    rw [changes.workingDir]
    exact holds.apart
  placed := by
    apply holds.placed.imp_left
    exact And.imp_left fun there => there.mono changes.toKeepsDirectories

namespace Run

variable {source target place : Path} {content : Content} {m m' : Machine}

theorem readContent_eq_ok (read : runFrom (readContent source) m = (.ok content, m')) :
    m' = m ∧ m.Offers source content := by
  unfold readContent at read
  obtain ⟨location, m₁, located, reading⟩ := runFrom_bind_eq_ok.mp read
  obtain ⟨rfl, nameable, leads⟩ := runFrom_locate_eq_ok_iff.mp located
  obtain rfl := FileTree.locate_eq_ok leads
  rw [runFrom_bind_of_ok (runFrom_get _), runFrom_ofExcept, Prod.mk.injEq] at reading
  obtain ⟨returned, rfl⟩ := reading
  refine ⟨rfl, ⟨nameable, leads⟩, ?_⟩
  apply FileTree.read_eq_ok_iff.mp
  generalize m₁.files.read (source.resolve m₁.workingDir) = result at returned ⊢
  cases result with
  | error fault => cases returned
  | ok other =>
      cases returned
      rfl

theorem readText_eq_ok {lines : String}
    (read : runFrom (readText source) m = (.ok lines, m')) :
    m' = m ∧ ∃ text, m.Offers source (.text text) ∧
      lines = String.ofList (readLines text.toList) := by
  unfold readText at read
  obtain ⟨content, m₁, opened, reading⟩ := runFrom_bind_eq_ok.mp read
  obtain ⟨rfl, offers⟩ := readContent_eq_ok opened
  cases content with
  | raw bytes => cases reading
  | text text =>
      cases reading
      exact ⟨rfl, text, offers, rfl⟩

theorem isDirectory_eq_true_iff {p : Path} :
    m.files.find? m.workingDir p = some .directory ↔ m.HasDirectory p := by
  rw [Machine.find?_eq_some_iff]
  exact ⟨fun ⟨reaches, there⟩ => ⟨reaches, there⟩, fun there => ⟨there.toReaches, there.isDirectory⟩⟩

def copyPlace (m : Machine) (source target : Path) : Path :=
  if m.files.find? m.workingDir target = some .directory then target.child source.name else target

def copyTo (source place : Path) : Run Unit := do
  if (← locate source) = (← locate place) then throw (.file .sameFile)
  writeContent place (← readContent source)

theorem runFrom_copy (source target : Path) (m : Machine) :
    runFrom (copy source target) m = runFrom (copyTo source (copyPlace m source target)) m := by
  unfold copy copyPlace
  rw [runFrom_bind_of_ok (runFrom_isDirectory target m)]
  by_cases isDirectory : m.files.find? m.workingDir target = some .directory
  · simp only [isDirectory, decide_true, if_true]
    rfl
  · simp only [isDirectory, decide_false, if_false]
    rfl

theorem copyTo_eq_ok (copied : runFrom (copyTo source place) m = (.ok (), m')) :
    ∃ content, m.Offers source content ∧ Writes place content m m' ∧
      source.resolve m.workingDir ≠ place.resolve m.workingDir := by
  unfold copyTo at copied
  obtain ⟨first, m₁, located, copying⟩ := runFrom_bind_eq_ok.mp copied
  obtain ⟨rfl, rfl⟩ := runFrom_locate_eq_ok located
  obtain ⟨second, m₂, placed, writing⟩ := runFrom_bind_eq_ok.mp copying
  obtain ⟨rfl, rfl⟩ := runFrom_locate_eq_ok placed
  split at writing
  · cases writing
  · rename_i apart
    obtain ⟨content, m₃, read, written⟩ := runFrom_bind_eq_ok.mp writing
    obtain ⟨rfl, offers⟩ := readContent_eq_ok read
    exact ⟨content, offers, writes_of_runFrom written, apart⟩

theorem holdsCopy_of_copy (sound : m.files.IsSound)
    (copied : runFrom (copy source target) m = (.ok (), m')) :
    ∃ place content, m'.HoldsCopy source target place content ∧
      m.Changes (· = place.resolve m.workingDir) (fun _ => False) m' := by
  rw [runFrom_copy] at copied
  obtain ⟨content, offers, writes, apart⟩ := copyTo_eq_ok copied
  obtain ⟨changes, held⟩ := writes.changes sound fun _ => False
  refine ⟨_, content, ⟨offers.of_changes changes apart, ?_, ?_, ?_⟩, changes⟩
  · refine ⟨writes.reaches.mono changes.toKeepsDirectories, ?_⟩
    rw [changes.workingDir]
    exact FileTree.file?_eq_some_iff.mp held
  · rw [changes.workingDir]
    exact apart
  · unfold copyPlace
    split
    · rename_i isDirectory
      exact .inl ⟨(isDirectory_eq_true_iff.mp isDirectory).mono changes.toKeepsDirectories, rfl⟩
    · exact .inr rfl

theorem replays_copy (sound : last.files.IsSound)
    (holds : last.HoldsCopy source target place content) :
    Replays last (copy source target) ⟨⟩ := by
  have placed : copyPlace last source target = place := by
    unfold copyPlace
    rcases holds.placed with ⟨there, rfl⟩ | rfl
    · rw [if_pos (isDirectory_eq_true_iff.mpr there)]
    · have isFile := Machine.find?_eq_some_iff.mpr ⟨holds.copied.toReaches, holds.copied.held⟩
      rw [isFile, if_neg nofun]
  have again : Replays last (copyTo source place) ⟨⟩ := by
    refine (replays_locate holds.original.toReaches).bind ?_
    refine (replays_locate holds.copied.toReaches).bind ?_
    rw [if_neg holds.apart]
    exact (replays_readContent holds.original).bind (replays_writeContent sound holds.copied)
  intro n repeats
  have same : copyPlace n source target = place := by
    rw [← placed]
    unfold copyPlace
    rw [repeats.files, repeats.workingDir]
  rw [runFrom_copy, same]
  exact again n repeats

end Run

end Replays

end NativeVariants
