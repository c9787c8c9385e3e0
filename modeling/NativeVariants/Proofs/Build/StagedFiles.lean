import NativeVariants.Proofs.Build.LibraryNames
import NativeVariants.Proofs.Machine.MadeDirectories

set_option autoImplicit false

/-!
What is staged of several sets. Each library that is found is copied next to the others, and no copy
gets in the way of what is still looked for (`HasCopied.step`), so in the end the copies are what was
found in the beginning, and nothing else was written (`stagesFound_of_canStage`).
-/

namespace NativeVariants

/-! ### Files that are added -/

/-- From one machine to the other files were written at the given places, and no directory was
made. -/
structure Machine.Fills (places : Location → Prop) (m m' : Machine) : Prop
    extends m.Changes places (fun _ => False) m' where
  noneMade : ∀ l, m'.files.entry? l = some .directory → m.files.entry? l = some .directory

namespace Machine.Fills

variable {places more : Location → Prop} {m m' m'' : Machine} {p : Path}

theorem refl (sound : m.files.IsSound) : m.Fills places m := ⟨.refl sound, fun _ => id⟩

theorem trans (first : m.Fills places m') (second : m'.Fills places m'') : m.Fills places m'' :=
  ⟨first.toChanges.trans second.toChanges, fun l there => first.noneMade l (second.noneMade l there)⟩

theorem mono (fills : m.Fills places m') (part : ∀ l, places l → more l) : m.Fills more m' :=
  ⟨fills.toChanges.mono part fun _ => id, fills.noneMade⟩

theorem of_talks (talks : m.Talks m') (sound : m.files.IsSound) : m.Fills places m' := by
  refine ⟨talks.changes sound _ _, fun l there => ?_⟩
  rwa [talks.files] at there

/-- With the same directories the same paths lead somewhere. -/
theorem reaches_iff (fills : m.Fills places m') : m'.Reaches p ↔ m.Reaches p := by
  refine ⟨fun reaches => ⟨reaches.nameable, ?_⟩, fun reaches => reaches.mono fills.toKeepsDirectories⟩
  have located := reaches.located
  rw [fills.workingDir] at located
  exact FileTree.walk_mono fills.noneMade located

theorem fileAt?_eq (fills : m.Fills places m')
    (apart : m.Reaches p → ¬places (p.resolve m.workingDir)) : m'.fileAt? p = m.fileAt? p := by
  by_cases reaches : m.Reaches p
  · exact fills.fileAt?_of_reaches reaches (apart reaches)
  · have nothing : ∀ n : Machine, ¬n.Reaches p → n.fileAt? p = none := by
      intro n leadsNowhere
      refine Option.eq_none_iff_forall_not_mem.mpr fun content offered => leadsNowhere ?_
      exact (Machine.fileAt?_eq_some_iff.mp offered).toReaches
    rw [nothing m reaches, nothing m' fun there => reaches (fills.reaches_iff.mp there)]

end Machine.Fills

section Copying

variable {source dest : Path} {file : String} {content : Content} {m : Machine}

theorem Machine.HasDirectory.reaches_child (there : m.HasDirectory dest)
    (isName : Path.IsName file) (nameable : '\x00' ∉ file.toList) : m.Reaches (dest.child file) := by
  rw [Path.child_of_isName isName]
  exact there.reaches_below isName.2 nameable

theorem Run.copy_of_offers (sound : m.files.IsSound) (offers : m.Offers source content)
    (there : m.HasDirectory dest) (isName : Path.IsName file) (nameable : '\x00' ∉ file.toList)
    (free : m.files.entry? ((dest.child file).resolve m.workingDir) ≠ some .directory)
    (apart : source.resolve m.workingDir ≠ (dest.child file).resolve m.workingDir) :
    ∃ m', runFrom (copy source (dest.child file)) m = (.ok (), m') ∧
      m.Fills (· = (dest.child file).resolve m.workingDir) m' ∧
      m'.files.file? ((dest.child file).resolve m.workingDir) = some content := by
  have reaches := there.reaches_child isName nameable
  have place : copyPlace m source (dest.child file) = dest.child file := by
    unfold copyPlace
    rw [find?_eq_of_reaches reaches, if_neg free]
  obtain ⟨m', writes⟩ : ∃ m', Writes (dest.child file) content m m' := by
    refine ⟨_, reaches, ?_, free, rfl⟩
    rw [Path.resolve_child isName, List.dropLast_concat]
    exact there.isDirectory
  obtain ⟨changes, held⟩ := writes.changes sound fun _ => False
  refine ⟨m', ?_, ⟨changes, fun l isDirectory => ?_⟩, held⟩
  · rw [runFrom_copy, place]
    unfold copyTo
    rw [runFrom_bind_of_ok (runFrom_locate_of_reaches offers.toReaches),
      runFrom_bind_of_ok (runFrom_locate_of_reaches reaches), if_neg apart,
      runFrom_bind_of_ok (runFrom_readContent_of_offers offers)]
    exact runFrom_writeContent_of_writes writes
  · by_cases atRoot : l = []
    · rw [atRoot]
      rfl
    · rw [writes.result, FileTree.entry?_set _ _ atRoot] at isDirectory
      split at isDirectory
      · cases isDirectory
      · exact isDirectory

end Copying

/-! ### One library -/

section Library

variable {artifacts : Artifacts} {source : Path} {target : Target} {name : String}
  {m m' : Machine} (dest : Path)

theorem stageLibrary_of_missing
    (missing : m.firstFile? (artifacts.candidates target name) = none) :
    ∃ m', runFrom (stageLibrary artifacts dest target name) m = (.ok none, m') ∧ m.Talks m' := by
  unfold stageLibrary
  rw [runFrom_bind_of_ok (runFrom_firstFile? _ m), missing]
  obtain ⟨events, noted⟩ := Run.runFrom_note .staging
    s!"Runtime library {name} not found for {artifacts.variant}" m
  refine ⟨_, (runFrom_bind_of_ok noted _).trans rfl, ?_⟩
  exact trans_of Machine.Talks ((Run.talks_note _ _).of_run noted) (Run.talks_print _ _)

theorem stageLibrary_of_found
    (found : m.firstFile? (artifacts.candidates target name) = some source)
    (copied : runFrom (Run.copy source (dest.child source.name)) m = (.ok (), m')) :
    ∃ m'', runFrom (stageLibrary artifacts dest target name) m =
        (.ok (some (dest.child source.name)), m'') ∧ m'.Talks m'' := by
  unfold stageLibrary
  rw [runFrom_bind_of_ok (runFrom_firstFile? _ m), found]
  exact ⟨_, (runFrom_bind_of_ok copied _).trans rfl, Run.talks_print _ _⟩

end Library

/-! ### The libraries of all sets -/

structure SetLibrary where
  artifacts : Artifacts
  name : String
  deriving DecidableEq, Repr

namespace SetLibrary

def source? (library : SetLibrary) (target : Target) (m : Machine) : Option Path :=
  m.firstFile? (library.artifacts.candidates target library.name)

def copy (library : SetLibrary) (dest : Path) (target : Target) : Path :=
  dest.child (target.sharedLibrary library.name)

def copied? (library : SetLibrary) (dest : Path) (target : Target) (m : Machine) : Option Path :=
  (library.source? target m).map fun _ => library.copy dest target

end SetLibrary

def Artifacts.setLibraries (artifacts : Artifacts) : List SetLibrary :=
  artifacts.libraries.map fun name => ⟨artifacts, name⟩

def librariesOf (sets : List Artifacts) : List SetLibrary := sets.flatMap Artifacts.setLibraries

/-- Every library can be copied without getting in the way of another, or of itself. -/
structure CanStage (sets : List Artifacts) (dest : Path) (target : Target) (m : Machine) :
    Prop where
  plain : ∀ library ∈ librariesOf sets, '/' ∉ library.name.toList
  distinct : ((librariesOf sets).map (·.name)).Nodup
  apart : ∀ artifacts ∈ sets, ∀ directory ∈ [artifacts.libDir, artifacts.binDir],
    m.HasDirectory directory → directory.resolve m.workingDir ≠ dest.resolve m.workingDir
  free : ∀ library ∈ librariesOf sets, (library.source? target m).isSome →
    m.files.entry? ((library.copy dest target).resolve m.workingDir) ≠ some .directory

def IsCopiedTo (libraries : List SetLibrary) (dest : Path) (target : Target) (m : Machine)
    (l : Location) : Prop :=
  ∃ library ∈ libraries, (library.source? target m).isSome ∧
    l = (library.copy dest target).resolve m.workingDir

/-- From one machine to the other the given libraries were copied, as far as they were found, and
nothing else was done. -/
structure HasCopied (libraries : List SetLibrary) (dest : Path) (target : Target)
    (m m' : Machine) : Prop extends m.Fills (IsCopiedTo libraries dest target m) m' where
  copied : ∀ library ∈ libraries, ∀ source ∈ library.source? target m,
    m'.files.file? ((library.copy dest target).resolve m.workingDir) = m.fileAt? source

section Sets

variable {sets : List Artifacts} {dest : Path} {target : Target} {m n : Machine}
  {library other : SetLibrary} {libraries : List SetLibrary} {source : Path}

theorem mem_librariesOf :
    library ∈ librariesOf sets ↔
      library.artifacts ∈ sets ∧ library.name ∈ library.artifacts.libraries := by
  obtain ⟨artifacts, name⟩ := library
  simp [librariesOf, Artifacts.setLibraries]

namespace CanStage

variable (can : CanStage sets dest target m)

include can

theorem isName_file (inside : library ∈ librariesOf sets) :
    Path.IsName (target.sharedLibrary library.name) :=
  target.isName_sharedLibrary (can.plain library inside)

theorem not_isCopiedTo (inside : library ∈ librariesOf sets)
    (candidate : source ∈ library.artifacts.candidates target library.name)
    (reaches : m.Reaches source) :
    ¬IsCopiedTo (librariesOf sets) dest target m (source.resolve m.workingDir) := by
  obtain ⟨directory, isOwn, rfl⟩ := exists_directory_of_mem_candidates candidate
  have isName := can.isName_file inside
  rw [Path.child_of_isName isName] at reaches
  have there := (Machine.reaches_step_iff.mp reaches).1
  rintro ⟨other, otherInside, _, same⟩
  unfold SetLibrary.copy at same
  rw [Path.resolve_child isName, Path.resolve_child (can.isName_file otherInside)] at same
  exact can.apart _ (mem_librariesOf.mp inside).1 directory isOwn there
    (List.append_inj_left' same rfl)

theorem name_eq_of_resolve_eq (inside : library ∈ librariesOf sets)
    (otherInside : other ∈ librariesOf sets)
    (same : (library.copy dest target).resolve m.workingDir =
      (other.copy dest target).resolve m.workingDir) : library.name = other.name := by
  unfold SetLibrary.copy at same
  rw [Path.resolve_child (can.isName_file inside),
    Path.resolve_child (can.isName_file otherInside), List.append_cancel_left_eq,
    List.singleton_inj] at same
  exact target.sharedLibrary_inj.mp same

end CanStage

theorem HasCopied.add {n' : Machine} (can : CanStage sets dest target m)
    (next : libraries ++ [library] <+: librariesOf sets)
    (copied : HasCopied libraries dest target m n)
    (fills : n.Fills (IsCopiedTo [library] dest target m) n')
    (held : ∀ source ∈ library.source? target m,
      n'.files.file? ((library.copy dest target).resolve m.workingDir) = m.fileAt? source) :
    HasCopied (libraries ++ [library]) dest target m n' := by
  have distinct : (libraries.map (·.name) ++ [library.name]).Nodup := by
    have part := next.sublist.map (·.name)
    rw [List.map_append] at part
    exact can.distinct.sublist part
  refine ⟨(copied.toFills.mono ?_).trans (fills.mono ?_), ?_⟩
  · exact fun l ⟨other, isOther, found⟩ => ⟨other, List.mem_append_left _ isOther, found⟩
  · exact fun l ⟨other, isOther, found⟩ => ⟨other, List.mem_append_right _ isOther, found⟩
  · intro other isOther source found
    rcases List.mem_append.mp isOther with earlier | last
    · rw [← copied.copied other earlier source found]
      apply fills.files
      rintro ⟨another, isAnother, _, same⟩
      obtain rfl := List.mem_singleton.mp isAnother
      have sameName := can.name_eq_of_resolve_eq (next.subset isOther) (next.subset (by simp)) same
      exact (List.nodup_append.mp distinct).2.2 _ (List.mem_map_of_mem earlier) _
        (List.mem_singleton_self _) sameName
    · obtain rfl := List.mem_singleton.mp last
      exact held source found

/-- What is looked for is where it was, whatever has been copied. -/
theorem HasCopied.fileAt?_eq (can : CanStage sets dest target m)
    (part : libraries ⊆ librariesOf sets) (copied : HasCopied libraries dest target m n)
    (inside : library ∈ librariesOf sets)
    (candidate : source ∈ library.artifacts.candidates target library.name) :
    n.fileAt? source = m.fileAt? source := by
  refine copied.toFills.fileAt?_eq fun reaches => ?_
  rintro ⟨other, isOther, found⟩
  exact can.not_isCopiedTo inside candidate reaches ⟨other, part isOther, found⟩

theorem CanStage.copy_eq_child (can : CanStage sets dest target m)
    (inside : library ∈ librariesOf sets)
    (candidate : source ∈ library.artifacts.candidates target library.name) :
    library.copy dest target = dest.child source.name := by
  rw [name_of_mem_candidates (can.plain library inside) candidate]
  rfl

theorem HasCopied.copy_found (can : CanStage sets dest target m) (there : m.HasDirectory dest)
    (part : libraries ⊆ librariesOf sets) (copied : HasCopied libraries dest target m n)
    (inside : library ∈ librariesOf sets) (found : library.source? target m = some source) :
    ∃ n', runFrom (Run.copy source (library.copy dest target)) n = (.ok (), n') ∧
      n.Fills (IsCopiedTo [library] dest target m) n' ∧
      n'.files.file? ((library.copy dest target).resolve m.workingDir) = m.fileAt? source := by
  obtain ⟨candidate, content, original⟩ := Machine.exists_offers_of_firstFile? found
  have offered := Machine.fileAt?_eq_some_iff.mpr original
  have offers : n.Offers source content := by
    rw [← Machine.fileAt?_eq_some_iff, copied.fileAt?_eq can part inside candidate, offered]
  have isFound : (library.source? target m).isSome := by
    rw [found]
    rfl
  have nameable := Path.not_mem_name original.nameable
  rw [name_of_mem_candidates (can.plain library inside) candidate] at nameable
  have free : n.files.entry? ((library.copy dest target).resolve n.workingDir) ≠
      some .directory := by
    rw [copied.workingDir]
    exact fun isDirectory => can.free library inside isFound (copied.noneMade _ isDirectory)
  have apart : source.resolve n.workingDir ≠ (library.copy dest target).resolve n.workingDir := by
    rw [copied.workingDir]
    exact fun same => can.not_isCopiedTo inside candidate original.toReaches
      ⟨library, inside, isFound, same⟩
  obtain ⟨n', ran, fills, held⟩ := Run.copy_of_offers copied.sound offers
    (there.mono copied.toKeepsDirectories) (can.isName_file inside) nameable free apart
  rw [copied.workingDir] at fills held
  refine ⟨n', ran, fills.mono fun l same => ?_, held.trans offered.symm⟩
  exact ⟨library, List.mem_singleton_self _, isFound, same⟩

/-- One more library is copied if it is found, whatever has been copied before it. -/
theorem HasCopied.step (can : CanStage sets dest target m) (there : m.HasDirectory dest)
    (next : libraries ++ [library] <+: librariesOf sets)
    (copied : HasCopied libraries dest target m n) :
    ∃ n', runFrom (stageLibrary library.artifacts dest target library.name) n =
        (.ok (library.copied? dest target m), n') ∧
      HasCopied (libraries ++ [library]) dest target m n' := by
  have inside : library ∈ librariesOf sets := next.subset (by simp)
  have part : libraries ⊆ librariesOf sets := fun other isOther => next.subset (by simp [isOther])
  -- What was the first to be found in the beginning still is.
  have looked : n.firstFile? (library.artifacts.candidates target library.name) =
      library.source? target m :=
    Machine.firstFile?_congr fun p candidate => copied.fileAt?_eq can part inside candidate
  unfold SetLibrary.copied?
  cases found : library.source? target m with
  | none =>
      obtain ⟨n', ran, talks⟩ := stageLibrary_of_missing dest (looked.trans found)
      exact ⟨n', ran, copied.add can next (.of_talks talks copied.sound) (by simp [found])⟩
  | some source =>
      have candidate := (Machine.exists_offers_of_firstFile? found).1
      obtain ⟨n₁, ran, fills, held⟩ := copied.copy_found can there part inside found
      rw [can.copy_eq_child inside candidate] at ran
      obtain ⟨n', staged, talks⟩ := stageLibrary_of_found dest (looked.trans found) ran
      rw [← can.copy_eq_child inside candidate] at staged
      have later : n₁.Fills (fun _ => False) n' := .of_talks talks fills.sound
      refine ⟨n', staged, copied.add can next ?_ ?_⟩
      · exact fills.trans (later.mono fun _ => False.elim)
      · intro other isOther
        rw [found] at isOther
        obtain rfl := Option.some.inj isOther
        rw [later.files _ not_false, held]

theorem librariesOf_append (sets more : List Artifacts) :
    librariesOf (sets ++ more) = librariesOf sets ++ librariesOf more := List.flatMap_append

theorem librariesOf_singleton (artifacts : Artifacts) :
    librariesOf [artifacts] = artifacts.setLibraries := List.flatMap_singleton _ _

theorem HasCopied.stageLibraries {before : List Artifacts} {artifacts : Artifacts}
    (can : CanStage sets dest target m) (there : m.HasDirectory dest)
    (next : before ++ [artifacts] <+: sets)
    (copied : HasCopied (librariesOf before) dest target m n) :
    ∃ n', runFrom (stageLibraries artifacts dest target) n =
        (.ok (artifacts.setLibraries.filterMap (·.copied? dest target m)), n') ∧
      HasCopied (librariesOf (before ++ [artifacts])) dest target m n' := by
  have part : librariesOf before ++ artifacts.setLibraries <+: librariesOf sets := by
    obtain ⟨rest, rfl⟩ := next
    rw [librariesOf_append, librariesOf_append, librariesOf_singleton]
    exact List.prefix_append _ _
  have stays := there.mono copied.toKeepsDirectories
  obtain ⟨n', ran, copied⟩ : ∃ n',
      runFrom (artifacts.libraries.mapM (stageLibrary artifacts dest target)) n =
        (.ok (artifacts.libraries.map fun name =>
          SetLibrary.copied? ⟨artifacts, name⟩ dest target m), n') ∧
      HasCopied (librariesOf before ++ artifacts.setLibraries) dest target m n' := by
    refine runFrom_mapM_of_turns _ (fun done => HasCopied
      (librariesOf before ++ done.map fun name => ⟨artifacts, name⟩) dest target m) ?_ ?_
    · intro done name s nextName copied
      have inSet := nextName.map fun name => (⟨artifacts, name⟩ : SetLibrary)
      have inAll := ((List.prefix_append_right_inj (librariesOf before)).mpr inSet).trans part
      rw [List.map_append, List.map_singleton, ← List.append_assoc] at inAll
      simp only [List.map_append, List.map_singleton, ← List.append_assoc]
      have copiedNext := HasCopied.step can there inAll copied
      -- The library of the step is a pair of which the goal only has the parts.
      dsimp only at copiedNext
      exact copiedNext
    · simpa using copied
  refine ⟨n', ?_, ?_⟩
  · unfold NativeVariants.stageLibraries
    rw [runFrom_bind_of_ok (Run.runFrom_makeDirectories_of_hasDirectory stays),
      runFrom_bind_of_ok ran]
    unfold Artifacts.setLibraries
    rw [List.filterMap_map, List.filterMap_map]
    rfl
  · rw [librariesOf_append, librariesOf_singleton]
    exact copied

theorem hasCopied_of_stageAll (sound : m.files.IsSound) (there : m.HasDirectory dest)
    (can : CanStage sets dest target m) :
    ∃ n, runFrom (stageAll sets (some dest) target) m =
        (.ok ((librariesOf sets).filterMap (·.copied? dest target m)), n) ∧
      HasCopied (librariesOf sets) dest target m n := by
  have start : HasCopied (librariesOf []) dest target m m := ⟨.refl sound, nofun⟩
  obtain ⟨n, ran, copied⟩ := runFrom_mapM_of_turns
    (fun artifacts => artifacts.setLibraries.filterMap (·.copied? dest target m))
    (fun done => HasCopied (librariesOf done) dest target m)
    (fun _ _ _ next copied => copied.stageLibraries can there next) start
  refine ⟨n, ?_, copied⟩
  unfold stageAll
  rw [runFrom_bind_of_ok ran]
  unfold librariesOf
  rw [List.filterMap_flatMap, List.flatMap_def]
  rfl

theorem HasCopied.exists_content (can : CanStage sets dest target m) (there : m.HasDirectory dest)
    (copied : HasCopied (librariesOf sets) dest target m n) (inside : library ∈ librariesOf sets)
    (found : source ∈ library.source? target m) :
    ∃ content, m.Offers source content ∧ n.fileAt? (library.copy dest target) = some content := by
  obtain ⟨candidate, content, offers⟩ := Machine.exists_offers_of_firstFile? found
  have nameable := Path.not_mem_name offers.nameable
  rw [name_of_mem_candidates (can.plain library inside) candidate] at nameable
  have reaches : n.Reaches (library.copy dest target) :=
    (there.mono copied.toKeepsDirectories).reaches_child (can.isName_file inside) nameable
  refine ⟨content, offers, ?_⟩
  rw [Machine.fileAt?_of_reaches reaches, copied.workingDir,
    copied.copied library inside source found, Machine.fileAt?_eq_some_iff.mpr offers]

theorem runFrom_stageAll_of_made (nonempty : sets ≠ [])
    (made : runFrom (Run.makeDirectories dest) m = (.ok (), n)) (there : n.HasDirectory dest) :
    runFrom (stageAll sets (some dest) target) m =
      runFrom (stageAll sets (some dest) target) n := by
  obtain ⟨artifacts, rest, rfl⟩ := List.exists_cons_of_ne_nil nonempty
  have first : runFrom (stageLibraries artifacts dest target) m =
      runFrom (stageLibraries artifacts dest target) n := by
    unfold stageLibraries
    rw [runFrom_bind_of_ok made,
      runFrom_bind_of_ok (Run.runFrom_makeDirectories_of_hasDirectory there)]
  unfold stageAll
  simp only [List.mapM_cons, bind_assoc, runFrom_bind, first]

/-- What was found was copied in order, and nothing else was written. What is found is seen when
the directory has been made; for paths that never lead back it is what was there before. -/
structure StagesFound (sets : List Artifacts) (dest : Path) (target : Target) (m : Machine)
    (staged : List Path) (m' : Machine) : Prop where
  returned : staged = ((librariesOf sets).filter fun library =>
    (library.source? target (m.made dest)).isSome).map (·.copy dest target)
  contents : ∀ library ∈ librariesOf sets, ∀ source ∈ library.source? target (m.made dest),
    ∃ content, m.files.file? (source.resolve m.workingDir) = some content ∧
      m'.fileAt? (library.copy dest target) = some content
  apart : (staged.map (·.resolve m.workingDir)).Nodup
  others : ∀ l ∉ staged.map (·.resolve m.workingDir), m'.files.file? l = m.files.file? l
  sameFound : ∀ library ∈ librariesOf sets,
    (∀ source ∈ library.artifacts.candidates target library.name, Path.upward ∉ source.parts) →
    library.source? target (m.made dest) = library.source? target m
  sameInside : Path.upward ∉ dest.parts → ∀ library ∈ librariesOf sets,
    (m.made dest).files.entry? ((library.copy dest target).resolve m.workingDir) =
      m.files.entry? ((library.copy dest target).resolve m.workingDir)

theorem filterMap_copied? :
    libraries.filterMap (·.copied? dest target m) =
      (libraries.filter fun library => (library.source? target m).isSome).map
        (·.copy dest target) := by
  induction libraries with
  | nil => rfl
  | cons library rest ih =>
      rw [List.filterMap_cons, List.filter_cons, ih]
      unfold SetLibrary.copied?
      cases library.source? target m with
      | none => rfl
      | some source => rfl

/-- Copies of libraries with different names are at different places. -/
theorem CanStage.nodup_copies (can : CanStage sets dest target m)
    (part : libraries.Sublist (librariesOf sets)) :
    ((libraries.map (·.copy dest target)).map (·.resolve m.workingDir)).Nodup := by
  have distinct := can.distinct.sublist (part.map (·.name))
  unfold List.Nodup at distinct ⊢
  rw [List.pairwise_map] at distinct
  rw [List.pairwise_map, List.pairwise_map]
  refine distinct.imp_of_mem fun {library other} inside otherInside apart same => apart ?_
  exact can.name_eq_of_resolve_eq (part.subset inside) (part.subset otherInside) same

/-- If the directory can be made, everything that is found is staged, whatever else is there. -/
theorem stagesFound_of_canStage (sound : m.files.IsSound) (makeable : m.CanMake dest)
    (can : CanStage sets dest target (m.made dest)) :
    ∃ staged m', runFrom (stageAll sets (some dest) target) m = (.ok staged, m') ∧
      StagesFound sets dest target m staged m' := by
  obtain ⟨made, there, making⟩ := Run.makeDirectories_of_canMake sound makeable
  have sameFound : ∀ library ∈ librariesOf sets,
      (∀ source ∈ library.artifacts.candidates target library.name,
        Path.upward ∉ source.parts) →
      library.source? target (m.made dest) = library.source? target m :=
    fun library _ straight => Machine.firstFile?_congr fun source candidate =>
      making.fileAt?_of_straight sound (straight source candidate) not_false
  have sameInside (straight : Path.upward ∉ dest.parts) (library : SetLibrary)
      (inside : library ∈ librariesOf sets) :=
    Run.entry?_made_child m straight (can.isName_file inside)
  by_cases empty : sets = []
  · -- Without a set not even the directory is made.
    subst empty
    exact ⟨[], m, rfl, rfl, nofun, .nil, fun _ _ => rfl, sameFound, sameInside⟩
  obtain ⟨m', ran, copied⟩ := hasCopied_of_stageAll making.sound there can
  rw [← runFrom_stageAll_of_made empty made there, filterMap_copied?] at ran
  refine ⟨_, m', ran, rfl, ?_, ?_, ?_, sameFound, sameInside⟩
  · intro library inside source found
    obtain ⟨content, original, held⟩ := copied.exists_content can there inside found
    have heldBefore := FileTree.file?_eq_some_iff.mpr original.held
    rw [making.files _ not_false, making.workingDir] at heldBefore
    exact ⟨content, heldBefore, held⟩
  · have distinct := can.nodup_copies (List.filter_sublist (p := fun library =>
      (library.source? target (m.made dest)).isSome))
    rwa [making.workingDir] at distinct
  · intro l apart
    rw [copied.files l ?_, making.files l not_false]
    rintro ⟨library, inside, found, same⟩
    apply apart
    rw [same, making.workingDir]
    exact List.mem_map_of_mem (List.mem_map_of_mem (List.mem_filter.mpr ⟨inside, found⟩))

end Sets

/-! ### Two variants in one directory -/

/-- Two sets, of which the second names a library that was not built. -/
def windowsSets : List Artifacts :=
  [⟨"llama", "ggml_llama", .ofText "include", .ofText "llama/lib", .ofText "llama/bin",
      ["ggml_llama", "ggml_llama-cpu"]⟩,
    ⟨"whisper", "ggml_whisper", .ofText "include", .ofText "whisper/lib", .ofText "whisper/bin",
      ["ggml_whisper", "ggml_whisper-cuda"]⟩]

/-- Libraries of both variants, and the directory for copies with an old one and another file. -/
def windowsMachine : Machine :=
  { smallProject [] with
    files := ⟨Table.ofList
      [(["work"], .directory), (["work", "llama"], .directory),
        (["work", "llama", "bin"], .directory), (["work", "llama", "lib"], .directory),
        (["work", "llama", "bin", "ggml_llama.dll"], .file (.text "image")),
        (["work", "llama", "lib", "ggml_llama.dll"], .file (.text "other")),
        (["work", "llama", "lib", "ggml_llama-cpu.dll"], .file (.raw [255])),
        (["work", "whisper"], .directory), (["work", "whisper", "bin"], .directory),
        (["work", "whisper", "bin", "ggml_whisper.dll"], .file (.text "whisper")),
        (["work", "dist"], .directory), (["work", "dist", "notes.txt"], .file (.text "notes")),
        (["work", "dist", "ggml_llama.dll"], .file (.text "old"))]⟩ }

theorem stagesFound_windowsSets :
    let windows : Target := ⟨"x86_64-pc-windows-msvc"⟩
    ∃ staged m', runFrom (stageAll windowsSets (some (.ofText "dist")) windows) windowsMachine =
        (.ok staged, m') ∧
      StagesFound windowsSets (.ofText "dist") windows windowsMachine staged m' ∧
      staged = [.ofText "dist/ggml_llama.dll", .ofText "dist/ggml_llama-cpu.dll",
        .ofText "dist/ggml_whisper.dll"] := by
  intro windows
  have there : windowsMachine.HasDirectory (.ofText "dist") :=
    Run.isDirectory_eq_true_iff.mp (by decide +kernel)
  have apart : ∀ artifacts ∈ windowsSets, ∀ directory ∈ [artifacts.libDir, artifacts.binDir],
      directory.resolve (windowsMachine.made (.ofText "dist")).workingDir ≠
        (Path.ofText "dist").resolve (windowsMachine.made (.ofText "dist")).workingDir := by
    decide +kernel
  have can : CanStage windowsSets (.ofText "dist") windows (windowsMachine.made (.ofText "dist")) :=
    ⟨by decide +kernel, by decide +kernel,
      fun artifacts inside directory isOwn _ => apart artifacts inside directory isOwn,
      by decide +kernel⟩
  obtain ⟨staged, m', ran, stages⟩ := stagesFound_of_canStage (by decide +kernel) there.canMake can
  refine ⟨staged, m', ran, stages, ?_⟩
  rw [stages.returned]
  decide +kernel

def linuxMachine : Machine :=
  { smallProject [] with
    files := ⟨Table.ofList
      [(["work"], .directory), (["work", "lib"], .directory),
        (["work", "lib", "libggml.so"], .file (.text "image"))]⟩ }

def linuxSet (libDir : String) : Artifacts :=
  ⟨"default", "ggml", .ofText "include", .ofText libDir, .ofText "bin", ["ggml"]⟩

/-- The directory is not there and can be made, no library is looked for in it, and nothing has the
name of a copy in it. -/
def Machine.IsClearFor (m : Machine) (artifacts : Artifacts) (dest : Path) (file : String) : Prop :=
  m.files.find? m.workingDir dest = none ∧ (runFrom (Run.makeDirectories dest) m).1.isOk = true ∧
    (∀ directory ∈ [artifacts.libDir, artifacts.binDir],
      directory.resolve m.workingDir ≠ dest.resolve m.workingDir) ∧
    m.files.find? m.workingDir (dest.child file) = none

instance (m : Machine) (artifacts : Artifacts) (dest : Path) (file : String) :
    Decidable (m.IsClearFor artifacts dest file) := inferInstanceAs (Decidable (_ ∧ _))

/-- Before the directory is made it cannot be told what is in the way of the copies, or where
libraries are found, if paths lead back: a directory on the way can have the name of a copy, and one
that is made can be on the way to a library. -/
theorem stageAll_leadingBack :
    let linux : Target := ⟨"x86_64-unknown-linux-gnu"⟩
    let named := Path.ofText "d/libggml.so/.."
    let stagesNamed := runFrom (stageAll [linuxSet "lib"] (some named) linux) linuxMachine
    let stage := Path.ofText "stage"
    let stagesAside := runFrom (stageAll [linuxSet "stage/../lib"] (some stage) linux) linuxMachine
    (linuxMachine.IsClearFor (linuxSet "lib") named "libggml.so" ∧
      stagesNamed.1.toOption = some [named.child "libggml.so"] ∧
      stagesNamed.2.fileAt? (named.child "libggml.so") = none) ∧
    linuxMachine.IsClearFor (linuxSet "stage/../lib") stage "libggml.so" ∧
      linuxMachine.firstFile? ((linuxSet "stage/../lib").candidates linux "ggml") = none ∧
      stagesAside.1.toOption = some [stage.child "libggml.so"] := by
  decide +kernel

end NativeVariants
