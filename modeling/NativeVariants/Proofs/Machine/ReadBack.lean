import NativeVariants.Proofs.Machine.Files
import NativeVariants.Proofs.Tables

set_option autoImplicit false

/-!
A text that was written whole is read back. The file takes its place and its draft vanishes, but
neither was a directory on the way to the place, so the path still leads there
(`offers_of_writeWhole`), and whoever follows it reads the text (`runFrom_readText_of_offers`).
-/

namespace NativeVariants

namespace FileTree

variable {tree : FileTree} {start draft target : Location} {parts : List String}

theorem entry?_remove {location : Location} (apart : ¬draft <+: location) :
    FileTree.entry? (tree.remove draft) location = tree.entry? location := by
  have kept : (!draft.isPrefixOf location) = true := by
    rw [Bool.not_eq_true', ← Bool.not_eq_true, List.isPrefixOf_iff_prefix]
    exact apart
  unfold FileTree.entry? remove
  split
  · rfl
  · exact Table.get?_filter_of_keep kept

/-- A way that ends outside of what a file would hold begins outside of it. -/
theorem not_prefix_of_walk {content : Content} (walked : tree.walk start parts = .ok target)
    (isFile : tree.entry? draft = some (.file content)) (apart : ¬draft <+: target) :
    ¬draft <+: start := by
  -- A step back from below the file could only end at it, and no step starts at a file.
  induction parts generalizing start with
  | nil =>
      cases walked
      exact apart
  | cons part rest ih =>
      intro below
      unfold walk at walked
      split at walked
      · cases walked
      · cases walked
      rename_i isDirectory
      have other : draft ≠ start := by
        rintro rfl
        rw [isFile] at isDirectory
        cases isDirectory
      refine ih walked ?_
      split
      · obtain ⟨steps, rfl⟩ := below
        have some : steps ≠ [] := by
          rintro rfl
          exact other (List.append_nil draft).symm
        rw [List.dropLast_append_of_ne_nil some]
        exact List.prefix_append _ _
      · exact below.trans (List.prefix_append _ _)

/-- The way to a place stays open when a draft vanishes and a file is put in the place. -/
theorem walk_set_remove {content other : Content} (walked : tree.walk start parts = .ok target)
    (isFile : tree.entry? draft = some (.file content)) (apart : ¬draft <+: target)
    (noDirectory : tree.entry? target ≠ some .directory) :
    ((tree.remove draft).set target (.file other)).walk start parts = .ok target := by
  induction parts generalizing start with
  | nil => exact walked
  | cons part rest ih =>
      have outside := not_prefix_of_walk walked isFile apart
      unfold walk at walked ⊢
      split at walked
      · cases walked
      · cases walked
      rename_i isDirectory
      have passed : FileTree.entry? ((tree.remove draft).set target (.file other)) start =
          some .directory := by
        by_cases atRoot : start = []
        · subst atRoot
          rfl
        · have other : start ≠ target := by
            rintro rfl
            exact noDirectory isDirectory
          rw [entry?_set _ _ atRoot, if_neg other, entry?_remove outside, isDirectory]
      rw [passed]
      exact ih walked

/-- A way stays open as long as the directories on it do. -/
theorem walk_mono {tree' : FileTree}
    (kept : ∀ l, tree.entry? l = some .directory → tree'.entry? l = some .directory)
    (walked : tree.walk start parts = .ok target) : tree'.walk start parts = .ok target := by
  induction parts generalizing start with
  | nil => exact walked
  | cons part rest ih =>
      unfold walk at walked ⊢
      split at walked
      · cases walked
      · cases walked
      · rename_i isDirectory
        rw [kept start isDirectory]
        exact ih walked

end FileTree

namespace Path

theorem length_name_draftOf (p : Path) : (Run.draftOf p).name.length = p.name.length + 5 := by
  have named : (Run.draftOf p).name = "." ++ p.name ++ ".tmp" := by
    unfold Run.draftOf withName name
    rw [List.getLastD_concat]
    rfl
  have opening : ".".length = 1 := by decide
  have ending : ".tmp".length = 4 := by decide
  rw [named, String.length_append, String.length_append, opening, ending]
  omega

theorem parts_of_name {p : Path} (named : p.name ≠ "") :
    p.parts = p.parts.dropLast ++ [p.name] := by
  have some : p.parts ≠ [] := by
    intro none
    apply named
    rw [name, none]
    rfl
  rw [name, List.getLastD_eq_getLast?, List.getLast?_eq_some_getLast some, Option.getD_some,
    List.dropLast_append_getLast some]

theorem resolve_of_name {p : Path} (named : p.name ≠ "") (plain : p.name ≠ upward)
    (workingDir : Location) :
    p.resolve workingDir = p.parent.resolve workingDir ++ [p.name] := by
  have parts := parts_of_name named
  unfold resolve
  rw [parts, follow_append, follow_cons, if_neg plain]
  rfl

theorem name_draftOf_ne (p : Path) : (Run.draftOf p).name ≠ "" := by
  intro none
  have longer := length_name_draftOf p
  rw [none, String.length_empty] at longer
  omega

theorem name_draftOf_ne_upward (p : Path) : (Run.draftOf p).name ≠ upward := by
  intro same
  have longer := length_name_draftOf p
  have two : upward.length = 2 := by decide
  rw [same, two] at longer
  omega

@[simp]
theorem parent_draftOf (p : Path) : (Run.draftOf p).parent = p.parent := by
  unfold Run.draftOf withName parent
  rw [List.dropLast_concat]

theorem resolve_draftOf (p : Path) (workingDir : Location) :
    (Run.draftOf p).resolve workingDir =
      p.parent.resolve workingDir ++ [(Run.draftOf p).name] := by
  rw [resolve_of_name (name_draftOf_ne p) (name_draftOf_ne_upward p), parent_draftOf]

theorem not_prefix_draftOf {p : Path} (named : p.name ≠ "") (plain : p.name ≠ upward)
    (workingDir : Location) :
    ¬(Run.draftOf p).resolve workingDir <+: p.resolve workingDir := by
  have longer := length_name_draftOf p
  rw [resolve_of_name named plain, resolve_draftOf]
  intro below
  have same := List.append_cancel_left (below.eq_of_length (by simp))
  rw [List.singleton_inj.mp same] at longer
  omega

end Path

structure Machine.Offers (p : Path) (content : Content) (m : Machine) : Prop
    extends m.Reaches p where
  held : m.files.entry? (p.resolve m.workingDir) = some (.file content)

namespace Run

theorem readLines_of_not_mem {text : List Char} (noReturn : '\r' ∉ text) :
    readLines text = text := by
  induction text with
  | nil => rfl
  | cons c rest ih =>
      rw [List.mem_cons, not_or] at noReturn
      have other : c ≠ '\r' := fun same => noReturn.1 same.symm
      rw [readLines, ih noReturn.2]
      · exact fun _ same _ => other same
      · exact other

variable {p : Path} {text : String} {m m' : Machine}

theorem Replaces.name_ne_upward {source : Path} {content : Content}
    (replaces : Replaces source p content m m') (named : p.name ≠ "") :
    p.name ≠ Path.upward := by
  intro upwards
  apply replaces.plain
  rw [Path.parts_of_name named, List.getLast?_concat, upwards]

theorem offers_of_writeWhole (written : runFrom (writeWhole p text) m = (.ok (), m')) :
    m'.Offers p (.text text) := by
  obtain ⟨stays, held⟩ := entry?_of_writeWhole written
  obtain ⟨named, m₁, m₂, made, writes, replaces⟩ := writeWhole_eq_ok written
  have apart := Path.not_prefix_draftOf named (replaces.name_ne_upward named) m₂.workingDir
  rw [← stays] at held
  refine ⟨⟨replaces.reaches.nameable, ?_⟩, held⟩
  rw [replaces.result]
  exact FileTree.walk_set_remove replaces.reaches.located replaces.held apart
    replaces.noDirectory

theorem runFrom_isFile_of_offers {content : Content} (offers : m.Offers p content) :
    runFrom (isFile p) m = (.ok true, m) := by
  have found : runFrom (find? p) m = (.ok (some (.file content)), m) := by
    rw [runFrom_find?, find?_eq_of_reaches offers.toReaches, offers.held]
  unfold isFile
  rw [runFrom_bind_of_ok found]
  rfl

theorem runFrom_readContent_of_offers {content : Content} (offers : m.Offers p content) :
    runFrom (readContent p) m = (.ok content, m) := by
  unfold readContent
  rw [runFrom_bind_of_ok (runFrom_locate_of_reaches offers.toReaches),
    runFrom_bind_of_ok (runFrom_get m), FileTree.read_eq_ok_iff.mpr offers.held]
  rfl

theorem runFrom_readText_of_offers (offers : m.Offers p (.text text)) :
    runFrom (readText p) m = (.ok (String.ofList (readLines text.toList)), m) := by
  unfold readText
  rw [runFrom_bind_of_ok (runFrom_readContent_of_offers offers)]
  rfl

end Run

theorem Machine.Reaches.mono {p : Path} {m m' : Machine} (reaches : m.Reaches p)
    (kept : m.KeepsDirectories m') : m'.Reaches p := by
  refine ⟨reaches.nameable, ?_⟩
  rw [kept.workingDir]
  exact FileTree.walk_mono kept.directories reaches.located

theorem Machine.HasDirectory.mono {p : Path} {m m' : Machine} (there : m.HasDirectory p)
    (kept : m.KeepsDirectories m') : m'.HasDirectory p := by
  refine ⟨there.toReaches.mono kept, ?_⟩
  rw [kept.workingDir]
  exact kept.directories _ there.isDirectory

theorem Machine.Offers.mono {p : Path} {content : Content} {m m' : Machine}
    (offers : m.Offers p content) (kept : m.KeepsDirectories m')
    (keeps : m.Keeps (p.resolve m.workingDir) m') : m'.Offers p content := by
  refine ⟨offers.toReaches.mono kept, ?_⟩
  rw [kept.workingDir]
  exact keeps.files content offers.held

namespace Run

theorem runFrom_note (recorder : Recorder) (message : String) (m : Machine) :
    ∃ events, runFrom (note recorder message) m = (.ok (), { m with events }) := by
  unfold note
  rw [runFrom_bind_of_ok (runFrom_get m)]
  split
  · exact ⟨_, rfl⟩
  · exact ⟨m.events, rfl⟩

end Run

end NativeVariants
