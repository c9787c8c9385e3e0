import Mathlib.Data.List.Induction
import NativeVariants.FileTree.Changes
import NativeVariants.Proofs.Machine.ReadBack

set_option autoImplicit false

/-!
Trees in which everything lies in a directory. All operations keep a tree sound, and a file that
vanishes from a sound tree takes nothing else with it. So it can be said of every run at which places
it changes files (`Machine.Changes`), and how far a file was written whole (`Run.writesWhole`).
-/

namespace NativeVariants

theorem Table.get?_filter_of_drop {κ α : Type} [DecidableEq κ] {table : Table κ α}
    {keep : κ → Bool} {key : κ} (dropped : keep key = false) :
    (table.filter keep).get? key = none := by
  cases found : (table.filter keep).get? key with
  | none => rfl
  | some value =>
      have inside : (key, value) ∈ table.entries.filter fun entry => keep entry.1 :=
        mem_of_get?_eq_some found
      have kept := (List.mem_filter.mp inside).2
      rw [dropped] at kept
      cases kept

namespace FileTree

/-- Whatever there is lies in a directory. -/
def IsSound (tree : FileTree) : Prop :=
  ∀ l entry, tree.entry? l = some entry → tree.entry? l.dropLast = some .directory

theorem isSound_iff {tree : FileTree} :
    tree.IsSound ↔ ∀ l ∈ tree.entries.keys, tree.entry? l.dropLast = some .directory := by
  constructor
  · intro sound l inside
    by_cases atRoot : l = []
    · rw [atRoot]
      rfl
    · obtain ⟨entry, found⟩ := Option.isSome_iff_exists.mp (Table.mem_keys_iff.mp inside)
      have there : tree.entry? l = some entry := (if_neg atRoot).trans found
      exact sound l entry there
  · intro each l entry there
    by_cases atRoot : l = []
    · rw [atRoot]
      rfl
    · have found : tree.entries.get? l = some entry := (if_neg atRoot).symm.trans there
      exact each l (Table.mem_keys_iff.mpr (Option.isSome_iff_exists.mpr ⟨entry, found⟩))

instance (tree : FileTree) : Decidable tree.IsSound := decidable_of_iff _ isSound_iff.symm

variable {tree : FileTree} {draft location : Location}

theorem IsSound.entry?_of_prefix (sound : tree.IsSound) {above : Location} {entry : Entry}
    (there : tree.entry? location = some entry) (below : above <+: location)
    (other : above ≠ location) : tree.entry? above = some .directory := by
  obtain ⟨steps, rfl⟩ := below
  -- The last step is taken back until nothing is left below.
  induction steps using List.reverseRecOn generalizing entry with
  | nil => exact absurd (List.append_nil above).symm other
  | append_singleton before last ih =>
      have parent := sound _ _ there
      rw [← List.append_assoc, List.dropLast_concat] at parent
      by_cases none : before = []
      · rwa [none, List.append_nil] at parent
      · exact ih parent fun same => none (List.self_eq_append_right.mp same)

theorem IsSound.entry?_remove (sound : tree.IsSound) {content : Content}
    (isFile : tree.entry? draft = some (.file content)) (l : Location) :
    FileTree.entry? (tree.remove draft) l = if l = draft then none else tree.entry? l := by
  by_cases below : draft <+: l
  · have gone : FileTree.entry? (tree.remove draft) l = none := by
      have notRoot : l ≠ [] := by
        rintro rfl
        exact ne_nil_of_entry? isFile (List.prefix_nil.mp below)
      have dropped : (!draft.isPrefixOf l) = false := by
        rw [Bool.not_eq_false', List.isPrefixOf_iff_prefix]
        exact below
      exact (if_neg notRoot).trans (Table.get?_filter_of_drop dropped)
    rw [gone]
    split
    · rfl
    · rename_i other
      cases there : tree.entry? l with
      | none => rfl
      | some entry =>
          have isDirectory := sound.entry?_of_prefix there below (Ne.symm other)
          rw [isFile] at isDirectory
          cases isDirectory
  · have other : l ≠ draft := by
      rintro rfl
      exact below (List.prefix_refl l)
    rw [FileTree.entry?_remove below, if_neg other]

theorem IsSound.remove (sound : tree.IsSound) {content : Content}
    (isFile : tree.entry? draft = some (.file content)) : (tree.remove draft).IsSound := by
  intro l entry there
  rw [sound.entry?_remove isFile] at there
  split at there
  · cases there
  · have parent := sound l entry there
    have other : l.dropLast ≠ draft := by
      rintro same
      rw [same, isFile] at parent
      cases parent
    rw [sound.entry?_remove isFile, if_neg other]
    exact parent

/-- A tree stays sound if something is put into a directory and not in the place of one. -/
theorem IsSound.set (sound : tree.IsSound) {entry : Entry}
    (parent : tree.entry? location.dropLast = some .directory)
    (kept : tree.entry? location = some .directory → entry = .directory) :
    (tree.set location entry).IsSound := by
  intro l found there
  have above : tree.entry? l.dropLast = some .directory := by
    by_cases atRoot : l = []
    · rw [atRoot]
      rfl
    · rw [entry?_set _ _ atRoot] at there
      split at there
      · rename_i same
        rw [same]
        exact parent
      · exact sound l found there
  refine entry?_set_of_entry? above fun same => kept ?_
  rw [← same]
  exact above

/-- What is where after a file has taken the place of another. -/
theorem IsSound.entry?_move (sound : tree.IsSound) {content : Content}
    (isFile : tree.entry? draft = some (.file content)) {l : Location} (below : l ≠ []) :
    FileTree.entry? ((tree.remove draft).set location (.file content)) l =
      if l = location then some (.file content) else if l = draft then none else tree.entry? l := by
  rw [entry?_set _ _ below, sound.entry?_remove isFile]

theorem IsSound.move (sound : tree.IsSound) {content : Content}
    (isFile : tree.entry? draft = some (.file content))
    (parent : tree.entry? location.dropLast = some .directory)
    (noDirectory : tree.entry? location ≠ some .directory) :
    ((tree.remove draft).set location (.file content)).IsSound := by
  apply (sound.remove isFile).set
  · have other : location.dropLast ≠ draft := by
      rintro same
      rw [same, isFile] at parent
      cases parent
    rw [sound.entry?_remove isFile, if_neg other, parent]
  · intro isDirectory
    rw [sound.entry?_remove isFile] at isDirectory
    split at isDirectory
    · cases isDirectory
    · exact absurd isDirectory noDirectory

theorem walk_append (tree : FileTree) (start : Location) (parts more : List String) :
    tree.walk start (parts ++ more) =
      (tree.walk start parts).bind fun location => tree.walk location more := by
  induction parts generalizing start with
  | nil => rfl
  | cons part rest ih =>
      rw [List.cons_append, walk.eq_2, walk.eq_2]
      split
      · rfl
      · rfl
      · exact ih _

theorem file?_congr {tree' : FileTree} (same : tree'.entry? location = tree.entry? location) :
    tree'.file? location = tree.file? location := by
  unfold file?
  rw [same]

theorem file?_eq_some_iff {content : Content} :
    tree.file? location = some content ↔ tree.entry? location = some (.file content) := by
  unfold file?
  rcases tree.entry? location with _ | _ | _ <;> simp

end FileTree

theorem Machine.Reaches.parent {p : Path} {m : Machine} (reaches : m.Reaches p)
    (named : p.name ≠ "") (plain : p.name ≠ Path.upward) :
    m.files.entry? (p.resolve m.workingDir).dropLast = some .directory := by
  have located := reaches.located
  rw [Path.resolve_of_name named plain] at located ⊢
  unfold FileTree.locate at located
  rw [Path.parts_of_name named, FileTree.walk_append] at located
  cases walked : m.files.walk (if p.anchor = .here then m.workingDir else []) p.parts.dropLast with
  | error fault =>
      rw [walked] at located
      cases located
  | ok above =>
      rw [walked] at located
      change m.files.walk above [p.name] = _ at located
      unfold FileTree.walk at located
      split at located
      · cases located
      · cases located
      · rename_i isDirectory
        rw [if_neg plain] at located
        have same := List.append_inj_left' (Except.ok.inj located) rfl
        rwa [List.dropLast_concat, ← same]

theorem Path.resolve_draftOf_ne {p : Path} (named : p.name ≠ "") (workingDir : Location) :
    (Run.draftOf p).resolve workingDir ≠ p.resolve workingDir := by
  intro same
  by_cases upwards : p.name = upward
  · -- The place is above the directory that the draft is in.
    have place : p.resolve workingDir = (p.parent.resolve workingDir).dropLast := by
      have parts := parts_of_name named
      unfold resolve
      rw [parts, follow_append, follow_cons, if_pos upwards]
      rfl
    rw [resolve_draftOf, place] at same
    have length := congrArg List.length same
    rw [List.length_append, List.length_dropLast, List.length_singleton] at length
    omega
  · have apart := not_prefix_draftOf named upwards workingDir
    rw [same] at apart
    exact apart (List.prefix_refl _)

/-! ### The places of changes -/

/-- From one machine to the other files were changed at the given places only, no file is gone but
from the places of drafts, and the tree has stayed sound. -/
structure Machine.Changes (writes drafts : Location → Prop) (m m' : Machine) : Prop
    extends m.KeepsDirectories m' where
  host : m'.host = m.host
  sound : m'.files.IsSound
  files : ∀ l, ¬writes l → m'.files.file? l = m.files.file? l
  stay : ∀ l, ¬drafts l → (m.files.file? l).isSome → (m'.files.file? l).isSome

namespace Machine.Changes

variable {writes drafts more moreDrafts : Location → Prop} {m m' m'' : Machine}

theorem of_files (kept : m.KeepsDirectories m') (host : m'.host = m.host)
    (sound : m'.files.IsSound) (files : ∀ l, m'.files.file? l = m.files.file? l) :
    m.Changes writes drafts m' where
  toKeepsDirectories := kept
  host := host
  sound := sound
  files := fun l _ => files l
  stay := fun l _ there => by rwa [files l]

theorem refl (sound : m.files.IsSound) : m.Changes writes drafts m :=
  .of_files (refl_of Machine.KeepsDirectories m) rfl sound fun _ => rfl

theorem trans (first : m.Changes writes drafts m') (second : m'.Changes writes drafts m'') :
    m.Changes writes drafts m'' where
  toKeepsDirectories :=
    trans_of Machine.KeepsDirectories first.toKeepsDirectories second.toKeepsDirectories
  host := second.host.trans first.host
  sound := second.sound
  files := fun l apart => (second.files l apart).trans (first.files l apart)
  stay := fun l apart there => second.stay l apart (first.stay l apart there)

theorem mono (changes : m.Changes writes drafts m') (part : ∀ l, writes l → more l)
    (draftsPart : ∀ l, drafts l → moreDrafts l) : m.Changes more moreDrafts m' where
  toKeepsDirectories := changes.toKeepsDirectories
  host := changes.host
  sound := changes.sound
  files := fun l apart => changes.files l fun inside => apart (part l inside)
  stay := fun l apart => changes.stay l fun inside => apart (draftsPart l inside)

end Machine.Changes

theorem Machine.Talks.changes {m m' : Machine} (talks : m.Talks m') (sound : m.files.IsSound)
    (writes drafts : Location → Prop) : m.Changes writes drafts m' := by
  have kept : m.KeepsDirectories m' := ⟨talks.workingDir, fun l there => by rwa [talks.files]⟩
  apply Changes.of_files kept talks.host
  · rwa [talks.files]
  · exact fun l => by rw [talks.files]

def Machine.ChangesIn (workingDir : Location) (writes drafts : Location → Prop) (m m' : Machine) :
    Prop :=
  m.workingDir = workingDir → m.files.IsSound → m.Changes writes drafts m'

instance (workingDir : Location) (writes drafts : Location → Prop) :
    IsPreorder Machine (Machine.ChangesIn workingDir writes drafts) where
  refl _ := fun _ sound => .refl sound
  trans _ _ _ first second := fun here sound =>
    have before := first here sound
    before.trans (second (before.workingDir.trans here) before.sound)

namespace Run

variable {workingDir : Location} {writes drafts : Location → Prop} {p : Path} {m m' : Machine}

theorem changes_report (event : Event) :
    Respects (Machine.ChangesIn workingDir writes drafts) (report event) :=
  fun _ _ sound => .of_files ⟨rfl, fun _ there => there⟩ rfl sound fun _ => rfl

theorem Writes.changes {content : Content} (writesTo : Writes p content m m')
    (sound : m.files.IsSound) (drafts : Location → Prop) :
    m.Changes (· = p.resolve m.workingDir) drafts m' ∧
      m'.files.file? (p.resolve m.workingDir) = some content := by
  have kept : m.KeepsDirectories m' :=
    (admits_keepsDirectories.writeContent p trivial content).of_run
      (runFrom_writeContent_of_writes writesTo)
  have below := writesTo.ne_nil
  have result := writesTo.result
  subst result
  have written : FileTree.file? (m.files.set (p.resolve m.workingDir) (.file content))
      (p.resolve m.workingDir) = some content :=
    FileTree.file?_eq_some_iff.mpr ((FileTree.entry?_set _ _ below).trans (if_pos rfl))
  have others : ∀ l, l ≠ p.resolve m.workingDir →
      FileTree.file? (m.files.set (p.resolve m.workingDir) (.file content)) l =
        m.files.file? l := by
    intro l apart
    apply FileTree.file?_congr
    by_cases atRoot : l = []
    · rw [atRoot]
      rfl
    · rw [FileTree.entry?_set _ _ atRoot, if_neg apart]
  refine ⟨⟨kept, rfl, ?_, others, fun l _ there => ?_⟩, written⟩
  · exact sound.set writesTo.parent fun isDirectory => absurd isDirectory writesTo.noDirectory
  · by_cases same : l = p.resolve m.workingDir
    · rw [same, written]
      rfl
    · rwa [others l same]

theorem changes_makeDirectoryAt (p : Path) :
    Respects (Machine.ChangesIn workingDir writes drafts) (makeDirectoryAt p) := by
  intro m here sound
  have kept := admits_keepsDirectories.makeDirectoryAt p m
  rcases runFrom_makeDirectoryAt_cases p m with ⟨failure, failed⟩ | there | ⟨_, parent, free, made⟩
  · rw [failed]
    exact .refl sound
  · rw [runFrom_makeDirectoryAt_of_hasDirectory there]
    exact .refl sound
  · rw [made] at kept ⊢
    refine .of_files kept rfl (sound.set parent fun _ => rfl) fun l => ?_
    by_cases atRoot : l = []
    · rw [atRoot]
      rfl
    · have entries : FileTree.entry? (m.files.set (p.resolve m.workingDir) .directory) l =
          if l = p.resolve m.workingDir then some .directory else m.files.entry? l :=
        FileTree.entry?_set _ _ atRoot
      by_cases same : l = p.resolve m.workingDir
      · unfold FileTree.file?
        rw [entries, if_pos same, same, free]
      · rw [if_neg same] at entries
        exact FileTree.file?_congr entries

theorem admits_changes :
    Admits (Machine.ChangesIn workingDir writes drafts) fun p => writes (p.resolve workingDir) where
  print := fun _ => changes_report _
  complain := fun _ => changes_report _
  makeDirectoryAt := changes_makeDirectoryAt
  writeContent := by
    intro p expected content m here sound
    rcases runFrom_writeContent_cases p content m with ⟨failure, failed⟩ | ⟨m', writesTo⟩
    · rw [failed]
      exact .refl sound
    · rw [runFrom_writeContent_of_writes writesTo]
      apply (writesTo.changes sound drafts).1.mono
      · rintro l rfl
        rw [here]
        exact expected
      · exact fun _ => id

theorem Replaces.changes {source : Path} {content : Content}
    (replaces : Replaces source p content m m') (named : p.name ≠ "") (sound : m.files.IsSound) :
    m.Changes (fun l => l = source.resolve m.workingDir ∨ l = p.resolve m.workingDir)
        (· = source.resolve m.workingDir) m' ∧
      m'.files.file? (p.resolve m.workingDir) = some content ∧
      (source.resolve m.workingDir ≠ p.resolve m.workingDir →
        m'.files.entry? (source.resolve m.workingDir) = none) := by
  have parent := replaces.reaches.parent named (replaces.name_ne_upward named)
  have below := FileTree.ne_nil_of_not_directory replaces.noDirectory
  have moved {l : Location} (below : l ≠ []) :
      FileTree.entry? ((m.files.remove (source.resolve m.workingDir)).set (p.resolve m.workingDir)
        (.file content)) l =
        if l = p.resolve m.workingDir then some (.file content)
        else if l = source.resolve m.workingDir then none else m.files.entry? l :=
    sound.entry?_move replaces.held below
  have result := replaces.result
  subst result
  have written : FileTree.file? ((m.files.remove (source.resolve m.workingDir)).set
      (p.resolve m.workingDir) (.file content)) (p.resolve m.workingDir) = some content :=
    FileTree.file?_eq_some_iff.mpr ((moved below).trans (if_pos rfl))
  have others : ∀ l, l ≠ source.resolve m.workingDir → l ≠ p.resolve m.workingDir →
      FileTree.file? ((m.files.remove (source.resolve m.workingDir)).set
        (p.resolve m.workingDir) (.file content)) l = m.files.file? l := by
    intro l notSource notTarget
    apply FileTree.file?_congr
    by_cases atRoot : l = []
    · rw [atRoot]
      rfl
    · simp only [moved atRoot, if_neg notSource, if_neg notTarget]
  have directories : ∀ l, m.files.entry? l = some .directory →
      FileTree.entry? ((m.files.remove (source.resolve m.workingDir)).set
        (p.resolve m.workingDir) (.file content)) l = some .directory := by
    intro l there
    by_cases atRoot : l = []
    · rw [atRoot]
      rfl
    · have notTarget : l ≠ p.resolve m.workingDir := by
        rintro rfl
        exact replaces.noDirectory there
      have notSource : l ≠ source.resolve m.workingDir := by
        rintro rfl
        rw [replaces.held] at there
        cases there
      rw [moved atRoot, if_neg notTarget, if_neg notSource, there]
  refine ⟨⟨⟨rfl, directories⟩, rfl, ?_, fun l apart => ?_, fun l notSource there => ?_⟩, written,
    fun other => ?_⟩
  · exact sound.move replaces.held parent replaces.noDirectory
  · rw [not_or] at apart
    exact others l apart.1 apart.2
  · by_cases same : l = p.resolve m.workingDir
    · rw [same, written]
      rfl
    · rwa [others l notSource same]
  · simp only [moved (FileTree.ne_nil_of_entry? replaces.held), if_neg other, if_true]

/-- How far a file was written whole. -/
inductive WritesWhole (p : Path) (text : String) (m m' : Machine) : Except Failure Unit → Prop
  /-- No file was changed. -/
  | nothing (failure : Failure) (changes : m.Changes (fun _ => False) (fun _ => False) m') :
      WritesWhole p text m m' (.error failure)
  /-- The draft was written, but it could not take the place of the file. -/
  | draft (failure : Failure) (named : p.name ≠ "")
      (changes : m.Changes (· = (draftOf p).resolve m.workingDir) (fun _ => False) m')
      (drafted : m'.files.file? ((draftOf p).resolve m.workingDir) = some (.text text)) :
      WritesWhole p text m m' (.error failure)
  /-- The file was replaced. -/
  | whole
      (changes : m.Changes (fun l => l = (draftOf p).resolve m.workingDir ∨
        l = p.resolve m.workingDir) (· = (draftOf p).resolve m.workingDir) m')
      (written : m'.files.file? (p.resolve m.workingDir) = some (.text text))
      (vanished : m'.files.entry? ((draftOf p).resolve m.workingDir) = none) :
      WritesWhole p text m m' (.ok ())

/-- A file is written whole by way of a draft beside it. -/
theorem writesWhole (p : Path) (text : String) (sound : m.files.IsSound) :
    WritesWhole p text m (runFrom (writeWhole p text) m).2 (runFrom (writeWhole p text) m).1 := by
  have made : ∀ r m₁, runFrom (makeDirectories p.parent) m = (r, m₁) →
      m.Changes (fun _ => False) (fun _ => False) m₁ :=
    fun r m₁ ran => (admits_changes.makeDirectories _).of_run ran rfl sound
  unfold writeWhole
  rcases directories : runFrom (makeDirectories p.parent) m with ⟨failure | done, m₁⟩
  · rw [runFrom_bind_of_error directories]
    exact .nothing failure (made _ _ directories)
  have before := made _ _ directories
  rw [runFrom_bind_of_ok directories]
  by_cases named : p.name = ""
  · rw [if_pos named]
    exact .nothing .badValue before
  rw [if_neg named]
  change WritesWhole p text m
    (runFrom (writeContent (draftOf p) (.text text) >>= fun _ => replace (draftOf p) p) m₁).2
    (runFrom (writeContent (draftOf p) (.text text) >>= fun _ => replace (draftOf p) p) m₁).1
  rcases runFrom_writeContent_cases (draftOf p) (.text text) m₁ with ⟨failure, failed⟩ | ⟨m₂, writes⟩
  · rw [runFrom_bind_of_error failed]
    exact .nothing failure before
  rw [runFrom_bind_of_ok (runFrom_writeContent_of_writes writes)]
  obtain ⟨drafting, drafted⟩ := writes.changes before.sound fun _ => False
  rw [before.workingDir] at drafting drafted
  have draftedHere : m.Changes (· = (draftOf p).resolve m.workingDir) (fun _ => False) m₂ :=
    (before.mono (fun _ => False.elim) fun _ => id).trans drafting
  rcases runFrom_replace_cases (draftOf p) p m₂ with ⟨failure, failed⟩ | ⟨content, m₃, replaces⟩
  · rw [failed]
    exact .draft failure named draftedHere drafted
  rw [runFrom_replace_of_replaces replaces]
  have held := replaces.held
  rw [draftedHere.workingDir, FileTree.file?_eq_some_iff.mp drafted] at held
  cases held
  obtain ⟨replacing, written, vanished⟩ := replaces.changes named draftedHere.sound
  have gone := vanished (Path.resolve_draftOf_ne named _)
  rw [draftedHere.workingDir] at replacing written gone
  exact .whole ((draftedHere.mono (fun _ => .inl) fun _ => False.elim).trans replacing) written gone

theorem WritesWhole.of_run {text : String} {r : Except Failure Unit} (sound : m.files.IsSound)
    (ran : runFrom (writeWhole p text) m = (r, m')) : WritesWhole p text m m' r := by
  have wrote := writesWhole p text sound
  rwa [ran] at wrote

end Run

end NativeVariants
