import NativeVariants.Proofs.Machine.SoundTrees
import NativeVariants.Proofs.PathTexts

set_option autoImplicit false

/-!
What paths lead to. In a sound tree a path that never leads back finds whatever is at the location
that it names (`Machine.find?_of_straight`), so it leads to the same file as before unless that was
written.
-/

namespace NativeVariants

/-- Everything that is there can be reached, step by step. -/
theorem FileTree.IsSound.walk_of_entry? {tree : FileTree} {entry : Entry} (sound : tree.IsSound)
    {start : Location} {parts : List String} (plain : Path.upward ∉ parts)
    (there : tree.entry? (start ++ parts) = some entry) :
    tree.walk start parts = .ok (start ++ parts) := by
  induction parts generalizing start with
  | nil => rw [walk, List.append_nil]
  | cons part rest ih =>
      rw [List.mem_cons, not_or] at plain
      have isDirectory : tree.entry? start = some .directory := by
        apply sound.entry?_of_prefix there (List.prefix_append _ _)
        intro same
        exact List.cons_ne_nil _ _ (List.self_eq_append_right.mp same)
      have shape : start ++ part :: rest = start ++ [part] ++ rest := by simp
      rw [shape] at there ⊢
      rw [walk, isDirectory]
      simp only [if_neg (Ne.symm plain.1)]
      exact ih plain.2 there

/-- Whatever a path leads to is at the location that it names. -/
theorem Machine.find?_eq_some_iff {m : Machine} {p : Path} {entry : Entry} :
    m.files.find? m.workingDir p = some entry ↔
      m.Reaches p ∧ m.files.entry? (p.resolve m.workingDir) = some entry := by
  constructor
  · intro found
    rcases Run.runFrom_locate_cases p m with ⟨failure, failed⟩ | reaches
    · unfold FileTree.find? at found
      split at found
      · rename_i nameable
        split at found
        · rename_i location located
          rw [Run.runFrom_locate_eq_ok_iff.mpr ⟨rfl, nameable, located⟩] at failed
          cases failed
        · cases found
      · cases found
    · rw [Run.find?_eq_of_reaches reaches] at found
      exact ⟨reaches, found⟩
  · rintro ⟨reaches, there⟩
    rw [Run.find?_eq_of_reaches reaches, there]

structure Path.IsPlain (p : Path) : Prop where
  anchored : p.anchor ≠ .here
  straight : Path.upward ∉ p.parts

theorem Path.IsPlain.resolve_eq {p : Path} (plain : p.IsPlain) (workingDir : Location) :
    p.resolve workingDir = p.parts := by
  unfold Path.resolve
  rw [if_neg plain.anchored, Path.follow_append_of_not_mem plain.straight, List.nil_append]

theorem Path.isPlain_absolute {workingDir : Location} (plain : Path.upward ∉ workingDir)
    (p : Path) : (p.absolute workingDir).IsPlain where
  anchored := nofun
  straight := by
    apply Path.not_mem_follow
    split
    · exact plain
    · exact List.not_mem_nil

theorem Path.IsPlain.child {p : Path} (plain : p.IsPlain) {text : String}
    (here : (Path.ofText text).anchor = .here) (straight : Path.upward ∉ (Path.ofText text).parts) :
    (p.child text).IsPlain := by
  have joined : p.child text = ⟨p.anchor, p.parts ++ (Path.ofText text).parts⟩ := by
    unfold Path.child Path.join
    rw [if_pos here]
  rw [joined]
  exact ⟨plain.anchored, by simp [plain.straight, straight]⟩

theorem Path.IsPlain.child_of_isName {p : Path} {name : String} (plain : p.IsPlain) (isName : Path.IsName name) :
    (p.child name).IsPlain := by
  rw [Path.child_of_isName isName]
  exact ⟨plain.anchored, by simp [plain.straight, isName.2.symm]⟩

/-- In a sound tree nothing is in the way of a path that never leads back. -/
theorem Machine.find?_of_straight {m : Machine} (sound : m.files.IsSound) {p : Path}
    (straight : Path.upward ∉ p.parts) :
    m.files.find? m.workingDir p =
      if p.isNameable then m.files.entry? (p.resolve m.workingDir) else none := by
  by_cases nameable : p.isNameable = true
  · rw [if_pos nameable]
    apply Option.ext
    intro entry
    rw [find?_eq_some_iff]
    refine ⟨And.right, fun there => ⟨⟨nameable, ?_⟩, there⟩⟩
    have leads : p.resolve m.workingDir = (if p.anchor = .here then m.workingDir else []) ++ p.parts :=
      Path.follow_append_of_not_mem straight
    rw [leads] at there ⊢
    exact sound.walk_of_entry? straight there
  · rw [if_neg nameable, FileTree.find?, if_neg nameable]

/-! ### The files that paths lead to -/

def Entry.content? : Entry → Option Content
  | .directory => none
  | .file content => some content

theorem FileTree.file?_eq_bind (tree : FileTree) (location : Location) :
    tree.file? location = (tree.entry? location).bind Entry.content? := by
  unfold file?
  rcases tree.entry? location with _ | _ | _ <;> rfl

/-- The content of the file that a path leads to. -/
def Machine.fileAt? (m : Machine) (p : Path) : Option Content :=
  (m.files.find? m.workingDir p).bind Entry.content?

section FileAt

variable {p : Path} {m m' : Machine} {content : Content} {writes drafts : Location → Prop}

theorem Machine.fileAt?_eq_some_iff : m.fileAt? p = some content ↔ m.Offers p content := by
  have found : m.fileAt? p = some content ↔
      m.files.find? m.workingDir p = some (.file content) := by
    unfold fileAt?
    rcases m.files.find? m.workingDir p with _ | _ | _ <;> simp [Entry.content?]
  rw [found, find?_eq_some_iff]
  exact ⟨fun ⟨reaches, held⟩ => ⟨reaches, held⟩, fun offers => ⟨offers.toReaches, offers.held⟩⟩

theorem Run.runFrom_isFile (p : Path) (m : Machine) :
    runFrom (isFile p) m = (.ok (m.fileAt? p).isSome, m) := by
  refine (runFrom_bind_of_ok (runFrom_find? p m) _).trans ?_
  unfold Machine.fileAt?
  rcases m.files.find? m.workingDir p with _ | _ | _ <;> rfl

theorem Machine.fileAt?_of_reaches (reaches : m.Reaches p) :
    m.fileAt? p = m.files.file? (p.resolve m.workingDir) := by
  unfold fileAt?
  rw [Run.find?_eq_of_reaches reaches, FileTree.file?_eq_bind]

theorem Machine.fileAt?_of_straight (sound : m.files.IsSound) (straight : Path.upward ∉ p.parts) :
    m.fileAt? p = if p.isNameable then m.files.file? (p.resolve m.workingDir) else none := by
  unfold fileAt?
  rw [Machine.find?_of_straight sound straight, FileTree.file?_eq_bind]
  by_cases nameable : p.isNameable = true
  · simp [nameable]
  · simp [nameable]

/-- A path that never leads back leads to the same file as before if its place was not written. -/
theorem Machine.Changes.fileAt?_of_straight (changes : m.Changes writes drafts m')
    (sound : m.files.IsSound) (straight : Path.upward ∉ p.parts)
    (apart : ¬writes (p.resolve m.workingDir)) : m'.fileAt? p = m.fileAt? p := by
  rw [Machine.fileAt?_of_straight sound straight,
    Machine.fileAt?_of_straight changes.sound straight,
    changes.workingDir, changes.files _ apart]

/-- A file is still offered if its place was not written. -/
theorem Machine.Offers.of_changes (offers : m.Offers p content)
    (changes : m.Changes writes drafts m') (apart : ¬writes (p.resolve m.workingDir)) :
    m'.Offers p content := by
  refine ⟨offers.toReaches.mono changes.toKeepsDirectories, ?_⟩
  have held := changes.files _ apart
  rw [FileTree.file?_eq_some_iff.mpr offers.held] at held
  rw [changes.workingDir]
  exact FileTree.file?_eq_some_iff.mp held

/-- What is reached leads to the same file as before if its place was not written. -/
theorem Machine.Changes.fileAt?_of_reaches (changes : m.Changes writes drafts m')
    (reaches : m.Reaches p) (apart : ¬writes (p.resolve m.workingDir)) :
    m'.fileAt? p = m.fileAt? p := by
  rw [Machine.fileAt?_of_reaches reaches,
    Machine.fileAt?_of_reaches (reaches.mono changes.toKeepsDirectories), changes.workingDir,
    changes.files _ apart]

theorem Machine.Changes.present (changes : m.Changes writes drafts m')
    (there : (m.files.find? m.workingDir p).isSome)
    (apart : ¬drafts (p.resolve m.workingDir)) : (m'.files.find? m'.workingDir p).isSome := by
  obtain ⟨entry, found⟩ := Option.isSome_iff_exists.mp there
  obtain ⟨reaches, there⟩ := Machine.find?_eq_some_iff.mp found
  rw [Run.find?_eq_of_reaches (reaches.mono changes.toKeepsDirectories), changes.workingDir]
  cases entry with
  | directory => rw [changes.directories _ there, Option.isSome_some]
  | file content =>
      have stays := changes.stay _ apart
      rw [FileTree.file?_eq_some_iff.mpr there] at stays
      obtain ⟨content, held⟩ := Option.isSome_iff_exists.mp (stays rfl)
      rw [FileTree.file?_eq_some_iff.mp held, Option.isSome_some]

theorem Machine.Changes.isSome_fileAt? (changes : m.Changes writes drafts m')
    (there : (m.fileAt? p).isSome) (apart : ¬drafts (p.resolve m.workingDir)) :
    (m'.fileAt? p).isSome := by
  obtain ⟨content, offered⟩ := Option.isSome_iff_exists.mp there
  have reaches := (Machine.fileAt?_eq_some_iff.mp offered).toReaches
  rw [Machine.fileAt?_of_reaches reaches] at there
  rw [Machine.fileAt?_of_reaches (reaches.mono changes.toKeepsDirectories), changes.workingDir]
  exact changes.stay _ apart there

end FileAt

theorem Machine.HasDirectory.reaches_below {q : Path} {m : Machine} (there : m.HasDirectory q)
    {name : String} (plain : name ≠ Path.upward) (nameable : '\x00' ∉ name.toList) :
    m.Reaches ⟨q.anchor, q.parts ++ [name]⟩ := by
  constructor
  · have above := there.nameable
    unfold Path.isNameable at above ⊢
    rw [List.all_append, above]
    simpa using nameable
  · have located := there.located
    have isDirectory := there.isDirectory
    unfold FileTree.locate Path.resolve at *
    rw [FileTree.walk_append, located, Path.follow_append, Path.follow_cons, if_neg plain]
    change m.files.walk _ [name] = _
    rw [FileTree.walk, isDirectory]
    simp only [if_neg plain]
    rfl

end NativeVariants
