import NativeVariants.Proofs.Build.Settling
import NativeVariants.Proofs.Build.VariantProcesses
import NativeVariants.Proofs.Machine.Repetition
import NativeVariants.Proofs.PackageConfig.Idempotence

set_option autoImplicit false

/-!
The package configuration of a variant is patched once. The first place that has one is left with a
text that has the names of the variant (`isPatched_of_run`), and as long as nobody writes there the
patch is replayed without a change (`IsPatched.replays`).
-/

namespace NativeVariants

namespace Run

theorem not_mem_readLines (text : List Char) : '\r' ∉ readLines text := by
  fun_induction readLines text with
  | case1 rest ih => simpa using ih
  | case2 rest _ ih => simpa using ih
  | case3 c rest _ other ih =>
      rw [List.mem_cons, not_or]
      exact ⟨fun same => other same.symm, ih⟩
  | case4 => exact List.not_mem_nil

theorem mem_of_mem_readLines {text : List Char} {c : Char} (inside : c ∈ readLines text) :
    c ∈ text ∨ c = '\n' := by
  fun_induction readLines text with
  | case1 rest ih =>
      rcases List.mem_cons.mp inside with rfl | inRest
      · exact .inr rfl
      · exact (ih inRest).imp_left fun before => by simp [before]
  | case2 rest _ ih =>
      rcases List.mem_cons.mp inside with rfl | inRest
      · exact .inr rfl
      · exact (ih inRest).imp_left (List.mem_cons_of_mem _)
  | case3 d rest _ other ih =>
      rcases List.mem_cons.mp inside with rfl | inRest
      · exact .inl List.mem_cons_self
      · exact (ih inRest).imp_left (List.mem_cons_of_mem d)
  | case4 => cases inside

end Run

theorem mapError_eq_ok {ε ε' α : Type} {x : Except ε α} {g : ε → ε'} {a : α} :
    x.mapError g = .ok a ↔ x = .ok a := by
  cases x with
  | error e => exact ⟨nofun, nofun⟩
  | ok b => simp [Except.mapError]

namespace PackageConfig

/-- No text at the locations has marks of its own. -/
def IsUnmarked (configs : List Location) (tree : FileTree) : Prop :=
  ∀ l ∈ configs, ∀ text, tree.file? l = some (.text text) → '\x00' ∉ text.toList

def isMarked : Content → Bool
  | .text text => text.toList.contains '\x00'
  | .raw _ => false

theorem isUnmarked_iff {configs : List Location} {tree : FileTree} :
    IsUnmarked configs tree ↔
      ∀ l ∈ configs, ∀ content ∈ tree.file? l, isMarked content = false := by
  constructor
  · intro unmarked l inside content held
    cases content with
    | raw bytes => rfl
    | text text => simpa [isMarked] using unmarked l inside text held
  · intro each l inside text held
    simpa [isMarked] using each l inside (.text text) held

instance (configs : List Location) (tree : FileTree) : Decidable (IsUnmarked configs tree) :=
  decidable_of_iff _ isUnmarked_iff.symm

section IsUnmarked

variable {configs : List Location} {m m' : Machine}

theorem IsUnmarked.of_changes {writes drafts : Location → Prop}
    (unmarked : IsUnmarked configs m.files) (changes : m.Changes writes drafts m')
    (apart : ∀ l ∈ configs, ¬writes l) : IsUnmarked configs m'.files := by
  intro l inside text held
  rw [changes.files l (apart l inside)] at held
  exact unmarked l inside text held

theorem IsUnmarked.of_writes {p : Path} {text : String} (unmarked : IsUnmarked configs m.files)
    (sound : m.files.IsSound) (writes : Run.Writes p (.text text) m m')
    (noMarks : p.resolve m.workingDir ∈ configs → '\x00' ∉ text.toList) :
    IsUnmarked configs m'.files := by
  obtain ⟨changes, written⟩ := writes.changes sound fun _ => False
  intro l inside other held
  by_cases same : l = p.resolve m.workingDir
  · subst same
    rw [written] at held
    cases held
    exact noMarks inside
  · rw [changes.files l same] at held
    exact unmarked l inside other held

end IsUnmarked

/-- The first of some places that has a configuration has one with the names of a variant. -/
inductive IsPatched (basename : String) (m : Machine) : List Path → Prop
  | none : IsPatched basename m []
  | patched {p : Path} {rest : List Path} {text : String} (offers : m.Offers p (.text text))
      (same : rename (String.ofList (Run.readLines text.toList)) basename =
        .ok (String.ofList (Run.readLines text.toList))) :
      IsPatched basename m (p :: rest)
  | absent {p : Path} {rest : List Path} (free : m.fileAt? p = Option.none)
      (later : IsPatched basename m rest) : IsPatched basename m (p :: rest)

variable {basename : String} {places : List Path} {m m' : Machine}

theorem IsPatched.of_changes {writes drafts : Location → Prop}
    (isPatched : IsPatched basename m places) (plain : ∀ p ∈ places, p.IsPlain)
    (sound : m.files.IsSound) (changes : m.Changes writes drafts m')
    (apart : ∀ p ∈ places, ¬writes (p.resolve m.workingDir)) : IsPatched basename m' places := by
  induction isPatched with
  | none => exact .none
  | patched offers same =>
      exact .patched (offers.of_changes changes (apart _ List.mem_cons_self)) same
  | absent free later ih =>
      refine .absent ?_ (ih (fun p inRest => plain p (List.mem_cons_of_mem _ inRest))
        fun p inRest => apart p (List.mem_cons_of_mem _ inRest))
      rw [changes.fileAt?_of_straight sound (plain _ List.mem_cons_self).straight
        (apart _ List.mem_cons_self), free]

theorem IsPatched.replays {last : Machine} (isPatched : IsPatched basename last places) :
    ∃ found?, Replays last (patchPackageConfig.go basename places) found? := by
  induction isPatched with
  | none => exact ⟨Option.none, replays_pure _⟩
  | @patched p rest text offers same =>
      refine ⟨some p, (Run.replays_isFile p).bind ?_⟩
      rw [Machine.fileAt?_eq_some_iff.mpr offers, Option.isSome_some, if_pos rfl]
      refine (Run.replays_readText offers).bind ?_
      refine (replays_of_ok (a := String.ofList (Run.readLines text.toList)) ?_).bind ?_
      · rw [same]
        rfl
      · rw [if_pos rfl]
        exact (Run.replays_note _ _).bind (replays_pure _)
  | @absent p rest free later ih =>
      obtain ⟨found?, again⟩ := ih
      refine ⟨found?, (Run.replays_isFile p).bind ?_⟩
      rw [free, Option.isSome_none, if_neg Bool.false_ne_true]
      exact (Run.replays_note _ _).bind again

/-- The text of a configuration, as it is read, is patched to a text that stays as it is. -/
theorem rename_readLines_of_rename {text patched : String} (unmarked : '\x00' ∉ text.toList)
    (registered : ∃ v ∈ Variant.registered, v.basename = basename)
    (renamed : rename (String.ofList (Run.readLines text.toList)) basename = .ok patched) :
    '\x00' ∉ patched.toList ∧
      rename (String.ofList (Run.readLines patched.toList)) basename =
        .ok (String.ofList (Run.readLines patched.toList)) := by
  obtain ⟨v, isRegistered, rfl⟩ := registered
  have word := isWord_registered isRegistered
  obtain ⟨noMark, noEscape⟩ := word.mark_escape_not_mem
  have noReturn : '\r' ∉ v.basename.toList := fun inside =>
    absurd (word.solid '\r' inside) (by decide)
  have unmarkedLines : '\x00' ∉ (String.ofList (Run.readLines text.toList)).toList := by
    rw [String.toList_ofList]
    intro inside
    rcases Run.mem_of_mem_readLines inside with before | isBreak
    · exact unmarked before
    · exact absurd isBreak (by decide)
  have inPatched {c : Char} (inside : c ∈ patched.toList) :
      c ∈ Run.readLines text.toList ∨ c ∈ v.basename.toList := by
    have before := mem_of_rename unmarkedLines ⟨noMark, noEscape⟩ renamed inside
    rwa [String.toList_ofList] at before
  have unbroken : Run.readLines patched.toList = patched.toList := by
    apply Run.readLines_of_not_mem
    exact fun inside => (inPatched inside).elim (Run.not_mem_readLines _) noReturn
  rw [unbroken, String.ofList_toList]
  rw [String.toList_ofList] at unmarkedLines
  refine ⟨fun inside => (inPatched inside).elim unmarkedLines noMark, ?_⟩
  rw [← String.toList_ofList (l := Run.readLines text.toList)] at unmarkedLines
  exact rename_rename unmarkedLines word (isStable_registered isRegistered) renamed

/-- A patch that returns has patched the configuration and changed no other file. -/
theorem isPatched_of_run {configs : List Location}
    (registered : ∃ v ∈ Variant.registered, v.basename = basename)
    (sound : m.files.IsSound) (plain : ∀ p ∈ places, p.IsPlain)
    (distinct : (places.map (·.resolve m.workingDir)).Nodup)
    (part : places.map (·.resolve m.workingDir) ⊆ configs) (unmarked : IsUnmarked configs m.files)
    {found? : Option Path}
    (ran : runFrom (patchPackageConfig.go basename places) m = (.ok found?, m')) :
    IsPatched basename m' places ∧ IsUnmarked configs m'.files ∧
      m.Changes (· ∈ places.map (·.resolve m.workingDir)) (fun _ => False) m' := by
  induction places generalizing m with
  | nil =>
      cases ran
      exact ⟨.none, unmarked, .refl sound⟩
  | cons p rest ih =>
      rw [List.map_cons, List.nodup_cons] at distinct
      rw [List.map_cons, List.cons_subset] at part
      have quiet {n n' : Machine} (sound : n.files.IsSound) {message : String}
          (noted : runFrom (Run.note .packageConfig message) n = (.ok (), n')) :
          n.Changes (fun _ => False) (fun _ => False) n' :=
        ((Run.talks_note _ _).of_run noted).changes sound _ _
      unfold patchPackageConfig.go at ran
      rw [runFrom_bind_of_ok (Run.runFrom_isFile p m)] at ran
      cases there : m.fileAt? p with
      | none =>
          rw [there, Option.isSome_none, if_neg Bool.false_ne_true] at ran
          obtain ⟨_, m₁, noted, later⟩ := runFrom_bind_eq_ok.mp ran
          have noting := quiet sound noted
          rw [← noting.workingDir] at distinct part
          obtain ⟨isPatched, stillUnmarked, changes⟩ := ih noting.sound
            (fun q inRest => plain q (List.mem_cons_of_mem p inRest)) distinct.2 part.2
            (unmarked.of_changes noting fun _ _ => not_false) later
          rw [noting.workingDir] at changes distinct
          have whole := (noting.mono (fun _ => False.elim) fun _ => id).trans changes
          refine ⟨.absent ?_ isPatched, stillUnmarked,
            whole.mono (fun l => List.mem_cons_of_mem _) fun _ => id⟩
          rw [whole.fileAt?_of_straight sound (plain p List.mem_cons_self).straight distinct.1, there]
      | some content =>
          rw [there, Option.isSome_some, if_pos rfl] at ran
          obtain ⟨lines, m₁, read, patching⟩ := runFrom_bind_eq_ok.mp ran
          obtain ⟨rfl, text, offers, rfl⟩ := Run.readText_eq_ok read
          obtain ⟨patched, m₂, applied, writing⟩ := runFrom_bind_eq_ok.mp patching
          obtain ⟨result, rfl⟩ := runFrom_ofExcept_eq_ok_iff.mp applied
          have renamed := mapError_eq_ok.mp result
          split at writing
          · rename_i same
            obtain ⟨_, m₃, noted, returned⟩ := runFrom_bind_eq_ok.mp writing
            cases returned
            have noting := quiet sound noted
            rw [same] at renamed
            refine ⟨.patched (offers.of_changes noting not_false) renamed, ?_, ?_⟩
            · exact unmarked.of_changes noting fun _ _ => not_false
            · exact noting.mono (fun _ => False.elim) fun _ => id
          · obtain ⟨_, m₃, written, reporting⟩ := runFrom_bind_eq_ok.mp writing
            obtain ⟨_, m₄, noted, returned⟩ := runFrom_bind_eq_ok.mp reporting
            cases returned
            have writes : Run.Writes p (.text patched) _ m₃ := Run.writes_of_runFrom written
            obtain ⟨changes, held⟩ := writes.changes sound fun _ => False
            have noting := quiet changes.sound noted
            have offersPatched : m₃.Offers p (.text patched) := by
              refine ⟨writes.reaches.mono changes.toKeepsDirectories, ?_⟩
              rw [changes.workingDir]
              exact FileTree.file?_eq_some_iff.mp held
            have noMarks := unmarked _ part.1 text (FileTree.file?_eq_some_iff.mpr offers.held)
            obtain ⟨stillNone, again⟩ := rename_readLines_of_rename noMarks registered renamed
            refine ⟨.patched (offersPatched.of_changes noting not_false) again, ?_, ?_⟩
            · have here := unmarked.of_writes sound writes fun _ => stillNone
              exact here.of_changes noting fun _ _ => not_false
            · refine (changes.trans (noting.mono (fun _ => False.elim) fun _ => id)).mono ?_
                fun _ => id
              rintro l rfl
              exact List.mem_cons_self

end PackageConfig

end NativeVariants
