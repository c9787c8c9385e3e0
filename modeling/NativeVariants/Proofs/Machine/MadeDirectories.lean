import NativeVariants.Proofs.Machine.Repetition

set_option autoImplicit false

/-!
Directories that are made with their parents. If no file is in the way they can be made
(`Run.makeDirectories_of_canMake`), and then there is nothing new but directories on the way
(`Run.leaves_makeDirectories`).
-/

namespace NativeVariants

/-- On the way of a path, from a directory on, there is no file. -/
structure Machine.CanMake (p : Path) (m : Machine) : Prop where
  nameable : p.isNameable = true
  start : m.files.entry? (if p.anchor = .here then m.workingDir else []) = some .directory
  free : ∀ parts, parts <+: p.parts →
    m.files.file? (Path.resolve m.workingDir ⟨p.anchor, parts⟩) = none

def Machine.made (m : Machine) (p : Path) : Machine := (runFrom (Run.makeDirectories p) m).2

theorem FileTree.walk_cases {tree : FileTree} {start : Location} {parts : List String}
    (free : ∀ steps, steps <+: parts → tree.file? (Path.follow start steps) = none) :
    tree.walk start parts = .ok (Path.follow start parts) ∨
      tree.walk start parts = .error .notFound := by
  induction parts generalizing start with
  | nil => exact .inl rfl
  | cons part rest ih =>
      rw [walk]
      have here := free [] (List.nil_prefix)
      rw [Path.follow_nil] at here
      cases there : tree.entry? start with
      | none => exact .inr rfl
      | some entry =>
          cases entry with
          | file content =>
              rw [FileTree.file?_eq_some_iff.mpr there] at here
              cases here
          | directory =>
              refine ih fun steps inside => ?_
              exact free (part :: steps) (List.cons_prefix_cons.mpr ⟨rfl, inside⟩)

section CanMake

variable {p : Path} {m m' : Machine}

namespace Machine.CanMake

theorem cases_locate (can : m.CanMake p) :
    m.Reaches p ∨ m.files.locate m.workingDir p = .error .notFound := by
  have free : ∀ steps, steps <+: p.parts →
      m.files.file? (Path.follow (if p.anchor = .here then m.workingDir else []) steps) = none :=
    can.free
  exact (FileTree.walk_cases free).imp_left fun located => ⟨can.nameable, located⟩

theorem parent (can : m.CanMake p) : m.CanMake p.parent where
  nameable := Path.isNameable_parent can.nameable
  start := can.start
  free := fun parts inside => can.free parts (inside.trans (List.dropLast_prefix _))

theorem of_changes {writes drafts : Location → Prop} (can : m.CanMake p)
    (changes : m.Changes writes drafts m') (none : ∀ l, ¬writes l) : m'.CanMake p where
  nameable := can.nameable
  start := by
    rw [changes.workingDir]
    exact changes.directories _ can.start
  free := by
    intro parts inside
    rw [changes.workingDir, changes.files _ (none _)]
    exact can.free parts inside

end Machine.CanMake

theorem Path.resolve_step (anchor : PathAnchor) (parts : List String) (last : String)
    (workingDir : Location) :
    Path.resolve workingDir ⟨anchor, parts ++ [last]⟩ =
      if last = upward then (Path.resolve workingDir ⟨anchor, parts⟩).dropLast
      else Path.resolve workingDir ⟨anchor, parts⟩ ++ [last] := follow_append _ _ _

theorem Machine.reaches_step_iff {anchor : PathAnchor} {parts : List String} {last : String} :
    m.Reaches ⟨anchor, parts ++ [last]⟩ ↔
      m.HasDirectory ⟨anchor, parts⟩ ∧ Path.isNameable ⟨anchor, [last]⟩ = true := by
  have nameable : Path.isNameable ⟨anchor, parts ++ [last]⟩ =
      (Path.isNameable ⟨anchor, parts⟩ && Path.isNameable ⟨anchor, [last]⟩) := List.all_append
  have located : m.files.locate m.workingDir ⟨anchor, parts ++ [last]⟩ =
      (m.files.locate m.workingDir ⟨anchor, parts⟩).bind (m.files.walk · [last]) :=
    FileTree.walk_append _ _ _ _
  constructor
  · intro reaches
    have both := reaches.nameable
    have leads := reaches.located
    rw [nameable, Bool.and_eq_true] at both
    rw [located] at leads
    cases before : m.files.locate m.workingDir ⟨anchor, parts⟩ with
    | error fault =>
        rw [before] at leads
        cases leads
    | ok above =>
        rw [before] at leads
        obtain rfl := FileTree.locate_eq_ok before
        change m.files.walk _ [last] = _ at leads
        refine ⟨⟨⟨both.1, before⟩, ?_⟩, both.2⟩
        unfold FileTree.walk at leads
        split at leads
        · cases leads
        · cases leads
        · assumption
  · rintro ⟨there, lastNameable⟩
    refine ⟨?_, ?_⟩
    · rw [nameable, there.nameable, lastNameable]
      rfl
    · rw [located, there.located, Path.resolve_step]
      change m.files.walk _ [last] = _
      rw [FileTree.walk, there.isDirectory]
      rfl

theorem Machine.HasDirectory.of_prefix (there : m.HasDirectory p) {parts : List String}
    (onWay : parts <+: p.parts) : m.HasDirectory ⟨p.anchor, parts⟩ := by
  obtain ⟨anchor, all⟩ := p
  obtain ⟨rest, rfl⟩ := onWay
  induction rest using List.reverseRecOn with
  | nil => rwa [List.append_nil] at there
  | append_singleton before last ih =>
      rw [← List.append_assoc] at there
      exact ih (Machine.reaches_step_iff.mp there.toReaches).1

theorem Machine.HasDirectory.canMake (there : m.HasDirectory p) : m.CanMake p where
  nameable := there.nameable
  start := (there.of_prefix List.nil_prefix).isDirectory
  free := by
    intro parts onWay
    have isDirectory := (there.of_prefix onWay).isDirectory
    unfold FileTree.file?
    rw [isDirectory]

namespace Run

theorem runFrom_locate_of_notFound (nameable : p.isNameable = true)
    (notFound : m.files.locate m.workingDir p = .error .notFound) :
    runFrom (locate p) m = (.error (.file .notFound), m) := by
  unfold locate
  rw [runFrom_bind_of_ok (runFrom_get m), nameable, notFound]
  rfl

theorem runFrom_makeDirectoryAt_of_free (reaches : m.Reaches p)
    (parent : m.files.entry? (p.resolve m.workingDir).dropLast = some .directory)
    (free : m.files.entry? (p.resolve m.workingDir) = none) :
    runFrom (makeDirectoryAt p) m =
      (.ok (), { m with files := m.files.set (p.resolve m.workingDir) .directory }) := by
  have made : m.files.makeDirectory (p.resolve m.workingDir) = .ok _ :=
    FileTree.makeDirectory_eq_ok_iff.mpr ⟨parent, free, rfl⟩
  unfold makeDirectoryAt
  rw [runFrom_bind_of_ok (runFrom_locate_of_reaches reaches), runFrom_bind_of_ok (runFrom_get m),
    made]
  rfl

/-- Where a path leads somewhere and to no file, a directory is made or there. -/
theorem makeDirectoryAt_of_reaches (sound : m.files.IsSound) (can : m.CanMake p)
    (reaches : m.Reaches p) : ∃ m', runFrom (makeDirectoryAt p) m = (.ok (), m') ∧
      m'.HasDirectory p ∧ m.Changes (fun _ => False) (fun _ => False) m' := by
  suffices returns : ∃ m', runFrom (makeDirectoryAt p) m = (.ok (), m') by
    obtain ⟨m', made⟩ := returns
    exact ⟨m', made, hasDirectory_of_makeDirectoryAt made,
      (admits_changes.makeDirectoryAt p).of_run made rfl sound⟩
  cases there : m.files.entry? (p.resolve m.workingDir) with
  | some entry =>
      cases entry with
      | directory => exact ⟨m, runFrom_makeDirectoryAt_of_hasDirectory ⟨reaches, there⟩⟩
      | file content =>
          have free := can.free p.parts (List.prefix_refl _)
          rw [FileTree.file?_eq_some_iff.mpr there] at free
          cases free
  | none =>
      obtain ⟨anchor, parts⟩ := p
      rcases List.eq_nil_or_concat' parts with rfl | ⟨before, last, rfl⟩
      · have start := can.start
        change m.files.entry? (if anchor = .here then m.workingDir else []) = none at there
        rw [there] at start
        cases start
      · have above := (Machine.reaches_step_iff.mp reaches).1.isDirectory
        refine ⟨_, runFrom_makeDirectoryAt_of_free reaches ?_ there⟩
        rw [Path.resolve_step] at there ⊢
        split at there
        · rw [sound _ _ above] at there
          cases there
        · rename_i plain
          rw [if_neg plain, List.dropLast_concat, above]

theorem go_of_canMake (fuel : Nat) (sound : m.files.IsSound) (can : m.CanMake p)
    (enough : p.parts.length ≤ fuel) : ∃ m',
      runFrom (makeDirectories.go fuel p) m = (.ok (), m') ∧ m'.HasDirectory p ∧
        m.Changes (fun _ => False) (fun _ => False) m' := by
  induction fuel generalizing p m with
  | zero =>
      refine makeDirectoryAt_of_reaches sound can ⟨can.nameable, ?_⟩
      have none : p.parts = [] := List.eq_nil_of_length_eq_zero (Nat.le_zero.mp enough)
      unfold FileTree.locate Path.resolve
      rw [none]
      rfl
  | succ fuel ih =>
      rw [makeDirectories.go, runFrom_tryCatch]
      rcases can.cases_locate with reaches | notFound
      · obtain ⟨m', made, there, changes⟩ := makeDirectoryAt_of_reaches sound can reaches
        rw [made]
        exact ⟨m', rfl, there, changes⟩
      · have failed : runFrom (makeDirectoryAt p) m = (.error (.file .notFound), m) :=
          runFrom_bind_of_error (runFrom_locate_of_notFound can.nameable notFound) _
        obtain ⟨anchor, parts⟩ := p
        rcases List.eq_nil_or_concat' parts with rfl | ⟨before, last, rfl⟩
        · cases notFound
        · have upper : Path.parent ⟨anchor, before ++ [last]⟩ = ⟨anchor, before⟩ := by
            rw [Path.parent, List.dropLast_concat]
          have other : (⟨anchor, before⟩ : Path) ≠ ⟨anchor, before ++ [last]⟩ := by simp
          have shorter : before.length ≤ fuel := by
            rw [List.length_append] at enough
            exact Nat.le_of_succ_le_succ enough
          -- The parent is made first, and then the path leads somewhere.
          obtain ⟨m₁, madeParent, there, making⟩ := ih sound (upper ▸ can.parent) shorter
          have lastNameable : Path.isNameable ⟨anchor, [last]⟩ = true := by
            have both := can.nameable
            rw [Path.isNameable, List.all_append, Bool.and_eq_true] at both
            exact both.2
          obtain ⟨m', made, thereNow, changes⟩ := makeDirectoryAt_of_reaches making.sound
            (can.of_changes making fun _ => not_false)
            (Machine.reaches_step_iff.mpr ⟨there, lastNameable⟩)
          refine ⟨m', ?_, thereNow, making.trans changes⟩
          rw [failed, upper]
          simp only [other, ne_eq, not_false_eq_true, decide_true, Bool.and_self, if_true]
          rw [runFrom_bind_of_ok madeParent, made]

theorem makeDirectories_of_canMake (sound : m.files.IsSound) (can : m.CanMake p) :
    runFrom (makeDirectories p) m = (.ok (), m.made p) ∧ (m.made p).HasDirectory p ∧
      m.Changes (fun _ => False) (fun _ => False) (m.made p) := by
  obtain ⟨m', ran, there, changes⟩ := go_of_canMake _ sound can (Nat.le_refl _)
  have made : m.made p = m' := congrArg Prod.snd ran
  rw [made]
  exact ⟨ran, there, changes⟩

end Run

end CanMake

/-! ### What is new -/

/-- From one machine to the other what is at a location has stayed the same. -/
def Machine.LeavesIn (workingDir l : Location) (m m' : Machine) : Prop :=
  m.workingDir = workingDir →
    m'.workingDir = workingDir ∧ m'.files.entry? l = m.files.entry? l

instance (workingDir l : Location) : IsPreorder Machine (Machine.LeavesIn workingDir l) where
  refl _ := fun here => ⟨here, rfl⟩
  trans _ _ _ first second := fun here =>
    have before := first here
    have after := second before.1
    ⟨after.1, after.2.trans before.2⟩

namespace Run

variable {workingDir l : Location} {p : Path}

theorem leaves_makeDirectoryAt (apart : p.resolve workingDir ≠ l) :
    Respects (Machine.LeavesIn workingDir l) (makeDirectoryAt p) := by
  intro m here
  rcases runFrom_makeDirectoryAt_cases p m with ⟨failure, failed⟩ | there | ⟨_, _, _, made⟩
  · rw [failed]
    exact refl_of (Machine.LeavesIn workingDir l) m here
  · rw [runFrom_makeDirectoryAt_of_hasDirectory there]
    exact refl_of (Machine.LeavesIn workingDir l) m here
  · rw [made]
    refine ⟨here, ?_⟩
    by_cases atRoot : l = []
    · rw [atRoot]
      rfl
    · rw [FileTree.entry?_set _ _ atRoot, if_neg]
      rw [here]
      exact apart.symm

/-- Directories are made on the way of a path and nowhere else. -/
theorem leaves_makeDirectories
    (apart : ∀ parts, parts <+: p.parts → Path.resolve workingDir ⟨p.anchor, parts⟩ ≠ l) :
    Respects (Machine.LeavesIn workingDir l) (makeDirectories p) := by
  suffices loop : ∀ fuel (q : Path), q.anchor = p.anchor → q.parts <+: p.parts →
      Respects (Machine.LeavesIn workingDir l) (makeDirectories.go fuel q) from
    loop _ p rfl (List.prefix_refl _)
  have step (q : Path) (same : q.anchor = p.anchor) (onWay : q.parts <+: p.parts) :
      Respects (Machine.LeavesIn workingDir l) (makeDirectoryAt q) := by
    apply leaves_makeDirectoryAt
    have apartHere := apart q.parts onWay
    rwa [← same] at apartHere
  intro fuel
  induction fuel with
  | zero => exact step
  | succ fuel ih =>
      intro q same onWay
      refine (step q same onWay).tryCatch fun failure => .ite (fun _ => ?_) fun _ => ?_
      · exact (ih q.parent same ((List.dropLast_prefix _).trans onWay)).bind fun _ =>
          step q same onWay
      · exact respects_throw _

/-- Below a directory that is made nothing is new, if its path does not lead back. -/
theorem entry?_made_child (m : Machine) (straight : Path.upward ∉ p.parts) {name : String}
    (isName : Path.IsName name) :
    (m.made p).files.entry? ((p.child name).resolve m.workingDir) =
      m.files.entry? ((p.child name).resolve m.workingDir) := by
  refine (leaves_makeDirectories (fun parts onWay same => ?_) m rfl).2
  have plain : Path.upward ∉ parts := fun inside => straight (onWay.subset inside)
  rw [Path.resolve_child isName] at same
  unfold Path.resolve at same
  rw [Path.follow_append_of_not_mem plain, Path.follow_append_of_not_mem straight] at same
  have longer := congrArg List.length same
  have shorter := onWay.length_le
  simp only [List.length_append, List.length_singleton] at longer
  omega

end Run

end NativeVariants
