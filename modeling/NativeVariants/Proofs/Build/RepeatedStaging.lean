import NativeVariants.Proofs.Build.RepeatedVariants
import NativeVariants.Proofs.Build.Staging

set_option autoImplicit false

/-!
Libraries that are staged once more. Copies that are apart from one another, and from all places
where libraries are looked for, are all there at the end (`isStaged_of_stageAll`), so that the staging
is replayed without a change (`replays_stageAll`).
-/

namespace NativeVariants

/-! ### Loops -/

section Loops

variable {α β : Type} {f : α → Run β} (places : β → Location → Prop)
  (holds : Machine → α → β → Prop) {workingDir : Location}

/-- What every round of a loop has left is there at the end, if rounds write at places of their
own. -/
theorem forall₂_of_mapM {xs : List α} {bs : List β} {m m' : Machine}
    (here : m.workingDir = workingDir) (sound : m.files.IsSound)
    (step : ∀ a ∈ xs, ∀ b ∈ bs, ∀ n n', n.workingDir = workingDir → n.files.IsSound →
      runFrom (f a) n = (.ok b, n') → n.Changes (places b) (fun _ => False) n' ∧ holds n' a b)
    (kept : ∀ a ∈ xs, ∀ b ∈ bs, ∀ n n' writes, n.workingDir = workingDir → n.files.IsSound →
      holds n a b → n.Changes writes (fun _ => False) n' →
      (∀ l, writes l → ¬places b l ∧ ∃ other ∈ bs, places other l) → holds n' a b)
    (apart : bs.Pairwise fun b other => ∀ l, places b l → ¬places other l)
    (ran : runFrom (xs.mapM f) m = (.ok bs, m')) :
    List.Forall₂ (holds m') xs bs ∧
      m.Changes (fun l => ∃ b ∈ bs, places b l) (fun _ => False) m' := by
  induction xs generalizing m bs with
  | nil =>
      cases ran
      exact ⟨.nil, .refl sound⟩
  | cons a rest ih =>
      rw [List.mapM_cons] at ran
      obtain ⟨b, m₁, first, following⟩ := runFrom_bind_eq_ok.mp ran
      obtain ⟨more, m₂, later, returned⟩ := runFrom_bind_eq_ok.mp following
      cases returned
      rw [List.pairwise_cons] at apart
      obtain ⟨changes, held⟩ :=
        step a List.mem_cons_self b List.mem_cons_self m m₁ here sound first
      have hereNext := changes.workingDir.trans here
      obtain ⟨others, changesLater⟩ := ih hereNext changes.sound
        (fun c inRest d inMore => step c (List.mem_cons_of_mem a inRest) d
          (List.mem_cons_of_mem b inMore))
        (fun c inRest d inMore n n' writes hereN soundN heldN changesN others =>
          kept c (List.mem_cons_of_mem a inRest) d (List.mem_cons_of_mem b inMore) n n' writes
            hereN soundN heldN changesN fun l written =>
              (others l written).imp_right fun ⟨e, inside, there⟩ =>
                ⟨e, List.mem_cons_of_mem b inside, there⟩)
        apart.2 later
      refine ⟨.cons ?_ others, ?_⟩
      · apply kept a List.mem_cons_self b List.mem_cons_self m₁ m' _ hereNext changes.sound held
          changesLater
        rintro l ⟨d, inMore, written⟩
        exact ⟨fun there => apart.1 d inMore l there written, d, List.mem_cons_of_mem b inMore,
          written⟩
      · refine (changes.mono ?_ fun _ => id).trans (changesLater.mono ?_ fun _ => id)
        · exact fun l written => ⟨b, List.mem_cons_self, written⟩
        · rintro l ⟨d, inMore, written⟩
          exact ⟨d, List.mem_cons_of_mem b inMore, written⟩

end Loops

section Copies

variable {dest : Path} {workingDir l : Location} {name other : String} {staged more : List Path}

theorem IsCopy.name_eq (isName : Path.IsName name) (isOther : Path.IsName other)
    (copy : IsCopy dest workingDir name l) (copyOther : IsCopy dest workingDir other l) :
    name = other := by
  unfold IsCopy at copy copyOther
  rw [Path.resolve_child isName, Path.resolve_child isName, Path.resolve_child isName] at copy
  rw [Path.resolve_child isOther, Path.resolve_child isOther,
    Path.resolve_child isOther] at copyOther
  rcases copy with rfl | rfl <;> rcases copyOther with same | same
  · simpa using same
  · simp at same
  · simp at same
  · simpa using same

def IsNamedCopy (dest : Path) (workingDir : Location) (staged : List Path) (l : Location) : Prop :=
  ∃ name, Path.IsName name ∧ dest.child name ∈ staged ∧ IsCopy dest workingDir name l

theorem IsNamedCopy.isStagedAt (copy : IsNamedCopy dest workingDir staged l) :
    IsStagedAt dest workingDir staged l := by
  obtain ⟨name, _, inside, there⟩ := copy
  exact ⟨name, inside, there⟩

theorem IsNamedCopy.mono (copy : IsNamedCopy dest workingDir staged l) (part : staged ⊆ more) :
    IsNamedCopy dest workingDir more l := by
  obtain ⟨name, isName, inside, there⟩ := copy
  exact ⟨name, isName, part inside, there⟩

theorem IsNamedCopy.not_of_disjoint (copy : IsNamedCopy dest workingDir staged l)
    (apart : List.Disjoint staged more) : ¬IsNamedCopy dest workingDir more l := by
  rintro ⟨other, isOther, inMore, thereOther⟩
  obtain ⟨name, isName, inside, there⟩ := copy
  obtain rfl := there.name_eq isName isOther thereOther
  exact apart inside inMore

theorem IsStagedAt.exists_isCopy {names : List String} (areNames : ∀ name ∈ names, Path.IsName name)
    (there : IsStagedAt dest workingDir (names.map dest.child) l) :
    ∃ name ∈ names, IsCopy dest workingDir name l := by
  obtain ⟨other, inside, copy⟩ := there
  obtain ⟨name, inNames, same⟩ := List.mem_map.mp inside
  refine ⟨name, inNames, ?_⟩
  unfold IsCopy at copy
  rw [← same] at copy
  rcases copy with direct | below
  · exact .inl direct
  · have named := Path.child_of_isName (areNames name inNames)
    by_cases anchored : (Path.ofText other).anchor = .here
    · have joined : ∀ p : Path, p.child other = ⟨p.anchor, p.parts ++ (Path.ofText other).parts⟩ :=
        fun p => if_pos anchored
      rw [named, joined, Path.mk.injEq, List.append_cancel_left_eq] at same
      rw [joined, ← same.2, ← named] at below
      exact .inr below
    · have alone : ∀ p : Path, p.child other = Path.ofText other := fun p => if_neg anchored
      rw [alone, ← alone dest, ← same] at below
      exact .inl below

def copyPlaces (dest : Path) (workingDir : Location) (names : List String) : List Location :=
  names.flatMap fun name =>
    [(dest.child name).resolve workingDir, ((dest.child name).child name).resolve workingDir]

theorem IsStagedAt.mem_copyPlaces {names : List String}
    (areNames : ∀ name ∈ names, Path.IsName name)
    (there : IsStagedAt dest workingDir (names.map dest.child) l) :
    l ∈ copyPlaces dest workingDir names := by
  obtain ⟨name, inside, copy⟩ := there.exists_isCopy areNames
  apply List.mem_flatMap.mpr ⟨name, inside, _⟩
  rcases copy with rfl | rfl
  · exact List.mem_cons_self
  · exact List.mem_cons_of_mem _ (List.mem_singleton_self _)

end Copies

/-! ### One library -/

def Machine.firstFile? (m : Machine) (places : List Path) : Option Path :=
  places.find? fun p => (m.fileAt? p).isSome

theorem runFrom_firstFile? (places : List Path) (m : Machine) :
    runFrom (firstFile? places) m = (.ok (m.firstFile? places), m) := by
  induction places with
  | nil => rfl
  | cons p rest ih =>
      unfold firstFile? Machine.firstFile?
      rw [runFrom_bind_of_ok (Run.runFrom_isFile p m)]
      cases there : (m.fileAt? p).isSome with
      | true => simp [there]
      | false =>
          rw [if_neg Bool.false_ne_true, ih, List.find?_cons_of_neg (by simp [there])]
          rfl

theorem Machine.firstFile?_congr {m m' : Machine} {places : List Path}
    (same : ∀ p ∈ places, m'.fileAt? p = m.fileAt? p) :
    m'.firstFile? places = m.firstFile? places := by
  unfold firstFile?
  induction places with
  | nil => rfl
  | cons p rest ih =>
      rw [List.forall_mem_cons] at same
      rw [List.find?_cons, List.find?_cons, same.1, ih same.2]

theorem Machine.exists_offers_of_firstFile? {m : Machine} {places : List Path} {source : Path}
    (found : m.firstFile? places = some source) :
    source ∈ places ∧ ∃ content, m.Offers source content := by
  unfold firstFile? at found
  have isFile := List.find?_some found
  obtain ⟨content, offered⟩ := Option.isSome_iff_exists.mp isFile
  exact ⟨List.mem_of_find?_eq_some found, content, fileAt?_eq_some_iff.mp offered⟩

/-- All places where the libraries are looked for can be looked at, and give a proper name. -/
def Artifacts.IsPlaced (artifacts : Artifacts) (target : Target) : Prop :=
  ∀ name ∈ artifacts.libraries, ∀ source ∈ artifacts.candidates target name,
    source.IsPlain ∧ Path.IsName source.name

inductive IsStaged (artifacts : Artifacts) (dest : Path) (target : Target) (m : Machine)
    (name : String) : Option Path → Prop
  | missing (found : m.firstFile? (artifacts.candidates target name) = none) :
      IsStaged artifacts dest target m name none
  | copied {source place : Path} {content : Content}
      (found : m.firstFile? (artifacts.candidates target name) = some source)
      (holds : m.HoldsCopy source (dest.child source.name) place content) :
      IsStaged artifacts dest target m name (some (dest.child source.name))

section Library

variable {artifacts : Artifacts} {dest : Path} {target : Target} {name : String}
  {copied? : Option Path} {m m' : Machine} {writes : Location → Prop}

theorem HoldsCopy.isNamedCopy {source place : Path} {content : Content}
    (holds : m.HoldsCopy source (dest.child source.name) place content)
    (isName : Path.IsName source.name) :
    IsNamedCopy dest m.workingDir [dest.child source.name] (place.resolve m.workingDir) := by
  refine ⟨source.name, isName, List.mem_singleton_self _, ?_⟩
  rcases holds.placed with ⟨_, rfl⟩ | rfl
  · exact .inr rfl
  · exact .inl rfl

theorem IsStaged.of_changes (isStaged : IsStaged artifacts dest target m name copied?)
    (placed : artifacts.IsPlaced target) (isLibrary : name ∈ artifacts.libraries)
    (sound : m.files.IsSound) (changes : m.Changes writes (fun _ => False) m')
    (sources : ∀ source ∈ artifacts.candidates target name, ¬writes (source.resolve m.workingDir))
    (copies : ∀ l, IsNamedCopy dest m.workingDir copied?.toList l → ¬writes l) :
    IsStaged artifacts dest target m' name copied? := by
  have same : m'.firstFile? (artifacts.candidates target name) =
      m.firstFile? (artifacts.candidates target name) :=
    Machine.firstFile?_congr fun p inside =>
      changes.fileAt?_of_straight sound (placed name isLibrary p inside).1.straight
        (sources p inside)
  cases isStaged with
  | missing found => exact .missing (same.trans found)
  | copied found holds =>
      have inside := List.mem_of_find?_eq_some found
      refine .copied (same.trans found) (holds.of_changes changes (sources _ inside) ?_)
      exact copies _ (HoldsCopy.isNamedCopy holds (placed name isLibrary _ inside).2)

theorem isStaged_of_stageLibrary (placed : artifacts.IsPlaced target)
    (isLibrary : name ∈ artifacts.libraries) (sound : m.files.IsSound)
    (sources : ∀ source ∈ artifacts.candidates target name,
      ¬IsNamedCopy dest m.workingDir copied?.toList (source.resolve m.workingDir))
    (ran : runFrom (stageLibrary artifacts dest target name) m = (.ok copied?, m')) :
    m.Changes (IsNamedCopy dest m.workingDir copied?.toList) (fun _ => False) m' ∧
      IsStaged artifacts dest target m' name copied? := by
  unfold stageLibrary at ran
  rw [runFrom_bind_of_ok (runFrom_firstFile? _ m)] at ran
  have same : ∀ changes : m.Changes (IsNamedCopy dest m.workingDir copied?.toList)
      (fun _ => False) m', m'.firstFile? (artifacts.candidates target name) =
        m.firstFile? (artifacts.candidates target name) :=
    fun changes => Machine.firstFile?_congr fun p inside =>
      changes.fileAt?_of_straight sound (placed name isLibrary p inside).1.straight
        (sources p inside)
  cases found : m.firstFile? (artifacts.candidates target name) with
  | none =>
      rw [found] at ran
      obtain ⟨_, m₁, noted, printing⟩ := runFrom_bind_eq_ok.mp ran
      obtain ⟨_, m₂, printed, returned⟩ := runFrom_bind_eq_ok.mp printing
      cases returned
      have talks : m.Talks m' := trans_of Machine.Talks ((Run.talks_note _ _).of_run noted)
        ((Run.talks_print _).of_run printed)
      have changes := talks.changes sound (IsNamedCopy dest m.workingDir []) fun _ => False
      exact ⟨changes, .missing ((same changes).trans found)⟩
  | some source =>
      rw [found] at ran
      obtain ⟨_, m₁, copied, printing⟩ := runFrom_bind_eq_ok.mp ran
      obtain ⟨_, m₂, printed, returned⟩ := runFrom_bind_eq_ok.mp printing
      cases returned
      have isName := (placed name isLibrary source (List.mem_of_find?_eq_some found)).2
      obtain ⟨place, content, holds, copying⟩ := Run.holdsCopy_of_copy sound copied
      have there := HoldsCopy.isNamedCopy holds isName
      rw [copying.workingDir] at there
      have talks : m₁.Talks m' := (Run.talks_print _).of_run printed
      have later : m₁.Changes (fun _ => False) (fun _ => False) m' :=
        talks.changes copying.sound _ _
      have changes : m.Changes (IsNamedCopy dest m.workingDir [dest.child source.name])
          (fun _ => False) m' := by
        refine (copying.mono ?_ fun _ => id).trans (later.mono (fun _ => False.elim) fun _ => id)
        rintro l rfl
        exact there
      have held : m'.HoldsCopy source (dest.child source.name) place content :=
        holds.of_changes later not_false not_false
      exact ⟨changes, .copied ((same changes).trans found) held⟩

theorem IsStaged.replays {last : Machine} (sound : last.files.IsSound)
    (isStaged : IsStaged artifacts dest target last name copied?) :
    Replays last (stageLibrary artifacts dest target name) copied? := by
  have looks : Replays last (firstFile? (artifacts.candidates target name))
      (last.firstFile? (artifacts.candidates target name)) := by
    intro n repeats
    rw [runFrom_firstFile?, Machine.firstFile?_congr fun p _ => repeats.fileAt?_eq p]
    exact ⟨n, rfl, repeats⟩
  refine looks.bind ?_
  cases isStaged with
  | missing found =>
      rw [found]
      exact (Run.replays_note _ _).bind ((Run.replays_print _).bind (replays_pure _))
  | copied found holds =>
      rw [found]
      refine (Run.replays_copy sound holds).bind ?_
      exact (Run.replays_print _).bind (replays_pure _)

end Library

/-! ### All libraries -/

def Artifacts.IsSought (artifacts : Artifacts) (target : Target) (workingDir l : Location) : Prop :=
  ∃ name ∈ artifacts.libraries, ∃ source ∈ artifacts.candidates target name,
    l = source.resolve workingDir

structure AreStaged (artifacts : Artifacts) (dest : Path) (target : Target) (staged : List Path)
    (m : Machine) : Prop where
  directory : m.HasDirectory dest
  copies : ∃ copies, List.Forall₂ (IsStaged artifacts dest target m) artifacts.libraries copies ∧
    staged = copies.filterMap id

section Libraries

variable {artifacts : Artifacts} {dest : Path} {target : Target} {staged : List Path}
  {m m' : Machine} {writes : Location → Prop}

theorem toList_subset_filterMap {copies : List (Option Path)} {copied? : Option Path}
    (inside : copied? ∈ copies) : copied?.toList ⊆ copies.filterMap id := by
  intro copied isCopied
  exact List.mem_filterMap.mpr ⟨copied?, inside, Option.mem_toList.mp isCopied⟩

theorem AreStaged.of_changes (areStaged : AreStaged artifacts dest target staged m)
    (placed : artifacts.IsPlaced target) (sound : m.files.IsSound)
    (changes : m.Changes writes (fun _ => False) m')
    (sources : ∀ l, artifacts.IsSought target m.workingDir l → ¬writes l)
    (apart : ∀ l, IsNamedCopy dest m.workingDir staged l → ¬writes l) :
    AreStaged artifacts dest target staged m' := by
  obtain ⟨directory, copies, areCopies, rfl⟩ := areStaged
  refine ⟨directory.mono changes.toKeepsDirectories, copies, ?_, rfl⟩
  rw [List.forall₂_iff_zip] at areCopies ⊢
  refine ⟨areCopies.1, fun {name copied?} zipped => ?_⟩
  obtain ⟨isLibrary, inCopies⟩ := List.of_mem_zip zipped
  refine (areCopies.2 zipped).of_changes placed isLibrary sound changes ?_ ?_
  · exact fun source inside => sources _ ⟨name, isLibrary, source, inside, rfl⟩
  · exact fun l there => apart l (there.mono (toList_subset_filterMap inCopies))

theorem areStaged_of_stageLibraries (placed : artifacts.IsPlaced target) (sound : m.files.IsSound)
    (sources : ∀ l, artifacts.IsSought target m.workingDir l →
      ¬IsNamedCopy dest m.workingDir staged l)
    (nodup : staged.Nodup)
    (ran : runFrom (stageLibraries artifacts dest target) m = (.ok staged, m')) :
    AreStaged artifacts dest target staged m' ∧
      m.Changes (IsNamedCopy dest m.workingDir staged) (fun _ => False) m' := by
  unfold stageLibraries at ran
  obtain ⟨_, m₁, made, ran⟩ := runFrom_bind_eq_ok.mp ran
  obtain ⟨copies, m₂, copied, ran⟩ := runFrom_bind_eq_ok.mp ran
  cases ran
  have there := Run.hasDirectory_of_makeDirectories made
  have making : m.Changes (fun _ => False) (fun _ => False) m₁ :=
    (Run.admits_changes.makeDirectories dest).of_run made rfl sound
  have looked : ∀ name ∈ artifacts.libraries, ∀ source ∈ artifacts.candidates target name,
      ¬IsNamedCopy dest m.workingDir (copies.filterMap id) (source.resolve m.workingDir) :=
    fun name isLibrary source inside => sources _ ⟨name, isLibrary, source, inside, rfl⟩
  obtain ⟨areStaged, copying⟩ :
      List.Forall₂ (IsStaged artifacts dest target m') artifacts.libraries copies ∧
        m₁.Changes (fun l => ∃ copied? ∈ copies, IsNamedCopy dest m.workingDir copied?.toList l)
          (fun _ => False) m' := by
    refine forall₂_of_mapM (fun copied? => IsNamedCopy dest m.workingDir copied?.toList)
      (fun n => IsStaged artifacts dest target n) making.workingDir making.sound ?_ ?_ ?_ copied
    · intro name isLibrary copied? inCopies n n' here soundHere ran
      rw [← here] at looked ⊢
      refine isStaged_of_stageLibrary placed isLibrary soundHere ?_ ran
      intro source inside isCopy
      exact looked name isLibrary source inside (isCopy.mono (toList_subset_filterMap inCopies))
    · intro name isLibrary copied? inCopies n n' writes here soundHere isStaged changes others
      rw [← here] at looked others
      refine isStaged.of_changes placed isLibrary soundHere changes ?_ ?_
      · intro source inside written
        obtain ⟨_, other, inCopies, isCopy⟩ := others _ written
        exact looked name isLibrary source inside (isCopy.mono (toList_subset_filterMap inCopies))
      · exact fun l isCopy written => (others l written).1 isCopy
    · refine (List.pairwise_filterMap.mp nodup).imp fun {copied? other?} apart l isCopy => ?_
      apply isCopy.not_of_disjoint
      intro copied here later
      exact apart copied (Option.mem_toList.mp here) copied (Option.mem_toList.mp later) rfl
  refine ⟨⟨there.mono copying.toKeepsDirectories, copies, areStaged, rfl⟩, ?_⟩
  refine (making.mono (fun _ => False.elim) fun _ => id).trans (copying.mono ?_ fun _ => id)
  rintro l ⟨copied?, inCopies, isCopy⟩
  exact isCopy.mono (toList_subset_filterMap inCopies)

theorem AreStaged.replays {last : Machine} (sound : last.files.IsSound)
    (areStaged : AreStaged artifacts dest target staged last) :
    Replays last (stageLibraries artifacts dest target) staged := by
  obtain ⟨directory, copies, areCopies, rfl⟩ := areStaged
  refine (Run.replays_makeDirectories directory).bind ?_
  exact (replays_mapM (areCopies.imp fun _ _ => IsStaged.replays sound)).bind (replays_pure _)

/-- Libraries that were staged apart from one another, and from where libraries are looked for,
are staged again without a change. -/
theorem replays_stageAll {sets : List Artifacts} {dest? : Option Path}
    (placed : ∀ artifacts ∈ sets, artifacts.IsPlaced target) (sound : m.files.IsSound)
    (sources : ∀ dest ∈ dest?, ∀ artifacts ∈ sets, ∀ l,
      artifacts.IsSought target m.workingDir l → ¬IsStagedAt dest m.workingDir staged l)
    (nodup : staged.Nodup)
    (ran : runFrom (stageAll sets dest? target) m = (.ok staged, m')) :
    Replays m' (stageAll sets dest? target) staged ∧
      m.Changes (fun l => ∃ dest ∈ dest?, IsStagedAt dest m.workingDir staged l)
        (fun _ => False) m' := by
  cases dest? with
  | none =>
      cases ran
      exact ⟨replays_pure _, .refl sound⟩
  | some dest =>
      unfold stageAll at ran
      obtain ⟨parts, m₁, copied, returned⟩ := runFrom_bind_eq_ok.mp ran
      cases returned
      have part : ∀ staged ∈ parts, staged ⊆ parts.flatten :=
        fun staged inParts copy isCopy => List.mem_flatten.mpr ⟨staged, inParts, isCopy⟩
      have looked : ∀ artifacts ∈ sets, ∀ l, artifacts.IsSought target m.workingDir l →
          ¬IsNamedCopy dest m.workingDir parts.flatten l :=
        fun artifacts inSets l sought isCopy =>
          sources dest rfl artifacts inSets l sought isCopy.isStagedAt
      obtain ⟨each, apart⟩ := List.nodup_flatten.mp nodup
      obtain ⟨areStaged, changes⟩ :
          List.Forall₂ (fun artifacts staged => AreStaged artifacts dest target staged m') sets
              parts ∧
            m.Changes (fun l => ∃ staged ∈ parts, IsNamedCopy dest m.workingDir staged l)
              (fun _ => False) m' := by
        refine forall₂_of_mapM (IsNamedCopy dest m.workingDir)
          (fun n artifacts staged => AreStaged artifacts dest target staged n) rfl sound ?_ ?_ ?_
          copied
        · intro artifacts inSets staged inParts n n' here soundHere ran
          rw [← here] at looked ⊢
          refine (areStaged_of_stageLibraries (placed artifacts inSets) soundHere ?_
            (each staged inParts) ran).symm
          exact fun l sought isCopy =>
            looked artifacts inSets l sought (isCopy.mono (part staged inParts))
        · intro artifacts inSets staged inParts n n' writes here soundHere areStaged changes others
          rw [← here] at looked others
          refine areStaged.of_changes (placed artifacts inSets) soundHere changes ?_ ?_
          · intro l sought written
            obtain ⟨_, other, inParts, isCopy⟩ := others l written
            exact looked artifacts inSets l sought (isCopy.mono (part other inParts))
          · exact fun l isCopy written => (others l written).1 isCopy
        · exact apart.imp fun disjoint l isCopy => isCopy.not_of_disjoint disjoint
      refine ⟨?_, changes.mono ?_ fun _ => id⟩
      · have again := areStaged.imp fun _ _ => AreStaged.replays changes.sound
        exact (replays_mapM again).bind (replays_pure _)
      · rintro l ⟨staged, inParts, isCopy⟩
        exact ⟨dest, rfl, (isCopy.mono (part staged inParts)).isStagedAt⟩

end Libraries

/-! ### The libraries of the known variants -/

theorem BuildConfig.slash_not_mem_librarySuffixes (config : BuildConfig) :
    ∀ suffix ∈ config.librarySuffixes, '/' ∉ suffix.toList := by
  intro suffix inside
  rcases List.mem_append.mp inside with ofFeature | ofTarget
  · obtain ⟨backend, _, rfl⟩ := List.mem_map.mp ofFeature
    cases backend <;> decide
  · have added := (List.mem_filter.mp ofTarget).1
    unfold Target.librarySuffixes at added
    split at added
    · rw [List.mem_singleton.mp added]
      decide
    · cases added

theorem Variant.slash_not_mem_basename {v : Variant} (isKnown : v ∈ known) :
    '/' ∉ v.basename.toList := by
  have based : ∀ v ∈ known, '/' ∉ v.basename.toList := by
    decide
  exact based v isKnown

theorem Variant.slash_not_mem_libraryNames {v : Variant} (based : '/' ∉ v.basename.toList)
    {suffixes : List String} (plain : ∀ suffix ∈ suffixes, '/' ∉ suffix.toList) :
    ∀ name ∈ v.libraryNames suffixes, '/' ∉ name.toList := by
  have ofCore : ∀ suffix ∈ coreModules, '/' ∉ suffix.toList := by
    decide
  intro name inside
  rcases List.mem_cons.mp inside with rfl | isModule
  · exact based
  · obtain ⟨suffix, inSuffixes, rfl⟩ := List.mem_map.mp isModule
    have plainSuffix : '/' ∉ suffix.toList := by
      rcases List.mem_append.mp inSuffixes with core | added
      · exact ofCore suffix core
      · exact plain suffix added
    simp [based, plainSuffix]

theorem Target.isName_sharedLibrary (target : Target) {name : String}
    (plain : '/' ∉ name.toList) : Path.IsName (target.sharedLibrary name) := by
  have windows : ".dll".length = 4 := rfl
  have start : "lib".length = 3 := rfl
  apply Path.isName_of_length
  · unfold sharedLibrary
    split
    · rw [String.length_append]
      omega
    · split <;> simp only [String.length_append] <;> omega
  · unfold sharedLibrary
    split
    · simp [plain]
    · split <;> simp [plain]

theorem Settled.isPlaced_artifacts (settled : Settled) {workingDir : Location}
    (plain : Path.upward ∉ workingDir) {v : Variant} (isKnown : v ∈ Variant.known)
    (target : Target) : (settled.artifacts workingDir v).IsPlaced target := by
  have installed : (v.installDir (settled.paths.outDir.absolute workingDir)).IsPlain :=
    isPlain_installDir isKnown (Path.isPlain_absolute plain _)
  intro name isLibrary source inside
  have isName : Path.IsName (target.sharedLibrary name) := by
    apply target.isName_sharedLibrary
    exact Variant.slash_not_mem_libraryNames (Variant.slash_not_mem_basename isKnown)
      settled.config.slash_not_mem_librarySuffixes name isLibrary
  have inDirectory : ∀ directory : Path, directory.IsPlain →
      (directory.child (target.sharedLibrary name)).IsPlain ∧
        Path.IsName (directory.child (target.sharedLibrary name)).name := by
    intro directory plain
    rw [Path.name_child isName]
    exact ⟨plain.child_of_isName isName, isName⟩
  have libPlain : ((v.installDir (settled.paths.outDir.absolute workingDir)).child "lib").IsPlain :=
    installed.child rfl (by decide)
  have binPlain : ((v.installDir (settled.paths.outDir.absolute workingDir)).child "bin").IsPlain :=
    installed.child rfl (by decide)
  unfold Artifacts.candidates at inside
  split at inside
  · rcases List.mem_pair.mp inside with rfl | rfl
    · exact inDirectory _ binPlain
    · exact inDirectory _ libPlain
  · rw [List.mem_singleton.mp inside]
    exact inDirectory _ libPlain

end NativeVariants
