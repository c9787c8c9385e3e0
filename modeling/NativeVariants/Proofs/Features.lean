import NativeVariants.Feature

set_option autoImplicit false

/-!
What a request for features comes to. Names are read one by one, but the order in which backends
were named is forgotten at once: the features are those whose names are among the names that were
read (`Features.parse_eq`).
-/

namespace NativeVariants
open Text

namespace Backend

theorem mem_all (b : Backend) : b ∈ all := by cases b <;> decide

theorem name_inj {b b' : Backend} : b.name = b'.name ↔ b = b' := by
  constructor
  · cases b <;> cases b' <;> decide
  · exact fun same => congrArg name same

theorem suffix_inj {b b' : Backend} : b.suffix = b'.suffix ↔ b = b' := by
  constructor
  · cases b <;> cases b' <;> decide
  · exact fun same => congrArg suffix same

theorem name_ne_openmp (b : Backend) : b.name ≠ Features.openmpName := by cases b <;> decide

theorem named?_eq_some_iff {name : String} {b : Backend} :
    named? name = some b ↔ b.name = name := by
  constructor
  · intro found
    simpa using List.find?_some found
  · rintro rfl
    cases b <;> decide

theorem named?_eq_none_iff {name : String} : named? name = none ↔ ∀ b : Backend, b.name ≠ name := by
  unfold named?
  simp [List.find?_eq_none, mem_all]

end Backend

namespace Features

def spellings (request : List String) : List String := request.flatMap splitList

def ofNames (names : List String) : Features :=
  ⟨Backend.all.filter fun b => b.name ∈ names, openmpName ∈ names⟩

@[simp]
theorem ofNames_nil : ofNames [] = none := rfl

theorem has_ofNames (names : List String) (b : Backend) :
    (ofNames names).has b = true ↔ b.name ∈ names := by
  simp [has, ofNames, Backend.mem_all]

theorem ofNames_congr {names names' : List String} (same : ∀ name, name ∈ names ↔ name ∈ names') :
    ofNames names = ofNames names' := by
  simp only [ofNames, same]

theorem mem_known_iff {name : String} :
    name ∈ known ↔ (∃ b : Backend, b.name = name) ∨ name = openmpName := by
  simp [known, Backend.mem_all]

theorem addBackend_ofNames (names : List String) (b : Backend) :
    (ofNames names).addBackend b = ofNames (names ++ [b.name]) := by
  have backends (b' : Backend) :
      (decide (b' = b) || (ofNames names).has b') = decide (b'.name ∈ names ++ [b.name]) := by
    rw [Bool.eq_iff_iff, Bool.or_eq_true, has_ofNames]
    simp [Backend.name_inj, or_comm]
  have openmp : openmpName ∈ names ++ [b.name] ↔ openmpName ∈ names := by
    simp [b.name_ne_openmp.symm]
  unfold addBackend
  simp only [backends]
  simp only [ofNames, openmp]

theorem add_ofNames (names : List String) (spelling : String) :
    (ofNames names).add spelling =
      if lower spelling ∈ known then .ok (ofNames (names ++ [lower spelling]))
      else .error (.unknownFeature spelling known) := by
  unfold add
  generalize lower spelling = name
  by_cases isOpenmp : name = openmpName
  · subst isOpenmp
    have backends (b : Backend) : b.name ∈ names ++ [openmpName] ↔ b.name ∈ names := by
      simp [b.name_ne_openmp]
    simp [mem_known_iff, ofNames, backends]
  · simp only [isOpenmp, if_false]
    cases named : Backend.named? name with
    | none =>
        have unknown : name ∉ known := by
          rw [mem_known_iff, not_or, not_exists]
          exact ⟨Backend.named?_eq_none_iff.mp named, isOpenmp⟩
        simp [unknown]
    | some b =>
        rw [Backend.named?_eq_some_iff] at named
        subst named
        have isKnown : b.name ∈ known := mem_known_iff.mpr (.inl ⟨b, rfl⟩)
        simp [isKnown, addBackend_ofNames]

/-- The first name that is unknown is reported; else the features are those that are named. -/
theorem parse_eq (request : List String) :
    parse request =
      match (spellings request).find? (lower · ∉ known) with
      | some spelling => .error (.unknownFeature spelling known)
      | .none => .ok (ofNames ((spellings request).map lower)) := by
  suffices ∀ names spellings, List.foldlM add (ofNames names) spellings =
      match spellings.find? (lower · ∉ known) with
      | some spelling => .error (.unknownFeature spelling known)
      | .none => .ok (ofNames (names ++ spellings.map lower)) from this [] _
  intro names spellings
  induction spellings generalizing names with
  | nil =>
      rw [List.map_nil, List.append_nil]
      rfl
  | cons spelling rest ih =>
      rw [List.foldlM_cons, add_ofNames]
      by_cases isKnown : lower spelling ∈ known
      · have later := ih (names ++ [lower spelling])
        rw [List.append_assoc, List.singleton_append] at later
        simpa [isKnown, bind, Except.bind] using later
      · simp [isKnown, bind, Except.bind]

/-- Every name of the request is a known one, up to letter case. -/
def AllKnown (request : List String) : Prop := ∀ spelling ∈ spellings request, lower spelling ∈ known

theorem parse_of_allKnown {request : List String} (allKnown : AllKnown request) :
    parse request = .ok (ofNames ((spellings request).map lower)) := by
  have none : (spellings request).find? (lower · ∉ known) = .none := by
    simpa [AllKnown, List.find?_eq_none] using allKnown
  rw [parse_eq, none]

theorem parse_of_not_allKnown {request : List String} (unknown : ¬AllKnown request) :
    ∃ spelling ∈ spellings request, lower spelling ∉ known ∧
      parse request = .error (.unknownFeature spelling known) := by
  cases found : (spellings request).find? (lower · ∉ known) with
  | none => exact absurd (by simpa [AllKnown, List.find?_eq_none] using found) unknown
  | some spelling =>
      have isUnknown := List.find?_some found
      refine ⟨spelling, List.mem_of_find?_eq_some found, by simpa using isUnknown, ?_⟩
      rw [parse_eq, found]

theorem parse_eq_ok_iff {request : List String} {features : Features} :
    parse request = .ok features ↔
      AllKnown request ∧ features = ofNames ((spellings request).map lower) := by
  constructor
  · intro parsed
    by_cases allKnown : AllKnown request
    · rw [parse_of_allKnown allKnown] at parsed
      exact ⟨allKnown, (Except.ok.inj parsed).symm⟩
    · obtain ⟨spelling, _, _, refused⟩ := parse_of_not_allKnown allKnown
      rw [refused] at parsed
      cases parsed
  · rintro ⟨allKnown, rfl⟩
    exact parse_of_allKnown allKnown

end Features

end NativeVariants
