import NativeVariants.Proofs.Features
import NativeVariants.Proofs.Text.Runs

set_option autoImplicit false

/-!
Names of features in a request. A name is a run of characters that are neither commas nor blanks in
one of the items, so it makes no difference how the names are grouped into items. A request for
known features comes to just these, and any other is refused with the first unknown name as it is
spelled (`parse_grouped`).
-/

namespace NativeVariants
open Text

def isNameChar (c : Char) : Bool := !(c = ',' || isBlank c)

theorem splitList_eq (text : String) :
    splitList text = (runsOf isNameChar text.toList).map String.ofList := rfl

namespace Features

/-- The item has a name between two texts, and the name goes on in neither of them. -/
structure Spells (item before spelling after : String) : Prop where
  split : item = before ++ spelling ++ after
  isRun : IsRun isNameChar before.toList spelling.toList after.toList

/-- One of the items has the name, in whatever letter case. -/
def Asks (request : List String) (name : String) : Prop :=
  ∃ item ∈ request, ∃ before spelling after,
    Spells item before spelling after ∧ lower spelling = name

/-- The spelling is that of an unknown name, and all names before it are known. -/
def FirstUnknown (request : List String) (spelling : String) : Prop :=
  ∃ items item more before after, request = items ++ item :: more ∧
    Spells item before spelling after ∧ lower spelling ∉ known ∧
    ∀ name, Asks (items ++ [before]) name → name ∈ known

/-- The items of a request in one text, with commas or blanks between any two of them. -/
inductive Joined : List String → String → Prop
  | nil : Joined [] ""
  | singleton (item : String) : Joined [item] item
  | cons {item separators next text : String} {more : List String}
      (some : separators.toList ≠ [])
      (outside : ∀ c ∈ separators.toList, isNameChar c = false)
      (joined : Joined (next :: more) text) :
      Joined (item :: next :: more) (item ++ separators ++ text)

section Spelling

variable {item before spelling after : String} {request : List String}

theorem Spells.splitList_eq (spells : Spells item before spelling after) :
    splitList item = splitList before ++ spelling :: splitList after := by
  rw [spells.split]
  simp only [NativeVariants.splitList_eq, String.toList_append]
  rw [spells.isRun.runsOf_eq, List.map_append, List.map_cons, String.ofList_toList]

theorem exists_spells_of_splitList {names more : List String}
    (found : splitList item = names ++ spelling :: more) :
    ∃ before after, Spells item before spelling after ∧ splitList before = names := by
  rw [splitList_eq] at found
  obtain ⟨runs, others, runsEq, rfl, othersEq⟩ := List.map_eq_append_iff.mp found
  obtain ⟨run, later, rfl, rfl, rfl⟩ := List.map_eq_cons_iff.mp othersEq
  obtain ⟨before, after, split, isRun, same⟩ := exists_isRun_of_runsOf runsEq
  refine ⟨String.ofList before, String.ofList after, ⟨?_, ?_⟩, ?_⟩
  · apply String.toList_injective
    simpa using split
  · simpa using isRun
  · rw [splitList_eq, String.toList_ofList, same]

theorem mem_splitList_iff :
    spelling ∈ splitList item ↔ ∃ before after, Spells item before spelling after := by
  constructor
  · intro inside
    obtain ⟨names, more, found⟩ := List.append_of_mem inside
    obtain ⟨before, after, spells, _⟩ := exists_spells_of_splitList found
    exact ⟨before, after, spells⟩
  · rintro ⟨before, after, spells⟩
    rw [spells.splitList_eq]
    exact List.mem_append_right _ List.mem_cons_self

/-- The names that are asked for are those that are read. -/
theorem asks_iff {name : String} : Asks request name ↔ name ∈ (spellings request).map lower := by
  simp only [Asks, spellings, List.mem_map, List.mem_flatMap, mem_splitList_iff]
  constructor
  · rintro ⟨item, inRequest, before, spelling, after, spells, same⟩
    exact ⟨spelling, ⟨item, inRequest, before, after, spells⟩, same⟩
  · rintro ⟨spelling, ⟨item, inRequest, before, after, spells⟩, same⟩
    exact ⟨item, inRequest, before, spelling, after, spells, same⟩

theorem allKnown_iff : AllKnown request ↔ ∀ name, Asks request name → name ∈ known := by
  simp [AllKnown, asks_iff]

theorem find?_splitList_eq_some_iff :
    (splitList item).find? (lower · ∉ known) = some spelling ↔
      ∃ before after, Spells item before spelling after ∧ lower spelling ∉ known ∧
        ∀ name ∈ splitList before, lower name ∈ known := by
  rw [List.find?_eq_some_iff_append]
  constructor
  · rintro ⟨unknown, names, more, found, areKnown⟩
    obtain ⟨before, after, spells, rfl⟩ := exists_spells_of_splitList found
    exact ⟨before, after, spells, by simpa using unknown, by simpa using areKnown⟩
  · rintro ⟨before, after, spells, unknown, areKnown⟩
    exact ⟨by simpa using unknown, _, _, spells.splitList_eq, by simpa using areKnown⟩

theorem find?_spellings_eq_some_iff :
    (spellings request).find? (lower · ∉ known) = some spelling ↔
      FirstUnknown request spelling := by
  simp only [spellings, List.find?_flatMap, List.findSome?_eq_some_iff,
    find?_splitList_eq_some_iff]
  constructor
  · rintro ⟨items, item, more, split, ⟨before, after, spells, unknown, inItem⟩, inItems⟩
    refine ⟨items, item, more, before, after, split, spells, unknown, allKnown_iff.mp ?_⟩
    intro name inside
    simp only [spellings, List.flatMap_append, List.flatMap_singleton, List.mem_append,
      List.mem_flatMap] at inside
    rcases inside with ⟨other, isItem, isName⟩ | isName
    · simpa using List.find?_eq_none.mp (inItems other isItem) name isName
    · exact inItem name isName
  · rintro ⟨items, item, more, before, after, split, spells, unknown, areKnown⟩
    have areRead (other : String) (isItem : other ∈ items ++ [before]) (name : String)
        (isName : name ∈ splitList other) : lower name ∈ known :=
      allKnown_iff.mpr areKnown name (List.mem_flatMap.mpr ⟨other, isItem, isName⟩)
    refine ⟨items, item, more, split, ⟨before, after, spells, unknown, ?_⟩, ?_⟩
    · exact areRead before (List.mem_append_right _ (List.mem_singleton_self before))
    · intro other isItem
      simpa using areRead other (List.mem_append_left _ isItem)

end Spelling

/-- Names are found again in a text that the items were joined to. -/
theorem spellings_of_joined {request : List String} {text : String} (joined : Joined request text) :
    spellings [text] = spellings request := by
  induction joined with
  | nil => rfl
  | singleton item => rfl
  | @cons item separators next text more some outside _ ih =>
      have whole : splitList (item ++ separators ++ text) = splitList item ++ splitList text := by
        simp only [splitList_eq, String.toList_append]
        rw [runsOf_append_separators some outside, List.map_append]
      rw [spellings, List.flatMap_singleton] at ih ⊢
      rw [whole, ih]
      rfl

theorem mem_backends_iff {request : List String} {b : Backend} :
    b ∈ (ofNames ((spellings request).map lower)).backends ↔ Asks request b.name := by
  rw [asks_iff, ← has_ofNames, has, decide_eq_true_eq]

/-- The features of a request do not depend on how the names are grouped. If all of them are known
the features are those that are asked for; if not, the problem quotes the first one that is unknown,
as it is spelled. -/
theorem parse_grouped (request : List String) :
    (∀ text, Joined request text → parse [text] = parse request) ∧
    ((∃ features, parse request = .ok features) ↔ ∀ name, Asks request name → name ∈ known) ∧
    (∀ features, parse request = .ok features → features.backends.Nodup ∧
      (∀ b : Backend, b ∈ features.backends ↔ Asks request b.name) ∧
      (features.openmp = true ↔ Asks request openmpName)) ∧
    ∀ problem, parse request = .error problem ↔ ∃ spelling, FirstUnknown request spelling ∧
      problem = .unknownFeature spelling known ∧
      problem.report.failureClass = .configuration ∧
      problem.report.summary = s!"Unknown feature: {spelling}" := by
  refine ⟨fun text joined => ?_, ?_, fun features parsed => ?_, fun problem => ?_⟩
  · rw [parse_eq, parse_eq, spellings_of_joined joined]
  · simp only [parse_eq_ok_iff, allKnown_iff, exists_and_left, exists_eq, and_true]
  · obtain ⟨_, rfl⟩ := parse_eq_ok_iff.mp parsed
    refine ⟨?_, fun b => mem_backends_iff, ?_⟩
    · exact List.Pairwise.filter _ (by decide)
    · rw [asks_iff]
      exact decide_eq_true_iff
  · simp only [← find?_spellings_eq_some_iff]
    rw [parse_eq]
    cases found : (spellings request).find? (lower · ∉ known) with
    | none => simp
    | some spelling =>
        simp only [Except.error.injEq, Option.some.injEq]
        constructor
        · rintro rfl
          exact ⟨spelling, rfl, rfl, rfl, rfl⟩
        · rintro ⟨_, rfl, rfl, _, _⟩
          rfl

/-- Two items joined by a comma and blanks. The first one ends with a comma, too, and the other one
begins with an unknown name. -/
theorem parse_grouped_ofUnknown :
    Joined ["Cuda,", "rocm OpenMP"] "Cuda,,\u2003\trocm OpenMP" ∧
      parse ["Cuda,,\u2003\trocm OpenMP"] = parse ["Cuda,", "rocm OpenMP"] ∧
      FirstUnknown ["Cuda,", "rocm OpenMP"] "rocm" ∧
      ∃ problem, parse ["Cuda,", "rocm OpenMP"] = .error problem ∧
        problem.report.summary = "Unknown feature: rocm" := by
  have outside : ∀ c ∈ ",\u2003\t".toList, isNameChar c = false := by
    have none : ",\u2003\t".toList.all (!isNameChar ·) = true := by decide +kernel
    simpa using none
  have joined : Joined ["Cuda,", "rocm OpenMP"] "Cuda,,\u2003\trocm OpenMP" :=
    @Joined.cons "Cuda," ",\u2003\t" "rocm OpenMP" "rocm OpenMP" [] (by decide) outside
      (.singleton "rocm OpenMP")
  have found : (spellings ["Cuda,", "rocm OpenMP"]).find? (lower · ∉ known) = some "rocm" := by
    decide +kernel
  have refused : parse ["Cuda,", "rocm OpenMP"] = .error (.unknownFeature "rocm" known) := by
    rw [parse_eq, found]
  obtain ⟨spelling, isFirst, same, _, summary⟩ := ((parse_grouped _).2.2.2 _).mp refused
  cases same
  exact ⟨joined, (parse_grouped _).1 _ joined, isFirst, _, refused, summary⟩

end Features

end NativeVariants
