import NativeVariants.Header.Allowlist
import NativeVariants.Proofs.Pattern.Alternation

set_option autoImplicit false

/-!
A list of patterns as the union of its members. The patterns of a list are pasted into one, so that
the list accepts what one of them matches by itself only if they do not get into each other's way
(`extension_isUnion_iff`).
-/

namespace NativeVariants.Header
open Pattern

namespace Allowlist

def texts (patterns : List Datum) : List String :=
  (patterns.filter Datum.isPresent).map Datum.display

def AreReadable (patterns : List Datum) : Prop :=
  ∀ d ∈ patterns, d.isKey = true ∧ d.isWritable = true ∧ ∃ p, Pattern.read d.display = .ok p

/-- Whether one of the patterns by itself matches the name, which is not empty. -/
def selects (patterns : List Datum) (name : String) : Bool :=
  name ≠ "" && (texts patterns).any (fullMatches · name)

def IsUnion (patterns : List Datum) : Prop :=
  ∀ name, accepts patterns name = .ok (selects patterns name)

theorem alternatives_eq (patterns : List Datum) :
    alternatives patterns = alternation (patterns.map Datum.display) := by
  simp [alternatives, alternation, Function.comp_def]

theorem texts_append (patterns more : List Datum) :
    texts (patterns ++ more) = texts patterns ++ texts more := by
  simp [texts]

section Readable

variable {patterns : List Datum} (readable : AreReadable patterns)

include readable

theorem exists_read_of_mem_texts :
    ∀ text ∈ texts patterns, ∃ p, Pattern.read text = .ok p := by
  intro text inside
  obtain ⟨d, used, rfl⟩ := List.mem_map.mp inside
  exact (readable d (List.mem_filter.mp used).1).2.2

theorem compile_of_used (used : texts patterns ≠ []) :
    compile patterns =
      ((Pattern.read (alternation (texts patterns))).mapError .ofPattern).map some := by
  have keys : patterns.all Datum.isKey = true :=
    List.all_eq_true.mpr fun d inside => (readable d inside).1
  have writable : (patterns.filter Datum.isPresent).all Datum.isWritable = true :=
    List.all_eq_true.mpr fun d used => (readable d (List.mem_filter.mp used).1).2.1
  have some : (patterns.filter Datum.isPresent).isEmpty = false := by
    simpa [texts] using used
  unfold compile
  simp only [keys, writable, some, alternatives_eq]
  rfl

theorem compile_of_unused (unused : texts patterns = []) : compile patterns = .ok none := by
  have keys : patterns.all Datum.isKey = true :=
    List.all_eq_true.mpr fun d inside => (readable d inside).1
  have none : (patterns.filter Datum.isPresent).isEmpty = true := by
    simpa [texts] using unused
  unfold compile
  simp only [keys, none]
  rfl

/-- If no pattern refers to a group by its number behind others, then the list is the union of its
patterns exactly if these are isolated from each other. -/
theorem isUnion_iff (numbered : AreNumberedApart (texts patterns)) :
    IsUnion patterns ↔ AreIsolated (texts patterns) := by
  by_cases used : texts patterns = []
  · refine ⟨fun _ => ?_, fun _ name => ?_⟩
    · rw [used]
      exact ⟨nofun, .nil⟩
    · rw [accepts, compile_of_unused readable used, selects, used, List.any_nil, Bool.and_false]
      rfl
  have each := exists_read_of_mem_texts readable
  rw [← exists_read_alternation_iff used each numbered]
  constructor
  · intro union
    have accepted := union ""
    rw [accepts, compile_of_used readable used] at accepted
    cases read : Pattern.read (alternation (texts patterns)) with
    | error fault =>
        rw [read] at accepted
        cases accepted
    | ok p => exact ⟨p, rfl⟩
  · rintro ⟨p, read⟩ name
    rw [accepts, compile_of_used readable used, read, selects,
      ← matchesAll_alternation used each numbered read]
    rfl

end Readable

theorem isolated_of_append {patterns more : List Datum}
    (isolated : AreIsolated (texts (patterns ++ more))) : AreIsolated (texts patterns) := by
  rw [texts_append] at isolated
  refine ⟨fun text inside => isolated.noSwitches text (List.mem_append_left _ inside), ?_⟩
  exact (List.pairwise_append.mp isolated.apart).1

theorem accepts_append_of_accepts {patterns more : List Datum}
    (readable : AreReadable (patterns ++ more))
    (numbered : AreNumberedApart (texts (patterns ++ more)))
    (isolated : AreIsolated (texts (patterns ++ more))) {name : String}
    (accepted : accepts patterns name = .ok true) :
    accepts (patterns ++ more) name = .ok true := by
  have whole := (isUnion_iff readable numbered).mpr isolated
  have numbered' : AreNumberedApart (texts patterns) := by
    rw [texts_append] at numbered
    exact (List.pairwise_append.mp numbered).1
  have readable' : AreReadable patterns :=
    fun d inside => readable d (List.mem_append_left _ inside)
  have part := (isUnion_iff readable' numbered').mpr (isolated_of_append isolated)
  rw [part, Except.ok.injEq, selects, Bool.and_eq_true] at accepted
  rw [whole, selects, texts_append, List.any_append, accepted.1, accepted.2]
  rfl

/-! ### Extensions -/

def Each (holds : List Datum → Prop) (a : Allowlist) : Prop :=
  holds a.functions ∧ holds a.types ∧ holds a.constants

/-- What the first accepts, the second does. -/
structure IsKeptBy (a b : Allowlist) : Prop where
  functions : ∀ name, a.acceptsFunction name = .ok true → b.acceptsFunction name = .ok true
  types : ∀ name, a.acceptsType name = .ok true → b.acceptsType name = .ok true
  constants : ∀ name, a.acceptsConstant name = .ok true → b.acceptsConstant name = .ok true

/-- If all patterns can be read by themselves, and none refers to a group by its number behind a
pattern with groups, then an extended allowlist is the union of its patterns exactly if none of them
starts with switches and no two in a list name a group alike. Then it accepts all it did before. -/
theorem extension_isUnion_iff (a b : Allowlist) (readable : (a.extend b).Each AreReadable)
    (numbered : (a.extend b).Each fun patterns => AreNumberedApart (texts patterns)) :
    ((a.extend b).Each IsUnion ↔ (a.extend b).Each fun patterns => AreIsolated (texts patterns)) ∧
      ((a.extend b).Each IsUnion → a.IsKeptBy (a.extend b)) := by
  have iff : (a.extend b).Each IsUnion ↔
      (a.extend b).Each fun patterns => AreIsolated (texts patterns) :=
    and_congr (isUnion_iff readable.1 numbered.1)
      (and_congr (isUnion_iff readable.2.1 numbered.2.1) (isUnion_iff readable.2.2 numbered.2.2))
  refine ⟨iff, fun union => ?_⟩
  obtain ⟨functions, types, constants⟩ := iff.mp union
  exact ⟨fun _ => accepts_append_of_accepts readable.1 numbered.1 functions,
    fun _ => accepts_append_of_accepts readable.2.1 numbered.2.1 types,
    fun _ => accepts_append_of_accepts readable.2.2 numbered.2.2 constants⟩

theorem areReadable_of_all {patterns : List Datum}
    (all : (patterns.all fun d =>
      d.isKey && d.isWritable && (Pattern.read d.display).isOk) = true) :
    AreReadable patterns := by
  intro d inside
  have checked := List.all_eq_true.mp all d inside
  simp only [Bool.and_eq_true] at checked
  obtain ⟨⟨key, writable⟩, read⟩ := checked
  refine ⟨key, writable, ?_⟩
  cases found : Pattern.read d.display with
  | error fault =>
      rw [found] at read
      cases read
  | ok p => exact ⟨p, rfl⟩

/-- Names of another library, of which one part is a group with a name. -/
def llama : Allowlist := ⟨[.text "llama_.*"], [], [.text "LLAMA_(?P<kind>[A-Z]+)_.*"]⟩

theorem default_extend_llama :
    (default.extend llama).Each AreReadable ∧
      ((default.extend llama).Each fun patterns => AreNumberedApart (texts patterns)) ∧
      (default.extend llama).Each IsUnion ∧ default.IsKeptBy (default.extend llama) := by
  have readable : (default.extend llama).Each AreReadable :=
    ⟨areReadable_of_all (by decide +kernel), areReadable_of_all (by decide +kernel),
      areReadable_of_all (by decide +kernel)⟩
  have numbered : (default.extend llama).Each fun patterns => AreNumberedApart (texts patterns) :=
    ⟨by decide +kernel, by decide +kernel, by decide +kernel⟩
  have isolated : (default.extend llama).Each fun patterns => AreIsolated (texts patterns) :=
    ⟨areIsolated_of_head (by decide +kernel) (by decide +kernel),
      areIsolated_of_head (by decide +kernel) (by decide +kernel),
      areIsolated_of_head (by decide +kernel) (by decide +kernel)⟩
  obtain ⟨iff, kept⟩ := extension_isUnion_iff default llama readable numbered
  exact ⟨readable, numbered, iff.mpr isolated, kept (iff.mpr isolated)⟩

/-- Switches in front of one pattern make the whole list unreadable, and the number of a group is
looked up in the whole list. -/
theorem extension_not_isUnion :
    (default.acceptsFunction "ggml_init").toOption = some true ∧
      fullMatches "(?i)llama_.*" "LLAMA_init" = true ∧
      ((default.extend ⟨[.text "(?i)llama_.*"], [], []⟩).acceptsFunction "ggml_init").isOk = false ∧
      fullMatches "(b)\\1" "bb" = true ∧
      ((default.extend ⟨[.text "(a)\\1", .text "(b)\\1"], [], []⟩).acceptsFunction
        "bb").toOption = some false := by
  decide +kernel

end Allowlist

end NativeVariants.Header
