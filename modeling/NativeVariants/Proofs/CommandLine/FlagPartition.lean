import Mathlib.Data.List.Induction
import NativeVariants.CommandLine.Flags
import NativeVariants.Proofs.Tables

set_option autoImplicit false

/-!
Flags as a partition of the arguments. There is one way to cut arguments into flags with their values
and arguments that are left over (`isCut_iff`), and it is the one that is taken. Each flag then has
its last value, and what is left over has no flag in it that could be taken (`parse_partitions`).
-/

namespace NativeVariants

inductive Piece where
  /-- A flag with its value. -/
  | taken (spelling value : String)
  /-- An argument that is left over. -/
  | left (arg : String)
  deriving DecidableEq, Repr

namespace Piece

def args : Piece → List String
  | taken spelling value => [spelling, value]
  | left arg => [arg]

def taken? : Piece → Option (String × String)
  | taken spelling value => some (spelling, value)
  | left _ => none

def left? : Piece → Option String
  | taken _ _ => none
  | left arg => some arg

end Piece

namespace Flag

def takenOf (pieces : List Piece) : List (String × String) := pieces.filterMap Piece.taken?

def leftOf (pieces : List Piece) : List String := pieces.filterMap Piece.left?

/-- The pieces make up the arguments. Only flags are taken with a value, and every flag is, unless
it stands at the end. -/
structure IsCut (spellings args : List String) (pieces : List Piece) : Prop where
  whole : pieces.flatMap Piece.args = args
  taken : ∀ pair ∈ takenOf pieces, pair.1 ∈ spellings
  left : ∀ arg ∈ leftOf pieces.dropLast, arg ∉ spellings

instance (spellings args : List String) (pieces : List Piece) :
    Decidable (IsCut spellings args pieces) :=
  decidable_of_iff (pieces.flatMap Piece.args = args ∧
      (∀ pair ∈ takenOf pieces, pair.1 ∈ spellings) ∧
      ∀ arg ∈ leftOf pieces.dropLast, arg ∉ spellings)
    ⟨fun ⟨whole, taken, left⟩ => ⟨whole, taken, left⟩, fun h => ⟨h.whole, h.taken, h.left⟩⟩

def cut (spellings : List String) : List String → List Piece
  | [] => []
  | [arg] => [.left arg]
  | arg :: value :: rest =>
      if arg ∈ spellings then .taken arg value :: cut spellings rest
      else .left arg :: cut spellings (value :: rest)

section Cuts

variable {spellings args : List String} {pieces : List Piece}

theorem cut_ne_nil (spellings : List String) (arg : String) (rest : List String) :
    cut spellings (arg :: rest) ≠ [] := by
  unfold cut
  cases rest with
  | nil => exact List.cons_ne_nil _ _
  | cons value rest =>
      simp only
      split <;> exact List.cons_ne_nil _ _

theorem mem_leftOf_dropLast {arg other : String} {pieces : List Piece}
    (inside : other ∈ leftOf (Piece.left arg :: pieces).dropLast) :
    other = arg ∨ other ∈ leftOf pieces.dropLast := by
  cases pieces with
  | nil => cases inside
  | cons piece rest => exact List.mem_cons.mp inside

theorem mem_leftOf_dropLast_taken {spelling value other : String} {pieces : List Piece}
    (inside : other ∈ leftOf (Piece.taken spelling value :: pieces).dropLast) :
    other ∈ leftOf pieces.dropLast := by
  cases pieces with
  | nil => cases inside
  | cons piece rest => exact inside

theorem isCut_cut (spellings args : List String) : IsCut spellings args (cut spellings args) := by
  fun_induction cut spellings args with
  | case1 => exact ⟨rfl, nofun, nofun⟩
  | case2 arg => exact ⟨rfl, nofun, nofun⟩
  | case3 arg value rest isFlag ih =>
      refine ⟨?_, ?_, fun other inside => ih.left other (mem_leftOf_dropLast_taken inside)⟩
      · rw [List.flatMap_cons, ih.whole]
        rfl
      · exact List.forall_mem_cons.mpr ⟨isFlag, ih.taken⟩
  | case4 arg value rest noFlag ih =>
      refine ⟨?_, ih.taken, fun other inside => ?_⟩
      · rw [List.flatMap_cons, ih.whole]
        rfl
      · rcases mem_leftOf_dropLast inside with rfl | later
        · exact noFlag
        · exact ih.left other later

/-- What comes after the first piece is cut as well. -/
theorem IsCut.tail {piece : Piece} (isCut : IsCut spellings args (piece :: pieces)) :
    IsCut spellings (pieces.flatMap Piece.args) pieces where
  whole := rfl
  taken := fun pair inside =>
    isCut.taken pair (List.filterMap_subset _ (List.subset_cons_self _ _) inside)
  left := by
    intro arg inside
    refine isCut.left arg ?_
    cases pieces with
    | nil => cases inside
    | cons next rest => exact List.filterMap_subset _ (List.subset_cons_self _ _) inside

theorem IsCut.eq_cut (isCut : IsCut spellings args pieces) : pieces = cut spellings args := by
  induction pieces generalizing args with
  | nil =>
      obtain rfl := isCut.whole
      rfl
  | cons piece pieces ih =>
      have later := ih isCut.tail
      obtain rfl := isCut.whole
      cases piece with
      | taken spelling value =>
          have isFlag : spelling ∈ spellings := isCut.taken (spelling, value) List.mem_cons_self
          change _ = cut spellings (spelling :: value :: pieces.flatMap Piece.args)
          rw [cut, if_pos isFlag, ← later]
      | left arg =>
          change _ = cut spellings (arg :: pieces.flatMap Piece.args)
          cases rest : pieces.flatMap Piece.args with
          | nil =>
              rw [rest] at later
              rw [later]
              rfl
          | cons value others =>
              rw [rest] at later
              -- Something follows, so the argument that is left over is no flag.
              have noFlag : arg ∉ spellings := by
                refine isCut.left arg ?_
                rw [later]
                obtain ⟨next, more, shape⟩ :=
                  List.exists_cons_of_ne_nil (cut_ne_nil spellings value others)
                rw [shape]
                exact List.mem_cons_self
              rw [cut, if_neg noFlag, ← later]

theorem isCut_iff : IsCut spellings args pieces ↔ pieces = cut spellings args := by
  refine ⟨IsCut.eq_cut, ?_⟩
  rintro rfl
  exact isCut_cut spellings args

/-- No argument is lost, and none is there twice. -/
theorem length_flatMap_args (pieces : List Piece) :
    (pieces.flatMap Piece.args).length = (leftOf pieces).length + 2 * (takenOf pieces).length := by
  induction pieces with
  | nil => rfl
  | cons piece rest ih =>
      rw [List.flatMap_cons, List.length_append, ih]
      cases piece with
      | taken spelling value =>
          change 2 + _ = _ + 2 * ((takenOf rest).length + 1)
          change 2 + _ = (leftOf rest).length + _
          omega
      | left arg =>
          change 1 + _ = ((leftOf rest).length + 1) + 2 * (takenOf rest).length
          omega

/-- In what is left over a flag can only stand at the end. -/
theorem IsCut.not_mem_of_mem_dropLast (isCut : IsCut spellings args pieces) {arg : String}
    (inside : arg ∈ (leftOf pieces).dropLast) : arg ∉ spellings := by
  refine isCut.left arg ?_
  rcases List.eq_nil_or_concat' pieces with rfl | ⟨before, last, rfl⟩
  · cases inside
  · rw [List.dropLast_concat]
    cases last with
    | taken spelling value =>
        have same : leftOf (before ++ [.taken spelling value]) = leftOf before := by
          simp [leftOf, Piece.left?]
        rw [same] at inside
        exact (List.dropLast_sublist _).subset inside
    | left other =>
        have same : leftOf (before ++ [.left other]) = leftOf before ++ [other] := by
          simp [leftOf, Piece.left?]
        rwa [same, List.dropLast_concat] at inside

theorem cut_of_forall_not_mem (free : ∀ arg ∈ args.dropLast, arg ∉ spellings) :
    cut spellings args = args.map .left := by
  symm
  apply IsCut.eq_cut
  refine ⟨?_, ?_, ?_⟩
  · rw [List.flatMap_map]
    exact List.flatMap_singleton' args
  · intro pair inside
    obtain ⟨piece, inPieces, isTaken⟩ := List.mem_filterMap.mp inside
    obtain ⟨arg, _, rfl⟩ := List.mem_map.mp inPieces
    cases isTaken
  · intro arg inside
    rw [← List.map_dropLast] at inside
    obtain ⟨piece, inPieces, isLeft⟩ := List.mem_filterMap.mp inside
    obtain ⟨other, inArgs, rfl⟩ := List.mem_map.mp inPieces
    cases isLeft
    exact free arg inArgs

end Cuts

variable {α : Type} {flags : List (Flag α)}

def spellings (flags : List (Flag α)) : List String := flags.map (·.spelling)

/-! ### What is taken and what is left over -/

theorem isSome_find? (flags : List (Flag α)) (spelling : String) :
    (find? flags spelling).isSome ↔ spelling ∈ spellings flags := by
  rw [find?, List.find?_isSome, spellings, List.mem_map]
  simp only [List.mem_reverse, decide_eq_true_eq]

theorem assign_eq_map (values : Table String α) {spelling : String}
    (isFlag : spelling ∈ spellings flags) (text : String) :
    ∃ flag ∈ flags, flag.spelling = spelling ∧
      assign flags values (spelling, text) = (flag.read text).map (values.set flag.key) := by
  obtain ⟨flag, found⟩ := Option.isSome_iff_exists.mp ((isSome_find? flags spelling).mpr isFlag)
  have known : flag ∈ flags := List.mem_reverse.mp (List.mem_of_find?_eq_some found)
  have spelled : flag.spelling = spelling := by
    simpa using List.find?_some found
  refine ⟨flag, known, spelled, ?_⟩
  simp only [assign, found]
  cases flag.read text <;> rfl

theorem split_eq {isFlag : String → Bool} {spellings : List String}
    (known : ∀ arg, isFlag arg = true ↔ arg ∈ spellings) (args : List String) :
    split isFlag args = (takenOf (cut spellings args), leftOf (cut spellings args)) := by
  fun_induction split isFlag args with
  | case1 => rfl
  | case2 arg => rfl
  | case3 arg value rest isKnown taken left rec ih =>
      rw [rec] at ih
      rw [cut, if_pos ((known arg).mp isKnown)]
      obtain ⟨rfl, rfl⟩ := Prod.mk.inj ih
      rfl
  | case4 arg value rest isUnknown taken left rec ih =>
      rw [rec] at ih
      rw [cut, if_neg fun inside => isUnknown ((known arg).mpr inside)]
      obtain ⟨rfl, rfl⟩ := Prod.mk.inj ih
      rfl

/-- Parsing settles the flags that are taken, and leaves the rest. -/
theorem parse_eq (flags : List (Flag α)) (args : List String) :
    parse flags args =
      ((takenOf (cut (spellings flags) args)).foldlM (assign flags) (defaults flags)).map
        (·, leftOf (cut (spellings flags) args)) := by
  unfold parse
  rw [split_eq (isSome_find? flags)]
  simp only
  cases (takenOf (cut (spellings flags) args)).foldlM (assign flags) (defaults flags) <;> rfl

/-! ### The values of the flags -/

def valueOf (flag : Flag α) (taken : List (String × String)) : Except Failure α :=
  match (taken.filter (·.1 = flag.spelling)).getLast? with
  | some pair => flag.read pair.2
  | none => .ok flag.default

def IsReadable (flags : List (Flag α)) (taken : List (String × String)) : Prop :=
  ∀ flag ∈ flags, ∀ pair ∈ taken, pair.1 = flag.spelling → ∃ value, flag.read pair.2 = .ok value

/-- What the flags that are taken come to: each flag has its value, in the order of the flags, or the
first value that cannot be read is the reason that there are none. -/
inductive Settles (flags : List (Flag α)) (taken : List (String × String)) :
    Except Failure (Table String α) → Prop
  | parsed {values : Table String α} (keys : values.keys = flags.map (·.key))
      (each : ∀ flag ∈ flags, ∃ value,
        flag.valueOf taken = .ok value ∧ values.get? flag.key = some value)
      (readable : IsReadable flags taken) : Settles flags taken (.ok values)
  | refused {before after : List (String × String)} {flag : Flag α} {text : String}
      {failure : Failure} (split : taken = before ++ (flag.spelling, text) :: after)
      (readable : IsReadable flags before) (known : flag ∈ flags)
      (fails : flag.read text = .error failure) : Settles flags taken (.error failure)

theorem valueOf_concat_self (flag : Flag α) (taken : List (String × String)) (text : String) :
    flag.valueOf (taken ++ [(flag.spelling, text)]) = flag.read text := by
  have last : ((taken ++ [(flag.spelling, text)]).filter (·.1 = flag.spelling)).getLast? =
      some (flag.spelling, text) := by
    rw [List.filter_append, List.filter_cons_of_pos (by simp), List.filter_nil,
      List.getLast?_concat]
  rw [valueOf, last]

theorem valueOf_concat_of_ne {flag : Flag α} {pair : String × String}
    (other : pair.1 ≠ flag.spelling) (taken : List (String × String)) :
    flag.valueOf (taken ++ [pair]) = flag.valueOf taken := by
  have same : (taken ++ [pair]).filter (·.1 = flag.spelling) =
      taken.filter (·.1 = flag.spelling) := by
    rw [List.filter_append, List.filter_cons_of_neg (by simpa using other), List.filter_nil,
      List.append_nil]
  rw [valueOf, valueOf, same]

theorem entries_defaults (keysNodup : (flags.map (·.key)).Nodup) :
    (defaults flags).entries = flags.map fun flag => (flag.key, flag.default) := by
  have nodup : (((∅ : Table String α).entries ++
      flags.map fun flag => (flag.key, flag.default)).map (·.1)).Nodup := by
    rw [List.map_append, List.map_map]
    exact keysNodup
  exact Table.entries_setAll_of_fresh nodup

section Distinct

variable (keysNodup : (flags.map (·.key)).Nodup) (spellingsNodup : (spellings flags).Nodup)
include keysNodup

theorem settles_nil : Settles flags [] (.ok (defaults flags)) := by
  have entries := entries_defaults keysNodup
  refine .parsed ?_ (fun flag known => ⟨flag.default, rfl, ?_⟩) nofun
  · rw [Table.keys, entries, List.map_map]
    rfl
  · apply Table.get?_eq_some_of_mem
    rw [entries]
    exact List.mem_map_of_mem known

include spellingsNodup

theorem Settles.step {taken : List (String × String)} {values : Table String α}
    (settles : Settles flags taken (.ok values)) {spelling : String}
    (isFlag : spelling ∈ spellings flags) (text : String) :
    Settles flags (taken ++ [(spelling, text)]) (assign flags values (spelling, text)) := by
  obtain ⟨keys, each, readable⟩ := settles
  obtain ⟨flag, known, rfl, assigned⟩ := assign_eq_map values isFlag text
  rw [assigned]
  cases read : flag.read text with
  | error failure => exact .refused rfl readable known read
  | ok value =>
      refine .parsed ?_ ?_ ?_
      · have inTable : flag.key ∈ values.keys := by
          rw [keys]
          exact List.mem_map_of_mem known
        rw [Table.keys_set_of_mem inTable, keys]
      · intro other isKnown
        by_cases same : other = flag
        · subst same
          exact ⟨value, (valueOf_concat_self ..).trans read, by rw [Table.get?_set, if_pos rfl]⟩
        · have otherSpelling : flag.spelling ≠ other.spelling := fun eq =>
            same (List.inj_on_of_nodup_map spellingsNodup isKnown known eq.symm)
          have otherKey : other.key ≠ flag.key := fun eq =>
            same (List.inj_on_of_nodup_map keysNodup isKnown known eq)
          obtain ⟨kept, isKept, isValue⟩ := each other isKnown
          refine ⟨kept, (valueOf_concat_of_ne otherSpelling taken).trans isKept, ?_⟩
          rw [Table.get?_set, if_neg otherKey, isValue]
      · intro other isKnown pair inside spelled
        rcases List.mem_append.mp inside with before | here
        · exact readable other isKnown pair before spelled
        · obtain rfl := List.mem_singleton.mp here
          obtain rfl := List.inj_on_of_nodup_map spellingsNodup known isKnown spelled
          exact ⟨value, read⟩

theorem settles_foldlM (taken : List (String × String))
    (areFlags : ∀ pair ∈ taken, pair.1 ∈ spellings flags) :
    Settles flags taken (taken.foldlM (assign flags) (defaults flags)) := by
  induction taken using List.reverseRecOn with
  | nil => exact settles_nil keysNodup
  | append_singleton taken pair ih =>
      have before := ih fun other inside => areFlags other (List.mem_append_left _ inside)
      have steps : (taken ++ [pair]).foldlM (assign flags) (defaults flags) =
          taken.foldlM (assign flags) (defaults flags) >>= (assign flags · pair) := by
        simp only [List.foldlM_append, List.foldlM_cons, List.foldlM_nil, bind_pure]
      rw [steps]
      cases settled : taken.foldlM (assign flags) (defaults flags) with
      | error failure =>
          -- A value that cannot be read ends everything.
          rw [settled] at before
          cases before with
          | @refused read after flag text _ split readable known fails =>
              have longer : taken ++ [pair] =
                  read ++ (flag.spelling, text) :: (after ++ [pair]) := by
                rw [split, List.append_assoc, List.cons_append]
              exact .refused longer readable known fails
      | ok values =>
          rw [settled] at before
          have isFlag : pair.1 ∈ spellings flags :=
            areFlags pair (List.mem_append_right _ List.mem_cons_self)
          exact before.step keysNodup spellingsNodup isFlag pair.2

end Distinct

theorem parse_leftOf {args : List String} {pieces : List Piece}
    (isCut : IsCut (spellings flags) args pieces) :
    parse flags (leftOf pieces) = .ok (defaults flags, leftOf pieces) := by
  have again := cut_of_forall_not_mem fun _ inside => isCut.not_mem_of_mem_dropLast inside
  have taken : takenOf (cut (spellings flags) (leftOf pieces)) = [] := by
    rw [again, takenOf, List.filterMap_map]
    exact List.filterMap_eq_nil_iff.mpr fun _ _ => rfl
  have left : leftOf (cut (spellings flags) (leftOf pieces)) = leftOf pieces := by
    rw [again, leftOf, List.filterMap_map]
    exact List.filterMap_some
  rw [parse_eq, taken, left]
  rfl

/-- Arguments are cut in one way into flags with their values and arguments that are left over, with
nothing lost. Each flag has its last value, and parsing what is left over takes nothing more. -/
theorem parse_partitions (flags : List (Flag α)) (args : List String)
    (keysNodup : (flags.map (·.key)).Nodup) (spellingsNodup : (spellings flags).Nodup) :
    ∃ pieces settled,
      (∀ other, IsCut (spellings flags) args other ↔ other = pieces) ∧
      args.length = (leftOf pieces).length + 2 * (takenOf pieces).length ∧
      Settles flags (takenOf pieces) settled ∧
      parse flags args = settled.map (·, leftOf pieces) ∧
      (∀ arg ∈ (leftOf pieces).dropLast, arg ∉ spellings flags) ∧
      parse flags (leftOf pieces) = .ok (defaults flags, leftOf pieces) ∧
      (defaults flags).entries = flags.map fun flag => (flag.key, flag.default) := by
  have isCut := isCut_cut (spellings flags) args
  refine ⟨cut (spellings flags) args, _, fun other => isCut_iff, ?_,
    settles_foldlM keysNodup spellingsNodup _ isCut.taken, parse_eq flags args,
    fun arg => isCut.not_mem_of_mem_dropLast, parse_leftOf isCut, entries_defaults keysNodup⟩
  conv_lhs => rw [← isCut.whole]
  exact length_flatMap_args _

/-- A file that must be named, and a package. -/
def recordFlags : List (Flag String) :=
  [⟨"file", "--file", "ggml.json", fun text => if text = "" then .error .badValue else .ok text⟩,
    ⟨"package", "--package", "ggml-tooling", .ok⟩]

/-- A flag as a value, a flag given twice, and a flag without a value. -/
def recordPieces : List Piece :=
  [.left "get", .taken "--file" "--package", .left "DEP_X", .taken "--file" "m.json",
    .left "--package"]

theorem parse_partitions_recordFlags :
    (recordFlags.map (·.key)).Nodup ∧ (spellings recordFlags).Nodup ∧
      (∀ other, IsCut (spellings recordFlags)
        ["get", "--file", "--package", "DEP_X", "--file", "m.json", "--package"] other ↔
          other = recordPieces) ∧
      (∃ settled, Settles recordFlags [("--file", "--package"), ("--file", "m.json")] settled ∧
        parse recordFlags
            ["get", "--file", "--package", "DEP_X", "--file", "m.json", "--package"] =
          settled.map (·, ["get", "DEP_X", "--package"])) ∧
      parse recordFlags ["get", "DEP_X", "--package"] =
        .ok (defaults recordFlags, ["get", "DEP_X", "--package"]) := by
  have keysNodup : (recordFlags.map (·.key)).Nodup := by decide
  have spellingsNodup : (spellings recordFlags).Nodup := by decide
  obtain ⟨pieces, settled, unique, -, settles, parsed, -, again, -⟩ :=
    parse_partitions recordFlags
      ["get", "--file", "--package", "DEP_X", "--file", "m.json", "--package"]
      keysNodup spellingsNodup
  obtain rfl : recordPieces = pieces := (unique recordPieces).mp (by decide)
  exact ⟨keysNodup, spellingsNodup, unique, ⟨settled, settles, parsed⟩, again⟩

end Flag

end NativeVariants
