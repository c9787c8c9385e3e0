import Mathlib.Data.List.Chain
import Mathlib.Data.List.DropRight
import Mathlib.Data.List.Induction
import NativeVariants.Proofs.Text.Runs

set_option autoImplicit false

/-!
Texts whose separators are squeezed. When every stretch of separators becomes a single mark, and the
marks at both ends are cut off, what remains are the runs of the text with a mark between any two of
them (`trim_squeeze`). A text of that form is what its runs come to
(`IsSqueezed.intercalate_runsOf`).
-/

namespace NativeVariants

/-- There is nothing but single marks between the runs of the text, and nothing around them. -/
structure IsSqueezed (p : Char → Bool) (mark : Char) (text : List Char) : Prop where
  spelled : ∀ c ∈ text, p c = true ∨ c = mark
  first : ∀ c ∈ text.head?, c ≠ mark
  last : ∀ c ∈ text.getLast?, c ≠ mark
  single : text.IsChain fun c d => ¬(c = mark ∧ d = mark)

variable {p : Char → Bool} {mark : Char} {text : List Char}

/-! ### Squeezed texts -/

theorem ne_mark (outside : p mark = false) {c : Char} (inside : p c = true) : c ≠ mark := by
  rintro rfl
  rw [outside] at inside
  cases inside

theorem IsSqueezed.of_append (before : List Char) {rest : List Char} {c : Char}
    (squeezed : IsSqueezed p mark (before ++ c :: rest)) (notMark : c ≠ mark) :
    IsSqueezed p mark (c :: rest) where
  spelled d later := squeezed.spelled d (List.mem_append_right _ later)
  first d isFirst := Option.mem_some.mp isFirst ▸ notMark
  last d isLast := squeezed.last d (by simpa [List.getLast?_append] using isLast)
  single := squeezed.single.right_of_append

/-- A squeezed text is what its runs come to. -/
theorem IsSqueezed.intercalate_runsOf (squeezed : IsSqueezed p mark text)
    (outside : p mark = false) : [mark].intercalate (runsOf p text) = text := by
  -- Two characters at a time: a mark is followed by the first character of the next run.
  induction text using List.twoStepInduction with
  | nil => rfl
  | singleton c =>
      have here := (squeezed.spelled c (by simp)).resolve_right (squeezed.first c rfl)
      simp [runsOf, here]
  | cons_cons c d rest ih ihTail =>
      have here := (squeezed.spelled c (by simp)).resolve_right (squeezed.first c rfl)
      rcases squeezed.spelled d (by simp) with next | rfl
      · have same := ihTail d (squeezed.of_append [c] (ne_mark outside next))
        obtain ⟨run, runs, found⟩ := List.exists_cons_of_ne_nil (runsOf_ne_nil next)
        rw [runsOf_cons_cons here next found, List.intercalate_cons_cons_left, ← found, same]
      · cases rest with
        | nil => exact absurd rfl (squeezed.last d rfl)
        | cons e more =>
            have notMark : e ≠ d := fun same => by
              simpa [same] using squeezed.single.tail
            have inside := (squeezed.spelled e (by simp)).resolve_right notMark
            have same := ih (squeezed.of_append [c, d] notMark)
            rw [runsOf_cons_break here outside,
              List.intercalate_cons_of_ne_nil (runsOf_ne_nil inside), same]
            rfl

section Marks

variable (outside : p mark = false)
include outside

theorem isSqueezed_run {run : List Char} (inside : ∀ c ∈ run, p c = true) :
    IsSqueezed p mark run where
  spelled c inRun := .inl (inside c inRun)
  first c isFirst := ne_mark outside (inside c (List.mem_of_head? isFirst))
  last c isLast := ne_mark outside (inside c (List.mem_of_getLast? isLast))
  single := List.Pairwise.isChain <| List.pairwise_of_forall_mem_list fun c inRun _ _ both =>
    ne_mark outside (inside c inRun) both.1

theorem IsSqueezed.run_append {run rest : List Char} (squeezed : IsSqueezed p mark rest)
    (some : rest ≠ []) (isRun : run ≠ []) (inside : ∀ c ∈ run, p c = true) :
    IsSqueezed p mark (run ++ mark :: rest) := by
  have ofRun := isSqueezed_run outside inside
  refine ⟨?_, ?_, ?_, ?_⟩
  · intro c member
    rcases List.mem_append.mp member with inRun | inRest
    · exact ofRun.spelled c inRun
    · rcases List.mem_cons.mp inRest with rfl | later
      · exact .inr rfl
      · exact squeezed.spelled c later
  · rw [List.head?_append_of_ne_nil _ isRun]
    exact ofRun.first
  · rw [List.getLast?_append_cons, List.getLast?_cons_of_ne_nil some]
    exact squeezed.last
  · refine List.isChain_append.mpr ⟨ofRun.single, ?_, ?_⟩
    · exact List.isChain_cons.mpr ⟨fun c isFirst both => squeezed.first c isFirst both.2,
        squeezed.single⟩
    · exact fun c isLast _ _ both => ofRun.last c isLast both.1

theorem isSqueezed_intercalate {words : List (List Char)}
    (areRuns : ∀ word ∈ words, word ≠ [] ∧ ∀ c ∈ word, p c = true) :
    IsSqueezed p mark ([mark].intercalate words) := by
  induction words with
  | nil => exact isSqueezed_run outside fun c inside => absurd inside List.not_mem_nil
  | cons word rest ih =>
      obtain ⟨isRun, inside⟩ := areRuns word List.mem_cons_self
      cases rest with
      | nil =>
          rw [List.intercalate_singleton]
          exact isSqueezed_run outside inside
      | cons next more =>
          have later := fun other inRest => areRuns other (List.mem_cons_of_mem _ inRest)
          have some : [mark].intercalate (next :: more) ≠ [] := by
            have isNext := (later next List.mem_cons_self).1
            cases more <;> simp [isNext]
          rw [List.intercalate_cons_cons, List.append_assoc, List.singleton_append]
          exact (ih later).run_append outside some isRun inside

end Marks

/-! ### Squeezing -/

theorem squeeze_cons_of_pos {c : Char} {rest : List Char} (here : p c = true) :
    squeeze p mark (c :: rest) = c :: squeeze p mark rest := by
  rw [squeeze, if_pos here]

theorem exists_squeeze_cons {c : Char} (here : p c = false) (mark : Char) (rest : List Char) :
    ∃ more, squeeze p mark (c :: rest) = mark :: more := by
  induction rest generalizing c with
  | nil => exact ⟨[], by simp [squeeze, here]⟩
  | cons d rest ih =>
      cases next : p d with
      | true => exact ⟨squeeze p mark (d :: rest), by rw [squeeze]; simp [here, next]⟩
      | false =>
          obtain ⟨more, found⟩ := ih next
          refine ⟨more, ?_⟩
          rw [squeeze, if_neg (by simp [here]), if_neg (by simp [next]), found]

theorem head?_squeeze :
    (squeeze p mark text).head? = text.head?.map fun c => if p c then c else mark := by
  cases text with
  | nil => rfl
  | cons c rest =>
      cases here : p c with
      | true => simp [squeeze_cons_of_pos here, here]
      | false =>
          obtain ⟨more, found⟩ := exists_squeeze_cons here mark rest
          simp [found, here]

theorem spelled_squeeze : ∀ c ∈ squeeze p mark text, p c = true ∨ c = mark := by
  fun_induction squeeze p mark text with
  | case1 => simp
  | case2 c rest here ih => exact List.forall_mem_cons.mpr ⟨.inl here, ih⟩
  | case3 c rest _ _ ih => exact List.forall_mem_cons.mpr ⟨.inr rfl, ih⟩
  | case4 c rest _ _ ih => exact ih

theorem isChain_squeeze (outside : p mark = false) :
    (squeeze p mark text).IsChain fun c d => ¬(c = mark ∧ d = mark) := by
  fun_induction squeeze p mark text with
  | case1 => exact .nil
  | case2 c rest here ih =>
      exact List.isChain_cons.mpr ⟨fun _ _ both => ne_mark outside here both.1, ih⟩
  | case3 c rest _ ends ih =>
      refine List.isChain_cons.mpr ⟨fun d isNext both => ?_, ih⟩
      -- What follows a stretch of separators begins with a run.
      rw [head?_squeeze] at isNext
      cases first : rest.head? with
      | none => simp [first] at isNext
      | some e =>
          have inside : p e = true := by simpa [first] using ends
          obtain rfl : e = d := by simpa [first, inside] using isNext
          exact ne_mark outside inside both.2
  | case4 c rest _ _ ih => exact ih

theorem runsOf_squeeze (outside : p mark = false) :
    runsOf p (squeeze p mark text) = runsOf p text := by
  fun_induction squeeze p mark text with
  | case1 => rfl
  | case2 c rest here ih =>
      cases rest with
      | nil => simp [squeeze]
      | cons d more =>
          cases next : p d with
          | true =>
              rw [squeeze_cons_of_pos next] at ih ⊢
              obtain ⟨run, runs, found⟩ := List.exists_cons_of_ne_nil (runsOf_ne_nil next)
              rw [runsOf_cons_cons here next found, runsOf_cons_cons here next (ih.symm.trans found)]
          | false =>
              obtain ⟨squeezed, found⟩ := exists_squeeze_cons next mark more
              rw [found, runsOf_cons_of_not outside, runsOf_cons_of_not next] at ih
              rw [found, runsOf_cons_break here outside, runsOf_cons_break here next, ih]
  | case3 c rest here _ ih =>
      have separator : p c = false := by simpa using here
      rw [runsOf_cons_of_not outside, runsOf_cons_of_not separator, ih]
  | case4 c rest here _ ih =>
      have separator : p c = false := by simpa using here
      rw [runsOf_cons_of_not separator, ih]

/-! ### Trimming -/

theorem trim_eq_rdropWhile :
    trim mark text = (text.dropWhile (· = mark)).rdropWhile (· = mark) := rfl

theorem trim_isInfix : trim mark text <:+: text :=
  (List.rdropWhile_prefix _ _).isInfix.trans (List.dropWhile_suffix _).isInfix

theorem isSqueezed_trim (spelled : ∀ c ∈ text, p c = true ∨ c = mark)
    (single : text.IsChain fun c d => ¬(c = mark ∧ d = mark)) :
    IsSqueezed p mark (trim mark text) where
  spelled c inside := spelled c (trim_isInfix.subset inside)
  first c isFirst isMark := by
    have stops := List.head?_dropWhile_not (· = mark) text
    obtain ⟨cut, whole⟩ : trim mark text <+: text.dropWhile (· = mark) := List.rdropWhile_prefix _ _
    rw [← whole, List.head?_append, Option.mem_def.mp isFirst] at stops
    simp [isMark] at stops
  last c isLast isMark := by
    obtain ⟨some, rfl⟩ := List.mem_getLast?_eq_getLast isLast
    exact List.rdropWhile_last_not _ _ some (decide_eq_true isMark)
  single := single.infix trim_isInfix

theorem runsOf_rdropWhile {q : Char → Bool} (outside : ∀ c, q c = true → p c = false) :
    runsOf p (text.rdropWhile q) = runsOf p text := by
  have atEnd : ∀ c ∈ text.rtakeWhile q, p c = false :=
    fun c cut => outside c (List.mem_rtakeWhile_imp cut)
  rw [← runsOf_append_outside atEnd, List.rdropWhile_append_rtakeWhile]

theorem runsOf_trim (outside : p mark = false) : runsOf p (trim mark text) = runsOf p text := by
  have isOutside (c : Char) (isMark : decide (c = mark) = true) : p c = false :=
    of_decide_eq_true isMark ▸ outside
  rw [trim_eq_rdropWhile, runsOf_rdropWhile isOutside, runsOf_dropWhile isOutside]

/-- Squeezed and trimmed, a text is its runs with marks between them. -/
theorem trim_squeeze (outside : p mark = false) :
    trim mark (squeeze p mark text) = [mark].intercalate (runsOf p text) := by
  have squeezed : IsSqueezed p mark (trim mark (squeeze p mark text)) :=
    isSqueezed_trim spelled_squeeze (isChain_squeeze outside)
  rw [← squeezed.intercalate_runsOf outside, runsOf_trim outside, runsOf_squeeze outside]

end NativeVariants
