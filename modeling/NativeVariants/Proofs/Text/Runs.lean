import NativeVariants.Environ

set_option autoImplicit false

/-!
Runs of characters with a property. They end at separators (`runsOf_append_cons`), and they are the
stretches of a text that can be extended in neither direction: a text with a list of runs can be cut
at each of them (`exists_isRun_of_runsOf`), and all of them in order leave nothing but separators
(`hasRuns_iff`).
-/

namespace NativeVariants

variable {p : Char → Bool} {c : Char} {rest : List Char}

theorem runsOf_cons_of_not (outside : p c = false) : runsOf p (c :: rest) = runsOf p rest := by
  simp [runsOf, outside]

theorem runsOf_ne_nil (inside : p c = true) : runsOf p (c :: rest) ≠ [] := by
  cases rest with
  | nil => simp [runsOf, inside]
  | cons d more =>
      simp only [runsOf, inside, if_true]
      split
      · split <;> simp
      · simp

theorem runsOf_cons_cons {d : Char} (here : p c = true) (next : p d = true) {run : List Char}
    {runs : List (List Char)} (found : runsOf p (d :: rest) = run :: runs) :
    runsOf p (c :: d :: rest) = (c :: run) :: runs := by
  rw [runsOf]
  simp only [here, next, if_true, found]

theorem runsOf_cons_break {d : Char} (here : p c = true) (outside : p d = false) :
    runsOf p (c :: d :: rest) = [c] :: runsOf p rest := by
  rw [runsOf]
  simp [here, outside, runsOf_cons_of_not]

theorem runsOf_append_cons {separator : Char} (outside : p separator = false)
    (text more : List Char) :
    runsOf p (text ++ separator :: more) = runsOf p text ++ runsOf p more := by
  induction text with
  | nil => exact runsOf_cons_of_not outside
  | cons c rest ih =>
      rw [List.cons_append]
      cases here : p c with
      | false => rw [runsOf_cons_of_not here, runsOf_cons_of_not here, ih]
      | true =>
          cases rest with
          | nil =>
              rw [List.nil_append, runsOf_cons_break here outside]
              simp [runsOf, here]
          | cons d further =>
              cases next : p d with
              | false =>
                  rw [runsOf_cons_of_not next, List.cons_append, runsOf_cons_of_not next] at ih
                  rw [List.cons_append, runsOf_cons_break here next, runsOf_cons_break here next,
                    ih, List.cons_append]
              | true =>
                  obtain ⟨run, runs, found⟩ := List.exists_cons_of_ne_nil (runsOf_ne_nil next)
                  rw [found, List.cons_append, List.cons_append] at ih
                  rw [List.cons_append, runsOf_cons_cons here next ih,
                    runsOf_cons_cons here next found, List.cons_append]

theorem runsOf_eq_singleton {run : List Char} (isRun : run ≠ []) (inside : ∀ c ∈ run, p c = true) :
    runsOf p run = [run] := by
  induction run with
  | nil => exact absurd rfl isRun
  | cons c rest ih =>
      have here := inside c List.mem_cons_self
      cases rest with
      | nil => simp [runsOf, here]
      | cons d more =>
          have next := inside d (by simp)
          exact runsOf_cons_cons here next
            (ih (List.cons_ne_nil _ _) fun e later => inside e (List.mem_cons_of_mem _ later))

theorem runsOf_eq_nil {text : List Char} (outside : ∀ c ∈ text, p c = false) :
    runsOf p text = [] := by
  induction text with
  | nil => rfl
  | cons c rest ih =>
      rw [runsOf_cons_of_not (outside c List.mem_cons_self)]
      exact ih fun d later => outside d (List.mem_cons_of_mem _ later)

theorem runsOf_eq_nil_iff {text : List Char} : runsOf p text = [] ↔ ∀ c ∈ text, p c = false := by
  refine ⟨fun none => ?_, runsOf_eq_nil⟩
  induction text with
  | nil => exact fun c inside => absurd inside List.not_mem_nil
  | cons c rest ih =>
      cases here : p c with
      | true => exact absurd none (runsOf_ne_nil here)
      | false =>
          rw [runsOf_cons_of_not here] at none
          exact List.forall_mem_cons.mpr ⟨here, ih none⟩

theorem runsOf_append_separators {separators : List Char} (some : separators ≠ [])
    (outside : ∀ c ∈ separators, p c = false) (text more : List Char) :
    runsOf p (text ++ separators ++ more) = runsOf p text ++ runsOf p more := by
  obtain ⟨first, others, rfl⟩ := List.exists_cons_of_ne_nil some
  rw [List.forall_mem_cons] at outside
  rw [List.append_assoc, List.cons_append, runsOf_append_cons outside.1]
  congr 1
  induction others with
  | nil => rfl
  | cons second others ih =>
      rw [List.forall_mem_cons] at outside
      rw [List.cons_append, runsOf_cons_of_not outside.2.1]
      exact ih (List.cons_ne_nil _ _) ⟨outside.1, outside.2.2⟩

theorem runsOf_append_outside {text separators : List Char}
    (outside : ∀ c ∈ separators, p c = false) :
    runsOf p (text ++ separators) = runsOf p text := by
  cases separators with
  | nil => rw [List.append_nil]
  | cons c rest =>
      have appended := runsOf_append_separators (List.cons_ne_nil c rest) outside text []
      simpa [runsOf] using appended

theorem runsOf_dropWhile {text : List Char} {q : Char → Bool}
    (outside : ∀ c, q c = true → p c = false) :
    runsOf p (text.dropWhile q) = runsOf p text := by
  induction text with
  | nil => rfl
  | cons c rest ih =>
      rw [List.dropWhile_cons]
      split
      · rename_i skipped
        rw [ih, runsOf_cons_of_not (outside c skipped)]
      · rfl

/-! ### Runs at their places -/

/-- A run between what stands before it and after it: it can be extended in neither direction. -/
structure IsRun (p : Char → Bool) (before run after : List Char) : Prop where
  nonempty : run ≠ []
  inside : ∀ c ∈ run, p c = true
  left : ∀ c ∈ before.getLast?, p c = false
  right : ∀ c ∈ after.head?, p c = false

theorem IsRun.runsOf_eq {before run after : List Char} (isRun : IsRun p before run after) :
    runsOf p (before ++ run ++ after) = runsOf p before ++ run :: runsOf p after := by
  have fromRun : runsOf p (run ++ after) = run :: runsOf p after := by
    cases after with
    | nil => rw [List.append_nil, runsOf_eq_singleton isRun.nonempty isRun.inside]; rfl
    | cons separator more =>
        have outside : p separator = false := isRun.right separator rfl
        rw [runsOf_append_cons outside, runsOf_eq_singleton isRun.nonempty isRun.inside,
          runsOf_cons_of_not outside, List.singleton_append]
  rw [List.append_assoc]
  rcases List.eq_nil_or_concat before with rfl | ⟨first, separator, rfl⟩
  · exact fromRun
  · rw [List.concat_eq_append] at isRun ⊢
    have outside : p separator = false := isRun.left separator (by simp)
    rw [List.append_assoc, List.singleton_append, runsOf_append_cons outside,
      runsOf_append_cons outside, fromRun]
    simp [runsOf]

theorem exists_isRun_of_ne_nil {text : List Char} (some : runsOf p text ≠ []) :
    ∃ separators run after, text = separators ++ run ++ after ∧ IsRun p separators run after ∧
      runsOf p separators = [] := by
  have outside : ∀ c ∈ text.takeWhile (!p ·), p c = false := fun c skipped => by
    simpa using List.all_eq_true.mp List.all_takeWhile c skipped
  have split : text = text.takeWhile (!p ·) ++ text.dropWhile (!p ·) :=
    List.takeWhile_append_dropWhile.symm
  cases found : text.dropWhile (!p ·) with
  | nil =>
      rw [found, List.append_nil] at split
      rw [← split] at outside
      exact absurd (runsOf_eq_nil outside) some
  | cons c rest =>
      have here : p c = true := by
        have := List.head?_dropWhile_not (!p ·) text
        simpa [found] using this
      rw [found] at split
      refine ⟨text.takeWhile (!p ·), (c :: rest).takeWhile p, (c :: rest).dropWhile p, ?_, ?_,
        runsOf_eq_nil outside⟩
      · rw [List.append_assoc, List.takeWhile_append_dropWhile]
        exact split
      · refine ⟨by simp [here], List.all_eq_true.mp List.all_takeWhile, ?_, ?_⟩
        · exact fun d last => outside d (List.mem_of_getLast? last)
        · intro d first
          have := List.head?_dropWhile_not p (c :: rest)
          simpa [Option.mem_def.mp first] using this

/-- A text can be cut at each of its runs. -/
theorem exists_isRun_of_runsOf {text run : List Char} {runs more : List (List Char)}
    (found : runsOf p text = runs ++ run :: more) :
    ∃ before after, text = before ++ run ++ after ∧ IsRun p before run after ∧
      runsOf p before = runs := by
  have some : runsOf p text ≠ [] := by simp [found]
  induction runs generalizing text with
  | nil =>
      obtain ⟨separators, first, after, rfl, isRun, none⟩ := exists_isRun_of_ne_nil some
      rw [isRun.runsOf_eq, none] at found
      obtain rfl : first = run := (List.cons.inj found).1
      exact ⟨separators, after, rfl, isRun, none⟩
  | cons other runs ih =>
      obtain ⟨separators, first, rest, rfl, isFirst, none⟩ := exists_isRun_of_ne_nil some
      rw [isFirst.runsOf_eq, none] at found
      obtain ⟨rfl, later⟩ := List.cons.inj found
      obtain ⟨before, after, rfl, isRun, same⟩ := ih later (by simp [later])
      -- Between the two runs there is at least the separator that ends the first one.
      cases before with
      | nil =>
          obtain ⟨c, tail, rfl⟩ := List.exists_cons_of_ne_nil isRun.nonempty
          have outside := isFirst.right c rfl
          rw [isRun.inside c List.mem_cons_self] at outside
          cases outside
      | cons separator between =>
          have isFirst' : IsRun p separators first (separator :: between) :=
            ⟨isFirst.nonempty, isFirst.inside, isFirst.left, isFirst.right⟩
          refine ⟨separators ++ first ++ separator :: between, after, by simp, ?_, ?_⟩
          · refine ⟨isRun.nonempty, isRun.inside, ?_, isRun.right⟩
            intro c last
            refine isRun.left c ?_
            simpa [List.getLast?_cons] using last
          · rw [isFirst'.runsOf_eq, none, same]
            rfl

theorem mem_runsOf_iff {text run : List Char} :
    run ∈ runsOf p text ↔
      ∃ before after, text = before ++ run ++ after ∧ IsRun p before run after := by
  constructor
  · intro inside
    obtain ⟨runs, more, found⟩ := List.append_of_mem inside
    obtain ⟨before, after, split, isRun, _⟩ := exists_isRun_of_runsOf found
    exact ⟨before, after, split, isRun⟩
  · rintro ⟨before, after, rfl, isRun⟩
    rw [isRun.runsOf_eq]
    exact List.mem_append_right _ List.mem_cons_self

theorem of_mem_runsOf {text run : List Char} (found : run ∈ runsOf p text) :
    run ≠ [] ∧ ∀ c ∈ run, p c = true := by
  obtain ⟨_, _, _, isRun⟩ := mem_runsOf_iff.mp found
  exact ⟨isRun.nonempty, isRun.inside⟩

/-- The text consists of the runs in this order, with nothing but separators around them. -/
inductive HasRuns (p : Char → Bool) : List Char → List (List Char) → Prop
  | none {text : List Char} (outside : ∀ c ∈ text, p c = false) : HasRuns p text []
  | next {separators run after : List Char} {runs : List (List Char)}
      (outside : ∀ c ∈ separators, p c = false) (isRun : IsRun p separators run after)
      (later : HasRuns p after runs) : HasRuns p (separators ++ run ++ after) (run :: runs)

theorem hasRuns_iff {text : List Char} {runs : List (List Char)} :
    HasRuns p text runs ↔ runsOf p text = runs := by
  constructor
  · intro has
    induction has with
    | none outside => exact runsOf_eq_nil outside
    | next outside isRun _ ih => rw [isRun.runsOf_eq, runsOf_eq_nil outside, ih, List.nil_append]
  · intro found
    induction runs generalizing text with
    | nil => exact .none (runsOf_eq_nil_iff.mp found)
    | cons run runs ih =>
        obtain ⟨separators, first, after, rfl, isRun, none⟩ :=
          exists_isRun_of_ne_nil (by simp [found] : runsOf p text ≠ [])
        rw [isRun.runsOf_eq, none] at found
        obtain ⟨rfl, later⟩ := List.cons.inj found
        exact .next (runsOf_eq_nil_iff.mp none) isRun (ih later)

theorem runsOf_intercalate {separator : Char} (outside : p separator = false)
    {words : List (List Char)} (areRuns : ∀ word ∈ words, word ≠ [] ∧ ∀ c ∈ word, p c = true) :
    runsOf p ([separator].intercalate words) = words := by
  induction words with
  | nil => rfl
  | cons word rest ih =>
      obtain ⟨isRun, inside⟩ := areRuns word List.mem_cons_self
      have found := ih fun other later => areRuns other (List.mem_cons_of_mem _ later)
      cases rest with
      | nil => rw [List.intercalate_singleton, runsOf_eq_singleton isRun inside]
      | cons next more =>
          rw [List.intercalate_cons_cons, List.append_assoc, List.singleton_append,
            runsOf_append_cons outside, runsOf_eq_singleton isRun inside, found,
            List.singleton_append]

end NativeVariants
