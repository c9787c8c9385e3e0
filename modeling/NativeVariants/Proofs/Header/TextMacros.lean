import NativeVariants.Bindings
import NativeVariants.Proofs.Header.MacroFaults
import NativeVariants.Proofs.Header.RecordOrder
import NativeVariants.Proofs.Header.TextLiterals

set_option autoImplicit false

/-!
Macros that stand for a text. A text is taken as it is spelled, and the bindings module has it in one
line that is read as that spelling. So the text of the macro is kept if its spelling has no escape,
and then only (`textMacro_kept_iff`).
-/

namespace NativeVariants.Header
open Text

/-! ### Tokens -/

theorem closesText_cons {c : Char} {rest : List Char} (noQuote : c ≠ '"') (noEscape : c ≠ '\\') :
    closesText (c :: rest) = closesText rest := by
  rw [closesText]
  all_goals simp [noQuote, noEscape]

/-- Digits of an escape are passed like any characters. -/
theorem closesText_append {digits : List Char} (each : ∀ c ∈ digits, isHexDigit c = true)
    (rest : List Char) : closesText (digits ++ rest) = closesText rest := by
  induction digits with
  | nil => rfl
  | cons c more ih =>
      obtain ⟨digit, later⟩ := List.forall_mem_cons.mp each
      have noQuote : c ≠ '"' := by
        rintro rfl
        exact absurd digit (by decide)
      have noEscape : c ≠ '\\' := by
        rintro rfl
        exact absurd digit (by decide)
      rw [List.cons_append, closesText_cons noQuote noEscape, ih later]

theorem closesText_of_codes? {text : List Char} {codes : List Nat}
    (found : Dialect.c.codes? '"' text = some codes) : closesText text = true := by
  induction text using Dialect.codes?.induct Dialect.c '"' generalizing codes with
  | case1 => simp [Dialect.codes?] at found
  | case2 rest atEnd =>
      rw [List.isEmpty_iff.mp atEnd]
      decide
  | case3 rest goesOn => simp [Dialect.codes?, goesOn] at found
  | case4 c rest noQuote isBreak => simp [Dialect.codes?, noQuote, isBreak] at found
  | case5 rest failed noQuote noBreak =>
      simp [Dialect.codes?, noQuote, noBreak, failed] at found
  | case6 rest own width escaped noQuote noBreak ih =>
      simp only [Dialect.codes?, noQuote, noBreak, escaped, if_false, if_true, Bool.false_eq_true,
        Option.map_eq_some_iff] at found
      obtain ⟨later, read, _⟩ := found
      obtain ⟨c, digits, split, each, _⟩ := Dialect.eq_cons_of_escape? escaped
      have noLine : c ≠ '\n' := by
        rintro rfl
        rw [split] at escaped
        cases escaped
      rw [split, closesText, closesText_append each, ih read]
      simpa using noLine
  | case7 c rest noQuote noBreak noEscape ih =>
      simp only [Dialect.codes?, noQuote, noBreak, noEscape, if_false, Bool.false_eq_true,
        Option.map_eq_some_iff] at found
      obtain ⟨later, read, _⟩ := found
      rw [closesText_cons noQuote noEscape, ih read]

/-- A text in C between its quotes. It is longer than what it stands for if it has an escape. -/
theorem exists_body_of_literal? {text : List Char} {codes : List Nat}
    (denotes : Dialect.c.literal? text = some codes) :
    ∃ body, text = '"' :: (body ++ ['"']) ∧ isTextSpelling text = true ∧
      (body.map Char.toNat = codes ↔ '\\' ∉ text) := by
  cases text with
  | nil => cases denotes
  | cons quote rest =>
      simp only [Dialect.literal?, Option.ite_none_right_eq_some] at denotes
      obtain ⟨isQuote, read⟩ := denotes
      obtain rfl := List.mem_singleton.mp isQuote
      obtain ⟨body, rfl, counts⟩ := Dialect.eq_append_of_codes? (fun _ => rfl) read
      refine ⟨body, rfl, closesText_of_codes? read, ?_⟩
      have same : '\\' ∈ '"' :: (body ++ ['"']) ↔ '\\' ∈ body := by simp
      rw [same]
      split at counts
      · rename_i escaped
        refine iff_of_false (fun equal => ?_) (not_not_intro escaped)
        rw [← equal, List.length_map] at counts
        exact absurd counts (Nat.lt_irrefl _)
      · rename_i plain
        exact iff_of_true counts.symm plain

theorem definedValue_text {name token : String} {body : List Char}
    (split : token.toList = '"' :: (body ++ ['"'])) (isText : isTextSpelling token.toList = true) :
    definedValue [name, token] = .ok (some (.text (String.ofList body))) := by
  have noDecimal : isDecimal '"' = false := by decide
  have noInt : isIntSpelling token.toList = false := by
    simp [split, isIntSpelling, startsHex, noDecimal]
  have noReal : isRealSpelling token.toList = false := by
    simp [split, isRealSpelling, noDecimal]
  have read : literal token = .ok (some (.text (String.ofList body))) := by
    rw [literal_eq, noInt, noReal, isText, split]
    simp
  have alone : unwrap [token] = [token] := by simp [unwrap]
  simp [definedValue_cons, macroValue_eq, alone, read]

/-! ### Constants -/

namespace Surface

variable {allow : Allowlist} {known : Known} {s : Surface} {name : String} {value : Datum}

theorem contains_of_get? {table : Table String Datum} (found : table.get? name = some value) :
    table.contains name = true := by
  simp [Table.contains, found]

theorem get?_constants_addConstant (found : s.constants.get? name = some value) (other : String)
    (tokens : List String) :
    (s.addConstant allow other tokens).constants.get? name = some value := by
  unfold addConstant
  split
  · rename_i added
    have apart : name ≠ other := by
      rintro rfl
      simp [contains_of_get? found] at added
    split
    · simpa [apart] using found
    · exact found
  · exact found

theorem get?_constants_addValue (found : s.constants.get? name = some value)
    (entry : String × Datum) : (s.addValue allow entry).constants.get? name = some value := by
  unfold addValue Table.setNew
  split
  · dsimp only
    split
    · exact found
    · rename_i fresh
      have apart : name ≠ entry.1 := by
        rintro rfl
        exact fresh (contains_of_get? found)
      simpa [apart] using found
  · exact found

theorem get?_constants_foldl_addValue (found : s.constants.get? name = some value)
    (values : List (String × Datum)) :
    (values.foldl (addValue allow) s).constants.get? name = some value := by
  induction values generalizing s with
  | nil => exact found
  | cons entry rest ih => exact ih (get?_constants_addValue found entry)

theorem get?_constants_add (found : s.constants.get? name = some value) (d : Declaration) :
    (s.add allow known d).constants.get? name = some value := by
  cases d with
  | define other tokens => exact get?_constants_addConstant found other tokens
  | enumeration tag values =>
      simp only [add, addEnumeration]
      split
      · split
        · exact found
        · exact found
      · exact get?_constants_foldl_addValue found _
  | function other result parameters hasPrototype variadic =>
      simp only [add, addFunction]
      split
      · exact found
      · exact found
  | record isUnion tag id isDefinition members =>
      have declared (n : String) : (s.addClass n isUnion).constants = s.constants := by
        unfold addClass
        split
        · rfl
        · rfl
      have defined (n : String) (t : Surface) :
          (t.define known n members).constants = t.constants := by
        unfold define
        split
        · rfl
        · rfl
      simp only [add, addRecord]
      split
      · split
        · rwa [defined, declared]
        · rwa [declared]
      · exact found
  | «alias» other t =>
      simp only [add, addAlias]
      split
      · exact found
      · exact found
  | other => exact found

theorem get?_constants_foldl_add (found : s.constants.get? name = some value)
    (ds : List Declaration) :
    (ds.foldl (add allow known) s).constants.get? name = some value := by
  induction ds generalizing s with
  | nil => exact found
  | cons d rest ih => exact ih (get?_constants_add found d)

theorem get?_constants_of_define {tokens : List String} {before after : List Declaration}
    (accepted : allow.acceptsConstant name = .ok true)
    (isFirst : (before.foldl (add allow known) s).constants.contains name = false)
    (read : definedValue tokens = .ok (some value)) :
    ((before ++ .define name tokens :: after).foldl (add allow known) s).constants.get? name =
      some value := by
  rw [List.foldl_append, List.foldl_cons]
  refine get?_constants_foldl_add ?_ after
  simp [add, addConstant, accepted, isAccepted, Except.toOption, isFirst, read]

end Surface

theorem constantLine_mem_lines {s : Surface} {entry : String × Datum}
    (inside : entry ∈ s.constants.entries) (source : String) :
    Bindings.constantLine entry ∈ Bindings.lines s source := by
  have isLine : Bindings.constantLine entry ∈ s.constants.entries.map Bindings.constantLine :=
    List.mem_map_of_mem inside
  have inPart : Bindings.constantLine entry ∈
      Bindings.part "# Constants" (s.constants.entries.map Bindings.constantLine) := by
    unfold Bindings.part
    rw [if_neg]
    · exact List.mem_append_right _ isLine
    · intro none
      rw [List.isEmpty_iff.mp none] at isLine
      cases isLine
  simp [Bindings.lines, inPart]

theorem constantLine_text (name : String) (body : List Char) :
    (Bindings.constantLine (name, .text (String.ofList body))).toList =
      name.toList ++ " = ".toList ++ quotedChars body := by
  change (name ++ " = " ++ quoted (String.ofList body)).toList = _
  simp [quoted]

theorem isOneLine_of_all {chars : List Char} (all : (chars.all fun c => !isLineBreak c) = true) :
    ∀ c ∈ chars, isLineBreak c = false := by
  simpa using all

/-- The bindings module assigns the text of a macro in one line, and reads there what stands between
the quotes of its token. That is the text that the token denotes if there is no escape in it, and
then only. -/
theorem textMacro_kept_iff (allow : Allowlist) (known : Known) (header source : String)
    (u : HeaderUnit) (s : Surface) (yielded : (collectUnit allow known header u).surface = .ok s)
    (before after : List Declaration) (name token : String)
    (defined : u.declarations = before ++ .define name [name, token] :: after)
    (accepted : allow.acceptsConstant name = .ok true)
    (isFirst : (before.foldl (Surface.add allow (u.declarations.foldl (Known.after allow) known))
      .empty).constants.contains name = false)
    (oneLine : ∀ c ∈ name.toList, isLineBreak c = false)
    (codes : List Nat) (denotes : Dialect.c.literal? token.toList = some codes) :
    ∃ line ∈ Bindings.lines s source, (∀ c ∈ line.toList, isLineBreak c = false) ∧
      ∃ spelling, line.toList = name.toList ++ " = ".toList ++ spelling ∧
        Dialect.bindings.literal? spelling =
          some (token.toList.tail.dropLast.map Char.toNat) ∧
        (Dialect.bindings.literal? spelling = some codes ↔ '\\' ∉ token.toList) := by
  obtain ⟨body, split, isText, counts⟩ := exists_body_of_literal? denotes
  have value : definedValue [name, token] = _ := definedValue_text split isText
  have found : s.constants.get? name = some (.text (String.ofList body)) := by
    rw [(collectUnit_eq_ok yielded).2]
    generalize u.declarations.foldl (Known.after allow) known = registered at isFirst
    rw [defined]
    exact Surface.get?_constants_of_define accepted isFirst value
  have inside := Table.mem_of_get?_eq_some found
  have whole := constantLine_text name body
  refine ⟨_, constantLine_mem_lines inside source, ?_, quotedChars body, whole, ?_, ?_⟩
  · have sign : ∀ c ∈ " = ".toList, isLineBreak c = false := isOneLine_of_all (by decide)
    rw [whole]
    intro c inLine
    rcases List.mem_append.mp inLine with inFront | inSpelling
    · rcases List.mem_append.mp inFront with inName | inSign
      · exact oneLine c inName
      · exact sign c inSign
    · exact Dialect.isLineBreak_of_isPrintable (Dialect.isPrintable_of_mem_quotedChars inSpelling)
  · rw [Dialect.literal?_quotedChars, split]
    simp
  · rw [Dialect.literal?_quotedChars, Option.some.injEq, counts]

/-- Without an escape, even a quote of the other kind is kept. -/
theorem constantUnit_keepsText :
    let codes := [105, 116, 39, 115]
    ∃ s, (collectUnit .default .empty "ggml.h" (constantUnit "\"it's\"")).surface = .ok s ∧
      Dialect.c.literal? "\"it's\"".toList = some codes ∧
      ∃ line ∈ Bindings.lines s "ggml.h", ∃ spelling,
        line.toList = "GGML_MODE = ".toList ++ spelling ∧
          Dialect.bindings.literal? spelling = some codes := by
  have found : (collectUnit .default .empty "ggml.h" (constantUnit "\"it's\"")).surface.toOption.map
      Surface.names = some ["GGML_MODE"] := by
    decide +kernel
  have denotes : Dialect.c.literal? "\"it's\"".toList = some [105, 116, 39, 115] := by
    decide +kernel
  obtain ⟨s, yielded, _⟩ := exists_surface found
  obtain ⟨line, inside, _, spelling, whole, _, kept⟩ :=
    textMacro_kept_iff .default .empty "ggml.h" "ggml.h" (constantUnit "\"it's\"") s yielded [] []
      "GGML_MODE" "\"it's\"" rfl (by decide +kernel) rfl (isOneLine_of_all (by decide)) _ denotes
  exact ⟨s, yielded, denotes, line, inside, spelling, whole, kept.mpr (by decide)⟩

/-- A line break in a macro becomes a backslash and a letter. -/
theorem constantUnit_losesText :
    ∃ s, (collectUnit .default .empty "ggml.h" (constantUnit "\"a\\nb\"")).surface = .ok s ∧
      "GGML_MODE = 'a\\\\nb'" ∈ Bindings.lines s "ggml.h" ∧
      Dialect.c.literal? "\"a\\nb\"".toList = some [97, 10, 98] ∧
      Dialect.bindings.literal? "'a\\\\nb'".toList = some [97, 92, 110, 98] := by
  have found : (collectUnit .default .empty "ggml.h"
      (constantUnit "\"a\\nb\"")).surface.toOption.map
      (fun s => decide ("GGML_MODE = 'a\\\\nb'" ∈ Bindings.lines s "ggml.h")) = some true := by
    decide +kernel
  obtain ⟨s, yielded, isLine⟩ := exists_surface found
  exact ⟨s, yielded, of_decide_eq_true isLine, by decide +kernel, by decide +kernel⟩

end NativeVariants.Header
