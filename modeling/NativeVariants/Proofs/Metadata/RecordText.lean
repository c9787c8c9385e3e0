import NativeVariants.Json.Reader
import NativeVariants.Metadata.Channel
import NativeVariants.Proofs.Json.TextRoundTrip
import NativeVariants.Proofs.Tables

set_option autoImplicit false

/-!
The text of a record. It is read as a mapping with the name of the package and the facts in the
order of their names (`read_render`), and it holds no carriage return.
-/

namespace NativeVariants.Json

theorem skipGaps_eq (position : Nat) (text : List Char) :
    ∃ position', (Cursor.mk position text).skipGaps = ⟨position', text.dropWhile isGap⟩ := by
  have passed : text.drop (text.takeWhile isGap).length = text.dropWhile isGap := by
    have whole := List.takeWhile_append_dropWhile (p := isGap) (l := text)
    calc text.drop (text.takeWhile isGap).length
        = (text.takeWhile isGap ++ text.dropWhile isGap).drop (text.takeWhile isGap).length := by
          rw [whole]
      _ = text.dropWhile isGap := List.drop_left
  exact ⟨_, congrArg (Cursor.mk _) passed⟩

def member (name : String) (body : List Char) : List Char :=
  '"' :: (name.toList.flatMap writeChar ++ '"' :: ':' :: ' ' :: body)

section Members

variable {fuel : Nat} {entries result : List (Datum × Datum)} {name : String} {value : Datum}
  {body between more rest : List Char}

theorem reads_textValue (fuel : Nat) (text : String) (rest : List Char) :
    Reads (readValue (fuel + 1)) ('"' :: (text.toList.flatMap writeChar ++ '"' :: rest))
      (.text text) rest := by
  intro position
  obtain ⟨position', read⟩ := reads_text text rest (position + 1)
  refine ⟨position', ?_⟩
  rw [readValue]
  simp only [Cursor.skip, List.drop_one, List.tail_cons]
  rw [read]
  rfl

theorem readMembers_member (entries : List (Datum × Datum)) (name : String)
    (reads : Reads (readValue fuel) body value between)
    (starts : body.dropWhile isGap = body) (position : Nat) :
    ∃ position',
      (∀ rest, between.dropWhile isGap = '\x7d' :: rest →
        readMembers (fuel + 1) entries ⟨position, member name body⟩ =
          .ok (Datum.setEntry entries (.text name) value, ⟨position' + 1, rest⟩)) ∧
      ∀ more, between.dropWhile isGap = ',' :: more →
        readMembers (fuel + 1) entries ⟨position, member name body⟩ =
          readMembers fuel (Datum.setEntry entries (.text name) value)
            (Cursor.mk (position' + 1) more).skipGaps := by
  obtain ⟨afterName, readName⟩ := reads_text name (':' :: ' ' :: body) (position + 1)
  obtain ⟨atMark, atMarkEq⟩ := skipGaps_eq afterName (':' :: ' ' :: body)
  have mark : (':' :: ' ' :: body).dropWhile isGap = ':' :: ' ' :: body := rfl
  obtain ⟨atValue, atValueEq⟩ := skipGaps_eq (atMark + 1) (' ' :: body)
  have blank : (' ' :: body).dropWhile isGap = body := starts
  obtain ⟨afterValue, valueRead⟩ := reads atValue
  obtain ⟨position', ended⟩ := skipGaps_eq afterValue between
  refine ⟨position', ?_⟩
  rw [readMembers]
  simp only [member, Cursor.skip, List.drop_one, List.tail_cons]
  rw [readName]
  simp only [bind, Except.bind, atMarkEq, mark, List.tail_cons, atValueEq, blank, valueRead, ended]
  constructor
  · intro rest closes
    rw [closes]
    rfl
  · intro more goesOn
    rw [goesOn]
    rfl

theorem reads_member_last (entries : List (Datum × Datum)) (name : String)
    (reads : Reads (readValue fuel) body value between) (starts : body.dropWhile isGap = body)
    (closes : between.dropWhile isGap = '\x7d' :: rest) :
    Reads (readMembers (fuel + 1) entries) (member name body)
      (Datum.setEntry entries (.text name) value) rest := by
  intro position
  obtain ⟨position', read, _⟩ := readMembers_member entries name reads starts position
  exact ⟨position' + 1, read rest closes⟩

theorem reads_member_next (entries : List (Datum × Datum)) (name : String)
    (reads : Reads (readValue fuel) body value between) (starts : body.dropWhile isGap = body)
    (goesOn : between.dropWhile isGap = ',' :: more)
    (later : Reads (readMembers fuel (Datum.setEntry entries (.text name) value))
      (more.dropWhile isGap) result rest) :
    Reads (readMembers (fuel + 1) entries) (member name body) result rest := by
  intro position
  obtain ⟨position', _, read⟩ := readMembers_member entries name reads starts position
  obtain ⟨atNext, atNextEq⟩ := skipGaps_eq (position' + 1) more
  obtain ⟨position'', readLater⟩ := later atNext
  rw [read more goesOn, atNextEq, readLater]
  exact ⟨position'', rfl⟩

theorem reads_mapping {text : List Char}
    (starts : text.dropWhile isGap = member name body)
    (reads : Reads (readMembers fuel []) (member name body) result rest) :
    Reads (readValue (fuel + 1)) ('\x7b' :: text) (.map result) rest := by
  intro position
  obtain ⟨atMember, atMemberEq⟩ := skipGaps_eq (position + 1) text
  obtain ⟨position', read⟩ := reads atMember
  refine ⟨position', ?_⟩
  rw [readValue]
  simp only [Cursor.skip, List.drop_one, List.tail_cons, atMemberEq, starts]
  unfold member at read ⊢
  simp only [read]
  rfl

theorem reads_emptyMapping (fuel : Nat) (rest : List Char) :
    Reads (readValue (fuel + 1)) ('\x7b' :: '\x7d' :: rest) (.map []) rest := by
  intro position
  refine ⟨position + 1 + 0 + 1, ?_⟩
  rw [readValue]
  rfl

end Members

def quotedThen (text : String) (rest : List Char) : List Char :=
  '"' :: (text.toList.flatMap writeChar ++ '"' :: rest)

theorem toList_writeText_append (text : String) (rest : List Char) :
    (writeText text).toList ++ rest = quotedThen text rest := by
  rw [toList_writeText, quotedThen, List.cons_append, List.append_assoc, List.singleton_append]

theorem member_append (name : String) (body rest : List Char) :
    member name body ++ rest = member name (body ++ rest) := by
  simp [member]

theorem quotedThen_append (text : String) (body rest : List Char) :
    quotedThen text body ++ rest = quotedThen text (body ++ rest) := by
  simp [quotedThen]

theorem return_not_mem_written (text : String) : '\r' ∉ text.toList.flatMap writeChar := by
  intro inside
  obtain ⟨c, _, isWritten⟩ := List.mem_flatMap.mp inside
  exact ne_return_of_mem_writeChar isWritten rfl

@[simp]
theorem return_mem_member_iff (name : String) (body : List Char) :
    '\r' ∈ member name body ↔ '\r' ∈ body := by
  simp [member, return_not_mem_written, -List.mem_flatMap]

@[simp]
theorem return_mem_quotedThen_iff (text : String) (rest : List Char) :
    '\r' ∈ quotedThen text rest ↔ '\r' ∈ rest := by
  simp [quotedThen, return_not_mem_written, -List.mem_flatMap]

def textEntries (entries : List (String × String)) : List (Datum × Datum) :=
  entries.map fun entry => (.text entry.1, .text entry.2)

theorem setEntry_textEntries {entries : List (String × String)} {key : String}
    (fresh : key ∉ entries.map (·.1)) (value : String) :
    Datum.setEntry (textEntries entries) (.text key) (.text value) =
      textEntries (entries ++ [(key, value)]) := by
  have unknown : ((textEntries entries).any fun entry => entry.1.sameKey (.text key)) = false := by
    rw [List.any_eq_false]
    intro entry inside
    obtain ⟨⟨k, v⟩, isEntry, rfl⟩ := List.mem_map.mp inside
    have other : k ≠ key := fun same => fresh (List.mem_map.mpr ⟨(k, v), isEntry, same⟩)
    simpa [Datum.sameKey, Datum.asInt?] using other
  unfold Datum.setEntry
  rw [unknown]
  simp [textEntries]

/-- Members with text values, each on a line of its own, up to the closing brace. -/
def writtenMembers (rest : List Char) : List (String × String) → List Char
  | [] => rest
  | [(key, value)] => member key (quotedThen value ('\n' :: ' ' :: ' ' :: '\x7d' :: rest))
  | (key, value) :: next :: more =>
      member key (quotedThen value
        (',' :: '\n' :: ' ' :: ' ' :: ' ' :: ' ' :: writtenMembers rest (next :: more)))

theorem exists_member_eq (rest : List Char) (entry : String × String)
    (more : List (String × String)) :
    ∃ body, writtenMembers rest (entry :: more) = member entry.1 body := by
  cases more with
  | nil => exact ⟨_, rfl⟩
  | cons next more => exact ⟨_, rfl⟩

theorem reads_writtenMembers (fuel : Nat) (known : List (String × String))
    {entries : List (String × String)}
    (nonempty : entries ≠ []) (enough : entries.length < fuel)
    (nodup : ((known ++ entries).map (·.1)).Nodup) (rest : List Char) :
    Reads (readMembers fuel (textEntries known)) (writtenMembers rest entries)
      (textEntries (known ++ entries)) rest := by
  induction entries generalizing fuel known with
  | nil => exact absurd rfl nonempty
  | cons entry more ih =>
      obtain ⟨key, value⟩ := entry
      obtain ⟨fuel, rfl⟩ : ∃ n, fuel = n + 1 + 1 := ⟨fuel - 2, by simp at enough; omega⟩
      have fresh : key ∉ known.map (·.1) := by
        rw [List.map_append, List.map_cons, List.nodup_middle, List.nodup_cons, List.mem_append,
          not_or] at nodup
        exact nodup.1.1
      have setHere := setEntry_textEntries fresh value
      cases more with
      | nil =>
          rw [← setHere]
          exact reads_member_last _ key (reads_textValue fuel value _) rfl rfl
      | cons next more =>
          obtain ⟨body, starts⟩ := exists_member_eq rest next more
          rw [List.append_cons] at nodup ⊢
          have later := ih (fuel + 1) _ (by simp) (by simpa using enough) nodup
          refine reads_member_next _ key (reads_textValue fuel value _) rfl rfl ?_
          rw [setHere]
          rw [starts] at later ⊢
          exact later

end NativeVariants.Json

namespace NativeVariants.Metadata.Channel
open Json

theorem toList_writeEntry_append (entry : String × String) (rest : List Char) :
    (writeEntry entry).toList ++ rest =
      "    ".toList ++ member entry.1 (quotedThen entry.2 rest) := by
  have mark : ": ".toList = [':', ' '] := rfl
  unfold writeEntry member
  simp only [String.toList_append, toList_writeText, mark, quotedThen, List.append_assoc,
    List.cons_append, List.nil_append]

theorem toList_entries_append {entries : List (String × String)} (nonempty : entries ≠ [])
    (rest : List Char) :
    (",\n".intercalate (entries.map writeEntry)).toList ++ ("\n  \x7d".toList ++ rest) =
      "    ".toList ++ writtenMembers rest entries := by
  induction entries with
  | nil => exact absurd rfl nonempty
  | cons entry more ih =>
      cases more with
      | nil =>
          rw [List.map_cons, List.map_nil, String.toList_intercalate, List.map_cons, List.map_nil,
            List.intercalate_singleton, toList_writeEntry_append]
          rfl
      | cons next more =>
          have later := ih (by simp)
          rw [String.toList_intercalate] at later ⊢
          simp only [List.map_cons] at later ⊢
          rw [List.intercalate_cons_cons, List.append_assoc, List.append_assoc, later,
            toList_writeEntry_append]
          rfl

def writtenValues (entries : List (String × String)) (rest : List Char) : List Char :=
  match entries with
  | [] => '\x7b' :: '\x7d' :: rest
  | entry :: more => '\x7b' :: '\n' :: ("    ".toList ++ writtenMembers rest (entry :: more))

theorem toList_render (channel : Channel) :
    channel.render.toList =
      '\x7b' :: '\n' :: ' ' :: ' ' :: member "package" (quotedThen channel.package
        (',' :: '\n' :: ' ' :: ' ' :: member "values"
          (writtenValues channel.values.sorted.entries ['\n', '\x7d', '\n']))) := by
  have opening : "\x7b\n  \"package\": ".toList =
      '\x7b' :: '\n' :: ' ' :: ' ' :: member "package" [] := by decide
  have middle : ",\n  \"values\": ".toList = ',' :: '\n' :: ' ' :: ' ' :: member "values" [] := by
    decide
  have closing : "\n\x7d\n".toList = ['\n', '\x7d', '\n'] := rfl
  unfold render
  simp only [String.toList_append, opening, middle, closing, toList_writeText_append,
    List.cons_append, member_append, quotedThen_append, List.nil_append]
  cases channel.values.sorted.entries with
  | nil => rfl
  | cons entry more =>
      have whole := toList_entries_append (List.cons_ne_nil entry more) ['\n', '\x7d', '\n']
      simp only [String.toList_append, List.append_assoc, whole]
      rfl

theorem reads_writtenValues (fuel : Nat) {entries : List (String × String)}
    (enough : entries.length + 1 < fuel) (nodup : (entries.map (·.1)).Nodup) (rest : List Char) :
    Reads (readValue fuel) (writtenValues entries rest) (.map (textEntries entries)) rest := by
  obtain ⟨fuel, rfl⟩ : ∃ n, fuel = n + 1 := ⟨fuel - 1, by omega⟩
  cases entries with
  | nil => exact reads_emptyMapping fuel rest
  | cons entry more =>
      obtain ⟨body, starts⟩ := exists_member_eq rest entry more
      have reads := reads_writtenMembers fuel [] (by simp) (Nat.lt_of_succ_lt_succ enough)
        nodup rest
      rw [starts] at reads
      refine reads_mapping ?_ reads
      rw [starts]
      rfl

theorem length_le_writtenMembers (rest : List Char) (entries : List (String × String)) :
    entries.length ≤ (writtenMembers rest entries).length := by
  induction entries with
  | nil => exact Nat.zero_le _
  | cons entry more ih =>
      cases more with
      | nil => simp [writtenMembers, member]
      | cons next more =>
          simp only [writtenMembers, member, quotedThen, List.length_cons,
            List.length_append] at ih ⊢
          omega

theorem length_le_render (channel : Channel) :
    channel.values.sorted.entries.length + 4 ≤ channel.render.length := by
  rw [← String.length_toList, toList_render]
  cases channel.values.sorted.entries with
  | nil => simp [member, quotedThen]
  | cons entry more =>
      have below := length_le_writtenMembers ['\n', '\x7d', '\n'] (entry :: more)
      simp only [writtenValues, member, quotedThen, List.length_cons, List.length_append] at below ⊢
      omega

theorem read_render (channel : Channel) :
    Json.read channel.render = .ok (.map [(.text "package", .text channel.package),
      (.text "values", .map (textEntries channel.values.sorted.entries))]) := by
  have enough := length_le_render channel
  -- One unit of fuel for the record, one for each of its members, and one for the values.
  obtain ⟨fuel, fuelEq⟩ : ∃ n, 2 * channel.render.length + 2 = n + 1 + 1 + 1 + 1 :=
    ⟨2 * channel.render.length - 2, by omega⟩
  have values := reads_writtenValues (fuel + 1) (by omega) channel.values.sorted.nodup
    ['\n', '\x7d', '\n']
  have starts : (writtenValues channel.values.sorted.entries ['\n', '\x7d', '\n']).dropWhile isGap =
      writtenValues channel.values.sorted.entries ['\n', '\x7d', '\n'] := by
    cases channel.values.sorted.entries <;> rfl
  have last := reads_member_last (textEntries [("package", channel.package)]) "values" values
    starts rfl
  have known : Datum.setEntry (textEntries [("package", channel.package)]) (.text "values")
      (.map (textEntries channel.values.sorted.entries)) =
        [(.text "package", .text channel.package),
          (.text "values", .map (textEntries channel.values.sorted.entries))] := rfl
  rw [known] at last
  have members : Reads (readMembers (fuel + 1 + 1 + 1) [])
      (member "package" (quotedThen channel.package (',' :: '\n' :: ' ' :: ' ' :: member "values"
        (writtenValues channel.values.sorted.entries ['\n', '\x7d', '\n'])))) _ ['\n'] :=
    reads_member_next [] "package" (reads_textValue (fuel + 1) channel.package _) rfl rfl last
  have opening : ∀ body, ('\n' :: ' ' :: ' ' :: member "package" body).dropWhile isGap =
      member "package" body := fun _ => rfl
  obtain ⟨position, read⟩ := reads_mapping (opening _) members 0
  have still : ∀ text, (Cursor.mk 0 ('\x7b' :: text)).skipGaps = ⟨0, '\x7b' :: text⟩ := fun _ => rfl
  unfold Json.read
  rw [fuelEq, toList_render]
  simp only [still, read, bind, Except.bind]
  rfl

theorem return_not_mem_writtenMembers {rest : List Char} (noReturn : '\r' ∉ rest)
    (entries : List (String × String)) : '\r' ∉ writtenMembers rest entries := by
  induction entries with
  | nil => exact noReturn
  | cons entry more ih =>
      cases more with
      | nil => simp [writtenMembers, noReturn]
      | cons next more => simp [writtenMembers, ih]

theorem return_not_mem_render (channel : Channel) : '\r' ∉ channel.render.toList := by
  have closing : '\r' ∉ ['\n', '\x7d', '\n'] := by decide
  have noReturn : '\r' ∉ writtenValues channel.values.sorted.entries ['\n', '\x7d', '\n'] := by
    cases channel.values.sorted.entries with
    | nil => decide
    | cons entry more =>
        have inMembers := return_not_mem_writtenMembers closing (entry :: more)
        simp [writtenValues, inMembers]
  rw [toList_render]
  simp [noReturn]

end NativeVariants.Metadata.Channel
