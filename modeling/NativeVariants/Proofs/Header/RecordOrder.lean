import Mathlib.Data.List.Induction
import NativeVariants.Proofs.Header.Passes

set_option autoImplicit false

/-!
The order of the records of a surface. A record enters the surface at its first cursor, be it a
declaration or the definition, so the records stand in the order of their first cursors
(`pairwise_names`).
-/

namespace NativeVariants.Header

def Known.cursorName? (known : Known) : Declaration → Option String
  | .record _ tag id _ _ =>
      if known.declaredName tag id ∈ known.records then some (known.declaredName tag id) else none
  | _ => none

/-- Where the first cursor of a record stands among the declarations. -/
def Known.firstCursor (known : Known) (ds : List Declaration) (name : String) : Nat :=
  ds.findIdx fun d => known.cursorName? d = some name

namespace Surface

variable {allow : Allowlist} {known : Known}

def recordNames (s : Surface) : List String := s.records.map (·.name)

theorem addConstant_eq (allow : Allowlist) (name : String) (tokens : List String) (s : Surface) :
    ∃ constants, s.addConstant allow name tokens = { s with constants } := by
  unfold addConstant
  split
  · split
    · exact ⟨_, rfl⟩
    · exact ⟨s.constants, rfl⟩
  · exact ⟨s.constants, rfl⟩

theorem foldl_addValue_eq (allow : Allowlist) (values : List (String × Datum)) (s : Surface) :
    ∃ constants, values.foldl (addValue allow) s = { s with constants } := by
  induction values generalizing s with
  | nil => exact ⟨s.constants, rfl⟩
  | cons entry rest ih =>
      obtain ⟨constants, whole⟩ := ih (s.addValue allow entry)
      refine ⟨constants, ?_⟩
      rw [List.foldl_cons, whole]
      unfold addValue
      split
      · rfl
      · rfl

theorem addEnumeration_eq (allow : Allowlist) (name : String) (values : Table String Datum)
    (s : Surface) :
    ∃ enums constants, s.addEnumeration allow name values = { s with enums, constants } := by
  unfold addEnumeration
  split
  · split
    · exact ⟨s.enums, s.constants, rfl⟩
    · exact ⟨_, s.constants, rfl⟩
  · obtain ⟨constants, whole⟩ := foldl_addValue_eq allow values.entries s
    exact ⟨s.enums, constants, whole⟩

theorem recordNames_define (name : String) (members : List Member) (s : Surface) :
    (s.define known name members).recordNames = s.recordNames := by
  unfold define recordNames
  split
  · simp only [List.map_map]
    refine List.map_congr_left fun r _ => ?_
    simp only [Function.comp_apply]
    split
    · rfl
    · rfl
  · rfl

theorem recordNames_addClass (name : String) (isUnion : Bool) (s : Surface) :
    (s.addClass name isUnion).recordNames =
      if name ∈ s.recordNames then s.recordNames else s.recordNames ++ [name] := by
  have there : s.records.any (·.name = name) = true ↔ name ∈ s.recordNames := by
    simp [recordNames]
  unfold addClass
  by_cases inside : name ∈ s.recordNames
  · rw [if_pos (there.mpr inside), if_pos inside]
  · rw [if_neg (inside ∘ there.mp), if_neg inside]
    simp [recordNames]

theorem recordNames_addRecord (isUnion : Bool) (tag : String) (id : Int) (isDefinition : Bool)
    (members : List Member) (s : Surface) :
    (s.addRecord known isUnion tag id isDefinition members).recordNames =
      if known.declaredName tag id ∈ known.records then
        (s.addClass (known.declaredName tag id) isUnion).recordNames
      else s.recordNames := by
  unfold addRecord
  simp only
  split
  · split
    · exact recordNames_define _ _ _
    · rfl
  · rfl

theorem records_add_of_no_cursor {d : Declaration} {s : Surface}
    (noCursor : known.cursorName? d = none) :
    (s.add allow known d).records = s.records := by
  cases d with
  | define name tokens =>
      obtain ⟨constants, whole⟩ := addConstant_eq allow name tokens s
      rw [add, whole]
  | function name result parameters hasPrototype variadic =>
      rw [add, addFunction]
      split
      · rfl
      · rfl
  | record isUnion tag id isDefinition members =>
      rw [Known.cursorName?] at noCursor
      split at noCursor
      · cases noCursor
      · rename_i unknown
        rw [add, addRecord, if_neg unknown]
  | enumeration name values =>
      obtain ⟨enums, constants, whole⟩ := addEnumeration_eq allow name (Table.ofList values) s
      rw [add, whole]
  | «alias» name t =>
      rw [add, addAlias]
      split
      · rfl
      · rfl
  | other => rfl

theorem recordNames_add (d : Declaration) (s : Surface) :
    (s.add allow known d).recordNames =
      match known.cursorName? d with
      | some name => if name ∈ s.recordNames then s.recordNames else s.recordNames ++ [name]
      | none => s.recordNames := by
  cases cursor : known.cursorName? d with
  | none => exact congrArg (List.map RecordEntry.name) (records_add_of_no_cursor cursor)
  | some name =>
      cases d with
      | record isUnion tag id isDefinition members =>
          rw [Known.cursorName?] at cursor
          split at cursor
          · rename_i isKnown
            cases cursor
            rw [add, recordNames_addRecord, if_pos isKnown]
            exact recordNames_addClass _ isUnion s
          · cases cursor
      | _ => cases cursor

section Passes

variable (allow known)

/-- The surface that the second pass makes of some declarations. -/
def ofDeclarations (ds : List Declaration) : Surface := ds.foldl (add allow known) .empty

theorem ofDeclarations_concat (ds : List Declaration) (d : Declaration) :
    ofDeclarations allow known (ds ++ [d]) = (ofDeclarations allow known ds).add allow known d := by
  unfold ofDeclarations
  rw [List.foldl_append, List.foldl_cons, List.foldl_nil]

theorem mem_recordNames_iff (ds : List Declaration) (name : String) :
    name ∈ (ofDeclarations allow known ds).recordNames ↔
      ∃ d ∈ ds, known.cursorName? d = some name := by
  induction ds using List.reverseRecOn with
  | nil => simp [ofDeclarations, empty, recordNames]
  | append_singleton ds d ih =>
      rw [ofDeclarations_concat, recordNames_add]
      simp only [List.mem_append, List.mem_singleton, or_and_right, exists_or, exists_eq_left, ← ih]
      cases cursor : known.cursorName? d with
      | none => simp
      | some other =>
          by_cases inside : other ∈ (ofDeclarations allow known ds).recordNames
          · simp only [inside, if_true, Option.some.injEq]
            refine ⟨.inl, ?_⟩
            rintro (old | rfl)
            · exact old
            · exact inside
          · simp only [inside, if_false, List.mem_append, List.mem_singleton, Option.some.injEq,
              eq_comm]

theorem firstCursor_concat {ds : List Declaration} {name : String}
    (inside : name ∈ (ofDeclarations allow known ds).recordNames) (d : Declaration) :
    known.firstCursor (ds ++ [d]) name = known.firstCursor ds name ∧
      known.firstCursor ds name < ds.length := by
  obtain ⟨cursor, inDeclarations, same⟩ := (mem_recordNames_iff allow known ds name).mp inside
  have found : known.firstCursor ds name < ds.length :=
    List.findIdx_lt_length_of_exists ⟨cursor, inDeclarations, by simp [same]⟩
  refine ⟨?_, found⟩
  unfold Known.firstCursor at found ⊢
  rw [List.findIdx_append, if_pos found]

theorem length_le_firstCursor_concat {ds : List Declaration} {name : String}
    (fresh : name ∉ (ofDeclarations allow known ds).recordNames) (d : Declaration) :
    ds.length ≤ known.firstCursor (ds ++ [d]) name := by
  have absent : ds.findIdx (fun d => known.cursorName? d = some name) = ds.length := by
    apply List.findIdx_eq_length_of_false
    intro d' inDeclarations
    simp only [decide_eq_false_iff_not]
    intro same
    exact fresh ((mem_recordNames_iff allow known ds name).mpr ⟨d', inDeclarations, same⟩)
  unfold Known.firstCursor
  rw [List.findIdx_append, absent, if_neg (Nat.lt_irrefl _)]
  exact Nat.le_add_left _ _

/-- The records stand in the order of their first cursors. -/
theorem pairwise_names (ds : List Declaration) :
    (ofDeclarations allow known ds).recordNames.Pairwise
      fun earlier later => known.firstCursor ds earlier < known.firstCursor ds later := by
  induction ds using List.reverseRecOn with
  | nil => exact .nil
  | append_singleton ds d ih =>
      have before : (ofDeclarations allow known ds).recordNames.Pairwise fun earlier later =>
          known.firstCursor (ds ++ [d]) earlier < known.firstCursor (ds ++ [d]) later := by
        refine ih.imp_of_mem ?_
        intro earlier later inEarlier inLater lt
        rw [(firstCursor_concat allow known inEarlier d).1,
          (firstCursor_concat allow known inLater d).1]
        exact lt
      rw [ofDeclarations_concat, recordNames_add]
      cases cursor : known.cursorName? d with
      | none => exact before
      | some name =>
          simp only
          split
          · exact before
          · rename_i fresh
            refine List.pairwise_append.mpr ⟨before, List.pairwise_singleton _ _, ?_⟩
            intro earlier inEarlier later isNew
            obtain rfl := List.mem_singleton.mp isNew
            obtain ⟨same, lt⟩ := firstCursor_concat allow known inEarlier d
            rw [same]
            exact Nat.lt_of_lt_of_le lt (length_le_firstCursor_concat allow known fresh d)

end Passes

end Surface

end NativeVariants.Header
