import Mathlib.Data.List.Forall2
import NativeVariants.Proofs.Header.Completeness

set_option autoImplicit false

/-!
What the cursors of a record make of it. A record may be declared and defined many times, under its
tag or under the name of an alias. The first cursor makes the entry, which stays opaque until the
first definition gives it its fields; later cursors change nothing (`records_merged`).
-/

namespace NativeVariants.Header

/-! ### Cursors and the fields they define -/

namespace Child

def isField : Child → Bool
  | field .. => true
  | other => false

/-- The entry that a field gives, with a width if it is a bit field. -/
inductive Gives (known : Known) : Child → FieldEntry → Prop where
  | plain {name type width} :
      Gives known (.field name type false width) ⟨name, type.expression known, none⟩
  | bitField {name type width} :
      Gives known (.field name type true width) ⟨name, type.expression known, some width⟩

end Child

namespace Declaration

def isUnion : Declaration → Bool
  | record isUnion _ _ _ _ => isUnion
  | _ => false

def isDefinition : Declaration → Bool
  | record _ _ _ isDefinition _ => isDefinition
  | _ => false

def members : Declaration → List Member
  | record _ _ _ _ members => members
  | _ => []

end Declaration

/-- The cursors of the record that is known by a name. -/
def Known.cursors (known : Known) (ds : List Declaration) (name : String) : List Declaration :=
  ds.filter fun d => known.cursorName? d = some name

namespace Known

variable {known : Known} {ds : List Declaration} {d : Declaration} {name : String}

theorem cursors_concat (isCursor : known.cursorName? d = some name) :
    known.cursors (ds ++ [d]) name = known.cursors ds name ++ [d] := by
  unfold cursors
  rw [List.filter_append, List.filter_cons_of_pos (by simpa using isCursor), List.filter_nil]

theorem cursors_concat_of_ne (isOther : known.cursorName? d ≠ some name) :
    known.cursors (ds ++ [d]) name = known.cursors ds name := by
  unfold cursors
  rw [List.filter_append, List.filter_cons_of_neg (by simpa using isOther), List.filter_nil,
    List.append_nil]

end Known

/-- The entry of a record is what its cursors make of it. -/
structure RecordEntry.Merges (known : Known) (cursors : List Declaration) (r : RecordEntry) :
    Prop where
  isUnion : ∀ first ∈ cursors.head?, r.isUnion = first.isUnion
  isOpaque : r.isOpaque = true ↔ ∀ d ∈ cursors, d.isDefinition = false
  /-- Every field of the first definition has its entry, in order. -/
  fields : ∀ isUnion tag id children,
    cursors.find? (·.isDefinition) = some (.ofRecord isUnion tag id true children) →
      List.Forall₂ (Child.Gives known) (children.filter Child.isField) r.fields

theorem forall₂_fieldsOf (known : Known) (children : List Child) :
    List.Forall₂ (Child.Gives known) (children.filter Child.isField)
      (Surface.fieldsOf known (children.filterMap Child.member?)) := by
  induction children with
  | nil => exact .nil
  | cons child rest ih =>
      cases child with
      | field name type isBitField width =>
          refine .cons ?_ ih
          cases isBitField with
          | false => exact .plain
          | true => exact .bitField
      | other => exact ih

/-! ### One more cursor -/

namespace RecordEntry

/-- An entry after one more cursor. Only an opaque one can be defined. -/
def after (known : Known) (d : Declaration) (r : RecordEntry) : RecordEntry :=
  if d.isDefinition && r.isOpaque then
    { r with fields := Surface.fieldsOf known d.members, isOpaque := false }
  else r

variable {known : Known} {d : Declaration} {r : RecordEntry} {cursors : List Declaration}

@[simp]
theorem name_after : (r.after known d).name = r.name := by
  unfold after
  split
  · rfl
  · rfl

@[simp]
theorem isUnion_after : (r.after known d).isUnion = r.isUnion := by
  unfold after
  split
  · rfl
  · rfl

theorem isOpaque_after :
    (r.after known d).isOpaque = true ↔ r.isOpaque = true ∧ d.isDefinition = false := by
  unfold after
  split
  · rename_i completes
    simp [(Bool.and_eq_true_iff.mp completes).1]
  · rename_i stays
    rw [Bool.and_eq_true, not_and, Bool.not_eq_true] at stays
    refine (and_iff_left_of_imp fun isOpaque => ?_).symm
    rw [← Bool.not_eq_true]
    exact fun defines => by simp [stays defines] at isOpaque

/-- A new entry is what no cursor makes of it. -/
theorem Merges.fresh (known : Known) (name : String) (isUnion : Bool) :
    Merges known [] ⟨name, [], true, isUnion⟩ where
  isUnion _ isFirst := by cases isFirst
  isOpaque := by simp
  fields _ _ _ _ found := by cases found

theorem Merges.concat (merges : r.Merges known cursors)
    (isFirst : cursors = [] → r.isUnion = d.isUnion) :
    (r.after known d).Merges known (cursors ++ [d]) where
  isUnion first inside := by
    rw [isUnion_after]
    cases cursors with
    | nil =>
        cases inside
        exact isFirst rfl
    | cons c rest => exact merges.isUnion first inside
  isOpaque := by
    rw [isOpaque_after, merges.isOpaque]
    simp only [List.mem_append, List.mem_singleton, or_imp, forall_and, forall_eq]
  fields isUnion tag id children found := by
    cases defined : cursors.find? (·.isDefinition) with
    | some definition =>
        -- The record is defined already, so this cursor does not count.
        have notOpaque : r.isOpaque = false := by
          rw [← Bool.not_eq_true, merges.isOpaque]
          intro undefined
          have isDefinition := List.find?_some defined
          rw [undefined _ (List.mem_of_find?_eq_some defined)] at isDefinition
          cases isDefinition
        rw [List.find?_append, defined, Option.some_or] at found
        rw [after, notOpaque, Bool.and_false]
        exact merges.fields isUnion tag id children (defined.trans found)
    | none =>
        have isOpaque : r.isOpaque = true := by
          rw [merges.isOpaque]
          exact fun c inside => by simpa using List.find?_eq_none.mp defined c inside
        rw [List.find?_append, defined, Option.none_or] at found
        obtain rfl := List.mem_singleton.mp (List.mem_of_find?_eq_some found)
        rw [after, isOpaque]
        exact forall₂_fieldsOf known children

end RecordEntry

/-! ### The records of a surface -/

namespace Surface

variable {allow : Allowlist} {known : Known} {s : Surface}

theorem mem_records_addClass {name : String} {isUnion : Bool} {r : RecordEntry}
    (inside : r ∈ (s.addClass name isUnion).records) :
    r ∈ s.records ∨ name ∉ s.recordNames ∧ r = ⟨name, [], true, isUnion⟩ := by
  unfold addClass at inside
  split at inside
  · exact .inl inside
  · rename_i fresh
    rcases List.mem_append.mp inside with old | isNew
    · exact .inl old
    · exact .inr ⟨by simpa [recordNames] using fresh, List.mem_singleton.mp isNew⟩

theorem records_define {name : String} {d : Declaration} (defines : d.isDefinition = true)
    (nodup : s.recordNames.Nodup) :
    (s.define known name d.members).records =
      s.records.map fun r => if r.name = name then r.after known d else r := by
  unfold define
  split
  · rename_i isThere
    obtain ⟨entry, inside, isEntry⟩ := List.any_eq_true.mp isThere
    obtain ⟨rfl, isOpaque⟩ : entry.name = name ∧ entry.isOpaque = true := by simpa using isEntry
    refine List.map_congr_left fun r inRecords => ?_
    split
    · rename_i same
      obtain rfl := List.inj_on_of_nodup_map nodup inRecords inside same
      rw [RecordEntry.after, defines, isOpaque]
      rfl
    · rfl
  · rename_i nowhere
    have unchanged : ∀ r ∈ s.records, (if r.name = name then r.after known d else r) = r := by
      intro r inRecords
      split
      · rename_i same
        have notOpaque : r.isOpaque = false := by
          rw [← Bool.not_eq_true]
          intro isOpaque
          exact nowhere (List.any_eq_true.mpr ⟨r, inRecords, by simp [same, isOpaque]⟩)
        rw [RecordEntry.after, notOpaque, Bool.and_false]
        rfl
      · rfl
    rw [List.map_congr_left unchanged, List.map_id']

theorem nodup_ofDeclarations (allow : Allowlist) (known : Known) (ds : List Declaration) :
    (ofDeclarations allow known ds).recordNames.Nodup :=
  (pairwise_names allow known ds).imp fun {a b} lt same => by
    rw [same] at lt
    exact Nat.lt_irrefl _ lt

theorem filter_name_eq {records : List RecordEntry} (nodup : (records.map (·.name)).Nodup)
    {r : RecordEntry} (inside : r ∈ records) : records.filter (·.name = r.name) = [r] := by
  induction records with
  | nil => cases inside
  | cons entry rest ih =>
      obtain ⟨fresh, nodup⟩ := List.nodup_cons.mp nodup
      rcases List.mem_cons.mp inside with rfl | inRest
      · rw [List.filter_cons_of_pos (by simp), List.filter_eq_nil_iff.mpr]
        intro other inRest same
        exact fresh (List.mem_map.mpr ⟨other, inRest, of_decide_eq_true same⟩)
      · have differs : entry.name ≠ r.name :=
          fun same => fresh (List.mem_map.mpr ⟨r, inRest, same.symm⟩)
        rw [List.filter_cons_of_neg (by simpa using differs)]
        exact ih nodup inRest

/-- A cursor makes the entry of its record, if there is none, and then counts for it. -/
theorem records_add_of_cursor {d : Declaration} {name : String}
    (isCursor : known.cursorName? d = some name)
    (nodup : (s.add allow known d).recordNames.Nodup) :
    (s.add allow known d).records = (s.addClass name d.isUnion).records.map fun r =>
      if r.name = name then r.after known d else r := by
  cases d with
  | record isUnion tag id isDefinition members =>
      rw [Known.cursorName?] at isCursor
      split at isCursor
      · rename_i isKnown
        cases isCursor
        rw [add, addRecord] at nodup ⊢
        simp only [isKnown, if_true] at nodup ⊢
        cases isDefinition with
        | true =>
            rw [if_pos rfl, recordNames_define] at nodup
            exact records_define (d := .record isUnion tag id true members) rfl nodup
        | false =>
            symm
            simp only [RecordEntry.after, Declaration.isDefinition, Bool.false_and]
            exact List.map_id'' (fun r => ite_self r) _
      · cases isCursor
  | _ => cases isCursor

theorem cursors_eq_nil_iff (allow : Allowlist) {ds : List Declaration} {name : String} :
    known.cursors ds name = [] ↔ name ∉ (ofDeclarations allow known ds).recordNames := by
  rw [mem_recordNames_iff, Known.cursors, List.filter_eq_nil_iff]
  simp only [decide_eq_true_eq, not_exists, not_and]

/-- Every entry is what the cursors of its record make of it. -/
theorem merges_of_mem (allow : Allowlist) (known : Known) {ds : List Declaration}
    {r : RecordEntry} (inside : r ∈ (ofDeclarations allow known ds).records) :
    r.Merges known (known.cursors ds r.name) := by
  induction ds using List.reverseRecOn generalizing r with
  | nil => cases inside
  | append_singleton ds d ih =>
      have nodup := nodup_ofDeclarations allow known (ds ++ [d])
      rw [ofDeclarations_concat] at inside nodup
      cases isCursor : known.cursorName? d with
      | none =>
          rw [records_add_of_no_cursor isCursor] at inside
          rw [Known.cursors_concat_of_ne (by simp [isCursor])]
          exact ih inside
      | some name =>
          rw [records_add_of_cursor isCursor nodup] at inside
          obtain ⟨entry, wasInside, rfl⟩ := List.mem_map.mp inside
          by_cases same : entry.name = name
          · subst same
            rw [if_pos rfl, RecordEntry.name_after, Known.cursors_concat isCursor]
            rcases mem_records_addClass wasInside with old | ⟨fresh, isNew⟩
            · -- Its first cursor is among those that came before.
              exact (ih old).concat fun noCursors =>
                absurd (List.mem_map_of_mem old) ((cursors_eq_nil_iff allow).mp noCursors)
            · rw [(cursors_eq_nil_iff allow).mpr fresh, isNew]
              exact (RecordEntry.Merges.fresh known _ _).concat fun _ => rfl
          · rw [if_neg same, Known.cursors_concat_of_ne (by simpa [isCursor] using Ne.symm same)]
            rcases mem_records_addClass wasInside with old | ⟨_, isNew⟩
            · exact ih old
            · exact absurd (congrArg RecordEntry.name isNew) same

end Surface

/-- The records of a surface stand in the order of their first cursors. Each record that is known
and has a cursor is there once, as its cursors make it with all that the unit registers. -/
theorem records_merged (allow : Allowlist) (known : Known) (header : String) (u : HeaderUnit)
    (s : Surface) (yielded : (collectUnit allow known header u).surface = .ok s) :
    let registered := (collectUnit allow known header u).known
    (∀ name, name ∈ registered.records ↔
      name ∈ known.records ∨ ∃ d ∈ u.declarations, name ∈ d.registered allow) ∧
    (s.recordNames.Pairwise fun earlier later =>
      registered.firstCursor u.declarations earlier <
        registered.firstCursor u.declarations later) ∧
    ∀ name, registered.cursors u.declarations name ≠ [] → ∃ r,
      s.records.filter (·.name = name) = [r] ∧
      r.Merges registered (registered.cursors u.declarations name) := by
  intro registered
  obtain ⟨knownEq, surfaceEq⟩ := collectUnit_eq_ok yielded
  have isRegistered : ∀ name, name ∈ registered.records ↔
      name ∈ known.records ∨ ∃ d ∈ u.declarations, name ∈ d.registered allow := by
    intro name
    rw [show registered = _ from knownEq]
    exact mem_records_foldl_after allow known u.declarations name
  rw [← knownEq] at surfaceEq
  obtain rfl : s = Surface.ofDeclarations allow registered u.declarations := surfaceEq
  refine ⟨isRegistered, Surface.pairwise_names allow registered u.declarations,
    fun name hasCursors => ?_⟩
  rw [Ne, Surface.cursors_eq_nil_iff allow, not_not] at hasCursors
  obtain ⟨r, inside, rfl⟩ := List.mem_map.mp hasCursors
  exact ⟨r, Surface.filter_name_eq (Surface.nodup_ofDeclarations _ _ _) inside,
    Surface.merges_of_mem allow registered inside⟩

/-- A tensor that is declared, defined and declared again. It refers to a view that only comes
later, under the name of an alias. -/
def viewUnit : HeaderUnit where
  declarations :=
    [.ofRecord false "ggml_tensor" 1 false [],
      .ofRecord false "ggml_tensor" 1 true
        [.field "flags" (.scalar ⟨"unsigned int", .none⟩ .unsignedInt) true 4,
          .other,
          .field "view" (.pointer ⟨"ggml_view *", .none⟩ (.record ⟨"ggml_view", ⟨true, "", 2⟩⟩ 8))
            false (-1)],
      .ofRecord true "ggml_tensor" 1 false [],
      .ofRecord false "" 2 true [],
      .alias "ggml_view" (.record ⟨"ggml_view", ⟨true, "", 2⟩⟩ 8)]
  diagnostics := []

theorem viewUnit_merged :
    ∃ s r, (collectUnit .default .empty "ggml.h" viewUnit).surface = .ok s ∧
      s.records.filter (·.name = "ggml_tensor") = [r] ∧
      r.Merges (collectUnit .default .empty "ggml.h" viewUnit).known
        (viewUnit.declarations.take 3) ∧
      r.fields = [⟨"flags", .named "c_uint", some 4⟩,
        ⟨"view", .pointer (.named "ggml_view"), none⟩] := by
  have found : (collectUnit .default .empty "ggml.h" viewUnit).surface.toOption.map
      (·.records.filter (·.name = "ggml_tensor")) = some
        [⟨"ggml_tensor", [⟨"flags", .named "c_uint", some 4⟩,
          ⟨"view", .pointer (.named "ggml_view"), none⟩], false, false⟩] := by
    decide +kernel
  have known : (collectUnit .default .empty "ggml.h" viewUnit).known =
      ⟨["ggml_tensor", "ggml_view"], .ofList [(2, "ggml_view")]⟩ := by
    decide +kernel
  have cursors : (collectUnit .default .empty "ggml.h" viewUnit).known.cursors
      viewUnit.declarations "ggml_tensor" = viewUnit.declarations.take 3 := by
    rw [known]
    rfl
  obtain ⟨s, yielded, entries⟩ := exists_surface found
  obtain ⟨_, _, merged⟩ := records_merged .default .empty "ggml.h" viewUnit s yielded
  obtain ⟨r, only, merges⟩ := merged "ggml_tensor" (by rw [cursors]; exact List.cons_ne_nil _ _)
  rw [cursors] at merges
  obtain rfl := List.singleton_inj.mp (only.symm.trans entries)
  exact ⟨s, _, yielded, only, merges, rfl⟩

end NativeVariants.Header
