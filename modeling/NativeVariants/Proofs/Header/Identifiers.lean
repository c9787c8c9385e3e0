import NativeVariants.Bindings
import NativeVariants.Proofs.Header.RecordNaming

set_option autoImplicit false

/-!
The identifiers of the bindings. Each expression in a surface is that of a type in a declaration of
the unit. Its identifiers are imported or name the classes of record types, and in a well-named unit
every such class has a cursor and so is written (`identifiers_defined`).
-/

namespace NativeVariants.Header

def Expression.identifiers : Expression → List String
  | named name => [name]
  | pointer target => "POINTER" :: target.identifiers
  | array element _ => element.identifiers
  | unmapped _ => ["c_void_p"]

def IsGiven (name : String) : Prop := name = "None" ∨ name ∈ Bindings.imports

instance (name : String) : Decidable (IsGiven name) :=
  inferInstanceAs (Decidable (name = "None" ∨ name ∈ Bindings.imports))

/-- Each identifier of an expression is given or names the class of one of the record types. -/
def Expression.Resolves (known : Known) (heads : List TypeHead) (e : Expression) : Prop :=
  ∀ name ∈ e.identifiers, IsGiven name ∨ ∃ head ∈ heads, ∃ size,
    known.isKnown (.record head size) ∧ known.recordName (.record head size) = name

section Types

variable {known : Known} {heads : List TypeHead}

namespace Expression.Resolves

theorem of_given {name : String} (isGiven : IsGiven name) : (named name).Resolves known heads := by
  intro other inside
  rw [List.mem_singleton.mp inside]
  exact .inl isGiven

theorem pointer {e : Expression} (resolves : e.Resolves known heads) :
    e.pointer.Resolves known heads := by
  intro name inside
  rcases List.mem_cons.mp inside with rfl | below
  · exact .inl (by decide)
  · exact resolves name below

theorem array {e : Expression} (resolves : e.Resolves known heads) (count : Int) :
    (e.array count).Resolves known heads := resolves

theorem unmapped (spelling : String) : (unmapped spelling).Resolves known heads := by
  intro name inside
  rw [List.mem_singleton.mp inside]
  exact .inl (by decide)

end Expression.Resolves

open Expression (Resolves)

theorem isGiven_scalar (scalar : Scalar) : IsGiven scalar.expression := by
  cases scalar <;> decide

theorem recordHeads_canonical (t : CType) : t.canonical.recordHeads = t.recordHeads := by
  cases t <;> rfl

theorem resolves_pointerTo? {pointee : CType} {e : Expression}
    (found : pointerTo? known pointee = some e) : e.Resolves known heads := by
  have untyped : Expression.untypedPointer.Resolves known heads := .of_given (by decide)
  unfold pointerTo? at found
  split at found
  · cases found
    exact untyped
  · split at found
    · cases found
      exact .of_given (by decide)
    · cases found
  · cases found
    exact untyped
  · split at found
    · cases found
    · cases found
      exact untyped
  · cases found

theorem resolves_recordValue (spelling : String) (head : TypeHead) (size : Int) :
    (recordValue known spelling (.record head size) size).Resolves known [head] := by
  unfold recordValue
  split
  · rename_i isKnown
    intro name inside
    rw [List.mem_singleton.mp inside]
    exact .inr ⟨head, List.mem_singleton.mpr rfl, size, isKnown, rfl⟩
  · split
    · exact .array (.of_given (by decide)) size
    · exact .unmapped spelling

/-- Whatever a type is built of, its expression refers to no records but those in it. -/
theorem resolves_canonicalExpression (spelling : String) (t : CType) :
    (canonicalExpression known spelling t).Resolves known t.recordHeads := by
  fun_induction canonicalExpression known spelling t with
  | case1 spelling head scalar => exact .of_given (isGiven_scalar scalar)
  | case2 spelling head => exact .of_given (by decide)
  | case3 spelling head target pointee e found => exact resolves_pointerTo? found
  | case4 spelling head target pointee unfound ih =>
      rw [recordHeads_canonical, recordHeads_canonical] at ih
      exact ih.pointer
  | case5 spelling head element count ih =>
      rw [recordHeads_canonical] at ih
      exact ih.array count
  | case6 spelling head element ih =>
      rw [recordHeads_canonical] at ih
      exact ih.pointer
  | case7 spelling head size => exact resolves_recordValue spelling head size
  | case8 spelling head => exact .unmapped spelling
  | case9 spelling head => exact .unmapped spelling
  | case10 spelling head canonical => exact .unmapped spelling

theorem resolves_expression (t : CType) : (t.expression known).Resolves known t.recordHeads := by
  unfold CType.expression
  rw [← recordHeads_canonical t]
  exact resolves_canonicalExpression t.spelling t.canonical

end Types

namespace Surface

def expressions (s : Surface) : List Expression :=
  s.functions.flatMap (fun f => f.result :: f.parameters) ++
    s.records.flatMap (fun r => r.fields.map (·.type)) ++ s.aliases.map (·.type)

section Passes

variable {allow : Allowlist} {known : Known}

theorem expressions_addClass (name : String) (isUnion : Bool) (s : Surface) :
    (s.addClass name isUnion).expressions = s.expressions := by
  unfold addClass
  split
  · rfl
  · simp [expressions]

theorem mem_expressions_define {name : String} {members : List Member} {s : Surface}
    {e : Expression} (inside : e ∈ (s.define known name members).expressions) :
    e ∈ s.expressions ∨ ∃ m ∈ members, e = m.type.expression known := by
  unfold define at inside
  split at inside
  · simp only [expressions, List.mem_append, List.mem_flatMap, List.mem_map,
      exists_exists_and_eq_and] at inside ⊢
    rcases inside with (isSignature | ⟨r, isRecord, f, isField, rfl⟩) | isAlias
    · exact .inl (.inl (.inl isSignature))
    · split at isField
      · obtain ⟨m, isMember, rfl⟩ := List.mem_map.mp isField
        exact .inr ⟨m, isMember, rfl⟩
      · exact .inl (.inl (.inr ⟨r, isRecord, f, isField, rfl⟩))
    · exact .inl (.inr isAlias)
  · exact .inl inside

theorem mem_expressions_addFunction {name : String} {result : CType} {parameters : List CType}
    {isVariadic : Bool} {s : Surface} {e : Expression}
    (inside : e ∈ (s.addFunction allow known name result parameters isVariadic).expressions) :
    e ∈ s.expressions ∨ ∃ t ∈ result :: parameters, e = t.expression known := by
  unfold addFunction at inside
  split at inside
  · simp only [expressions, List.flatMap_append, List.flatMap_singleton, List.mem_append,
      List.mem_cons, List.mem_map, exists_eq_or_imp] at inside ⊢
    rcases inside with ((old | isResult | ⟨t, isParameter, rfl⟩) | isField) | isAlias
    · exact .inl (.inl (.inl old))
    · exact .inr (.inl isResult)
    · exact .inr (.inr ⟨t, isParameter, rfl⟩)
    · exact .inl (.inl (.inr isField))
    · exact .inl (.inr isAlias)
  · exact .inl inside

theorem mem_expressions_addRecord {isUnion isDefinition : Bool} {tag : String} {id : Int}
    {members : List Member} {s : Surface} {e : Expression}
    (inside : e ∈ (s.addRecord known isUnion tag id isDefinition members).expressions) :
    e ∈ s.expressions ∨ ∃ m ∈ members, e = m.type.expression known := by
  unfold addRecord at inside
  simp only at inside
  split at inside
  · split at inside
    · have added := mem_expressions_define inside
      rwa [expressions_addClass] at added
    · rw [expressions_addClass] at inside
      exact .inl inside
  · exact .inl inside

theorem mem_expressions_addAlias {name : String} {t : CType} {s : Surface} {e : Expression}
    (inside : e ∈ (s.addAlias allow known name t).expressions) :
    e ∈ s.expressions ∨ e = t.expression known := by
  unfold addAlias at inside
  split at inside
  · simp only [expressions, List.map_append, List.map_singleton, List.mem_append,
      List.mem_singleton] at inside ⊢
    rcases inside with earlier | old | new
    · exact .inl (.inl earlier)
    · exact .inl (.inr old)
    · exact .inr new
  · exact .inl inside

theorem mem_expressions_add {d : Declaration} {s : Surface} {e : Expression}
    (inside : e ∈ (s.add allow known d).expressions) :
    e ∈ s.expressions ∨ ∃ t ∈ d.types, e = t.expression known := by
  cases d with
  | define name tokens =>
      obtain ⟨constants, whole⟩ := addConstant_eq allow name tokens s
      rw [add, whole] at inside
      exact .inl inside
  | function name result parameters hasPrototype variadic =>
      exact mem_expressions_addFunction inside
  | record isUnion tag id isDefinition members =>
      rcases mem_expressions_addRecord inside with old | ⟨m, isMember, same⟩
      · exact .inl old
      · exact .inr ⟨m.type, List.mem_map.mpr ⟨m, isMember, rfl⟩, same⟩
  | enumeration name values =>
      obtain ⟨enums, constants, whole⟩ := addEnumeration_eq allow name (Table.ofList values) s
      rw [add, whole] at inside
      exact .inl inside
  | «alias» name t =>
      rcases mem_expressions_addAlias inside with old | same
      · exact .inl old
      · exact .inr ⟨t, List.mem_singleton.mpr rfl, same⟩
  | other => exact .inl inside

variable (allow known)

theorem mem_expressions (ds : List Declaration) {e : Expression}
    (inside : e ∈ (ofDeclarations allow known ds).expressions) :
    ∃ d ∈ ds, ∃ t ∈ d.types, e = t.expression known := by
  induction ds using List.reverseRecOn with
  | nil => cases inside
  | append_singleton ds d ih =>
      rw [ofDeclarations_concat] at inside
      rcases mem_expressions_add inside with old | ⟨t, isType, same⟩
      · obtain ⟨d', inDeclarations, rest⟩ := ih old
        exact ⟨d', List.mem_append_left _ inDeclarations, rest⟩
      · exact ⟨d, List.mem_append_right _ (List.mem_singleton.mpr rfl), t, isType, same⟩

/-- In a well-named unit every class that an expression names is one of the surface. -/
theorem mem_recordNames_of_mem_identifiers {ds : List Declaration} (wellNamed : WellNamed ds)
    (registered : known.Registered ds) {e : Expression}
    (inside : e ∈ (ofDeclarations allow known ds).expressions) {name : String}
    (occurs : name ∈ e.identifiers) :
    IsGiven name ∨ name ∈ (ofDeclarations allow known ds).recordNames := by
  obtain ⟨d, inDeclarations, t, isType, rfl⟩ := mem_expressions allow known ds inside
  rcases resolves_expression t name occurs with isGiven | ⟨head, isHead, size, isKnown, rfl⟩
  · exact .inl isGiven
  · have isMentioned : head ∈ ds.flatMap Declaration.recordHeads :=
      List.mem_flatMap.mpr ⟨d, inDeclarations, List.mem_flatMap.mpr ⟨t, isType, isHead⟩⟩
    exact .inr ((mem_recordNames_iff allow known ds _).mpr
      (wellNamed.exists_cursor registered isMentioned isKnown))

end Passes

end Surface

theorem classLines_infix {s : Surface} {r : RecordEntry} (inside : r ∈ s.records)
    (source : String) : Bindings.classLines r <:+: Bindings.lines s source := by
  have inPart : ∀ heading lines, lines <:+: Bindings.part heading lines := by
    intro heading lines
    unfold Bindings.part
    split
    · rename_i isEmpty
      obtain rfl := List.isEmpty_iff.mp isEmpty
      exact List.infix_rfl
    · exact List.infix_append_right
  have inClasses : Bindings.classLines r <:+: s.records.flatMap Bindings.classLines := by
    obtain ⟨earlier, later, records⟩ := List.append_of_mem inside
    rw [records, List.flatMap_append, List.flatMap_cons]
    exact List.infix_append' _ _ _
  unfold Bindings.lines
  -- What is written after the classes, layouts and functions among it, is dropped part by part.
  iterate 4 refine List.IsInfix.trans ?_ List.infix_append_left
  exact inClasses.trans ((inPart "# Structures" _).trans List.infix_append_right)

/-- In the bindings of a well-named unit every identifier of an expression is imported, or it is the
name of a record whose class is written. -/
theorem identifiers_defined
    (allow : Allowlist) (header : String) (u : HeaderUnit) (wellNamed : WellNamed u.declarations)
    (s : Surface) (yielded : (collectUnit allow .empty header u).surface = .ok s)
    (source : String) :
    ∀ e ∈ s.expressions, ∀ name ∈ e.identifiers,
      name = "None" ∨ name ∈ Bindings.imports ∨
        ∃ r ∈ s.records, r.name = name ∧ Bindings.classLines r <:+: Bindings.lines s source := by
  intro e inside name occurs
  obtain ⟨_, rfl⟩ := collectUnit_eq_ok yielded
  have registered := Known.Registered.foldl allow u.declarations
  rcases Surface.mem_recordNames_of_mem_identifiers allow _ wellNamed registered inside occurs with
    (isNone | isImported) | isRecordName
  · exact .inl isNone
  · exact .inr (.inl isImported)
  · obtain ⟨r, isRecord, same⟩ := List.mem_map.mp isRecordName
    exact .inr (.inr ⟨r, isRecord, same, classLines_infix isRecord source⟩)

/-- A record without a tag that two aliases name and a tensor that refers to it, to itself and to
an unknown record. -/
def aliasedUnit : HeaderUnit where
  declarations :=
    let row : CType := .record ⟨"ggml_row", ⟨true, "", 1⟩⟩ 4
    let tensor : CType := .record ⟨"struct ggml_tensor", ⟨true, "ggml_tensor", 3⟩⟩ 24
    let context : CType := .record ⟨"struct context", ⟨true, "context", 4⟩⟩ 0
    let pointerTo : CType → CType := .pointer ⟨"", .none⟩
    [.record false "ggml_tensor" 2 false [],
      .record false "" 1 true [⟨"n", .scalar ⟨"int", .none⟩ .int, none⟩],
      .alias "ggml_row" (.sugar ⟨"struct ggml_row", .none⟩ row),
      .alias "ggml_line" (.sugar ⟨"ggml_row", .none⟩ row),
      .record false "ggml_tensor" 3 true
        [⟨"rows", .array ⟨"ggml_line[2]", .none⟩ row 2, none⟩,
          ⟨"next", pointerTo tensor, none⟩,
          ⟨"owner", pointerTo context, none⟩],
      .function "ggml_row_of" (pointerTo row) [pointerTo tensor] true false]
  diagnostics := []

theorem identifiers_aliasedUnit :
    WellNamed aliasedUnit.declarations ∧
      ∃ s, (collectUnit .default .empty "ggml.h" aliasedUnit).surface = .ok s ∧
        s.recordNames = ["ggml_tensor", "ggml_line"] ∧
        ∀ e ∈ s.expressions, ∀ name ∈ e.identifiers,
          name = "None" ∨ name ∈ Bindings.imports ∨
            ∃ r ∈ s.records, r.name = name ∧
              Bindings.classLines r <:+: Bindings.lines s "ggml.h" := by
  have wellNamed : WellNamed aliasedUnit.declarations :=
    ⟨by decide +kernel, by decide +kernel, by decide +kernel, by decide +kernel⟩
  have found : (collectUnit .default .empty "ggml.h" aliasedUnit).surface.toOption.map
      (·.records) = some
        [⟨"ggml_tensor",
            [⟨"rows", .array (.named "ggml_line") 2, none⟩,
              ⟨"next", .pointer (.named "ggml_tensor"), none⟩,
              ⟨"owner", .named "c_void_p", none⟩], false, false⟩,
          ⟨"ggml_line", [⟨"n", .named "c_int", none⟩], false, false⟩] := by
    decide +kernel
  obtain ⟨s, yielded, records⟩ := exists_surface found
  refine ⟨wellNamed, s, yielded, ?_, ?_⟩
  · rw [Surface.recordNames, records]
    rfl
  · exact identifiers_defined _ _ _ wellNamed s yielded "ggml.h"

end NativeVariants.Header
