import Mathlib.Tactic.Tauto
import NativeVariants.Proofs.Header.RecordNaming
import NativeVariants.Proofs.Tables

set_option autoImplicit false

/-!
Which accepted names a surface has. A name is there if a declaration offers it at its place
(`mem_names_ofDeclarations_iff`). Functions, enumerations and the aliases of other types than
records without a tag are never lost; what may be lost are the names of records and the enumerators
of an enumeration that was declared before (`names_complete_iff`).
-/

namespace NativeVariants.Header

def enumerationNames (ds : List Declaration) : List String :=
  ds.filterMap fun d =>
    match d with
    | .enumeration name _ => some name
    | _ => none

namespace Declaration

/-- The names of a declaration that an allowlist accepts. The enumerators go with their
enumeration. -/
def claimed (allow : Allowlist) : Declaration → List String
  | function name _ _ _ _ => if isAccepted (allow.acceptsFunction name) then [name] else []
  | record _ tag _ _ _ => if isAccepted (allow.acceptsType tag) then [tag] else []
  | enumeration name values =>
      if isAccepted (allow.acceptsType name) then name :: values.map (·.1) else []
  | «alias» name _ => if isAccepted (allow.acceptsType name) then [name] else []
  | _ => []

def registered (allow : Allowlist) : Declaration → List String
  | record _ tag _ _ _ => if isAccepted (allow.acceptsType tag) then [tag] else []
  | d@(«alias» name _) =>
      if isAccepted (allow.acceptsType name) && d.lent?.isSome then [name] else []
  | _ => []

/-- The names that a declaration adds to a surface, or finds in it, if it comes after others. -/
def offers (allow : Allowlist) (known : Known) (before : List Declaration) :
    Declaration → List String
  | define name tokens =>
      if isAccepted (allow.acceptsConstant name) then
        match definedValue tokens with
        | .ok (some _) => [name]
        | _ => []
      else []
  | function name _ _ _ _ => if isAccepted (allow.acceptsFunction name) then [name] else []
  | enumeration name values =>
      if isAccepted (allow.acceptsType name) then
        if name ∈ enumerationNames before then [] else name :: values.map (·.1)
      else (values.map (·.1)).filter fun key => isAccepted (allow.acceptsConstant key)
  | «alias» name _ =>
      if isAccepted (allow.acceptsType name) && name ∉ known.records then [name] else []
  | d => (known.cursorName? d).toList

end Declaration

/-- Some declaration offers the name at its place. -/
def Offered (allow : Allowlist) (known : Known) (ds : List Declaration) (name : String) : Prop :=
  ∃ before d after, ds = before ++ d :: after ∧ name ∈ d.offers allow known before

theorem isAccepted_acceptsTag (allow : Allowlist) (name : String) :
    isAccepted (acceptsTag allow name) = isAccepted (allow.acceptsType name) := by
  unfold acceptsTag
  split
  · rename_i none
    subst none
    unfold Allowlist.acceptsType Allowlist.accepts
    cases Allowlist.compile allow.types with
    | error failure => rfl
    | ok p? =>
        cases p? with
        | none => rfl
        | some p => rfl
  · rfl

namespace Surface

variable {allow : Allowlist} {known : Known} {s : Surface} {ds : List Declaration}

theorem mem_names_iff {name : String} :
    name ∈ s.names ↔
      name ∈ s.constants.keys ∨ name ∈ (s.enums.flatMap fun e => e.name :: e.values.keys) ∨
        name ∈ s.recordNames ∨ name ∈ s.aliases.map (·.name) ∨ name ∈ s.functions.map (·.name) := by
  simp only [names, recordNames, List.mem_append, or_assoc]

theorem mem_or_mem_singleton {names : List String} {name : String} (already : name ∈ names)
    (other : String) : other ∈ names ∨ other ∈ [name] ↔ other ∈ names := by
  refine or_iff_left_of_imp fun inside => ?_
  rwa [List.mem_singleton.mp inside]

theorem mem_names_of_constants {constants : Table String Datum} {added : List String}
    (grown : ∀ key, key ∈ constants.keys ↔ key ∈ s.constants.keys ∨ key ∈ added) (other : String) :
    other ∈ { s with constants }.names ↔ other ∈ s.names ∨ other ∈ added := by
  have records : { s with constants }.recordNames = s.recordNames := rfl
  rw [mem_names_iff, mem_names_iff, grown, records, or_assoc, or_assoc]
  exact or_congr_right or_comm

theorem mem_names_addConstant (name : String) (tokens : List String) (before : List Declaration)
    (other : String) :
    other ∈ (s.addConstant allow name tokens).names ↔
      other ∈ s.names ∨ other ∈ (Declaration.define name tokens).offers allow known before := by
  unfold addConstant Declaration.offers
  by_cases accepted : isAccepted (allow.acceptsConstant name) = true
  · simp only [accepted, Bool.true_and, if_true]
    cases definedValue tokens with
    | error fault => simp
    | ok value? =>
        cases value? with
        | none => simp
        | some value =>
            by_cases there : s.constants.contains name = true
            · have already : name ∈ s.names :=
                mem_names_iff.mpr (.inl (Table.mem_keys_iff.mpr there))
              simp only [there, Bool.not_true, Bool.false_eq_true, if_false,
                mem_or_mem_singleton already]
            · simp only [there, Bool.not_false, if_true]
              refine mem_names_of_constants (fun key => ?_) other
              rw [Table.mem_keys_set, List.mem_singleton, or_comm]
  · simp [accepted]

theorem mem_names_addFunction (name : String) (result : CType) (parameters : List CType)
    (isVariadic : Bool) (other : String) :
    other ∈ (s.addFunction allow known name result parameters isVariadic).names ↔
      other ∈ s.names ∨
        other ∈ if isAccepted (allow.acceptsFunction name) then [name] else [] := by
  unfold addFunction
  by_cases accepted : isAccepted (allow.acceptsFunction name) = true
  · by_cases there : s.functions.any (·.name = name) = true
    · have already : name ∈ s.names := by
        simp only [List.any_eq_true, decide_eq_true_eq] at there
        simp only [mem_names_iff, List.mem_map, there, or_true]
      simp only [accepted, there, Bool.not_true, Bool.and_false, Bool.false_eq_true, if_false,
        if_true, mem_or_mem_singleton already]
    · simp only [accepted, there, Bool.not_false, Bool.and_true, if_true, mem_names_iff,
        recordNames, List.map_append, List.mem_append, List.map_singleton, or_assoc]
  · simp [accepted]

theorem addClass_eq (name : String) (isUnion : Bool) (s : Surface) :
    ∃ records, s.addClass name isUnion = { s with records } := by
  unfold addClass
  split
  · exact ⟨s.records, rfl⟩
  · exact ⟨_, rfl⟩

theorem define_eq (known : Known) (name : String) (members : List Member) (s : Surface) :
    ∃ records, s.define known name members = { s with records } := by
  unfold define
  split
  · exact ⟨_, rfl⟩
  · exact ⟨s.records, rfl⟩

theorem addRecord_eq (known : Known) (isUnion : Bool) (tag : String) (id : Int)
    (isDefinition : Bool) (members : List Member) (s : Surface) :
    ∃ records, s.addRecord known isUnion tag id isDefinition members = { s with records } := by
  obtain ⟨declared, hasClass⟩ := addClass_eq (known.declaredName tag id) isUnion s
  unfold addRecord
  simp only [hasClass]
  split
  · split
    · exact define_eq known _ members { s with records := declared }
    · exact ⟨declared, rfl⟩
  · exact ⟨s.records, rfl⟩

theorem mem_recordNames_add (allow : Allowlist) (known : Known) (d : Declaration) (s : Surface)
    (name : String) :
    name ∈ (s.add allow known d).recordNames ↔
      name ∈ s.recordNames ∨ known.cursorName? d = some name := by
  rw [recordNames_add]
  cases known.cursorName? d with
  | none => simp
  | some other =>
      simp only [Option.some.injEq]
      split
      · rename_i there
        refine (or_iff_left_of_imp ?_).symm
        rintro rfl
        exact there
      · rw [List.mem_append, List.mem_singleton, eq_comm]

theorem mem_names_addRecord (isUnion : Bool) (tag : String) (id : Int) (isDefinition : Bool)
    (members : List Member) (before : List Declaration) (other : String) :
    other ∈ (s.addRecord known isUnion tag id isDefinition members).names ↔
      other ∈ s.names ∨ other ∈
        (Declaration.record isUnion tag id isDefinition members).offers allow known before := by
  have grown :=
    mem_recordNames_add allow known (.record isUnion tag id isDefinition members) s other
  rw [add] at grown
  obtain ⟨records, whole⟩ := addRecord_eq known isUnion tag id isDefinition members s
  rw [whole] at grown ⊢
  simp only [mem_names_iff, grown, Declaration.offers, Option.mem_toList]
  tauto

theorem mem_names_foldl_addValue (entries : List (String × Datum)) (other : String) :
    other ∈ (entries.foldl (addValue allow) s).names ↔
      other ∈ s.names ∨ other ∈ entries.map (·.1) ∧ isAccepted (allow.acceptsConstant other) := by
  induction entries generalizing s with
  | nil => simp
  | cons entry rest ih =>
      rw [List.foldl_cons, ih, addValue, List.map_cons, List.mem_cons]
      by_cases accepted : isAccepted (allow.acceptsConstant entry.1) = true
      · have grown : ∀ key, key ∈ (s.constants.setNew entry.1 entry.2).keys ↔
            key ∈ s.constants.keys ∨ key ∈ [entry.1] := fun key => by
          rw [Table.mem_keys_setNew, List.mem_singleton, or_comm]
        rw [if_pos accepted, mem_names_of_constants grown, List.mem_singleton, or_and_right,
          or_assoc]
        refine or_congr_right (or_congr_left ?_)
        constructor
        · rintro rfl
          exact ⟨rfl, accepted⟩
        · exact And.left
      · rw [if_neg accepted, or_and_right]
        refine or_congr_right (or_iff_right ?_).symm
        rintro ⟨rfl, taken⟩
        exact accepted taken

theorem mem_names_addEnumeration (name : String) (values : List (String × Datum))
    (before : List Declaration)
    (met : s.enums.any (·.name = name) = true ↔
      isAccepted (allow.acceptsType name) ∧ name ∈ enumerationNames before) (other : String) :
    other ∈ (s.addEnumeration allow name (Table.ofList values)).names ↔
      other ∈ s.names ∨
        other ∈ (Declaration.enumeration name values).offers allow known before := by
  unfold addEnumeration Declaration.offers
  rw [isAccepted_acceptsTag]
  by_cases accepted : isAccepted (allow.acceptsType name) = true
  · simp only [accepted, true_and] at met
    by_cases there : name ∈ enumerationNames before
    · simp [accepted, met.mpr there, there]
    · have fresh := mt met.mp there
      simp only [accepted, fresh, there, if_true, Bool.false_eq_true, if_false, mem_names_iff,
        recordNames, List.flatMap_append, List.flatMap_singleton, List.mem_append, List.mem_cons,
        Table.mem_keys_ofList]
      tauto
  · simp only [accepted, Bool.false_eq_true, if_false]
    rw [mem_names_foldl_addValue, List.mem_filter]
    exact or_congr_right (and_congr_left fun _ => Table.mem_keys_ofList)

theorem mem_names_addAlias (name : String) (t : CType) (before : List Declaration)
    (other : String) :
    other ∈ (s.addAlias allow known name t).names ↔
      other ∈ s.names ∨ other ∈ (Declaration.alias name t).offers allow known before := by
  unfold addAlias Declaration.offers
  by_cases accepted : isAccepted (allow.acceptsType name) = true
  · by_cases isRecord : name ∈ known.records
    · simp [accepted, isRecord]
    · simp only [accepted, isRecord, not_false_eq_true, decide_true, decide_false, Bool.and_self,
        Bool.or_false, if_true, Bool.true_and]
      by_cases there : (s.aliases.any (·.name = name) || s.enums.any (·.name = name)) = true
      · have already : name ∈ s.names := by
          simp only [Bool.or_eq_true, List.any_eq_true, decide_eq_true_eq] at there
          rw [mem_names_iff]
          rcases there with ⟨a, isAlias, rfl⟩ | ⟨e, isEnum, same⟩
          · exact .inr (.inr (.inr (.inl (List.mem_map_of_mem isAlias))))
          · exact .inr (.inl (List.mem_flatMap.mpr ⟨e, isEnum, by simp [same]⟩))
        simp only [there, Bool.not_true, Bool.false_eq_true, if_false,
          mem_or_mem_singleton already]
      · simp only [there, Bool.not_false, if_true, mem_names_iff, recordNames, List.map_append,
          List.mem_append, List.map_singleton]
        tauto
  · simp [accepted]

theorem mem_names_add (before : List Declaration) (d : Declaration)
    (met : ∀ name, s.enums.any (·.name = name) = true ↔
      isAccepted (allow.acceptsType name) ∧ name ∈ enumerationNames before) (other : String) :
    other ∈ (s.add allow known d).names ↔
      other ∈ s.names ∨ other ∈ d.offers allow known before := by
  cases d with
  | define name tokens => exact mem_names_addConstant name tokens before other
  | function name result parameters hasPrototype variadic =>
      exact mem_names_addFunction name result parameters _ other
  | record isUnion tag id isDefinition members =>
      exact mem_names_addRecord isUnion tag id isDefinition members before other
  | enumeration name values => exact mem_names_addEnumeration name values before (met name) other
  | «alias» name t => exact mem_names_addAlias name t before other
  | other => simp [add, Declaration.offers, Known.cursorName?]

theorem any_enums_add (d : Declaration) (name : String) :
    (s.add allow known d).enums.any (·.name = name) = true ↔
      s.enums.any (·.name = name) = true ∨
        isAccepted (allow.acceptsType name) ∧ name ∈ enumerationNames [d] := by
  cases d with
  | define other tokens =>
      obtain ⟨constants, whole⟩ := addConstant_eq allow other tokens s
      rw [add, whole]
      simp [enumerationNames]
  | function other result parameters hasPrototype variadic =>
      have same : (s.addFunction allow known other result parameters
          (hasPrototype && variadic)).enums = s.enums := by
        unfold addFunction
        split <;> rfl
      rw [add, same]
      simp [enumerationNames]
  | record isUnion tag id isDefinition members =>
      obtain ⟨records, whole⟩ := addRecord_eq known isUnion tag id isDefinition members s
      rw [add, whole]
      simp [enumerationNames]
  | enumeration other values =>
      have only : name ∈ enumerationNames [.enumeration other values] ↔ name = other := by
        simp [enumerationNames]
      rw [add, addEnumeration, isAccepted_acceptsTag, only]
      by_cases accepted : isAccepted (allow.acceptsType other) = true
      · rw [if_pos accepted]
        split
        · rename_i there
          refine (or_iff_left_of_imp ?_).symm
          rintro ⟨_, rfl⟩
          exact there
        · rw [List.any_append, Bool.or_eq_true]
          refine or_congr_right ?_
          constructor
          · intro isNew
            obtain rfl : other = name := by simpa using isNew
            exact ⟨accepted, rfl⟩
          · rintro ⟨_, rfl⟩
            simp
      · obtain ⟨constants, whole⟩ := foldl_addValue_eq allow (Table.ofList values).entries s
        rw [if_neg accepted, whole]
        refine (or_iff_left_of_imp ?_).symm
        rintro ⟨taken, rfl⟩
        exact absurd taken accepted
  | «alias» other t =>
      have same : (s.addAlias allow known other t).enums = s.enums := by
        unfold addAlias
        split <;> rfl
      rw [add, same]
      simp [enumerationNames]
  | other => simp [add, enumerationNames]

variable (allow known)

theorem any_enums_iff (ds : List Declaration) (name : String) :
    (ofDeclarations allow known ds).enums.any (·.name = name) = true ↔
      isAccepted (allow.acceptsType name) ∧ name ∈ enumerationNames ds := by
  induction ds using List.reverseRecOn with
  | nil => simp [ofDeclarations, empty, enumerationNames]
  | append_singleton ds d ih =>
      have parts : enumerationNames (ds ++ [d]) = enumerationNames ds ++ enumerationNames [d] :=
        List.filterMap_append
      rw [ofDeclarations_concat, any_enums_add, ih, parts, List.mem_append, and_or_left]

theorem mem_names_of_enumeration {ds : List Declaration} {name : String}
    (accepted : isAccepted (allow.acceptsType name)) (declared : name ∈ enumerationNames ds) :
    name ∈ (ofDeclarations allow known ds).names := by
  have there := (any_enums_iff allow known ds name).mpr ⟨accepted, declared⟩
  simp only [List.any_eq_true, decide_eq_true_eq] at there
  obtain ⟨e, inEnums, rfl⟩ := there
  exact mem_names_iff.mpr (.inr (.inl (List.mem_flatMap.mpr ⟨e, inEnums, List.mem_cons_self⟩)))

end Surface

theorem offered_concat (allow : Allowlist) (known : Known) (ds : List Declaration)
    (d : Declaration) (name : String) :
    Offered allow known (ds ++ [d]) name ↔
      Offered allow known ds name ∨ name ∈ d.offers allow known ds := by
  constructor
  · rintro ⟨before, d', after, split, offered⟩
    rcases List.eq_nil_or_concat after with rfl | ⟨rest, last, rfl⟩
    · obtain ⟨rfl, same⟩ := List.append_inj' split rfl
      cases same
      exact .inr offered
    · rw [List.concat_eq_append, ← List.cons_append, ← List.append_assoc] at split
      obtain ⟨rfl, _⟩ := List.append_inj' split rfl
      exact .inl ⟨before, d', rest, rfl, offered⟩
  · rintro (⟨before, d', after, rfl, offered⟩ | offered)
    · exact ⟨before, d', after ++ [d], by simp, offered⟩
    · exact ⟨ds, d, [], rfl, offered⟩

/-- A surface has the names that its declarations offer and no others. -/
theorem Surface.mem_names_ofDeclarations_iff (allow : Allowlist) (known : Known)
    (ds : List Declaration) (name : String) :
    name ∈ (ofDeclarations allow known ds).names ↔ Offered allow known ds name := by
  induction ds using List.reverseRecOn with
  | nil =>
      constructor
      · intro inside
        cases inside
      · rintro ⟨before, d, after, split, _⟩
        simp at split
  | append_singleton ds d ih =>
      rw [ofDeclarations_concat, mem_names_add ds d (any_enums_iff allow known ds), ih,
        offered_concat]

theorem mem_records_after {allow : Allowlist} {known : Known} (d : Declaration) (name : String) :
    name ∈ (known.after allow d).records ↔ name ∈ known.records ∨ name ∈ d.registered allow := by
  cases d with
  | record isUnion tag id isDefinition members =>
      rw [Known.after, Declaration.registered]
      split
      · rw [Known.mem_addRecord, List.mem_singleton]
      · simp
  | «alias» other t =>
      rw [Known.after, Declaration.registered, Known.addAlias, Declaration.lent?]
      by_cases accepted : isAccepted (allow.acceptsType other) = true
      · by_cases untagged : (t.canonical.head.declared.isRecord &&
            isUntagged t.canonical.head.declared.name) = true
        · simp [accepted, untagged, Known.mem_addRecord]
        · simp [accepted, untagged]
      · simp [accepted]
  | _ => simp [Known.after, Declaration.registered]

theorem mem_records_foldl_after (allow : Allowlist) (known : Known) (ds : List Declaration)
    (name : String) :
    name ∈ (ds.foldl (Known.after allow) known).records ↔
      name ∈ known.records ∨ ∃ d ∈ ds, name ∈ d.registered allow := by
  induction ds generalizing known with
  | nil => simp
  | cons d rest ih =>
      rw [List.foldl_cons, ih, mem_records_after, or_assoc]
      simp only [List.mem_cons, exists_eq_or_imp]

theorem Declaration.claimed_of_registered {allow : Allowlist} {d : Declaration} {name : String}
    (isRegistered : name ∈ d.registered allow) : name ∈ d.claimed allow := by
  cases d with
  | record isUnion tag id isDefinition members => exact isRegistered
  | «alias» other t =>
      rw [registered] at isRegistered
      rw [claimed]
      split at isRegistered
      · rename_i both
        rw [if_pos (Bool.and_eq_true_iff.mp both).1]
        exact isRegistered
      · cases isRegistered
  | _ => cases isRegistered

/-- An accepted name is offered where it is declared, unless it stands for a record or belongs to an
enumeration that was declared before. -/
theorem Declaration.claimed_cases {allow : Allowlist} (known : Known) (before : List Declaration)
    {d : Declaration} {name : String} (isClaimed : name ∈ d.claimed allow) :
    name ∈ d.offers allow known before ∨ name ∈ d.registered allow ∨ name ∈ known.records ∨
      ∃ other values, d = .enumeration other values ∧ isAccepted (allow.acceptsType other) ∧
        other ∈ enumerationNames before ∧ (name = other ∨ name ∈ values.map (·.1)) := by
  cases d with
  | function other result parameters hasPrototype variadic => exact .inl isClaimed
  | record isUnion tag id isDefinition members => exact .inr (.inl isClaimed)
  | enumeration other values =>
      rw [claimed] at isClaimed
      split at isClaimed
      · rename_i accepted
        by_cases repeated : other ∈ enumerationNames before
        · refine .inr (.inr (.inr ⟨other, values, rfl, accepted, repeated, ?_⟩))
          exact List.mem_cons.mp isClaimed
        · left
          rw [offers, if_pos accepted, if_neg repeated]
          exact isClaimed
      · cases isClaimed
  | «alias» other t =>
      rw [claimed] at isClaimed
      split at isClaimed
      · rename_i accepted
        obtain rfl := List.mem_singleton.mp isClaimed
        by_cases isKnown : name ∈ known.records
        · exact .inr (.inr (.inl isKnown))
        · left
          rw [offers, accepted, decide_eq_true isKnown]
          exact List.mem_singleton_self name
      · cases isClaimed
  | _ => cases isClaimed

/-- Nothing that was accepted is lost exactly if every name that stands for a record is offered, and
every enumerator of an enumeration that was declared before. -/
theorem names_complete_iff (allow : Allowlist) (header : String) (u : HeaderUnit) (s : Surface)
    (yielded : (collectUnit allow .empty header u).surface = .ok s) :
    (∀ d ∈ u.declarations, ∀ name ∈ d.claimed allow, name ∈ s.names) ↔
      (∀ d ∈ u.declarations, ∀ name ∈ d.registered allow,
        Offered allow (collectUnit allow .empty header u).known u.declarations name) ∧
      ∀ before name values after, u.declarations = before ++ .enumeration name values :: after →
        isAccepted (allow.acceptsType name) → name ∈ enumerationNames before →
        ∀ key ∈ values.map (·.1),
          Offered allow (collectUnit allow .empty header u).known u.declarations key := by
  obtain ⟨knownEq, surfaceEq⟩ := collectUnit_eq_ok yielded
  have isRecord : ∀ name, name ∈ (collectUnit allow .empty header u).known.records →
      ∃ d ∈ u.declarations, name ∈ d.registered allow := by
    intro name isKnown
    rw [knownEq, mem_records_foldl_after] at isKnown
    exact isKnown.resolve_left List.not_mem_nil
  rw [← knownEq] at surfaceEq
  generalize (collectUnit allow .empty header u).known = known at isRecord surfaceEq ⊢
  have there : ∀ name, name ∈ s.names ↔ Offered allow known u.declarations name := by
    rw [surfaceEq]
    exact Surface.mem_names_ofDeclarations_iff allow known u.declarations
  simp only [there]
  constructor
  · intro complete
    constructor
    · exact fun d inside name isRegistered =>
        complete d inside name (Declaration.claimed_of_registered isRegistered)
    · intro before name values after split accepted _ key isKey
      have inside : .enumeration name values ∈ u.declarations := by
        rw [split]
        exact List.mem_append_right _ List.mem_cons_self
      refine complete _ inside key ?_
      rw [Declaration.claimed, if_pos accepted]
      exact List.mem_cons_of_mem name isKey
  · rintro ⟨recordsOffered, enumeratorsOffered⟩ d inside name isClaimed
    obtain ⟨before, after, split⟩ := List.append_of_mem inside
    rcases Declaration.claimed_cases known before isClaimed with offered | isRegistered | isKnown |
      ⟨other, values, rfl, accepted, repeated, rfl | isKey⟩
    · exact ⟨before, d, after, split, offered⟩
    · exact recordsOffered d inside name isRegistered
    · -- Another declaration may have registered the name.
      obtain ⟨registering, inDeclarations, isRegistered⟩ := isRecord name isKnown
      exact recordsOffered registering inDeclarations name isRegistered
    · have declared : name ∈ enumerationNames u.declarations :=
        List.mem_filterMap.mpr ⟨_, inside, rfl⟩
      rw [← there, surfaceEq]
      exact Surface.mem_names_of_enumeration allow known accepted declared
    · exact enumeratorsOffered before other values after split accepted repeated name isKey

/-- Two aliases of one record without a tag: the later one names the record, and the earlier one is
taken for the name of a class. -/
example :
    let t : CType := .record ⟨"struct ggml_unnamed", ⟨true, "", 1⟩⟩ 4
    let ds : List Declaration :=
      [.record false "" 1 true [], .alias "ggml_first" t, .alias "ggml_second" t]
    (collectUnit .default .empty "ggml.h" ⟨ds, []⟩).surface.toOption.map Surface.names =
      some ["ggml_second"] := by
  decide +kernel

/-- A definition of an enumeration, with what may come before it. -/
def typeUnit (opening : List Declaration) : HeaderUnit where
  declarations := opening ++ [.enumeration "ggml_type" [("GGML_TYPE_F32", .int 0)]]
  diagnostics := []

/-- Defined once, the enumeration has its enumerators. -/
theorem typeUnit_complete :
    ∃ s, (collectUnit .default .empty "ggml.h" (typeUnit [])).surface = .ok s ∧
      ((∀ d ∈ (typeUnit []).declarations, ∀ name ∈ d.claimed .default, name ∈ s.names) ↔
        (∀ d ∈ (typeUnit []).declarations, ∀ name ∈ d.registered .default,
          Offered .default (collectUnit .default .empty "ggml.h" (typeUnit [])).known
            (typeUnit []).declarations name) ∧
        ∀ before name values after,
          (typeUnit []).declarations = before ++ .enumeration name values :: after →
          isAccepted (Allowlist.default.acceptsType name) → name ∈ enumerationNames before →
          ∀ key ∈ values.map (·.1),
            Offered .default (collectUnit .default .empty "ggml.h" (typeUnit [])).known
              (typeUnit []).declarations key) ∧
      ∀ d ∈ (typeUnit []).declarations, ∀ name ∈ d.claimed .default, name ∈ s.names := by
  have found : (collectUnit .default .empty "ggml.h" (typeUnit [])).surface.toOption.map
      Surface.names = some ["ggml_type", "GGML_TYPE_F32"] := by
    decide +kernel
  obtain ⟨s, yielded, names⟩ := exists_surface found
  refine ⟨s, yielded, names_complete_iff _ _ _ s yielded, ?_⟩
  rw [names]
  decide +kernel

/-- Declared in advance, the enumeration loses the enumerators of its definition. -/
theorem forwardDeclared_incomplete :
    let u := typeUnit [.enumeration "ggml_type" []]
    ∃ s, (collectUnit .default .empty "ggml.h" u).surface = .ok s ∧
      ∃ d ∈ u.declarations, ∃ name ∈ d.claimed .default, name ∉ s.names := by
  have found : (collectUnit .default .empty "ggml.h"
      (typeUnit [.enumeration "ggml_type" []])).surface.toOption.map Surface.names =
        some ["ggml_type"] := by
    decide +kernel
  obtain ⟨s, yielded, names⟩ := exists_surface found
  have claimed : "GGML_TYPE_F32" ∈
      (Declaration.enumeration "ggml_type" [("GGML_TYPE_F32", .int 0)]).claimed .default := by
    decide +kernel
  refine ⟨s, yielded, _, List.mem_append_right _ List.mem_cons_self, _, claimed, ?_⟩
  rw [names]
  decide

end NativeVariants.Header
