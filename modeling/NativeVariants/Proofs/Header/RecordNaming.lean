import NativeVariants.Proofs.Header.RecordOrder

set_option autoImplicit false

/-!
The names of records. The first pass goes by tags and by aliases of records without one, a cursor is
known by its declaration, and a type also by its spelling. In a unit as C has it all of them agree:
the name of a record type that has a class is the name of a cursor (`WellNamed.exists_cursor`).
-/

namespace NativeVariants.Header

def CType.recordHeads : CType → List TypeHead
  | sugar _ canonical => canonical.recordHeads
  | pointer _ target => target.recordHeads
  | array _ element _ => element.recordHeads
  | openArray _ element => element.recordHeads
  | record head _ => [head]
  | _ => []

/-- A name of a record, by its declaration. A tag names all declarations of a record, any other name
just the one. -/
structure Naming where
  id : Int
  name : String
  isTag : Bool
  deriving DecidableEq, Repr

namespace Declaration

def types : Declaration → List CType
  | function _ result parameters _ _ => result :: parameters
  | record _ _ _ _ members => members.map (·.type)
  | «alias» _ t => [t]
  | _ => []

def recordHeads (d : Declaration) : List TypeHead := d.types.flatMap CType.recordHeads

def cursor? : Declaration → Option Declared
  | record _ tag id _ _ => some ⟨true, tag, id⟩
  | _ => none

/-- The record without a tag that an alias lends its name, and that name. -/
def lent? : Declaration → Option (Declared × String)
  | «alias» name t =>
      let declared := t.canonical.head.declared
      if declared.isRecord && isUntagged declared.name then some (declared, name) else none
  | _ => none

def references (d : Declaration) : List Declared :=
  d.cursor?.toList ++ d.lent?.toList.map (·.1) ++ d.recordHeads.map (·.declared)

/-- The names that a declaration gives to records. A cursor without a spelling gives none. -/
def namings (d : Declaration) : List Naming :=
  (d.cursor?.toList.filter (·.name ≠ "")).map (fun c => ⟨c.id, c.name, !isUntagged c.name⟩) ++
    d.lent?.toList.map (fun lent => ⟨lent.1.id, lent.2, false⟩) ++
    d.recordHeads.map fun head => ⟨head.declared.id, head.ownName, !isUntagged head.declared.name⟩

end Declaration

/-- The records of a unit are named as C and its readers name them. -/
structure WellNamed (ds : List Declaration) : Prop where
  /-- A declaration has one spelling. -/
  spelled : ∀ a ∈ ds.flatMap Declaration.references, ∀ b ∈ ds.flatMap Declaration.references,
    a.id = b.id → a.name = b.name
  /-- An alias and a record type have a name. -/
  named : ∀ naming ∈ ds.flatMap Declaration.namings, naming.name ≠ ""
  /-- Two records have no name in common. -/
  distinct : ∀ a ∈ ds.flatMap Declaration.namings, ∀ b ∈ ds.flatMap Declaration.namings,
    a.name = b.name → a.id = b.id ∨ a.isTag ∧ b.isTag
  /-- A record without a tag that an alias names is itself a declaration of the unit. -/
  present : ∀ lent ∈ ds.filterMap Declaration.lent?, ∃ c ∈ ds.filterMap Declaration.cursor?,
    c.id = lent.1.id

/-- What is known about records stems from the declarations. -/
structure Known.Registered (ds : List Declaration) (known : Known) : Prop where
  /-- A name is a tag, or an alias lends it to a record that goes by the name of an alias. -/
  records : ∀ name ∈ known.records,
    (∃ c ∈ ds.filterMap Declaration.cursor?, c.name = name) ∨
      ∃ lent ∈ ds.filterMap Declaration.lent?,
        lent.2 = name ∧ (known.anonymous.get? lent.1.id).isSome
  /-- A name that stands for a declaration is known, and an alias lends it. -/
  anonymous : ∀ id name, known.anonymous.get? id = some name →
    name ∈ known.records ∧
      ∃ lent ∈ ds.filterMap Declaration.lent?, lent.1.id = id ∧ lent.2 = name

namespace Known

variable {ds : List Declaration} {known : Known}

theorem mem_addRecord {name other : String} :
    other ∈ (known.addRecord name).records ↔ other ∈ known.records ∨ other = name := by
  unfold addRecord
  split
  · rename_i inside
    constructor
    · exact .inl
    · rintro (old | rfl)
      · exact old
      · exact inside
  · simp

@[simp]
theorem anonymous_addRecord (name : String) :
    (known.addRecord name).anonymous = known.anonymous := by
  unfold addRecord
  split
  · rfl
  · rfl

namespace Registered

theorem empty : Known.empty.Registered [] where
  records _ inside := absurd inside List.not_mem_nil
  anonymous id _ found := by
    rw [Known.empty] at found
    cases found

theorem concat (registered : known.Registered ds) (d : Declaration) :
    known.Registered (ds ++ [d]) where
  records name inside := by
    simp only [List.filterMap_append, List.mem_append]
    rcases registered.records name inside with ⟨c, isCursor, same⟩ | ⟨lent, isLent, same⟩
    · exact .inl ⟨c, .inl isCursor, same⟩
    · exact .inr ⟨lent, .inl isLent, same⟩
  anonymous id name found := by
    obtain ⟨inside, lent, isLent, same⟩ := registered.anonymous id name found
    refine ⟨inside, lent, ?_, same⟩
    rw [List.filterMap_append]
    exact List.mem_append_left _ isLent

theorem addRecord {d : Declaration} {c : Declared} (registered : known.Registered ds)
    (inside : d ∈ ds) (isCursor : d.cursor? = some c) : (known.addRecord c.name).Registered ds where
  records name isKnown := by
    rw [anonymous_addRecord]
    rcases mem_addRecord.mp isKnown with old | rfl
    · exact registered.records name old
    · exact .inl ⟨c, List.mem_filterMap.mpr ⟨d, inside, isCursor⟩, rfl⟩
  anonymous id name found := by
    rw [anonymous_addRecord] at found
    obtain ⟨isKnown, lent⟩ := registered.anonymous id name found
    exact ⟨mem_addRecord.mpr (.inl isKnown), lent⟩

theorem lend {d : Declaration} {declared : Declared} {name : String}
    (registered : known.Registered ds) (inside : d ∈ ds)
    (isLent : d.lent? = some (declared, name)) :
    ({ known with anonymous := known.anonymous.set declared.id name }.addRecord name).Registered
      ds where
  records other isKnown := by
    have lends := List.mem_filterMap.mpr ⟨d, inside, isLent⟩
    simp only [anonymous_addRecord, Table.get?_set]
    rcases mem_addRecord.mp isKnown with old | rfl
    · rcases registered.records other old with isTag | ⟨lent, earlier, same, isThere⟩
      · exact .inl isTag
      · refine .inr ⟨lent, earlier, same, ?_⟩
        split
        · rfl
        · exact isThere
    · exact .inr ⟨_, lends, rfl, by simp⟩
  anonymous id other found := by
    have lends := List.mem_filterMap.mpr ⟨d, inside, isLent⟩
    simp only [anonymous_addRecord, Table.get?_set] at found
    split at found
    · rename_i same
      cases found
      exact ⟨mem_addRecord.mpr (.inr rfl), _, lends, same.symm, rfl⟩
    · obtain ⟨isKnown, lent⟩ := registered.anonymous id other found
      exact ⟨mem_addRecord.mpr (.inl isKnown), lent⟩

theorem after (allow : Allowlist) (registered : known.Registered ds) (d : Declaration) :
    (known.after allow d).Registered (ds ++ [d]) := by
  have still := registered.concat d
  have inside : d ∈ ds ++ [d] := List.mem_append_right _ (List.mem_singleton.mpr rfl)
  cases d with
  | record isUnion tag id isDefinition members =>
      simp only [Known.after]
      split
      · exact still.addRecord inside rfl
      · exact still
  | «alias» name t =>
      simp only [Known.after, Known.addAlias]
      split
      · split
        · rename_i isUnnamed
          exact still.lend inside (if_pos isUnnamed)
        · exact still
      · exact still
  | _ => exact still

theorem foldl (allow : Allowlist) (ds : List Declaration) :
    (ds.foldl (Known.after allow) .empty).Registered ds := by
  induction ds using List.reverseRecOn with
  | nil => exact .empty
  | append_singleton ds d ih =>
      rw [List.foldl_append]
      exact ih.after allow d

end Registered

end Known

theorem cursorName?_of_cursor? {known : Known} {d : Declaration} {c : Declared} {name : String}
    (isCursor : d.cursor? = some c) (declaredName : known.declaredName c.name c.id = name)
    (isKnown : name ∈ known.records) : known.cursorName? d = some name := by
  cases d with
  | record isUnion tag id isDefinition members =>
      cases isCursor
      subst declaredName
      exact if_pos isKnown
  | _ => cases isCursor

theorem isUntagged_of_lent? {d : Declaration} {lent : Declared × String}
    (isLent : d.lent? = some lent) : isUntagged lent.1.name = true := by
  cases d with
  | «alias» name t =>
      simp only [Declaration.lent?] at isLent
      split at isLent
      · rename_i isUnnamed
        cases isLent
        exact (Bool.and_eq_true_iff.mp isUnnamed).2
      · cases isLent
  | _ => cases isLent

namespace WellNamed

variable {ds : List Declaration} {known : Known}

theorem naming_of_lent {lent : Declared × String} (inside : lent ∈ ds.filterMap Declaration.lent?) :
    ⟨lent.1.id, lent.2, false⟩ ∈ ds.flatMap Declaration.namings := by
  obtain ⟨d, inDeclarations, isLent⟩ := List.mem_filterMap.mp inside
  refine List.mem_flatMap.mpr ⟨d, inDeclarations, ?_⟩
  simp [Declaration.namings, isLent]

theorem naming_of_cursor {c : Declared} (inside : c ∈ ds.filterMap Declaration.cursor?)
    (spelled : c.name ≠ "") :
    ⟨c.id, c.name, !isUntagged c.name⟩ ∈ ds.flatMap Declaration.namings := by
  obtain ⟨d, inDeclarations, isCursor⟩ := List.mem_filterMap.mp inside
  refine List.mem_flatMap.mpr ⟨d, inDeclarations, ?_⟩
  simp [Declaration.namings, isCursor, spelled]

theorem naming_of_head {head : TypeHead} (inside : head ∈ ds.flatMap Declaration.recordHeads) :
    ⟨head.declared.id, head.ownName, !isUntagged head.declared.name⟩ ∈
      ds.flatMap Declaration.namings := by
  obtain ⟨d, inDeclarations, isHead⟩ := List.mem_flatMap.mp inside
  refine List.mem_flatMap.mpr ⟨d, inDeclarations, List.mem_append_right _ ?_⟩
  exact List.mem_map.mpr ⟨head, isHead, rfl⟩

/-- A name that a record without a tag has is none of a record type that no alias names. -/
theorem ownName_ne (wellNamed : WellNamed ds) {head : TypeHead}
    (inside : head ∈ ds.flatMap Declaration.recordHeads)
    (unlent : known.anonymous.get? head.declared.id = none) {id : Int} {name : String}
    (naming : ⟨id, name, false⟩ ∈ ds.flatMap Declaration.namings)
    (isThere : (known.anonymous.get? id).isSome) : head.ownName ≠ name := by
  intro same
  rcases wellNamed.distinct _ (naming_of_head inside) _ naming same with sameId | ⟨_, isTag⟩
  · simp only at sameId
    rw [← sameId, unlent] at isThere
    cases isThere
  · cases isTag

theorem isUntagged_cursor (wellNamed : WellNamed ds) (registered : known.Registered ds)
    {c : Declared} (isCursor : c ∈ ds.filterMap Declaration.cursor?) {name : String}
    (lentName : known.anonymous.get? c.id = some name) : isUntagged c.name = true := by
  obtain ⟨_, lent, isLent, sameId, _⟩ := registered.anonymous _ _ lentName
  obtain ⟨d, inDeclarations, declared⟩ := List.mem_filterMap.mp isCursor
  obtain ⟨d', inDeclarations', lends⟩ := List.mem_filterMap.mp isLent
  have cursorRefers : c ∈ ds.flatMap Declaration.references :=
    List.mem_flatMap.mpr ⟨d, inDeclarations, by simp [Declaration.references, declared]⟩
  have aliasRefers : lent.1 ∈ ds.flatMap Declaration.references :=
    List.mem_flatMap.mpr ⟨d', inDeclarations', by simp [Declaration.references, lends]⟩
  rw [← wellNamed.spelled _ aliasRefers _ cursorRefers sameId]
  exact isUntagged_of_lent? lends

/-- A type that goes by the name of an alias shares it with the cursor of its declaration. -/
theorem exists_cursor_of_lent (wellNamed : WellNamed ds) (registered : known.Registered ds)
    {id : Int} {name : String} (lentName : known.anonymous.get? id = some name) :
    name ≠ "" ∧ ∃ d ∈ ds, known.cursorName? d = some name := by
  obtain ⟨isKnown, lent, isLent, sameId, sameName⟩ := registered.anonymous _ _ lentName
  refine ⟨sameName ▸ wellNamed.named _ (naming_of_lent isLent), ?_⟩
  obtain ⟨c, isCursor, cursorId⟩ := wellNamed.present lent isLent
  obtain ⟨d, inDeclarations, isDeclared⟩ := List.mem_filterMap.mp isCursor
  refine ⟨d, inDeclarations, cursorName?_of_cursor? isDeclared ?_ isKnown⟩
  simp [Known.declaredName, cursorId, sameId, lentName]

/-- A type that no alias names shares its own name with a cursor, if it is known. -/
theorem exists_cursor_of_unlent (wellNamed : WellNamed ds) (registered : known.Registered ds)
    {head : TypeHead} (inside : head ∈ ds.flatMap Declaration.recordHeads)
    (unlent : known.anonymous.get? head.declared.id = none)
    (isKnown : head.ownName ∈ known.records) :
    ∃ d ∈ ds, known.cursorName? d = some head.ownName := by
  rcases registered.records _ isKnown with
    ⟨c, isCursor, sameName⟩ | ⟨lent, isLent, sameName, isThere⟩
  · obtain ⟨d, inDeclarations, isDeclared⟩ := List.mem_filterMap.mp isCursor
    refine ⟨d, inDeclarations, cursorName?_of_cursor? isDeclared ?_ isKnown⟩
    cases lentToCursor : known.anonymous.get? c.id with
    | none => simp [Known.declaredName, lentToCursor, sameName]
    | some name =>
        -- An alias names the cursor, so the tag is only the spelling of a record without one.
        have spelled : c.name ≠ "" := sameName ▸ wellNamed.named _ (naming_of_head inside)
        have naming := naming_of_cursor isCursor spelled
        rw [wellNamed.isUntagged_cursor registered isCursor lentToCursor] at naming
        exact absurd sameName.symm
          (wellNamed.ownName_ne inside unlent naming (by rw [lentToCursor]; rfl))
  · exact absurd sameName.symm
      (wellNamed.ownName_ne inside unlent (naming_of_lent isLent) isThere)

theorem exists_cursor (wellNamed : WellNamed ds) (registered : known.Registered ds)
    {head : TypeHead} (inside : head ∈ ds.flatMap Declaration.recordHeads) {size : Int}
    (isKnown : known.isKnown (.record head size)) :
    ∃ d ∈ ds, known.cursorName? d = some (known.recordName (.record head size)) := by
  have isRecord : known.recordName (.record head size) ∈ known.records := by
    simpa [Known.isKnown] using isKnown
  cases lentName : known.anonymous.get? head.declared.id with
  | some name =>
      obtain ⟨nonempty, cursor⟩ := wellNamed.exists_cursor_of_lent registered lentName
      have typeName : known.recordName (.record head size) = name := by
        simp [Known.recordName, CType.head, lentName, nonempty]
      rwa [typeName]
  | none =>
      have typeName : known.recordName (.record head size) = head.ownName := by
        simp [Known.recordName, CType.head, lentName]
      rw [typeName] at isRecord ⊢
      exact wellNamed.exists_cursor_of_unlent registered inside lentName isRecord

end WellNamed

end NativeVariants.Header
