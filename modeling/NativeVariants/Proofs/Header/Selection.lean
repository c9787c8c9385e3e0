import NativeVariants.Proofs.Header.Completeness

set_option autoImplicit false

/-!
What a surface is made of: accepted names, each once. What is known about records outlives a unit,
also one that fails, and every name of it was accepted when it was registered
(`isAccepted_afterUnits`). A unit that yields a surface takes the names of its records from there and
checks all the others itself.
-/

namespace NativeVariants.Header

structure IsSelection (accepts : String → Except Failure Bool) (names : List String) : Prop where
  nodup : names.Nodup
  accepted : ∀ name ∈ names, accepts name = .ok true

/-- The names of every kind are accepted ones, and each occurs once. -/
structure Surface.IsSelected (allow : Allowlist) (s : Surface) : Prop where
  functions : IsSelection allow.acceptsFunction (s.functions.map (·.name))
  records : IsSelection allow.acceptsType s.recordNames
  enums : IsSelection allow.acceptsType (s.enums.map (·.name))
  aliases : IsSelection allow.acceptsType (s.aliases.map (·.name))
  constants : IsSelection allow.acceptsConstant s.constants.keys
  /-- No alias has the name of a record. -/
  disjoint : ∀ name ∈ s.aliases.map (·.name), name ∉ s.recordNames

/-- What is known after some units, each with its header, were read one after another. -/
def Known.afterUnits (allow : Allowlist) (units : List (String × HeaderUnit)) : Known :=
  units.foldl (fun known (header, u) => (collectUnit allow known header u).known) .empty

theorem eq_ok_of_isAccepted {checked : Except Failure Bool} (accepted : isAccepted checked = true) :
    checked = .ok true := by
  cases checked with
  | error failure => cases accepted
  | ok b =>
      cases b with
      | false => cases accepted
      | true => rfl

theorem IsSelection.nil (accepts : String → Except Failure Bool) : IsSelection accepts [] :=
  ⟨List.nodup_nil, fun _ inside => absurd inside List.not_mem_nil⟩

theorem IsSelection.concat {accepts : String → Except Failure Bool} {names : List String}
    {name : String} (selection : IsSelection accepts names) (fresh : name ∉ names)
    (accepted : isAccepted (accepts name) = true) : IsSelection accepts (names ++ [name]) where
  nodup := by
    rw [← List.concat_eq_append]
    exact List.Nodup.concat fresh selection.nodup
  accepted := by
    intro other inside
    rcases List.mem_append.mp inside with old | isNew
    · exact selection.accepted other old
    · rw [List.mem_singleton.mp isNew]
      exact eq_ok_of_isAccepted accepted

/-! ### What is known about records -/

/-- The name of every record that is known was accepted. -/
def Known.IsAccepted (allow : Allowlist) (known : Known) : Prop :=
  ∀ name ∈ known.records, allow.acceptsType name = .ok true

namespace Known

variable {allow : Allowlist} {known : Known}

theorem IsAccepted.after (accepted : known.IsAccepted allow) (d : Declaration) :
    (known.after allow d).IsAccepted allow := by
  intro name inside
  rcases (mem_records_after d name).mp inside with old | isNew
  · exact accepted name old
  · cases d with
    | record isUnion tag id isDefinition members =>
        rw [Declaration.registered] at isNew
        split at isNew
        · rename_i isAccepted
          rw [List.mem_singleton.mp isNew]
          exact eq_ok_of_isAccepted isAccepted
        · cases isNew
    | «alias» other t =>
        rw [Declaration.registered] at isNew
        split at isNew
        · rename_i both
          rw [List.mem_singleton.mp isNew]
          exact eq_ok_of_isAccepted (Bool.and_eq_true_iff.mp both).1
        · cases isNew
    | _ => cases isNew

theorem IsAccepted.foldl (accepted : known.IsAccepted allow) (ds : List Declaration) :
    (ds.foldl (Known.after allow) known).IsAccepted allow := by
  induction ds generalizing known with
  | nil => exact accepted
  | cons d rest ih => exact ih (accepted.after d)

end Known

section Steps

variable {allow : Allowlist}

def Progress.StaysAccepted (allow : Allowlist) (p p' : Progress) : Prop :=
  p.known.IsAccepted allow → p'.known.IsAccepted allow

instance (allow : Allowlist) : IsPreorder Progress (Progress.StaysAccepted allow) where
  refl _ := id
  trans _ _ _ first second := second ∘ first

/-- The first pass over a declaration registers it, whether or not the name could be checked. -/
theorem known_register (d : Declaration) (p : Progress) :
    (runFrom (register allow d) p).2.known = p.known.after allow d := by
  cases d with
  | record isUnion tag id isDefinition members =>
      simp only [register, Known.after, runFrom_bind, runFrom_ofExcept]
      rcases allow.acceptsType tag with failure | _ | _ <;> rfl
  | «alias» name t =>
      simp only [register, Known.after, runFrom_bind, runFrom_ofExcept]
      rcases allow.acceptsType name with failure | _ | _ <;> rfl
  | _ => rfl

theorem respects_register (d : Declaration) :
    Respects (Progress.StaysAccepted allow) (register allow d) := by
  intro p accepted
  rw [known_register]
  exact accepted.after d

theorem respects_modifySurface (f : Surface → Surface) :
    Respects (Progress.StaysAccepted allow) (Collect.modifySurface f) := fun _ => id

theorem respects_express (t : CType) :
    Respects (Progress.StaysAccepted allow) (Collect.express t) := fun _ => id

/-- The second pass finds out nothing about records. -/
theorem respects_collect (d : Declaration) :
    Respects (Progress.StaysAccepted allow) (collect allow d) := by
  cases d with
  | define name tokens =>
      refine (respects_ofExcept _).bind fun _ => .ite (fun _ => ?_) fun _ => respects_pure _
      refine respects_get.bind fun _ => .ite (fun _ => ?_) fun _ => respects_pure _
      split
      · exact respects_throw _
      · exact respects_pure _
      · exact respects_modifySurface _
  | function name result parameters hasPrototype variadic =>
      refine (respects_ofExcept _).bind fun _ => .ite (fun _ => ?_) fun _ => respects_pure _
      refine respects_get.bind fun _ => .ite (fun _ => ?_) fun _ => respects_pure _
      exact (respects_mapM fun t _ => respects_express t).bind fun _ =>
        (respects_express result).bind fun _ => respects_modifySurface _
  | record isUnion tag id isDefinition members =>
      refine respects_get.bind fun _ => .ite (fun _ => ?_) fun _ => respects_pure _
      have declared (name : String) :
          Respects (Progress.StaysAccepted allow) (collectClass name isUnion) :=
        respects_get.bind fun _ => .ite (fun _ => respects_modifySurface _) fun _ => respects_pure _
      have fields : Respects (Progress.StaysAccepted allow) (collectFields members) :=
        respects_mapM fun m _ => (respects_express m.type).bind fun _ => respects_pure _
      have defined (name : String) :
          Respects (Progress.StaysAccepted allow) (collectDefinition name members) :=
        respects_get.bind fun _ =>
          .ite (fun _ => fields.bind fun _ => respects_modifySurface _) fun _ => respects_pure _
      exact (declared _).bind fun _ => .ite (fun _ => defined _) fun _ => respects_pure _
  | enumeration name values =>
      refine (respects_ofExcept _).bind fun _ => .ite (fun _ => ?_) fun _ => ?_
      · exact respects_get.bind fun _ =>
          .ite (fun _ => respects_modifySurface _) fun _ => respects_pure _
      · refine respects_forM fun entry _ => (respects_ofExcept _).bind fun _ => ?_
        exact .ite (fun _ => respects_modifySurface _) fun _ => respects_pure _
  | «alias» name t =>
      refine (respects_ofExcept _).bind fun _ => .ite (fun _ => ?_) fun _ => respects_pure _
      refine respects_get.bind fun _ => .ite (fun _ => ?_) fun _ => respects_pure _
      exact (respects_express t).bind fun _ => respects_modifySurface _
  | other => exact respects_pure _

/-- A unit leaves nothing known but accepted records, even if it fails. -/
theorem Known.IsAccepted.collectUnit {known : Known} (accepted : known.IsAccepted allow)
    (header : String) (u : HeaderUnit) :
    (Header.collectUnit allow known header u).known.IsAccepted allow := by
  have steps : Respects (Progress.StaysAccepted allow) (do
      ofExcept (reported (checkDiagnostics header u.diagnostics))
      u.declarations.forM (register allow)
      u.declarations.forM (collect allow)) :=
    (respects_ofExcept _).bind fun _ =>
      (respects_forM fun d _ => respects_register d).bind fun _ =>
        respects_forM fun d _ => respects_collect d
  exact steps ⟨known, .empty, []⟩ accepted

theorem isAccepted_afterUnits (allow : Allowlist) (units : List (String × HeaderUnit)) :
    (Known.afterUnits allow units).IsAccepted allow := by
  induction units using List.reverseRecOn with
  | nil => exact fun _ inside => absurd inside List.not_mem_nil
  | append_singleton units last ih =>
      rw [Known.afterUnits, List.foldl_append]
      exact ih.collectUnit last.1 last.2

end Steps

/-! ### The second pass -/

/-- What the second pass has collected: selected names, where those of records are known ones and
those of aliases are not. -/
structure Surface.IsCollected (allow : Allowlist) (known : Known) (s : Surface) : Prop where
  functions : IsSelection allow.acceptsFunction (s.functions.map (·.name))
  records : s.recordNames.Nodup
  registered : ∀ name ∈ s.recordNames, name ∈ known.records
  enums : IsSelection allow.acceptsType (s.enums.map (·.name))
  aliases : IsSelection allow.acceptsType (s.aliases.map (·.name))
  unknown : ∀ name ∈ s.aliases.map (·.name), name ∉ known.records
  constants : ∀ key ∈ s.constants.keys, allow.acceptsConstant key = .ok true

namespace Surface.IsCollected

variable {allow : Allowlist} {known : Known} {s : Surface}

theorem empty : Surface.empty.IsCollected allow known where
  functions := .nil _
  records := List.nodup_nil
  registered _ inside := absurd inside List.not_mem_nil
  enums := .nil _
  aliases := .nil _
  unknown _ inside := absurd inside List.not_mem_nil
  constants _ inside := absurd inside List.not_mem_nil

theorem setConstants {constants : Table String Datum} (collected : s.IsCollected allow known)
    (accepted : ∀ key ∈ constants.keys, allow.acceptsConstant key = .ok true) :
    { s with constants }.IsCollected allow known :=
  { collected with constants := accepted }

theorem addConstant (collected : s.IsCollected allow known) (name : String)
    (tokens : List String) : (s.addConstant allow name tokens).IsCollected allow known := by
  unfold Surface.addConstant
  split
  · rename_i wanted
    split
    · apply collected.setConstants
      intro key inside
      rcases Table.mem_keys_set.mp inside with rfl | old
      · exact eq_ok_of_isAccepted (Bool.and_eq_true_iff.mp wanted).1
      · exact collected.constants key old
    · exact collected
  · exact collected

theorem addFunction (collected : s.IsCollected allow known) (name : String) (result : CType)
    (parameters : List CType) (isVariadic : Bool) :
    (s.addFunction allow known name result parameters isVariadic).IsCollected allow known := by
  unfold Surface.addFunction
  split
  · rename_i wanted
    simp only [Bool.and_eq_true, Bool.not_eq_true'] at wanted
    have fresh : name ∉ s.functions.map (·.name) := by simpa using wanted.2
    refine { collected with functions := ?_ }
    rw [List.map_append]
    exact collected.functions.concat fresh wanted.1
  · exact collected

theorem addAlias (collected : s.IsCollected allow known) (name : String) (t : CType) :
    (s.addAlias allow known name t).IsCollected allow known := by
  unfold Surface.addAlias
  split
  · rename_i wanted
    simp only [Bool.and_eq_true, Bool.not_eq_true', Bool.or_eq_false_iff,
      decide_eq_false_iff_not] at wanted
    obtain ⟨accepted, ⟨unused, noRecord⟩, _⟩ := wanted
    have fresh : name ∉ s.aliases.map (·.name) := by simpa using unused
    refine { collected with aliases := ?_, unknown := ?_ }
    · rw [List.map_append]
      exact collected.aliases.concat fresh accepted
    · intro other inside
      rw [List.map_append] at inside
      rcases List.mem_append.mp inside with old | isNew
      · exact collected.unknown other old
      · rw [List.mem_singleton.mp isNew]
        exact noRecord
  · exact collected

theorem addValue (collected : s.IsCollected allow known) (entry : String × Datum) :
    (s.addValue allow entry).IsCollected allow known := by
  unfold Surface.addValue
  split
  · rename_i accepted
    apply collected.setConstants
    intro key inside
    rcases Table.mem_keys_setNew.mp inside with rfl | old
    · exact eq_ok_of_isAccepted accepted
    · exact collected.constants key old
  · exact collected

theorem addEnumeration (collected : s.IsCollected allow known) (name : String)
    (values : Table String Datum) :
    (s.addEnumeration allow name values).IsCollected allow known := by
  unfold Surface.addEnumeration
  split
  · rename_i accepted
    rw [isAccepted_acceptsTag] at accepted
    split
    · exact collected
    · rename_i unused
      have fresh : name ∉ s.enums.map (·.name) := by simpa using unused
      refine { collected with enums := ?_ }
      rw [List.map_append]
      exact collected.enums.concat fresh accepted
  · have fold (entries : List (String × Datum)) :
        (entries.foldl (Surface.addValue allow) s).IsCollected allow known := by
      induction entries using List.reverseRecOn with
      | nil => exact collected
      | append_singleton entries entry ih =>
          rw [List.foldl_append]
          exact ih.addValue entry
    exact fold values.entries

theorem addRecord (collected : s.IsCollected allow known) (isUnion : Bool) (tag : String) (id : Int)
    (isDefinition : Bool) (members : List Member) :
    (s.addRecord known isUnion tag id isDefinition members).IsCollected allow known := by
  have names := @recordNames_addRecord known isUnion tag id isDefinition members s
  rw [recordNames_addClass] at names
  obtain ⟨records, added⟩ := addRecord_eq known isUnion tag id isDefinition members s
  rw [added] at names ⊢
  refine { collected with records := ?_, registered := ?_ }
  · rw [names]
    split
    · split
      · exact collected.records
      · rename_i fresh
        rw [← List.concat_eq_append]
        exact List.Nodup.concat fresh collected.records
    · exact collected.records
  · rw [names]
    intro name inside
    split at inside
    · rename_i isKnown
      split at inside
      · exact collected.registered name inside
      · rcases List.mem_append.mp inside with old | isNew
        · exact collected.registered name old
        · rw [List.mem_singleton.mp isNew]
          exact isKnown
    · exact collected.registered name inside

theorem add (collected : s.IsCollected allow known) (d : Declaration) :
    (s.add allow known d).IsCollected allow known := by
  cases d with
  | define name tokens => exact collected.addConstant name tokens
  | function name result parameters hasPrototype variadic =>
      exact collected.addFunction name result parameters (hasPrototype && variadic)
  | record isUnion tag id isDefinition members =>
      exact collected.addRecord isUnion tag id isDefinition members
  | enumeration name values => exact collected.addEnumeration name (Table.ofList values)
  | «alias» name t => exact collected.addAlias name t
  | other => exact collected

theorem ofDeclarations (allow : Allowlist) (known : Known) (ds : List Declaration) :
    (Surface.ofDeclarations allow known ds).IsCollected allow known := by
  induction ds using List.reverseRecOn with
  | nil => exact .empty
  | append_singleton ds d ih =>
      rw [ofDeclarations_concat]
      exact ih.add d

/-- With accepted records all that was collected is selected. -/
theorem isSelected (collected : s.IsCollected allow known) (accepted : known.IsAccepted allow) :
    s.IsSelected allow where
  functions := collected.functions
  records := ⟨collected.records, fun name inside => accepted name (collected.registered name inside)⟩
  enums := collected.enums
  aliases := collected.aliases
  constants := ⟨s.constants.nodup, collected.constants⟩
  disjoint name isAlias isRecord := collected.unknown name isAlias (collected.registered name isRecord)

end Surface.IsCollected

/-- Whatever units were read before, and whether or not they failed, a surface has accepted names
only, each of them once, and no alias has the name of a record. -/
theorem surface_isSelected (allow : Allowlist) (before : List (String × HeaderUnit))
    (header : String) (u : HeaderUnit) (s : Surface)
    (yielded : (collectUnit allow (.afterUnits allow before) header u).surface = .ok s) :
    s.IsSelected allow := by
  obtain ⟨_, rfl⟩ := collectUnit_eq_ok yielded
  exact (Surface.IsCollected.ofDeclarations allow _ u.declarations).isSelected
    ((isAccepted_afterUnits allow before).foldl u.declarations)

/-- A unit that fails at a macro, after it has named a record. -/
def failingUnit : HeaderUnit where
  declarations :=
    [.alias "ggml_state" (.record ⟨"ggml_state", ⟨true, "", 1⟩⟩ 8),
      .define "GGML_MODE" ["GGML_MODE", "09"]]
  diagnostics := []

/-- A unit with the record of the other one, twice, and an alias with the name of the record. -/
def repeatingUnit : HeaderUnit where
  declarations :=
    [.record false "" 1 false [], .record false "" 1 true [],
      .alias "ggml_state" (.record ⟨"ggml_state", ⟨true, "", 2⟩⟩ 8)]
  diagnostics := []

theorem repeatingUnit_isSelected :
    (collectUnit .default .empty "ggml.h" failingUnit).surface.isOk = false ∧
      ∃ s, (collectUnit .default (.afterUnits .default [("ggml.h", failingUnit)]) "gguf.h"
          repeatingUnit).surface = .ok s ∧
        s.recordNames = ["ggml_state"] ∧ s.IsSelected .default := by
  have found : (collectUnit .default (.afterUnits .default [("ggml.h", failingUnit)]) "gguf.h"
      repeatingUnit).surface.toOption.map Surface.recordNames = some ["ggml_state"] := by
    decide +kernel
  obtain ⟨s, yielded, names⟩ := exists_surface found
  refine ⟨by decide +kernel, s, yielded, names, ?_⟩
  exact surface_isSelected .default [("ggml.h", failingUnit)] "gguf.h" repeatingUnit s yielded

end NativeVariants.Header
