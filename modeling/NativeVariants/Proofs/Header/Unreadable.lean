import NativeVariants.Proofs.Build.Problems
import NativeVariants.Proofs.Header.Passes
import NativeVariants.Proofs.Strays
import NativeVariants.Proofs.Tables

set_option autoImplicit false

/-!
Units that cannot be collected. A unit without errors goes astray exactly if one of its declarations
asks for a list of patterns that make no pattern, or is a macro whose value is wanted and cannot be
read (`strays_collectUnit_iff`).
-/

namespace NativeVariants.Header

def Allowlist.Unusable (patterns : List Datum) : Prop :=
  ∃ failure, Allowlist.compile patterns = .error failure

/-- The declaration cannot be collected, given the constants that were found before it. -/
def Declaration.IsUnreadable (allow : Allowlist) (constants : Table String Datum) :
    Declaration → Prop
  | .define name tokens =>
      Allowlist.Unusable allow.constants ∨
        (allow.acceptsConstant name = .ok true ∧ constants.contains name = false ∧
          definedValue tokens = .error .badNumeral)
  | .function _ _ _ _ _ => Allowlist.Unusable allow.functions
  | .record _ _ _ _ _ => Allowlist.Unusable allow.types
  | .enumeration name values =>
      (name ≠ "" ∧ Allowlist.Unusable allow.types) ∨
        (acceptsTag allow name = .ok false ∧ values ≠ [] ∧ Allowlist.Unusable allow.constants)
  | .alias _ _ => Allowlist.Unusable allow.types
  | .other => False

def HeaderUnit.IsUnreadable (allow : Allowlist) (known : Known) (u : HeaderUnit) : Prop :=
  ∃ before d after, u.declarations = before ++ d :: after ∧
    d.IsUnreadable allow (before.foldl
      (Surface.add allow (u.declarations.foldl (Known.after allow) known)) .empty).constants

section Steps

variable {allow : Allowlist} {p : Progress}

theorem Allowlist.strays_accepts_iff {patterns : List Datum} {name : String} :
    Strays (accepts patterns name) ↔ Unusable patterns := by
  have same : (∃ failure, accepts patterns name = .error failure) ↔ Unusable patterns := by
    unfold accepts Unusable
    cases compile patterns with
    | error failure =>
        constructor
        · exact fun _ => ⟨failure, rfl⟩
        · exact fun _ => ⟨failure, rfl⟩
    | ok pattern? =>
        constructor
        · rintro ⟨_, failed⟩
          cases pattern? <;> cases failed
        · rintro ⟨_, failed⟩
          cases failed
  rw [← same]
  constructor
  · rintro ⟨failure, failed, _⟩
    exact ⟨failure, failed⟩
  · rintro ⟨_, failed⟩
    exact .of_failsOnly (failsOnly_accepts _ _) failed

/-- What is done with an accepted name cannot go astray before the name is checked. -/
theorem strays_ifAccepted_iff {checked : Except Failure Bool} {x : Collect Unit} :
    Strays (runFrom (do if ← ofExcept checked then x) p).1 ↔
      Strays checked ∨ (checked = .ok true ∧ Strays (runFrom x p).1) := by
  rw [Strays.runFrom_bind_iff, runFrom_ofExcept]
  cases checked with
  | error failure => simp
  | ok accepted =>
      cases accepted with
      | false => simp
      | true => simp

theorem not_strays_express (t : CType) : NeverStrays (Collect.express t) :=
  .bind .get fun _ => .bind (.modify _) fun _ => .pure _

def Declaration.isRegistered : Declaration → Bool
  | .record _ _ _ _ _ => true
  | .alias _ _ => true
  | _ => false

def Declaration.isRecord : Declaration → Bool
  | .record _ _ _ _ _ => true
  | _ => false

theorem strays_register_iff {d : Declaration} :
    Strays (runFrom (register allow d) p).1 ↔
      d.isRegistered = true ∧ Allowlist.Unusable allow.types := by
  cases d with
  | record isUnion name id isDefinition members =>
      refine strays_ifAccepted_iff.trans ?_
      rw [Allowlist.acceptsType, Allowlist.strays_accepts_iff]
      simp [Declaration.isRegistered, Collect.modifyKnown]
  | «alias» name t =>
      refine strays_ifAccepted_iff.trans ?_
      rw [Allowlist.acceptsType, Allowlist.strays_accepts_iff]
      simp [Declaration.isRegistered, Collect.modifyKnown]
  | _ => simp [register, Declaration.isRegistered]

theorem strays_collectConstant_iff {name : String} {tokens : List String} :
    Strays (runFrom (collectConstant allow name tokens) p).1 ↔
      Allowlist.Unusable allow.constants ∨
        (allow.acceptsConstant name = .ok true ∧ p.surface.constants.contains name = false ∧
          definedValue tokens = .error .badNumeral) := by
  refine strays_ifAccepted_iff.trans ?_
  rw [Allowlist.acceptsConstant, Allowlist.strays_accepts_iff]
  refine or_congr_right (and_congr_right fun _ => ?_)
  rw [runFrom_bind_of_ok (runFrom_get p)]
  cases p.surface.constants.contains name with
  | true => simp
  | false =>
      cases definedValue tokens with
      | error fault =>
          cases fault
          simp [Failure.IsStray]
      | ok value? =>
          cases value? with
          | none => simp
          | some value => simp [Collect.modifySurface]

theorem neverStrays_collectRecord (isUnion : Bool) (tag : String) (id : Int)
    (isDefinition : Bool) (members : List Member) :
    NeverStrays (collectRecord isUnion tag id isDefinition members) := by
  have fields : NeverStrays (collectFields members) :=
    .mapM fun _ _ => (not_strays_express _).bind fun _ => .pure _
  have declared (name : String) : NeverStrays (collectClass name isUnion) :=
    .bind .get fun _ => .ite (.modify _) (.pure _)
  have defined (name : String) : NeverStrays (collectDefinition name members) :=
    .bind .get fun _ => .ite (fields.bind fun _ => .modify _) (.pure _)
  refine .bind .get fun progress => .ite ?_ (.pure _)
  exact (declared _).bind fun _ => .ite (defined _) (.pure _)

theorem strays_collectFunction_iff {name : String} {result : CType} {parameters : List CType}
    {isVariadic : Bool} :
    Strays (runFrom (collectFunction allow name result parameters isVariadic) p).1 ↔
      Allowlist.Unusable allow.functions := by
  refine strays_ifAccepted_iff.trans ?_
  rw [Allowlist.acceptsFunction, Allowlist.strays_accepts_iff, or_iff_left]
  rintro ⟨_, astray⟩
  refine NeverStrays.bind .get (fun progress => .ite ?_ (.pure _)) p astray
  exact .bind (.mapM fun t _ => not_strays_express t) fun _ =>
    (not_strays_express _).bind fun _ => .modify _

theorem strays_collectAlias_iff {name : String} {t : CType} :
    Strays (runFrom (collectAlias allow name t) p).1 ↔ Allowlist.Unusable allow.types := by
  refine strays_ifAccepted_iff.trans ?_
  rw [Allowlist.acceptsType, Allowlist.strays_accepts_iff, or_iff_left]
  rintro ⟨_, astray⟩
  refine NeverStrays.bind .get (fun progress => .ite ?_ (.pure _)) p astray
  exact (not_strays_express t).bind fun _ => .modify _

theorem strays_collectValues_iff {values : List (String × Datum)} :
    Strays (runFrom (collectValues allow values) p).1 ↔
      values ≠ [] ∧ Allowlist.Unusable allow.constants := by
  have turn (entry : String × Datum) (p : Progress) :
      Strays (runFrom (do
        if ← ofExcept (allow.acceptsConstant entry.1) then
          Collect.modifySurface fun s =>
            { s with constants := s.constants.setNew entry.1 entry.2 }) p).1 ↔
        Allowlist.Unusable allow.constants := by
    refine strays_ifAccepted_iff.trans ?_
    rw [Allowlist.acceptsConstant, Allowlist.strays_accepts_iff]
    simp [Collect.modifySurface]
  refine Strays.runFrom_forM_iff.trans ⟨?_, ?_⟩
  · rintro ⟨before, entry, after, p', rfl, _, astray⟩
    exact ⟨by simp, (turn entry p').mp astray⟩
  · rintro ⟨some, unusable⟩
    obtain ⟨entry, rest, rfl⟩ := List.exists_cons_of_ne_nil some
    exact ⟨[], entry, rest, p, rfl, rfl, (turn entry p).mpr unusable⟩

theorem strays_acceptsTag_iff {name : String} :
    Strays (acceptsTag allow name) ↔ name ≠ "" ∧ Allowlist.Unusable allow.types := by
  unfold acceptsTag
  by_cases untagged : name = ""
  · simp [untagged]
  · rw [if_neg untagged, Allowlist.acceptsType, Allowlist.strays_accepts_iff]
    simp [untagged]

theorem strays_collectEnumeration_iff {name : String} {values : Table String Datum} :
    Strays (runFrom (collectEnumeration allow name values) p).1 ↔
      (name ≠ "" ∧ Allowlist.Unusable allow.types) ∨
        (acceptsTag allow name = .ok false ∧ values.entries ≠ [] ∧
          Allowlist.Unusable allow.constants) := by
  unfold collectEnumeration
  rw [Strays.runFrom_bind_iff, runFrom_ofExcept, strays_acceptsTag_iff]
  refine or_congr_right ?_
  rw [← strays_collectValues_iff (p := p)]
  constructor
  · rintro ⟨accepted, p', checked, astray⟩
    obtain ⟨same, rfl⟩ := Prod.mk.inj checked
    cases accepted with
    | true =>
        exact absurd astray
          (NeverStrays.bind .get (fun _ => .ite (.modify _) (.pure _)) _)
    | false => exact ⟨same, astray⟩
  · rintro ⟨refused, astray⟩
    exact ⟨false, p, by rw [refused], astray⟩

/-- The second pass over a record has nothing to check. -/
theorem strays_collect_iff {d : Declaration} :
    Strays (runFrom (collect allow d) p).1 ↔
      d.isRecord = false ∧ d.IsUnreadable allow p.surface.constants := by
  cases d with
  | define name tokens =>
      rw [collect, strays_collectConstant_iff]
      simp [Declaration.IsUnreadable, Declaration.isRecord]
  | function name result parameters hasPrototype variadic =>
      rw [collect, strays_collectFunction_iff]
      simp [Declaration.IsUnreadable, Declaration.isRecord]
  | record isUnion name id isDefinition members =>
      rw [collect]
      simp [neverStrays_collectRecord isUnion name id isDefinition members p, Declaration.isRecord]
  | enumeration name values =>
      rw [collect, strays_collectEnumeration_iff]
      simp [Declaration.IsUnreadable, Declaration.isRecord, Table.entries_ofList_eq_nil_iff]
  | «alias» name t =>
      rw [collect, strays_collectAlias_iff]
      simp [Declaration.IsUnreadable, Declaration.isRecord]
  | other => simp [collect, Declaration.IsUnreadable]

/-- What either pass finds wrong with a declaration is wrong with it. -/
theorem isUnreadable_iff {d : Declaration} {constants : Table String Datum} :
    d.IsUnreadable allow constants ↔
      (d.isRegistered = true ∧ Allowlist.Unusable allow.types) ∨
        (d.isRecord = false ∧ d.IsUnreadable allow constants) := by
  cases d with
  | record isUnion name id isDefinition members =>
      simp [Declaration.IsUnreadable, Declaration.isRegistered, Declaration.isRecord]
  | «alias» name t =>
      simp [Declaration.IsUnreadable, Declaration.isRegistered, Declaration.isRecord]
  | _ => simp [Declaration.isRegistered, Declaration.isRecord]

theorem strays_register_forM_iff {ds : List Declaration} :
    Strays (runFrom (ds.forM (register allow)) p).1 ↔
      ∃ d ∈ ds, d.isRegistered = true ∧ Allowlist.Unusable allow.types := by
  constructor
  · intro astray
    obtain ⟨before, d, after, p', rfl, _, here⟩ := Strays.runFrom_forM_iff.mp astray
    exact ⟨d, by simp, strays_register_iff.mp here⟩
  · rintro ⟨d, inside, unusable⟩
    obtain ⟨before, after, rfl⟩ := List.append_of_mem inside
    exact Strays.runFrom_forM_of_turn (reports_register allow) fun _ _ =>
      strays_register_iff.mpr unusable

/-- The second pass goes astray at a declaration that is reached, or before it. -/
theorem strays_collect_forM_iff {ds : List Declaration} :
    Strays (runFrom (ds.forM (collect allow)) p).1 ↔
      ∃ before d after, ds = before ++ d :: after ∧ d.isRecord = false ∧
        d.IsUnreadable allow (before.foldl (Surface.add allow p.known) p.surface).constants := by
  constructor
  · intro astray
    obtain ⟨before, d, after, p', rfl, reached, here⟩ := Strays.runFrom_forM_iff.mp astray
    have unreadable := strays_collect_iff.mp here
    rw [(collect_forM_eq_ok reached).2] at unreadable
    exact ⟨before, d, after, rfl, unreadable⟩
  · rintro ⟨before, d, after, rfl, unreadable⟩
    refine Strays.runFrom_forM_of_turn (reports_collect allow) fun p' reached => ?_
    rw [strays_collect_iff, (collect_forM_eq_ok reached).2]
    exact unreadable

end Steps

theorem checkDiagnostics_eq_ok_iff (header : String) (diagnostics : List Diagnostic) :
    checkDiagnostics header diagnostics = .ok () ↔ ∀ d ∈ diagnostics, d.isError = false := by
  have none : diagnostics.filter Diagnostic.isError = [] ↔
      ∀ d ∈ diagnostics, d.isError = false := by
    simp [List.filter_eq_nil_iff]
  rw [← none]
  unfold checkDiagnostics
  cases diagnostics.filter Diagnostic.isError with
  | nil => simp
  | cons first rest => simp

/-- Both passes over the declarations of a unit. -/
def collectAll (allow : Allowlist) (u : HeaderUnit) : Collect Unit := do
  u.declarations.forM (register allow)
  u.declarations.forM (collect allow)

theorem strays_collectAll_iff {allow : Allowlist} {known : Known} {u : HeaderUnit} :
    Strays (runFrom (collectAll allow u) ⟨known, .empty, []⟩).1 ↔ u.IsUnreadable allow known := by
  unfold collectAll
  rw [Strays.runFrom_bind_iff, strays_register_forM_iff]
  constructor
  · rintro (⟨d, inside, unusable⟩ | ⟨_, p', registered, astray⟩)
    · obtain ⟨before, after, split⟩ := List.append_of_mem inside
      exact ⟨before, d, after, split, isUnreadable_iff.mpr (.inl unusable)⟩
    · rw [register_forM_eq_ok registered] at astray
      obtain ⟨before, d, after, split, unreadable⟩ := strays_collect_forM_iff.mp astray
      exact ⟨before, d, after, split, isUnreadable_iff.mpr (.inr unreadable)⟩
  · rintro ⟨before, d, after, split, unreadable⟩
    rcases isUnreadable_iff.mp unreadable with unusable | unreadable
    · exact .inl ⟨d, by simp [split], unusable⟩
    rcases ran : runFrom (u.declarations.forM (register allow)) ⟨known, .empty, []⟩ with
      ⟨failure | _, p'⟩
    · have astray := Strays.of_reports (reports_forM fun d _ => reports_register allow d) ran
      exact .inl (strays_register_forM_iff.mp astray)
    · refine .inr ⟨_, p', rfl, ?_⟩
      rw [register_forM_eq_ok ran]
      exact strays_collect_forM_iff.mpr ⟨before, d, after, split, unreadable⟩

/-- A unit without errors goes astray if one of its declarations cannot be collected, and then
only. -/
theorem strays_collectUnit_iff {allow : Allowlist} {known : Known} {header : String}
    {u : HeaderUnit} :
    Strays (collectUnit allow known header u).surface ↔
      (∀ d ∈ u.diagnostics, d.isError = false) ∧ u.IsUnreadable allow known := by
  have collected : Strays (collectUnit allow known header u).surface ↔
      Strays (runFrom (ofExcept (reported (checkDiagnostics header u.diagnostics)) >>= fun _ =>
        collectAll allow u) ⟨known, .empty, []⟩).1 := Strays.map_iff
  rw [collected, ← checkDiagnostics_eq_ok_iff header, ← strays_collectAll_iff,
    Strays.runFrom_bind_iff, runFrom_ofExcept, or_iff_right (Strays.not_reported _)]
  cases checkDiagnostics header u.diagnostics with
  | error problem => simp [reported, Except.mapError]
  | ok _ => simp [reported, Except.mapError]

end NativeVariants.Header
