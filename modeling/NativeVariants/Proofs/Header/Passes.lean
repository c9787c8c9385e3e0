import NativeVariants.Header.Collection
import NativeVariants.Proofs.Runs

set_option autoImplicit false

/-!
The two passes over a unit as functions on what is known and on surfaces. A collection that succeeds
has made known what the first pass makes known, and its surface is the one of the second pass, all
of whose steps see the same known records (`collectUnit_eq_ok`).
-/

namespace NativeVariants.Header

/-- Whether a name was checked and accepted. -/
def isAccepted (checked : Except Failure Bool) : Bool := checked.toOption.getD false

def Known.after (allow : Allowlist) (known : Known) : Declaration → Known
  | .record _ name _ _ _ =>
      if isAccepted (allow.acceptsType name) then known.addRecord name else known
  | .alias name t => if isAccepted (allow.acceptsType name) then known.addAlias name t else known
  | _ => known

/-- The name under which a declared record may have a class. -/
def Known.declaredName (known : Known) (tag : String) (id : Int) : String :=
  (known.anonymous.get? id).getD tag

namespace Surface

def addConstant (allow : Allowlist) (name : String) (tokens : List String) (s : Surface) :
    Surface :=
  if isAccepted (allow.acceptsConstant name) && !s.constants.contains name then
    match definedValue tokens with
    | .ok (some value) => { s with constants := s.constants.set name value }
    | _ => s
  else s

def addFunction (allow : Allowlist) (known : Known) (name : String) (result : CType)
    (parameters : List CType) (isVariadic : Bool) (s : Surface) : Surface :=
  if isAccepted (allow.acceptsFunction name) && !s.functions.any (·.name = name) then
    { s with functions := s.functions ++
        [⟨name, result.expression known, parameters.map (·.expression known), isVariadic⟩] }
  else s

def addClass (name : String) (isUnion : Bool) (s : Surface) : Surface :=
  if s.records.any (·.name = name) then s
  else { s with records := s.records ++ [⟨name, [], true, isUnion⟩] }

def fieldsOf (known : Known) (members : List Member) : List FieldEntry :=
  members.map fun m => ⟨m.name, m.type.expression known, m.width?⟩

def define (known : Known) (name : String) (members : List Member) (s : Surface) : Surface :=
  if s.records.any fun r => r.name = name && r.isOpaque then
    { s with records := s.records.map fun r =>
        if r.name = name then { r with fields := fieldsOf known members, isOpaque := false }
        else r }
  else s

def addRecord (known : Known) (isUnion : Bool) (tag : String) (id : Int) (isDefinition : Bool)
    (members : List Member) (s : Surface) : Surface :=
  let name := known.declaredName tag id
  if name ∈ known.records then
    if isDefinition then (s.addClass name isUnion).define known name members
    else s.addClass name isUnion
  else s

def addValue (allow : Allowlist) (s : Surface) (entry : String × Datum) : Surface :=
  if isAccepted (allow.acceptsConstant entry.1) then
    { s with constants := s.constants.setNew entry.1 entry.2 }
  else s

def addEnumeration (allow : Allowlist) (name : String) (values : Table String Datum)
    (s : Surface) : Surface :=
  if isAccepted (acceptsTag allow name) then
    if s.enums.any (·.name = name) then s else { s with enums := s.enums ++ [⟨name, values⟩] }
  else values.entries.foldl (addValue allow) s

def addAlias (allow : Allowlist) (known : Known) (name : String) (t : CType) (s : Surface) :
    Surface :=
  if isAccepted (allow.acceptsType name) && !(s.aliases.any (·.name = name) ||
      name ∈ known.records || s.enums.any (·.name = name)) then
    { s with aliases := s.aliases ++ [⟨name, t.expression known⟩] }
  else s

def add (allow : Allowlist) (known : Known) (s : Surface) : Declaration → Surface
  | .define name tokens => s.addConstant allow name tokens
  | .function name result parameters hasPrototype variadic =>
      s.addFunction allow known name result parameters (hasPrototype && variadic)
  | .record isUnion name id isDefinition members =>
      s.addRecord known isUnion name id isDefinition members
  | .enumeration name values => s.addEnumeration allow name (Table.ofList values)
  | .alias name t => s.addAlias allow known name t
  | .other => s

end Surface

section Steps

variable {allow : Allowlist} {p p' : Progress}

theorem ifAccepted_eq_ok {checked : Except Failure Bool} {x : Collect Unit}
    (ran : runFrom (do if ← ofExcept checked then x) p = (.ok (), p')) :
    if isAccepted checked then runFrom x p = (.ok (), p') else p' = p := by
  obtain ⟨b, p₁, looked, rest⟩ := runFrom_bind_eq_ok.mp ran
  rw [runFrom_ofExcept] at looked
  cases looked
  cases b with
  | true => exact rest
  | false =>
      cases rest
      rfl

theorem modifyKnown_eq_ok {checked : Except Failure Bool} {f : Known → Known}
    (ran : runFrom (do if ← ofExcept checked then Collect.modifyKnown f) p = (.ok (), p')) :
    p' = { p with known := if isAccepted checked then f p.known else p.known } := by
  have step := ifAccepted_eq_ok ran
  split at step
  · rename_i taken
    cases step
    rw [if_pos taken]
  · rename_i refused
    rw [if_neg refused, step]

theorem register_eq_ok {d : Declaration} (ran : runFrom (register allow d) p = (.ok (), p')) :
    p' = { p with known := p.known.after allow d } := by
  cases d with
  | record isUnion name id isDefinition members => exact modifyKnown_eq_ok ran
  | «alias» name t => exact modifyKnown_eq_ok ran
  | _ =>
      cases ran
      rfl

/-- From one state to the other nothing was found but types that cannot be expressed. -/
structure Progress.Same (p p' : Progress) : Prop where
  known : p'.known = p.known
  surface : p'.surface = p.surface

theorem express_eq_ok {t : CType} {e : Expression}
    (ran : runFrom (Collect.express t) p = (.ok e, p')) :
    e = t.expression p.known ∧ p.Same p' := by
  cases ran
  exact ⟨rfl, rfl, rfl⟩

/-- A loop over parts that are expressed with what is known expresses each of them. -/
theorem mapM_eq_ok {α β : Type} {f : α → Collect β} {g : Known → α → β}
    (each : ∀ a p b p', runFrom (f a) p = (.ok b, p') → b = g p.known a ∧ Progress.Same p p')
    {xs : List α} {ys : List β} (ran : runFrom (xs.mapM f) p = (.ok ys, p')) :
    ys = xs.map (g p.known) ∧ p.Same p' := by
  induction xs generalizing p ys with
  | nil =>
      cases ran
      exact ⟨rfl, rfl, rfl⟩
  | cons x rest ih =>
      rw [List.mapM_cons] at ran
      obtain ⟨y, p₁, first, later⟩ := runFrom_bind_eq_ok.mp ran
      obtain ⟨zs, p₂, others, returned⟩ := runFrom_bind_eq_ok.mp later
      cases returned
      obtain ⟨yEq, same⟩ := each x p y p₁ first
      obtain ⟨zsEq, sameRest⟩ := ih others
      rw [same.known] at zsEq
      refine ⟨?_, sameRest.known.trans same.known, sameRest.surface.trans same.surface⟩
      rw [List.map_cons, yEq, zsEq]

theorem collectFields_eq_ok {members : List Member} {fields : List FieldEntry}
    (ran : runFrom (collectFields members) p = (.ok fields, p')) :
    fields = Surface.fieldsOf p.known members ∧ p.Same p' := by
  refine mapM_eq_ok (g := fun known m => ⟨m.name, m.type.expression known, m.width?⟩)
    (fun m p field p' step => ?_) ran
  obtain ⟨e, p₁, expressed, returned⟩ := runFrom_bind_eq_ok.mp step
  cases returned
  obtain ⟨rfl, same⟩ := express_eq_ok expressed
  exact ⟨rfl, same⟩

theorem collectConstant_eq_ok {name : String} {tokens : List String}
    (ran : runFrom (collectConstant allow name tokens) p = (.ok (), p')) :
    p'.known = p.known ∧ p'.surface = p.surface.addConstant allow name tokens := by
  have step := ifAccepted_eq_ok ran
  unfold Surface.addConstant
  split at step
  · rename_i taken
    rw [runFrom_bind_of_ok (runFrom_get p)] at step
    by_cases there : p.surface.constants.contains name = true
    · simp only [there, Bool.not_true, Bool.false_eq_true, if_false] at step
      cases step
      simp [taken, there]
    · simp only [there, Bool.not_false, if_true] at step
      simp only [taken, there, Bool.and_self, Bool.not_false, if_true]
      split at step
      · cases step
      · rename_i value
        cases step
        simp [value]
      · rename_i value found
        cases step
        simp [found]
  · rename_i refused
    subst step
    simp [refused]

theorem collectFunction_eq_ok {name : String} {result : CType} {parameters : List CType}
    {isVariadic : Bool}
    (ran : runFrom (collectFunction allow name result parameters isVariadic) p = (.ok (), p')) :
    p'.known = p.known ∧
      p'.surface = p.surface.addFunction allow p.known name result parameters isVariadic := by
  have step := ifAccepted_eq_ok ran
  unfold Surface.addFunction
  split at step
  · rename_i taken
    rw [runFrom_bind_of_ok (runFrom_get p)] at step
    by_cases there : p.surface.functions.any (·.name = name) = true
    · simp only [there, Bool.not_true, Bool.false_eq_true, if_false] at step
      cases step
      simp [taken, there]
    · simp only [there, Bool.not_false, if_true] at step
      obtain ⟨expressions, p₁, expressed, later⟩ := runFrom_bind_eq_ok.mp step
      obtain ⟨e, p₂, expressedResult, modified⟩ := runFrom_bind_eq_ok.mp later
      cases modified
      obtain ⟨rfl, same⟩ := mapM_eq_ok (g := fun known t => t.expression known)
        (fun _ _ _ _ => express_eq_ok) expressed
      obtain ⟨rfl, sameResult⟩ := express_eq_ok expressedResult
      simp only [taken, there, Bool.and_self, Bool.not_false, if_true, sameResult.known,
        sameResult.surface, same.known, same.surface, and_self]
  · rename_i refused
    subst step
    simp [refused]

theorem collectClass_eq_ok {name : String} {isUnion : Bool}
    (ran : runFrom (collectClass name isUnion) p = (.ok (), p')) :
    p'.known = p.known ∧ p'.surface = p.surface.addClass name isUnion := by
  unfold collectClass at ran
  rw [runFrom_bind_of_ok (runFrom_get p)] at ran
  unfold Surface.addClass
  by_cases there : p.surface.records.any (·.name = name) = true
  · simp only [there, Bool.not_true, Bool.false_eq_true, if_false] at ran
    cases ran
    exact ⟨rfl, by rw [if_pos there]⟩
  · simp only [there, Bool.not_false, if_true] at ran
    cases ran
    exact ⟨rfl, by rw [if_neg there]⟩

theorem collectDefinition_eq_ok {name : String} {members : List Member}
    (ran : runFrom (collectDefinition name members) p = (.ok (), p')) :
    p'.known = p.known ∧ p'.surface = p.surface.define p.known name members := by
  unfold collectDefinition at ran
  rw [runFrom_bind_of_ok (runFrom_get p)] at ran
  unfold Surface.define
  split at ran
  · rename_i isOpen
    obtain ⟨fields, p₁, collected, modified⟩ := runFrom_bind_eq_ok.mp ran
    obtain ⟨rfl, same⟩ := collectFields_eq_ok collected
    cases modified
    rw [if_pos isOpen]
    simp only [same.known, same.surface, and_self]
  · rename_i isClosed
    cases ran
    exact ⟨rfl, by rw [if_neg isClosed]⟩

theorem collectRecord_eq_ok {isUnion isDefinition : Bool} {tag : String} {id : Int}
    {members : List Member}
    (ran : runFrom (collectRecord isUnion tag id isDefinition members) p = (.ok (), p')) :
    p'.known = p.known ∧
      p'.surface = p.surface.addRecord p.known isUnion tag id isDefinition members := by
  unfold collectRecord at ran
  rw [runFrom_bind_of_ok (runFrom_get p)] at ran
  simp only at ran
  unfold Surface.addRecord Known.declaredName
  split at ran
  · rename_i isKnown
    obtain ⟨_, p₁, declared, rest⟩ := runFrom_bind_eq_ok.mp ran
    obtain ⟨known, surface⟩ := collectClass_eq_ok declared
    simp only [isKnown, if_true]
    cases isDefinition with
    | false =>
        cases rest
        exact ⟨known, surface⟩
    | true =>
        obtain ⟨knownStill, defined⟩ := collectDefinition_eq_ok rest
        rw [known, surface] at defined
        exact ⟨knownStill.trans known, defined⟩
  · rename_i unknown
    cases ran
    simp only [unknown, if_false, and_self]

theorem collectAlias_eq_ok {name : String} {t : CType}
    (ran : runFrom (collectAlias allow name t) p = (.ok (), p')) :
    p'.known = p.known ∧ p'.surface = p.surface.addAlias allow p.known name t := by
  have step := ifAccepted_eq_ok ran
  unfold Surface.addAlias
  split at step
  · rename_i taken
    rw [runFrom_bind_of_ok (runFrom_get p)] at step
    simp only [taken, Bool.true_and]
    simp only at step
    split at step
    · rename_i isFree
      obtain ⟨e, p₁, expressed, modified⟩ := runFrom_bind_eq_ok.mp step
      obtain ⟨rfl, same⟩ := express_eq_ok expressed
      cases modified
      rw [if_pos isFree]
      simp only [same.known, same.surface, and_self]
    · rename_i isTaken
      cases step
      exact ⟨rfl, by rw [if_neg isTaken]⟩
  · rename_i refused
    subst step
    simp [refused]

theorem collectValues_eq_ok {values : List (String × Datum)}
    (ran : runFrom (collectValues allow values) p = (.ok (), p')) :
    p'.known = p.known ∧ p'.surface = values.foldl (Surface.addValue allow) p.surface := by
  induction values generalizing p with
  | nil =>
      cases ran
      exact ⟨rfl, rfl⟩
  | cons entry rest ih =>
      obtain ⟨key, value⟩ := entry
      obtain ⟨_, p₁, first, later⟩ := runFrom_bind_eq_ok.mp ran
      have added : p₁.known = p.known ∧ p₁.surface = p.surface.addValue allow (key, value) := by
        have step := ifAccepted_eq_ok first
        unfold Surface.addValue
        split at step
        · rename_i taken
          cases step
          exact ⟨rfl, by rw [if_pos taken]⟩
        · rename_i refused
          subst step
          exact ⟨rfl, by rw [if_neg refused]⟩
      obtain ⟨known, surface⟩ := ih later
      rw [added.2] at surface
      exact ⟨known.trans added.1, surface⟩

theorem collectNamed_eq_ok {name : String} {values : Table String Datum}
    (ran : runFrom (collectNamed name values) p = (.ok (), p')) :
    p'.known = p.known ∧ p'.surface =
      if p.surface.enums.any (·.name = name) then p.surface
      else { p.surface with enums := p.surface.enums ++ [⟨name, values⟩] } := by
  unfold collectNamed at ran
  rw [runFrom_bind_of_ok (runFrom_get p)] at ran
  by_cases there : p.surface.enums.any (·.name = name) = true
  · simp only [there, Bool.not_true, Bool.false_eq_true, if_false] at ran
    cases ran
    exact ⟨rfl, by rw [if_pos there]⟩
  · simp only [there, Bool.not_false, if_true] at ran
    cases ran
    exact ⟨rfl, by rw [if_neg there]⟩

theorem collectEnumeration_eq_ok {name : String} {values : Table String Datum}
    (ran : runFrom (collectEnumeration allow name values) p = (.ok (), p')) :
    p'.known = p.known ∧ p'.surface = p.surface.addEnumeration allow name values := by
  obtain ⟨isNamed, p₁, checked, rest⟩ := runFrom_bind_eq_ok.mp ran
  rw [runFrom_ofExcept] at checked
  obtain ⟨taken, rfl⟩ := Prod.mk.inj checked
  unfold Surface.addEnumeration
  rw [taken]
  cases isNamed with
  | true => exact collectNamed_eq_ok rest
  | false => exact collectValues_eq_ok rest

/-- The second pass over a declaration finds what is known of it from the first. -/
theorem collect_eq_ok {d : Declaration} (ran : runFrom (collect allow d) p = (.ok (), p')) :
    p'.known = p.known ∧ p'.surface = p.surface.add allow p.known d := by
  cases d with
  | define name tokens => exact collectConstant_eq_ok ran
  | function name result parameters hasPrototype variadic => exact collectFunction_eq_ok ran
  | record isUnion name id isDefinition members => exact collectRecord_eq_ok ran
  | enumeration name values => exact collectEnumeration_eq_ok ran
  | «alias» name t => exact collectAlias_eq_ok ran
  | other =>
      cases ran
      exact ⟨rfl, rfl⟩

theorem register_forM_eq_ok {ds : List Declaration}
    (ran : runFrom (ds.forM (register allow)) p = (.ok (), p')) :
    p' = { p with known := ds.foldl (Known.after allow) p.known } := by
  induction ds generalizing p with
  | nil =>
      cases ran
      rfl
  | cons d rest ih =>
      obtain ⟨_, p₁, first, later⟩ := runFrom_bind_eq_ok.mp ran
      rw [ih later, register_eq_ok first, List.foldl_cons]

theorem collect_forM_eq_ok {ds : List Declaration}
    (ran : runFrom (ds.forM (collect allow)) p = (.ok (), p')) :
    p'.known = p.known ∧ p'.surface = ds.foldl (Surface.add allow p.known) p.surface := by
  induction ds generalizing p with
  | nil =>
      cases ran
      exact ⟨rfl, rfl⟩
  | cons d rest ih =>
      obtain ⟨_, p₁, first, later⟩ := runFrom_bind_eq_ok.mp ran
      obtain ⟨known, surface⟩ := collect_eq_ok first
      obtain ⟨knownStill, whole⟩ := ih later
      rw [known, surface] at whole
      exact ⟨knownStill.trans known, whole⟩

end Steps

theorem collectUnit_eq_ok {allow : Allowlist} {known : Known} {header : String} {u : HeaderUnit}
    {s : Surface} (yielded : (collectUnit allow known header u).surface = .ok s) :
    (collectUnit allow known header u).known = u.declarations.foldl (Known.after allow) known ∧
      s = u.declarations.foldl
        (Surface.add allow (u.declarations.foldl (Known.after allow) known)) .empty := by
  let steps : Collect Unit := do
    ofExcept (reported (checkDiagnostics header u.diagnostics))
    u.declarations.forM (register allow)
    u.declarations.forM (collect allow)
  have unfolded : collectUnit allow known header u =
      ⟨(runFrom steps ⟨known, .empty, []⟩).2.known, (runFrom steps ⟨known, .empty, []⟩).2.unmapped,
        (runFrom steps ⟨known, .empty, []⟩).1.map
          fun _ => (runFrom steps ⟨known, .empty, []⟩).2.surface⟩ := rfl
  rw [unfolded] at yielded ⊢
  rcases ran : runFrom steps ⟨known, .empty, []⟩ with ⟨failure | _, p⟩
  · rw [ran] at yielded
    cases yielded
  · rw [ran] at yielded
    cases yielded
    obtain ⟨_, p₁, checked, passes⟩ := runFrom_bind_eq_ok.mp ran
    obtain ⟨_, p₂, first, second⟩ := runFrom_bind_eq_ok.mp passes
    rw [runFrom_ofExcept] at checked
    obtain ⟨_, rfl⟩ := Prod.mk.inj checked
    have registered := register_forM_eq_ok first
    have collected := collect_forM_eq_ok second
    rw [registered] at collected
    exact collected

theorem exists_surface {α : Type} {f : Surface → α} {outcome : Outcome} {a : α}
    (found : outcome.surface.toOption.map f = some a) :
    ∃ s, outcome.surface = .ok s ∧ f s = a := by
  cases yielded : outcome.surface with
  | error failure =>
      rw [yielded] at found
      cases found
  | ok s =>
      rw [yielded] at found
      exact ⟨s, rfl, Option.some.inj found⟩

end NativeVariants.Header
