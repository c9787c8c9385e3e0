import NativeVariants.Proofs.Metadata.Publication
import NativeVariants.Proofs.Runs

set_option autoImplicit false

/-!
A channel under any calls, those that fail among them. A call compares all of its entries with what
the channel holds before it sets the first of them, so it sets all or leaves the channel as it was
(`runFrom_perform`). Whatever was set stays, and the facts of a variant are there together or not at
all (`attempts_all_or_nothing`).
-/

namespace NativeVariants.Metadata

inductive Publication where
  | included (includeDir : Path)
  | variant (artifacts : Artifacts)
  deriving DecidableEq, Repr

def Channel.publish (channel : Channel) : Publication → Except Problem Channel
  | .included includeDir => channel.publishInclude includeDir
  | .variant artifacts => channel.publishVariant artifacts

namespace Publication

def items (package : String) : Publication → List (String × String)
  | included includeDir => Channel.includeItems package includeDir
  | variant artifacts => Channel.variantItems package artifacts

def check (entry : String × String) : Stateful Channel PUnit := do
  match (← get).values.get? entry.1 with
  | some old =>
      if old ≠ entry.2 then throw (.problem (.metadataConflict entry.1 old entry.2))
  | none => pure ()

def setEntry (entry : String × String) : Stateful Channel PUnit :=
  modify fun channel => { channel with values := channel.values.set entry.1 entry.2 }

/-- The call on a channel that is changed in place, entry by entry. -/
def perform (call : Publication) : Stateful Channel PUnit := do
  let items := call.items (← get).package
  items.forM check
  items.forM setEntry

/-- The call with its failure caught. -/
def attempt (call : Publication) : Stateful Channel PUnit :=
  tryCatch call.perform fun _ => pure ()

end Publication

open Publication

/-- The channel of a package after some calls, each of which may have failed. -/
def Channel.afterAttempts (package : String) (calls : List Publication) : Channel :=
  (runFrom (calls.forM attempt) (Channel.empty package)).2

section Calls

variable {channel channel' : Channel} {call : Publication}

theorem Channel.publish_eq_stage (channel : Channel) (call : Publication) :
    channel.publish call = channel.stage (call.items channel.package) := by
  cases call with
  | included includeDir => rfl
  | variant artifacts => rfl

theorem nodup_keys_items (package : String) (call : Publication) :
    ((call.items package).map (·.1)).Nodup := by
  cases call with
  | included includeDir => exact List.nodup_singleton _
  | variant artifacts =>
      have keys : ((variant artifacts).items package).map (·.1) =
          Field.all.map (variantKey package artifacts.variant) := rfl
      rw [keys]
      exact List.Nodup.map (fun f g same => (variantKey_eq_iff.mp same).1) (by decide)

/-! ### One call -/

theorem runFrom_check (entry : String × String) (channel : Channel) :
    runFrom (check entry) channel =
      (match Channel.conflict? channel.values [entry] with
        | some problem => .error (.problem problem)
        | none => .ok (), channel) := by
  obtain ⟨key, value⟩ := entry
  unfold check Channel.conflict?
  rw [runFrom_bind_of_ok (runFrom_get channel)]
  cases held : channel.values.get? key with
  | none => simp [held]
  | some old =>
      by_cases agrees : old = value
      · simp [held, agrees]
      · simp [held, agrees]

/-- The comparison stops at the first conflict and changes nothing. -/
theorem runFrom_checks (items : List (String × String)) (channel : Channel) :
    runFrom (items.forM check) channel =
      (match Channel.conflict? channel.values items with
        | some problem => .error (.problem problem)
        | none => .ok (), channel) := by
  induction items with
  | nil => rfl
  | cons entry rest ih =>
      have split : Channel.conflict? channel.values (entry :: rest) =
          (Channel.conflict? channel.values [entry]).or (Channel.conflict? channel.values rest) := by
        unfold Channel.conflict?
        rw [List.findSome?_cons, List.findSome?_cons, List.findSome?_nil]
        split <;> rfl
      have checked := runFrom_check entry channel
      rw [forM_cons, split]
      cases here : Channel.conflict? channel.values [entry] with
      | none =>
          rw [here] at checked
          rw [runFrom_bind_of_ok checked, ih, Option.none_or]
      | some problem =>
          rw [here] at checked
          rw [runFrom_bind_of_error checked, Option.some_or]

theorem runFrom_setEntries (items : List (String × String)) (channel : Channel) :
    runFrom (items.forM setEntry) channel =
      (.ok (), { channel with values := channel.values.setAll items }) := by
  induction items generalizing channel with
  | nil => rfl
  | cons entry rest ih =>
      rw [forM_cons]
      exact ih { channel with values := channel.values.set entry.1 entry.2 }

/-- In place the call does what `Channel.publish` returns, and if that fails it does nothing. -/
theorem runFrom_perform (call : Publication) (channel : Channel) :
    runFrom call.perform channel =
      match channel.publish call with
      | .ok next => (.ok (), next)
      | .error problem => (.error (.problem problem), channel) := by
  have checked := runFrom_checks (call.items channel.package) channel
  rw [Channel.publish_eq_stage]
  unfold perform Channel.stage
  rw [runFrom_bind_of_ok (runFrom_get channel)]
  cases found : Channel.conflict? channel.values (call.items channel.package) with
  | none =>
      rw [found] at checked
      rw [runFrom_bind_of_ok checked, runFrom_setEntries]
  | some problem =>
      rw [found] at checked
      rw [runFrom_bind_of_error checked]

theorem runFrom_attempt (call : Publication) (channel : Channel) :
    runFrom call.attempt channel = (.ok (), (runFrom call.perform channel).2) := by
  unfold attempt
  rw [runFrom_tryCatch]
  rcases runFrom call.perform channel with ⟨_ | _, next⟩ <;> rfl

structure Channel.Takes (channel : Channel) (items : List (String × String)) (next : Channel) :
    Prop where
  package : next.package = channel.package
  set : ∀ key value, (key, value) ∈ items → next.values.get? key = some value
  kept : ∀ key, key ∉ items.map (·.1) → next.values.get? key = channel.values.get? key

theorem Channel.takes_of_publish (published : channel.publish call = .ok channel') :
    channel.Takes (call.items channel.package) channel' := by
  rw [Channel.publish_eq_stage] at published
  obtain ⟨_, rfl⟩ := stage_eq_ok_iff.mp published
  constructor
  case package => rfl
  case set => exact fun key value => Table.get?_setAll_of_mem (nodup_keys_items _ call)
  case kept => exact fun key => Table.get?_setAll_of_not_mem

/-- Entry of a call that contradicts what the channel holds. -/
structure Channel.Contradicts (channel : Channel) (items : List (String × String))
    (key old value : String) : Prop where
  inside : (key, value) ∈ items
  held : channel.values.get? key = some old
  differs : old ≠ value

theorem Channel.contradicts_of_conflict? {items : List (String × String)} {problem : Problem}
    (found : conflict? channel.values items = some problem) :
    ∃ key old value, problem = .metadataConflict key old value ∧
      channel.Contradicts items key old value := by
  unfold conflict? at found
  obtain ⟨⟨key, value⟩, inside, found⟩ := List.exists_of_findSome?_eq_some found
  simp only at found
  split at found
  · cases found
  · rename_i old held
    split at found
    · cases found
    · rename_i differs
      cases found
      exact ⟨key, old, value, rfl, inside, held, differs⟩

theorem Channel.publish_eq_error {problem : Problem}
    (failed : channel.publish call = .error problem) :
    ∃ key old value, problem = .metadataConflict key old value ∧
      channel.Contradicts (call.items channel.package) key old value := by
  rw [publish_eq_stage] at failed
  unfold stage at failed
  split at failed
  · rename_i conflict found
    cases failed
    exact contradicts_of_conflict? found
  · cases failed

theorem Channel.publish_ne_ok {key old value : String}
    (contradicts : channel.Contradicts (call.items channel.package) key old value) :
    channel.publish call ≠ .ok channel' := by
  intro published
  rw [publish_eq_stage] at published
  obtain ⟨agrees, _⟩ := stage_eq_ok_iff.mp published
  exact contradicts.differs (agrees key value contradicts.inside old contradicts.held)

/-! ### Any number of calls -/

/-- Whatever the one channel holds the other one holds as well. -/
structure Channel.Extends (channel channel' : Channel) : Prop where
  package : channel'.package = channel.package
  kept : ∀ key value, channel.values.get? key = some value → channel'.values.get? key = some value

instance : IsPreorder Channel Channel.Extends where
  refl _ := ⟨rfl, fun _ _ held => held⟩
  trans _ _ _ first second :=
    ⟨second.package.trans first.package,
      fun key value held => second.kept key value (first.kept key value held)⟩

theorem Channel.extends_of_publish (published : channel.publish call = .ok channel') :
    channel.Extends channel' := by
  have takes := takes_of_publish published
  refine ⟨takes.package, fun key old held => ?_⟩
  by_cases inside : key ∈ (call.items channel.package).map (·.1)
  · obtain ⟨⟨_, value⟩, isItem, rfl⟩ := List.mem_map.mp inside
    by_cases agrees : old = value
    · subst agrees
      exact takes.set _ _ isItem
    · exact absurd published (publish_ne_ok ⟨isItem, held, agrees⟩)
  · rw [takes.kept key inside, held]

/-- The facts of every variant are there together or not at all. -/
def Channel.AllOrNone (channel : Channel) : Prop :=
  ∀ variant, (∀ f, (channel.values.get? (variantKey channel.package variant f)).isSome) ∨
    ∀ f, channel.values.get? (variantKey channel.package variant f) = none

theorem variantKey_mem_items_iff {package variant : String} {f : Field} {artifacts : Artifacts} :
    variantKey package variant f ∈ ((Publication.variant artifacts).items package).map (·.1) ↔
      variantLead package variant = variantLead package artifacts.variant := by
  have keys : ((Publication.variant artifacts).items package).map (·.1) =
      Field.all.map (variantKey package artifacts.variant) := rfl
  rw [keys, List.mem_map]
  constructor
  · rintro ⟨g, _, same⟩
    exact (variantKey_eq_iff.mp same).2.symm
  · intro sameLead
    exact ⟨f, by cases f <;> decide, variantKey_eq_iff.mpr ⟨rfl, sameLead.symm⟩⟩

/-- A call touches all facts of a variant or none of them. -/
theorem Channel.AllOrNone.publish (whole : channel.AllOrNone)
    (published : channel.publish call = .ok channel') : channel'.AllOrNone := by
  have takes := takes_of_publish published
  intro variant
  rw [takes.package]
  by_cases touched : ∃ artifacts, call = .variant artifacts ∧
      variantLead channel.package variant = variantLead channel.package artifacts.variant
  · obtain ⟨artifacts, rfl, sameLead⟩ := touched
    refine .inl fun f => ?_
    obtain ⟨⟨_, value⟩, isItem, sameKey⟩ :=
      List.mem_map.mp (variantKey_mem_items_iff (f := f).mpr sameLead)
    rw [← sameKey, takes.set _ _ isItem]
    rfl
  · have apart : ∀ f, variantKey channel.package variant f ∉
        (call.items channel.package).map (·.1) := by
      intro f inside
      cases call with
      | included includeDir =>
          obtain ⟨entry, isItem, same⟩ := List.mem_map.mp inside
          obtain rfl := List.mem_singleton.mp isItem
          exact variantKey_ne_includeKey _ _ _ _ same.symm
      | variant artifacts => exact touched ⟨artifacts, rfl, variantKey_mem_items_iff.mp inside⟩
    simp only [fun f => takes.kept _ (apart f)]
    exact whole variant

/-- Whatever a call that succeeds preserves holds of any channel that was reached. -/
theorem Channel.afterAttempts_induction {P : Channel → Prop} {package : String}
    (start : P (empty package))
    (step : ∀ channel call channel', P channel → channel.publish call = .ok channel' → P channel')
    (calls : List Publication) : P (afterAttempts package calls) := by
  unfold afterAttempts
  generalize empty package = channel at start
  induction calls generalizing channel with
  | nil => exact start
  | cons call rest ih =>
      rw [forM_cons, runFrom_bind_of_ok (runFrom_attempt call channel), runFrom_perform]
      cases published : channel.publish call with
      | ok next => exact ih next (step channel call next start published)
      | error problem => exact ih channel start

theorem Channel.package_afterAttempts (package : String) (calls : List Publication) :
    (afterAttempts package calls).package = package :=
  afterAttempts_induction (P := fun channel => channel.package = package) rfl
    (fun _ _ _ named published => (takes_of_publish published).package.trans named) calls

theorem Channel.allOrNone_afterAttempts (package : String) (calls : List Publication) :
    (afterAttempts package calls).AllOrNone :=
  afterAttempts_induction (fun _ => .inr fun _ => rfl)
    (fun _ _ _ whole published => whole.publish published) calls

theorem extends_attempt (call : Publication) : Respects Channel.Extends call.attempt := by
  intro channel
  rw [runFrom_attempt, runFrom_perform]
  cases published : channel.publish call with
  | ok next => exact Channel.extends_of_publish published
  | error problem => exact refl_of Channel.Extends channel

theorem runFrom_attempts (calls : List Publication) (channel : Channel) :
    (runFrom (calls.forM attempt) channel).1 = .ok () := by
  induction calls generalizing channel with
  | nil => rfl
  | cons call rest ih =>
      rw [forM_cons, runFrom_bind_of_ok (runFrom_attempt call channel)]
      exact ih _

theorem Channel.extends_afterAttempts (package : String) (calls more : List Publication) :
    (afterAttempts package calls).Extends (afterAttempts package (calls ++ more)) := by
  have ran : runFrom (calls.forM attempt) (empty package) =
      (.ok (), afterAttempts package calls) := Prod.ext (runFrom_attempts calls _) rfl
  have continued : afterAttempts package (calls ++ more) =
      (runFrom (more.forM attempt) (afterAttempts package calls)).2 := by
    rw [← runFrom_bind_of_ok ran fun _ => more.forM attempt, ← forM_append]
    rfl
  rw [continued]
  exact respects_forM (fun call _ => extends_attempt call) _

end Calls

/-- After any calls, the next one sets all of its entries or fails with a conflict and leaves the
channel as it is; it fails exactly if an entry contradicts what the channel holds. What the channel
holds it keeps under any further calls, and it holds all facts of a variant or none. -/
theorem attempts_all_or_nothing (package : String) (calls : List Publication) :
    let channel := Channel.afterAttempts package calls
    (∀ call : Publication,
      ((∃ next, channel.publish call = .ok next ∧
          runFrom call.perform channel = (.ok (), next) ∧
          channel.Takes (call.items package) next) ∨
        ∃ key old value, channel.publish call = .error (.metadataConflict key old value) ∧
          runFrom call.perform channel =
            (.error (.problem (.metadataConflict key old value)), channel)) ∧
      ((runFrom call.perform channel).1 ≠ .ok () ↔
        ∃ key old value, channel.Contradicts (call.items package) key old value)) ∧
    (∀ more, channel.Extends (Channel.afterAttempts package (calls ++ more))) ∧
    channel.AllOrNone := by
  intro channel
  have named : channel.package = package := Channel.package_afterAttempts package calls
  refine ⟨fun call => ?_, Channel.extends_afterAttempts package calls,
    Channel.allOrNone_afterAttempts package calls⟩
  have performed := runFrom_perform call channel
  cases published : channel.publish call with
  | ok next =>
      rw [published] at performed
      have takes := Channel.takes_of_publish published
      rw [named] at takes
      refine ⟨.inl ⟨next, rfl, performed, takes⟩, ?_⟩
      rw [performed]
      refine ⟨fun failed => absurd rfl failed, ?_⟩
      rintro ⟨key, old, value, contradicts⟩
      rw [← named] at contradicts
      exact absurd published (Channel.publish_ne_ok contradicts)
  | error problem =>
      rw [published] at performed
      obtain ⟨key, old, value, rfl, contradicts⟩ := Channel.publish_eq_error published
      rw [named] at contradicts
      refine ⟨.inr ⟨key, old, value, rfl, performed⟩, ?_⟩
      rw [performed]
      exact ⟨fun _ => ⟨key, old, value, contradicts⟩, fun _ => by simp⟩

end NativeVariants.Metadata
