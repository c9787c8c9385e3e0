import NativeVariants.Proofs.Metadata.ChannelHistory
import NativeVariants.Proofs.Metadata.RecordText

set_option autoImplicit false

/-!
Facts do not depend on the order in which they are published. Calls that all succeed leave exactly
their entries behind (`Holds.publishEach`), and they succeed whenever no two of those entries
contradict each other. So any order will do, and a call may be repeated; what is written afterwards
tells the facts and nothing else (`publishEach_anyOrder`).
-/

namespace NativeVariants.Metadata

/-- No name has two values. -/
def Agree (entries : List (String × String)) : Prop :=
  ∀ key value other, (key, value) ∈ entries → (key, other) ∈ entries → value = other

theorem Agree.of_subset {entries more : List (String × String)} (agree : Agree more)
    (subset : entries ⊆ more) : Agree entries :=
  fun key value other first second => agree key value other (subset first) (subset second)

namespace Channel

def publishEach (channel : Channel) (calls : List Publication) : Except Problem Channel :=
  calls.foldlM Channel.publish channel

structure Knows (package : String) (entries : List (String × String)) (channel : Channel) :
    Prop where
  package : channel.package = package
  values : ∀ key value, channel.values.get? key = some value ↔ (key, value) ∈ entries

theorem knows_empty (package : String) : Knows package [] (empty package) where
  package := rfl
  values := by simp [empty, EmptyCollection.emptyCollection]

section Calls

variable {package : String} {entries : List (String × String)} {channel channel' : Channel}
  {call : Publication} {calls : List Publication}

theorem Knows.agree (knows : Knows package entries channel) : Agree entries := by
  intro key value other first second
  have held := (knows.values key value).mpr first
  rw [(knows.values key other).mpr second] at held
  exact (Option.some.inj held).symm

theorem Knows.publish (knows : Knows package entries channel)
    (published : channel.publish call = .ok channel') :
    Knows package (entries ++ call.items package) channel' := by
  have takes := takes_of_publish published
  have grows := extends_of_publish published
  rw [knows.package] at takes
  refine ⟨takes.package.trans knows.package, fun key value => ?_⟩
  rw [List.mem_append, ← knows.values]
  constructor
  · intro held
    by_cases touched : key ∈ (call.items package).map (·.1)
    · obtain ⟨⟨_, set⟩, isItem, rfl⟩ := List.mem_map.mp touched
      rw [takes.set _ _ isItem] at held
      cases held
      exact .inr isItem
    · rw [takes.kept key touched] at held
      exact .inl held
  · rintro (held | isItem)
    · exact grows.kept key value held
    · exact takes.set key value isItem

theorem Knows.exists_publish (knows : Knows package entries channel)
    (agree : Agree (entries ++ call.items package)) :
    ∃ next, channel.publish call = .ok next := by
  cases published : channel.publish call with
  | ok next => exact ⟨next, rfl⟩
  | error problem =>
      obtain ⟨key, old, value, _, contradicts⟩ := publish_eq_error published
      have isItem := contradicts.inside
      rw [knows.package] at isItem
      have known := (knows.values key old).mp contradicts.held
      have same := agree key old value (List.mem_append_left _ known)
        (List.mem_append_right _ isItem)
      exact absurd same contradicts.differs

theorem Knows.publishEach (knows : Knows package entries channel)
    (published : channel.publishEach calls = .ok channel') :
    Knows package (entries ++ calls.flatMap (·.items package)) channel' := by
  induction calls generalizing entries channel with
  | nil =>
      cases published
      rwa [List.flatMap_nil, List.append_nil]
  | cons call rest ih =>
      unfold Channel.publishEach at published
      rw [List.foldlM_cons] at published
      cases first : channel.publish call with
      | error problem =>
          rw [first] at published
          cases published
      | ok next =>
          rw [first] at published
          rw [List.flatMap_cons, ← List.append_assoc]
          exact ih (knows.publish first) published

theorem Knows.exists_publishEach (knows : Knows package entries channel)
    (agree : Agree (entries ++ calls.flatMap (·.items package))) :
    ∃ final, channel.publishEach calls = .ok final := by
  induction calls generalizing entries channel with
  | nil => exact ⟨channel, rfl⟩
  | cons call rest ih =>
      rw [List.flatMap_cons, ← List.append_assoc] at agree
      obtain ⟨next, first⟩ := knows.exists_publish (agree.of_subset (List.subset_append_left _ _))
      obtain ⟨final, later⟩ := ih (knows.publish first) agree
      refine ⟨final, ?_⟩
      unfold Channel.publishEach
      rw [List.foldlM_cons, first]
      exact later

end Calls

/-! ### What is written -/

/-- The record tells the package and its facts, and does not tell when they were published. -/
theorem render_eq_iff {channel channel' : Channel} :
    channel.render = channel'.render ↔ channel.package = channel'.package ∧
      ∀ key, channel.values.get? key = channel'.values.get? key := by
  constructor
  · intro same
    have read := channel.read_render
    rw [same, channel'.read_render] at read
    injection read with read
    injection read with read
    simp only [List.cons.injEq, Prod.mk.injEq, Datum.text.injEq, Datum.map.injEq, true_and,
      and_true] at read
    obtain ⟨samePackage, sameText⟩ := read
    have sameEntries : channel'.values.sorted.entries = channel.values.sorted.entries := by
      refine (List.map_inj_right ?_).mp sameText
      rintro ⟨key, value⟩ ⟨key', value'⟩ sameEntry
      simpa using sameEntry
    have perm := Table.sorted_perm channel'.values
    rw [sameEntries] at perm
    exact ⟨samePackage.symm,
      Table.get?_eq_of_perm ((Table.sorted_perm channel.values).symm.trans perm)⟩
  · rintro ⟨samePackage, sameValues⟩
    have perm : channel.values.entries.Perm channel'.values.entries :=
      Table.perm_of_get? fun key value => by rw [sameValues key]
    unfold render
    rw [samePackage, Table.sorted_eq_of_perm perm]

theorem Knows.render_eq {package : String} {entries entries' : List (String × String)}
    {channel channel' : Channel} (knows : Knows package entries channel)
    (knows' : Knows package entries' channel')
    (same : ∀ entry, entry ∈ entries ↔ entry ∈ entries') :
    channel.render = channel'.render := by
  refine render_eq_iff.mpr ⟨knows.package.trans knows'.package.symm, fun key => ?_⟩
  apply Option.ext
  intro value
  rw [knows.values, knows'.values, same]

end Channel

/-- If calls succeed on a channel on which nothing has been published, so do the same calls in any
other order and any other number, and the record that is written then is the same, byte by byte. Two
channels of a package write the same bytes only if they hold the same facts. -/
theorem publishEach_anyOrder (package : String) :
    (∀ calls calls' channel, (∀ call, call ∈ calls' ↔ call ∈ calls) →
      (Channel.empty package).publishEach calls = .ok channel →
      ∃ channel', (Channel.empty package).publishEach calls' = .ok channel' ∧
        channel'.render.toUTF8 = channel.render.toUTF8) ∧
    ∀ channel channel' : Channel, channel.package = package → channel'.package = package →
      channel.render.toUTF8 = channel'.render.toUTF8 →
      ∀ key, channel.values.get? key = channel'.values.get? key := by
  constructor
  · intro calls calls' channel same published
    have knows := (Channel.knows_empty package).publishEach published
    have sameEntries (entry : String × String) :
        entry ∈ [] ++ calls'.flatMap (·.items package) ↔
          entry ∈ [] ++ calls.flatMap (·.items package) := by
      simp only [List.nil_append, List.mem_flatMap, same]
    have agree := knows.agree.of_subset fun entry => (sameEntries entry).mp
    obtain ⟨channel', published'⟩ := (Channel.knows_empty package).exists_publishEach agree
    have knows' := (Channel.knows_empty package).publishEach published'
    refine ⟨channel', published', ?_⟩
    rw [knows'.render_eq knows sameEntries]
  · intro channel channel' _ _ sameBytes
    exact (Channel.render_eq_iff.mp (String.toByteArray_inj.mp sameBytes)).2

def oneVariant : List Publication :=
  [.included (.ofText "/src/include"),
    .variant ⟨"llama", "ggml_llama", .ofText "/inc", .ofText "/lib", .ofText "/bin", []⟩]

/-- The facts may be published backwards, and then once more. -/
theorem anyOrder_oneVariant :
    let calls := oneVariant
    let calls' := oneVariant.reverse ++ oneVariant
    (∀ call, call ∈ calls' ↔ call ∈ calls) ∧
    ∃ channel channel', (Channel.empty "ggml").publishEach calls = .ok channel ∧
      (Channel.empty "ggml").publishEach calls' = .ok channel' ∧
      channel'.render.toUTF8 = channel.render.toUTF8 ∧
      channel'.package = "ggml" ∧ channel.package = "ggml" ∧
      ∀ key, channel'.values.get? key = channel.values.get? key := by
  intro calls calls'
  have same (call : Publication) : call ∈ calls' ↔ call ∈ calls := by simp [calls', calls]
  obtain ⟨inAnyOrder, tellsFacts⟩ := publishEach_anyOrder "ggml"
  cases published : (Channel.empty "ggml").publishEach calls with
  | error problem =>
      have succeeds : ((Channel.empty "ggml").publishEach calls).isOk = true := by decide +kernel
      rw [published] at succeeds
      cases succeeds
  | ok channel =>
      obtain ⟨channel', published', sameBytes⟩ := inAnyOrder calls calls' channel same published
      have named := ((Channel.knows_empty "ggml").publishEach published).package
      have named' := ((Channel.knows_empty "ggml").publishEach published').package
      exact ⟨same, channel, channel', rfl, published', sameBytes, named', named,
        tellsFacts channel' channel named' named sameBytes⟩

end NativeVariants.Metadata
