import Mathlib.Data.List.Basic
import NativeVariants.Bindings
import NativeVariants.Proofs.Header.RecordOrder

set_option autoImplicit false

/-!
The order of layouts in the bindings. A class that a field holds by value has to be laid out before
the class of the field. The layouts stand in the order of the first cursors of their records, so
that this is the case exactly if the first cursor of the held record comes first
(`layouts_usable_iff`). It is not enough that the definitions stand in an order that C accepts
(`forwardDeclared_unusable`).
-/

namespace NativeVariants.Header

/-- The names of an expression that do not stand behind a pointer. -/
def Expression.held : Expression → List String
  | named name => [name]
  | pointer _ => []
  | array element _ => element.held
  | unmapped _ => ["c_void_p"]

/-- A field of the one record holds the other by value. -/
def RecordEntry.Holds (a b : RecordEntry) : Prop := ∃ f ∈ a.fields, b.name ∈ f.type.held

instance (a b : RecordEntry) : Decidable (a.Holds b) :=
  inferInstanceAs (Decidable (∃ f ∈ a.fields, b.name ∈ f.type.held))

/-- The records whose layouts are written, in that order. -/
def Surface.layouts (s : Surface) : List RecordEntry := s.records.filter (!·.isOpaque)

/-- Every layout stands after the layouts of the records that it holds by value. -/
def UsableOrder (layouts : List RecordEntry) : Prop :=
  ∀ a ∈ layouts, ∀ b ∈ layouts, a.Holds b → layouts.idxOf b < layouts.idxOf a

instance (layouts : List RecordEntry) : Decidable (UsableOrder layouts) :=
  inferInstanceAs (Decidable (∀ a ∈ layouts, ∀ b ∈ layouts, a.Holds b →
    layouts.idxOf b < layouts.idxOf a))

theorem idxOf_lt_idxOf_iff {α : Type} [BEq α] [LawfulBEq α] {measure : α → Nat} {xs : List α}
    (grows : xs.Pairwise fun earlier later => measure earlier < measure later) {a b : α}
    (inA : a ∈ xs) (inB : b ∈ xs) : xs.idxOf b < xs.idxOf a ↔ measure b < measure a := by
  have upwards : ∀ {x y : α}, x ∈ xs → y ∈ xs → xs.idxOf x < xs.idxOf y →
      measure x < measure y := by
    intro x y inX inY lt
    have placeX := List.idxOf_lt_length_iff.mpr inX
    have placeY := List.idxOf_lt_length_iff.mpr inY
    have related := List.pairwise_iff_getElem.mp grows _ _ placeX placeY lt
    rwa [List.getElem_idxOf placeX, List.getElem_idxOf placeY] at related
  refine ⟨upwards inB inA, fun lt => ?_⟩
  rcases Nat.lt_trichotomy (xs.idxOf b) (xs.idxOf a) with below | same | above
  · exact below
  · obtain rfl := (List.idxOf_inj inB).mp same
    exact absurd lt (Nat.lt_irrefl _)
  · exact absurd lt (Nat.lt_asymm (upwards inA inB above))

/-- The layouts of a module stand together, one after another. -/
theorem lines_eq_layouts (s : Surface) (source : String) :
    ∃ before after, Bindings.lines s source =
      before ++ s.layouts.flatMap Bindings.layoutLines ++ after := by
  unfold Bindings.lines
  have parted : ∃ heading, Bindings.part "# Structure layouts"
      ((s.records.filter (!·.isOpaque)).flatMap Bindings.layoutLines) =
        heading ++ s.layouts.flatMap Bindings.layoutLines := by
    unfold Bindings.part Surface.layouts
    split
    · rename_i isEmpty
      exact ⟨[], by rw [List.isEmpty_iff.mp isEmpty, List.append_nil]⟩
    · exact ⟨_, rfl⟩
  obtain ⟨heading, parted⟩ := parted
  rw [parted, ← List.append_assoc _ heading, List.append_assoc _ (Bindings.functionLines _)]
  exact ⟨_, _, rfl⟩

/-- The layouts are in a usable order exactly if the first cursor of each record that is held by
value comes before the first cursor of the record that holds it. -/
theorem layouts_usable_iff
    (allow : Allowlist) (known : Known) (header : String) (u : HeaderUnit) (s : Surface)
    (yielded : (collectUnit allow known header u).surface = .ok s) (source : String) :
    (∃ before after, Bindings.lines s source =
      before ++ s.layouts.flatMap Bindings.layoutLines ++ after) ∧
    (UsableOrder s.layouts ↔ ∀ a ∈ s.layouts, ∀ b ∈ s.layouts, a.Holds b →
      (collectUnit allow known header u).known.firstCursor u.declarations b.name <
        (collectUnit allow known header u).known.firstCursor u.declarations a.name) := by
  refine ⟨lines_eq_layouts s source, ?_⟩
  obtain ⟨knownEq, rfl⟩ := collectUnit_eq_ok yielded
  rw [knownEq]
  have names := Surface.pairwise_names allow (u.declarations.foldl (Known.after allow) known)
    u.declarations
  have grows := (List.pairwise_map.mp names).sublist
    (List.filter_sublist (p := fun r : RecordEntry => !r.isOpaque))
  constructor
  · intro usable a inA b inB holds
    exact (idxOf_lt_idxOf_iff grows inA inB).mp (usable a inA b inB holds)
  · intro ordered a inA b inB holds
    exact (idxOf_lt_idxOf_iff grows inA inB).mpr (ordered a inA b inB holds)

/-- The declaration of the record that a type holds by value, directly or in an array. -/
def CType.heldId? : CType → Option Int
  | sugar _ canonical => canonical.heldId?
  | array _ element _ => element.heldId?
  | record head _ => some head.declared.id
  | _ => none

namespace Declaration

def definedId? : Declaration → Option Int
  | record _ _ id isDefinition _ => if isDefinition then some id else none
  | _ => none

/-- The records that a definition holds by value. -/
def heldIds : Declaration → List Int
  | record _ _ _ isDefinition members =>
      if isDefinition then members.filterMap fun m => m.type.heldId? else []
  | _ => []

end Declaration

/-- The order that C asks for: a record is defined before the records that hold it by value. -/
def DefinedInOrder (ds : List Declaration) : Prop :=
  (∀ d ∈ ds, ∀ id ∈ d.heldIds, d.definedId? ≠ some id) ∧
    ds.Pairwise fun d later => ∀ id ∈ d.heldIds, later.definedId? ≠ some id

instance (ds : List Declaration) : Decidable (DefinedInOrder ds) :=
  inferInstanceAs (Decidable (_ ∧ _))

def plainRecord (name : String) (id : Int) : CType :=
  .record ⟨"struct " ++ name, ⟨true, name, id⟩⟩ 4

/-- A tensor that holds a shape, with what may come before the definitions. -/
def tensorUnit (opening : List Declaration) : HeaderUnit where
  declarations := opening ++
    [.record false "ggml_shape" 2 true [⟨"n", .scalar ⟨"int", .none⟩ .int, none⟩],
      .record false "ggml_tensor" 3 true [⟨"shape", plainRecord "ggml_shape" 2, none⟩]]
  diagnostics := []

/-- Without declarations in advance the shape is laid out first. -/
theorem tensorUnit_usable_iff :
    ∃ s, (collectUnit .default .empty "ggml.h" (tensorUnit [])).surface = .ok s ∧
      (∃ before after, Bindings.lines s "ggml.h" =
        before ++ s.layouts.flatMap Bindings.layoutLines ++ after) ∧
      (UsableOrder s.layouts ↔ ∀ a ∈ s.layouts, ∀ b ∈ s.layouts, a.Holds b →
        (collectUnit .default .empty "ggml.h" (tensorUnit [])).known.firstCursor
            (tensorUnit []).declarations b.name <
          (collectUnit .default .empty "ggml.h" (tensorUnit [])).known.firstCursor
            (tensorUnit []).declarations a.name) ∧
      UsableOrder s.layouts := by
  have found : (collectUnit .default .empty "ggml.h" (tensorUnit [])).surface.toOption.map
      (·.records) = some
        [⟨"ggml_shape", [⟨"n", .named "c_int", none⟩], false, false⟩,
          ⟨"ggml_tensor", [⟨"shape", .named "ggml_shape", none⟩], false, false⟩] := by
    decide +kernel
  obtain ⟨s, yielded, records⟩ := exists_surface found
  have usable : UsableOrder s.layouts := by
    unfold Surface.layouts
    rw [records]
    decide
  obtain ⟨lines, order⟩ := layouts_usable_iff _ _ _ _ s yielded "ggml.h"
  exact ⟨s, yielded, lines, order, usable⟩

/-- A tensor that is declared in advance is laid out before the shape that it holds, though C
accepts the order of the definitions. -/
theorem forwardDeclared_unusable :
    let u := tensorUnit [.record false "ggml_tensor" 1 false []]
    DefinedInOrder u.declarations ∧
      ∃ s, (collectUnit .default .empty "ggml.h" u).surface = .ok s ∧ ¬UsableOrder s.layouts := by
  refine ⟨by decide, ?_⟩
  have found : (collectUnit .default .empty "ggml.h"
      (tensorUnit [.record false "ggml_tensor" 1 false []])).surface.toOption.map (·.records) = some
        [⟨"ggml_tensor", [⟨"shape", .named "ggml_shape", none⟩], false, false⟩,
          ⟨"ggml_shape", [⟨"n", .named "c_int", none⟩], false, false⟩] := by
    decide +kernel
  obtain ⟨s, yielded, records⟩ := exists_surface found
  refine ⟨s, yielded, ?_⟩
  unfold Surface.layouts
  rw [records]
  decide

end NativeVariants.Header
