import NativeVariants.Header.Expression

set_option autoImplicit false

/-!
Aliases of types. However a type is written, what it is called in the bindings is decided by its
form: what is left of it when all aliases in it are seen through (`render_form`). So types of one
form are called alike (`render_eq_of_form`).
-/

namespace NativeVariants.Header

/-- The head of a type of which nothing is known but its kind. -/
def TypeHead.blank : TypeHead := ⟨"", .none⟩

namespace CType

/-- The type with all aliases in it replaced by what they stand for, at any depth. How it was spelled
is dropped, except for a record, which is called by its spelling if it has no tag. -/
def form : CType → CType
  | scalar _ kind => .scalar .blank kind
  | enumeration _ => .enumeration .blank
  | pointer _ target => .pointer .blank target.form
  | array _ element count => .array .blank element.form count
  | openArray _ element => .openArray .blank element.form
  | function _ => .function .blank
  | record head size => .record head size
  | other _ => .other .blank
  | sugar _ canonical => canonical.form

/-- What an alias stands for is no alias itself. -/
def IsCoherent : CType → Prop
  | pointer _ target => target.IsCoherent
  | array _ element _ => element.IsCoherent
  | openArray _ element => element.IsCoherent
  | sugar _ canonical => canonical.canonical = canonical ∧ canonical.IsCoherent
  | _ => True

instance decidableIsCoherent : (t : CType) → Decidable t.IsCoherent
  | pointer _ target => decidableIsCoherent target
  | array _ element _ => decidableIsCoherent element
  | openArray _ element => decidableIsCoherent element
  | sugar _ canonical =>
      have := decidableIsCoherent canonical
      inferInstanceAs (Decidable (canonical.canonical = canonical ∧ canonical.IsCoherent))
  | scalar _ _ | enumeration _ | function _ | record _ _ | other _ => .isTrue trivial

theorem canonical_form (t : CType) : t.form.canonical = t.form := by
  induction t with
  | sugar head canonical ih => exact ih
  | _ => rfl

variable {t : CType}

theorem IsCoherent.canonical (coherent : t.IsCoherent) : t.canonical.IsCoherent := by
  cases t with
  | sugar head canonical => exact coherent.2
  | _ => exact coherent

theorem IsCoherent.canonical_canonical (coherent : t.IsCoherent) :
    t.canonical.canonical = t.canonical := by
  cases t with
  | sugar head canonical => exact coherent.1
  | _ => rfl

end CType

variable {known : Known} {t u : CType}

theorem pointerTo?_form (coherent : t.IsCoherent) :
    pointerTo? known t.form = pointerTo? known t.canonical := by
  induction t with
  | scalar head kind => cases kind <;> rfl
  | sugar head canonical ih =>
      obtain ⟨isCanonical, below⟩ := coherent
      have same := ih below
      rwa [isCanonical] at same
  | _ => rfl

theorem render_recordValue (spelling spelling' : String) (t : CType) (size : Int) :
    (recordValue known spelling t size).render = (recordValue known spelling' t size).render := by
  unfold recordValue
  split
  · rfl
  · split <;> rfl

/-- The spelling of a type does not show in what it is called. -/
theorem render_canonicalExpression_form (coherent : t.IsCoherent) (spelling spelling' : String) :
    (canonicalExpression known spelling t.form).render =
      (canonicalExpression known spelling' t.canonical).render := by
  induction t generalizing spelling spelling' with
  | pointer head target ih =>
      have below : target.IsCoherent := coherent
      change (canonicalExpression known spelling (.pointer .blank target.form)).render =
        (canonicalExpression known spelling' (.pointer head target)).render
      rw [canonicalExpression, canonicalExpression, CType.canonical_form, CType.canonical_form,
        pointerTo?_form below, below.canonical_canonical]
      cases pointerTo? known target.canonical with
      | some e => rfl
      | none => simp only [Expression.render, ih below _ target.canonical.spelling]
  | array head element count ih =>
      change (canonicalExpression known spelling (.array .blank element.form count)).render =
        (canonicalExpression known spelling' (.array head element count)).render
      rw [canonicalExpression, canonicalExpression, CType.canonical_form]
      simp only [Expression.render, ih coherent _ element.spelling]
  | openArray head element ih =>
      change (canonicalExpression known spelling (.openArray .blank element.form)).render =
        (canonicalExpression known spelling' (.openArray head element)).render
      rw [canonicalExpression, canonicalExpression, CType.canonical_form]
      simp only [Expression.render, ih coherent _ element.spelling]
  | record head size =>
      change (canonicalExpression known spelling (.record head size)).render =
        (canonicalExpression known spelling' (.record head size)).render
      rw [canonicalExpression, canonicalExpression]
      exact render_recordValue _ _ _ _
  | sugar head canonical ih =>
      obtain ⟨isCanonical, below⟩ := coherent
      have same := ih below spelling spelling'
      rwa [isCanonical] at same
  | _ => simp only [CType.form, CType.canonical, canonicalExpression, Expression.render]

/-- A type is called what its form is called. -/
theorem render_form (coherent : t.IsCoherent) :
    (t.form.expression known).render = (t.expression known).render := by
  unfold CType.expression
  rw [CType.canonical_form]
  exact render_canonicalExpression_form coherent _ _

/-- Types that are the same once all aliases in them are seen through are called alike, whichever
records are known. -/
theorem render_eq_of_form (known : Known) {t u : CType} (coherent : t.IsCoherent)
    (coherent' : u.IsCoherent) (same : t.form = u.form) :
    (t.expression known).render = (u.expression known).render := by
  rw [← render_form coherent, same, render_form coherent']

/-- Two tensors, by way of an alias for the pointer. -/
def tensorPair : CType :=
  let tensor : CType := .record ⟨"struct ggml_tensor", ⟨true, "ggml_tensor", 1⟩⟩ 24
  .array ⟨"ggml_tensor_ref[2]", .none⟩
    (.sugar ⟨"ggml_tensor_ref", .none⟩ (.pointer ⟨"struct ggml_tensor *", .none⟩ tensor)) 2

def tensorPairAgain : CType :=
  let tensor : CType := .record ⟨"struct ggml_tensor", ⟨true, "ggml_tensor", 1⟩⟩ 24
  .sugar ⟨"ggml_pair", .none⟩
    (.array ⟨"ggml_tensor_t *[2]", .none⟩
      (.pointer ⟨"ggml_tensor_t *", .none⟩ (.sugar ⟨"ggml_tensor_t", .none⟩ tensor)) 2)

theorem render_tensorPair :
    tensorPair.IsCoherent ∧ tensorPairAgain.IsCoherent ∧
      tensorPair.form = tensorPairAgain.form ∧
      (tensorPairAgain.expression ⟨["ggml_tensor"], ∅⟩).render = "(POINTER(ggml_tensor) * 2)" ∧
      (tensorPairAgain.expression .empty).render = "(c_void_p * 2)" := by
  have coherent : tensorPair.IsCoherent := by decide
  have coherentAgain : tensorPairAgain.IsCoherent := by decide
  have same : tensorPair.form = tensorPairAgain.form := by decide
  refine ⟨coherent, coherentAgain, same, ?_, ?_⟩
  · rw [← render_eq_of_form _ coherent coherentAgain same]
    decide +kernel
  · rw [← render_eq_of_form _ coherent coherentAgain same]
    decide +kernel

end NativeVariants.Header
