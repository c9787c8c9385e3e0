set_option autoImplicit false

/-!
Sets of characters given by bands of code points. A band list holds the ends of half-open
intervals in ascending order, so that membership needs one pass.
-/

namespace NativeVariants.Text

def inBands : List Nat → Nat → Bool
  | lo :: hi :: rest, code => (lo ≤ code && code < hi) || inBands rest code
  | _, _ => false

end NativeVariants.Text
