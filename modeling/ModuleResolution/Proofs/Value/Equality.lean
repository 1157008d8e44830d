import ModuleResolution.Value.Basic

/-! # Equality of keys

Keys are equal by what they count as, and of the keys only a text counts as a text.
-/

set_option autoImplicit false

namespace ModuleResolution

/-- A key that counts as a text is that text. -/
theorem Scalar.eq_text_of_asKey {key : Scalar} {name : String}
    (h : key.asKey = (Scalar.text name).asKey) : key = .text name := by
  rw [asKey_text] at h
  cases key with
  | real value =>
      simp only [asKey] at h
      split at h <;> cases h
  | moment value =>
      simp only [asKey] at h
      split at h <;> cases h
  | null => cases h
  | bool value => cases h
  | integer value => cases h
  | text value => exact congrArg Scalar.text (by injection h with h; injection h)
  | octets content => cases h

end ModuleResolution
