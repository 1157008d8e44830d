import ModuleResolution.Proofs.Json.Written

/-! # JSON on one line

A value that is written on one line is on one line: whatever texts it holds, no line ends in it
(`Json.isInline_write`). A line break in a text is escaped, and everything else that is written is
made of digits, signs and fixed words.
-/

set_option autoImplicit false

namespace ModuleResolution

/-- No line ends in the text. -/
def IsInline (text : String) : Prop := '\n' ∉ text.toList

instance : DecidablePred IsInline := fun text => inferInstanceAs (Decidable ('\n' ∉ text.toList))

namespace IsInline

theorem append {left right : String} (hleft : IsInline left) (hright : IsInline right) :
    IsInline (left ++ right) := by
  rw [IsInline, String.toList_append, List.mem_append]
  exact not_or.mpr ⟨hleft, hright⟩

theorem intercalate {separator : String} (hseparator : IsInline separator) {texts : List String}
    (h : ∀ text ∈ texts, IsInline text) : IsInline (separator.intercalate texts) := by
  induction texts with
  | nil => exact List.not_mem_nil
  | cons text rest ih =>
      have htext : IsInline text := h text List.mem_cons_self
      cases rest with
      | nil =>
          rw [String.intercalate_singleton]
          exact htext
      | cons next rest =>
          rw [String.intercalate_cons_cons]
          exact (htext.append hseparator).append
            (ih fun other hother => h other (List.mem_cons_of_mem _ hother))

end IsInline

/-! ## Numbers -/

theorem newline_not_mem_toDigits (n : Nat) : '\n' ∉ Nat.toDigits 10 n := by
  intro hmem
  have hdigit : '\n'.isDigit = true :=
    Nat.isDigit_of_mem_toDigits (b := 10) (by decide) (by decide) hmem
  exact absurd hdigit (by decide)

theorem isInline_natRepr (n : Nat) : IsInline n.repr := by
  rw [IsInline, Nat.repr_eq_ofList_toDigits, String.toList_ofList]
  exact newline_not_mem_toDigits n

theorem isInline_integer (n : Int) : IsInline (toString n) := by
  cases n with
  | ofNat n => exact isInline_natRepr n
  | negSucc n =>
      show IsInline ("-" ++ (n + 1).repr)
      exact IsInline.append (by decide +kernel) (isInline_natRepr (n + 1))

/-- The digits, the point, the signs and the zeros of a decimal end no line. -/
theorem RealForm.isInline_writeDecimal (form : RealForm) (d : Decimal) :
    IsInline (form.writeDecimal d) := by
  have hdigits : '\n' ∉ Nat.toDigits 10 d.digits := newline_not_mem_toDigits _
  have htake : ∀ count, '\n' ∉ (Nat.toDigits 10 d.digits).take count :=
    fun count hmem => hdigits (List.mem_of_mem_take hmem)
  have hdrop : ∀ count, '\n' ∉ (Nat.toDigits 10 d.digits).drop count :=
    fun count hmem => hdigits (List.mem_of_mem_drop hmem)
  unfold IsInline RealForm.writeDecimal
  rw [String.toList_ofList]
  dsimp only
  split
  · split
    · simp [hdigits]
    · split
      · simp [htake, hdrop]
      · simp [hdigits]
  · -- the digit before the power of ten, what is behind it, and the power
    have hsign : ∀ isNegative : Prop, [Decidable isNegative] →
        '\n' ≠ (if isNegative then '-' else '+') := by
      intro isNegative _
      split <;> decide
    rw [List.mem_append, List.mem_append, List.mem_append, List.mem_cons, List.mem_cons]
    simp only [not_or]
    refine ⟨⟨⟨htake 1, ?_⟩, by decide, hsign _, by simp⟩, newline_not_mem_toDigits _⟩
    split
    · split
      · decide +kernel
      · exact List.not_mem_nil
    · rw [List.mem_cons, not_or]
      exact ⟨by decide, hdrop 1⟩

namespace Json

variable (charset : Charset)

theorem isInline_real (value : Binary64) : IsInline (realForm.write value) := by
  have hsign : IsInline (if value.isNegative then "-" else "") := by
    split <;> decide +kernel
  unfold RealForm.write
  dsimp only
  split
  · decide +kernel
  · exact hsign.append (by decide +kernel)
  · exact hsign.append (by decide +kernel)
  · exact hsign.append (RealForm.isInline_writeDecimal _ _)

/-! ## Texts -/

theorem lt_of_mem_digits {n d : Nat} (h : d ∈ Hex.digits n) : d < 16 := by
  induction n using Hex.digits.induct with
  | case1 =>
      rw [Hex.digits, dif_pos rfl] at h
      cases h
  | case2 n hne ih =>
      rw [Hex.digits, dif_neg hne, List.mem_append, List.mem_singleton] at h
      rcases h with h | rfl
      · exact ih h
      · exact Nat.mod_lt n (by decide)

theorem newline_not_mem_unitEscape (unit : Nat) : '\n' ∉ unitEscape unit := by
  have hdigits : '\n' ∉ (Hex.digits unit).map (Hex.digitChar 'a') := by
    intro hmem
    obtain ⟨d, hd, hnewline⟩ := List.mem_map.mp hmem
    have hne : ∀ d < 16, Hex.digitChar 'a' d ≠ '\n' := by decide
    exact hne d (lt_of_mem_digits hd) hnewline
  unfold unitEscape Hex.padded
  simp [hdigits]

/-- **A line break is escaped**, and no escape has one. -/
theorem newline_not_mem_encodeChar (c : Char) : '\n' ∉ encodeChar charset c := by
  have hunit := newline_not_mem_unitEscape
  by_cases hnewline : c = '\n'
  · subst hnewline
    show '\n' ∉ ['\\', 'n']
    decide
  · have hself : '\n' ∉ [c] := by simpa using Ne.symm hnewline
    -- the branches in order: marks, named escapes, control characters, kept ones, one unit, two
    unfold encodeChar
    dsimp only
    rw [if_neg hnewline]
    split
    · exact List.not_mem_cons_of_ne_of_not_mem (by decide) hself
    split
    · decide
    split
    · decide
    split
    · decide
    split
    · decide
    split
    · exact hunit _
    split
    · exact hself
    split
    · exact hunit _
    · rw [List.mem_append, not_or]
      exact ⟨hunit _, hunit _⟩

theorem isInline_quoted (text : String) : IsInline (quoted charset text) := by
  rw [IsInline, quoted, String.toList_ofList]
  simp [newline_not_mem_encodeChar]

/-! ## Values -/

theorem isInline_scalar {value : Scalar} {text : String} (h : scalar charset value = .ok text) :
    IsInline text := by
  cases value with
  | null => exact Except.ok.inj h ▸ (by decide +kernel : IsInline "null")
  | bool value =>
      cases value with
      | false => exact Except.ok.inj h ▸ (by decide +kernel : IsInline "false")
      | true => exact Except.ok.inj h ▸ (by decide +kernel : IsInline "true")
  | integer n =>
      rw [scalar] at h
      split at h
      · cases h
      · exact Except.ok.inj h ▸ isInline_integer n
  | real value => exact Except.ok.inj h ▸ isInline_real value
  | moment value => exact Except.ok.inj h ▸ isInline_quoted charset _
  | text text => exact Except.ok.inj h ▸ isInline_quoted charset text
  | octets content => exact Except.ok.inj h ▸ isInline_quoted charset _

theorem isInline_set {members : List Scalar} {text : String} (h : set charset members = .ok text) :
    IsInline text := by
  unfold set at h
  split at h
  · cases h
  · exact Except.ok.inj h ▸ isInline_quoted charset _

theorem isInline_name {key : Scalar} {text : String} (h : name charset key = .ok text) :
    IsInline text := by
  have hother
      (hname : name charset key = (scalar charset key).map fun text => "\"" ++ text ++ "\"") :
      IsInline text := by
    obtain ⟨written, hwritten, rfl⟩ := map_eq_ok_iff.mp (hname.symm.trans h)
    exact .append (.append (by decide +kernel) (isInline_scalar charset hwritten))
      (by decide +kernel)
  cases key with
  | text text => exact Except.ok.inj h ▸ isInline_quoted charset text
  | moment value => cases h
  | octets content => cases h
  | null | bool | integer | real => exact hother rfl

theorem isInline_enclose {opening closing : String} (hopening : IsInline opening)
    (hclosing : IsInline closing) (level : Nat) {parts : List String}
    (h : ∀ part ∈ parts, IsInline part) :
    IsInline (Spacing.inline.enclose level opening closing parts) := by
  have hparts : ∀ part ∈ parts.map (Spacing.inline.margin (level + 1) ++ ·), IsInline part := by
    intro part hpart
    obtain ⟨written, hwritten, rfl⟩ := List.mem_map.mp hpart
    exact .append (by decide +kernel : IsInline "") (h written hwritten)
  have hseparator : IsInline Spacing.inline.separator := by decide +kernel
  unfold Spacing.enclose
  split
  · exact hopening.append hclosing
  · exact ((hopening.append (.intercalate hseparator hparts)).append
      (by decide +kernel : IsInline "")).append hclosing

mutual

/-- **A value on one line** is on one line. -/
theorem isInline_write : ∀ (level : Nat) (value : Value) {text : String},
    write charset .inline level value = .ok text → IsInline text
  | _, .scalar value, _, h => isInline_scalar charset h
  | _, .set members, _, h => isInline_set charset h
  | level, .list items, _, h => by
    obtain ⟨texts, htexts, rfl⟩ := map_eq_ok_iff.mp h
    exact isInline_enclose (by decide +kernel) (by decide +kernel) level
      (isInline_writeItems (level + 1) items htexts)
  | level, .mapping entries, _, h => by
    obtain ⟨texts, htexts, rfl⟩ := map_eq_ok_iff.mp h
    exact isInline_enclose (by decide +kernel) (by decide +kernel) level
      (isInline_writeEntries (level + 1) entries htexts)

theorem isInline_writeItems : ∀ (level : Nat) (items : List Value) {texts : List String},
    writeItems charset .inline level items = .ok texts → ∀ text ∈ texts, IsInline text
  | _, [], _, h => by
    cases h
    exact nofun
  | level, item :: rest, _, h => by
    obtain ⟨text, htext, h⟩ := bind_eq_ok_iff.mp h
    obtain ⟨texts, htexts, rfl⟩ := map_eq_ok_iff.mp h
    exact List.forall_mem_cons.mpr
      ⟨isInline_write level item htext, isInline_writeItems level rest htexts⟩

theorem isInline_writeEntries :
    ∀ (level : Nat) (entries : List (Scalar × Value)) {texts : List String},
    writeEntries charset .inline level entries = .ok texts → ∀ text ∈ texts, IsInline text
  | _, [], _, h => by
    cases h
    exact nofun
  | level, (key, item) :: rest, _, h => by
    obtain ⟨named, hnamed, h⟩ := bind_eq_ok_iff.mp h
    obtain ⟨text, htext, h⟩ := bind_eq_ok_iff.mp h
    obtain ⟨texts, htexts, rfl⟩ := map_eq_ok_iff.mp h
    have hentry : IsInline (named ++ ": " ++ text) :=
      ((isInline_name charset hnamed).append (by decide +kernel)).append
        (isInline_write level item htext)
    exact List.forall_mem_cons.mpr ⟨hentry, isInline_writeEntries level rest htexts⟩

end

end Json

end ModuleResolution
