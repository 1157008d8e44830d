import ModuleResolution.Proofs.Resolve.Manifest

/-! # Texts that exceed the reader

A text that consists of more digits than a reader of whole numbers takes is refused as a number
that is too long (`Json.parse_of_digits`), not as a text that is no JSON. Digits are octets that
stand for themselves and no line ends, so they are read from a file as they are
(`Disk.readText_of_ascii`). A manifest that holds nothing but such a number is the simplest one
with an excess (`Place.hasExcess_of_ones`).
-/

set_option autoImplicit false

namespace ModuleResolution

/-! ## Octets that stand for themselves -/

/-- The character that an octet below 128 stands for. -/
def Utf8.plainChar (octet : UInt8) : Char := Char.ofNat octet.toNat

theorem Utf8.decodeFrom_ascii {octets : List UInt8} (h : ∀ octet ∈ octets, octet < 0x80)
    (offset : Nat) : decodeFrom offset none octets = .ok (octets.map plainChar) := by
  induction octets generalizing offset with
  | nil => rfl
  | cons octet rest ih =>
      obtain ⟨hoctet, hrest⟩ := List.forall_mem_cons.mp h
      rw [decodeFrom, if_pos hoctet, ih hrest]
      rfl

theorem Lines.unifyChars_of_not_mem {cs : List Char} (h : '\r' ∉ cs) : unifyChars cs = cs := by
  induction cs with
  | nil => rfl
  | cons c rest ih =>
      rw [List.mem_cons, not_or] at h
      have hc : c ≠ '\r' := fun heq => h.1 heq.symm
      rw [unifyChars, ih h.2, if_neg hc]
      rintro next rfl
      exact absurd rfl hc

theorem Disk.readText_of_ascii {disk : Disk} {cwd path : String} {octets : List UInt8}
    (h : disk.readOctets cwd path = .ok octets) (hascii : ∀ octet ∈ octets, octet < 0x80)
    (hline : '\r' ∉ octets.map Utf8.plainChar) :
    disk.readText cwd path = .ok (String.ofList (octets.map Utf8.plainChar)) := by
  have hdecode : Utf8.decode octets = .ok (String.ofList (octets.map Utf8.plainChar)) := by
    rw [Utf8.decode, Utf8.decodeFrom_ascii hascii]
    rfl
  rw [readText, h]
  dsimp only
  rw [hdecode]
  dsimp only
  rw [Lines.unify, String.toList_ofList, Lines.unifyChars_of_not_mem hline]

theorem Disk.readOctets_of_locate {disk : Disk} {cwd path : String} {location : List String}
    {octets : List UInt8} (h : disk.locate cwd path = .ok location)
    (hfile : disk.at? location = some (.file octets)) : disk.readOctets cwd path = .ok octets := by
  rw [readOctets, item, h]
  dsimp only
  rw [hfile]

/-! ## Digits -/

namespace Json

theorem ne_of_isDigit {c other : Char} (h : c.isDigit = true) (hother : other.isDigit = false) :
    c ≠ other := by
  rintro rfl
  rw [h] at hother
  cases hother

/-- A text that starts with a digit is no word. -/
theorem wordOrNumber_of_isDigit {c : Char} (h : c.isDigit = true) (rest : List Char) :
    wordOrNumber (c :: rest) = number (c :: rest) := by
  have hstarts : (words.all fun entry => entry.1.toList.head?.any (!Char.isDigit ·)) = true := by
    decide +kernel
  unfold wordOrNumber
  split
  · next result hfound =>
      obtain ⟨entry, hentry, hafter⟩ := List.exists_of_findSome?_eq_some hfound
      have hstart := List.all_eq_true.mp hstarts entry hentry
      cases hword : entry.1.toList with
      | nil =>
          rw [hword] at hstart
          cases hstart
      | cons first tail =>
          rw [hword] at hstart
          have hne : first ≠ c := (ne_of_isDigit h (by simpa using hstart)).symm
          simp [after?, hword, hne] at hafter
  · rfl

/-- A value that starts with a digit is a number. -/
theorem value_of_isDigit {c : Char} (h : c.isDigit = true) (rest : List Char)
    (depth steps : Nat) : value depth (steps + 1) (c :: rest) = number (c :: rest) := by
  rw [value, wordOrNumber_of_isDigit h]
  · exact fun _ heq => ne_of_isDigit h rfl (List.cons.inj heq).1
  · exact fun _ heq => ne_of_isDigit h rfl (List.cons.inj heq).1
  · exact fun _ heq => ne_of_isDigit h rfl (List.cons.inj heq).1

theorem skipBlanks_of_isDigit {c : Char} (h : c.isDigit = true) (rest : List Char) :
    skipBlanks (c :: rest) = c :: rest := by
  have hblank : isBlank c = false := by
    simp [isBlank, ne_of_isDigit h]
  rw [skipBlanks, List.dropWhile_cons_of_neg (by simp [hblank])]

/-- **A whole number with too many digits** exceeds the reader. -/
theorem number_of_digits {c : Char} {rest : List Char} (h : ∀ d ∈ c :: rest, d.isDigit = true)
    (hzero : c ≠ '0') (hlong : digitLimit < (c :: rest).length) :
    number (c :: rest) = .error (.excessive (.digits (c :: rest).length)) := by
  have hdigit : c.isDigit = true := h c List.mem_cons_self
  have hsign : c ≠ '-' := ne_of_isDigit hdigit rfl
  have hwhole : wholeDigits (c :: rest) = c :: rest := by
    have hall : (c :: rest).takeWhile Char.isDigit = c :: rest := List.takeWhile_eq_self_iff.mpr h
    unfold wholeDigits
    split
    · next heq =>
        cases heq
        exact absurd rfl hzero
    · exact hall
  -- the digits are all of the text, so nothing is left for a point or a power of ten
  unfold number
  extract_lets sign body whole afterWhole point afterPoint power left
  have hnone : sign = [] := by
    unfold sign
    split
    · next heq =>
        cases heq
        exact absurd rfl hsign
    · rfl
  have hbody : body = c :: rest := by
    unfold body
    rw [hnone]
    rfl
  have hall : whole = c :: rest := by
    unfold whole
    rw [hbody, hwhole]
  have hafter : afterWhole = [] := by
    unfold afterWhole
    rw [hbody, hall, List.drop_length]
  have hpoint : point = [] := by
    unfold point
    rw [hafter]
    rfl
  have hpower : power = [] := by
    unfold power afterPoint
    rw [hafter, hpoint]
    rfl
  rw [hall, hpoint, hpower, if_neg (by simp), if_pos (by simp), if_pos hlong]

/-- **A text of too many digits** is not read as JSON because of its length. -/
theorem parse_of_digits {digits : List Char} (h : ∀ d ∈ digits, d.isDigit = true)
    (hzero : digits.head? ≠ some '0') (hlong : digitLimit < digits.length) :
    parse (String.ofList digits) = .error (.excessive (.digits digits.length)) := by
  cases digits with
  | nil => exact absurd hlong (by simp)
  | cons c rest =>
      have hdigit : c.isDigit = true := h c List.mem_cons_self
      have hmark : (c :: rest).head? ≠ some (Char.ofNat 0xFEFF) := by
        simpa using ne_of_isDigit hdigit (by decide)
      have hdocument : document (c :: rest) = .error (.excessive (.digits (c :: rest).length)) := by
        rw [document, if_neg hmark, skipBlanks_of_isDigit hdigit, value_of_isDigit hdigit,
          number_of_digits h (by simpa using hzero) hlong]
        rfl
      rw [parse, String.toList_ofList, hdocument]

end Json

/-- **A manifest of too many ones** exceeds the reader. -/
theorem Place.hasExcess_of_ones {place : Place} {path : String} {count : Nat}
    (hnamed : Path.fileName path = Layout.manifest) (hlong : digitLimit < count)
    (h : place.disk.readOctets place.cwd path = .ok (List.replicate count 0x31)) :
    place.HasExcess path (.digits count) := by
  have hchar : Utf8.plainChar 0x31 = '1' := by decide
  have hread : place.readText path = .ok (String.ofList (List.replicate count '1')) := by
    rw [← hchar, ← List.map_replicate]
    refine Disk.readText_of_ascii h (fun octet hoctet => ?_) ?_
    · rw [List.eq_of_mem_replicate hoctet]
      decide
    · rw [List.map_replicate, hchar]
      intro hmem
      exact absurd (List.eq_of_mem_replicate hmem) (by decide)
  refine ⟨hnamed, Disk.kind?_of_readText hread, _, hread, ?_⟩
  rw [Json.parse_of_digits, List.length_replicate]
  · intro digit hdigit
    rw [List.eq_of_mem_replicate hdigit]
    decide
  · rw [List.head?_replicate]
    split <;> simp
  · rwa [List.length_replicate]

end ModuleResolution
