import Mathlib.Data.List.TakeWhile
import ModuleResolution.Text.Markup

/-! # Escaped texts

A text is scanned for tags stretch by stretch, and each stretch is one of three (`Stretch`):
backslashes alone, backslashes and a tag, or backslashes and a character that starts no tag. Escaping
keeps each stretch, except that the backslashes of a tag become an odd number. So in an escaped text
with a tag behind it only that tag may count as one (`exists_scan_escaped`).
-/

set_option autoImplicit false

namespace ModuleResolution.Markup

/-! ## Tags -/

def slashes (count : Nat) : List Char := List.replicate count '\\'

@[simp] theorem length_slashes (count : Nat) : (slashes count).length = count :=
  List.length_replicate

/-- The characters may be the content of a tag. -/
def IsTag (content : List Char) : Prop :=
  ∃ first body, content = first :: body ∧ startsTag first = true ∧ '[' ∉ body ∧ ']' ∉ body

/-- What stands in front of the first opening bracket. -/
def front (s : List Char) : List Char := s.takeWhile (· != '[')

theorem takeWhile_bracket {body : List Char} (hopen : '[' ∉ body) (hclose : ']' ∉ body)
    (after : List Char) :
    (body ++ ']' :: after).takeWhile (fun c => c != '[' && c != ']') = body := by
  induction body with
  | nil => simp
  | cons c rest ih =>
      simp only [List.mem_cons, not_or] at hopen hclose
      simp [Ne.symm hopen.1, Ne.symm hclose.1, ih hopen.2 hclose.2]

theorem tag?_bracketed {content : List Char} (h : IsTag content) (after : List Char) :
    tag? (bracketed content ++ after) = some (content, after) := by
  obtain ⟨first, body, rfl, hfirst, hopen, hclose⟩ := h
  have hbody := takeWhile_bracket hopen hclose after
  simp [bracketed, tag?, hfirst, hbody]

theorem tag?_eq_some {s content after : List Char} (h : tag? s = some (content, after)) :
    IsTag content ∧ s = bracketed content ++ after := by
  unfold tag? at h
  split at h
  · next first rest =>
      split at h
      · next hfirst =>
          dsimp only at h
          split at h
          · next more hmore =>
              simp only [Option.some.injEq, Prod.mk.injEq] at h
              obtain ⟨rfl, rfl⟩ := h
              have hbody : (rest.takeWhile fun c => c != '[' && c != ']') = _ :=
                List.prefix_iff_eq_take.mp (List.takeWhile_prefix _)
              have hrest := List.take_append_drop
                (rest.takeWhile fun c => c != '[' && c != ']').length rest
              rw [hmore, ← hbody] at hrest
              refine ⟨⟨first, _, rfl, hfirst, fun hmem => ?_, fun hmem => ?_⟩, ?_⟩
              · simpa using List.mem_takeWhile_imp hmem
              · simpa using List.mem_takeWhile_imp hmem
              · rw [bracketed, List.cons_append, List.cons_append, List.append_assoc]
                exact congrArg (fun l => '[' :: first :: l) hrest.symm
          · cases h
      · cases h
  · cases h

theorem IsTag.open_not_mem {content : List Char} (h : IsTag content) : '[' ∉ content := by
  obtain ⟨first, body, rfl, hfirst, hopen, -⟩ := h
  intro hmem
  rcases List.mem_cons.mp hmem with rfl | hmem
  · exact absurd hfirst (by decide)
  · exact hopen hmem

/-- A tag stands in front of the next opening bracket. -/
theorem front_of_tag? {rest content after : List Char}
    (h : tag? ('[' :: rest) = some (content, after)) :
    IsTag content ∧ front rest = content ++ ']' :: front after := by
  obtain ⟨hcontent, hrest⟩ := tag?_eq_some h
  obtain rfl : rest = content ++ ']' :: after := by
    simpa [bracketed] using hrest
  refine ⟨hcontent, ?_⟩
  unfold front
  rw [List.takeWhile_append_of_pos]
  · simp
  · intro c hc
    have hne : c ≠ '[' := fun heq => hcontent.open_not_mem (heq ▸ hc)
    simpa using hne

/-- What stands in front of the next opening bracket makes a tag. -/
theorem tag?_of_front {rest content more : List Char} (hcontent : IsTag content)
    (hfront : front rest = content ++ ']' :: more) :
    tag? ('[' :: rest) = some (content, more ++ rest.dropWhile (· != '[')) := by
  have hrest : rest = content ++ ']' :: (more ++ rest.dropWhile (· != '[')) := by
    calc
      rest = front rest ++ rest.dropWhile (· != '[') := List.takeWhile_append_dropWhile.symm
      _ = content ++ ']' :: (more ++ rest.dropWhile (· != '[')) := by simp [hfront]
  have hbracketed : '[' :: rest = bracketed content ++ (more ++ rest.dropWhile (· != '[')) := by
    rw [bracketed, List.cons_append, List.cons_append, List.append_assoc]
    exact congrArg _ hrest
  rw [hbracketed, tag?_bracketed hcontent]

/-- Backslashes hold no closing bracket. -/
theorem exists_eq_of_append_slashes {s content more : List Char} {count : Nat}
    (h : s ++ slashes count = content ++ ']' :: more) : ∃ rest, s = content ++ ']' :: rest := by
  have hclose : ']' ∉ slashes count := fun hmem =>
    absurd (List.eq_of_mem_replicate hmem) (by decide)
  rcases List.append_eq_append_iff.mp h.symm with ⟨rest, hrest, htail⟩ | ⟨rest, hrest, htail⟩
  · cases rest with
    | nil =>
        rw [List.nil_append] at htail
        exact absurd (htail ▸ List.mem_cons_self) hclose
    | cons c rest =>
        obtain ⟨rfl, -⟩ := List.cons.inj htail
        exact ⟨rest, hrest⟩
  · exact absurd (htail ▸ List.mem_append_right _ List.mem_cons_self) hclose

/-- What counts as a tag is seen in front of the next opening bracket, and backslashes there make no
difference. -/
theorem tag?_eq_none_of_front {rest other : List Char} {count : Nat}
    (hfront : front other = front rest ++ slashes count) (h : tag? ('[' :: rest) = none) :
    tag? ('[' :: other) = none := by
  by_contra hsome
  obtain ⟨⟨content, after⟩, hsome⟩ := Option.ne_none_iff_exists'.mp hsome
  obtain ⟨hcontent, hother⟩ := front_of_tag? hsome
  obtain ⟨more, hmore⟩ := exists_eq_of_append_slashes (hfront.symm.trans hother)
  rw [tag?_of_front hcontent hmore] at h
  cases h

/-! ## Stretches -/

/-- What a text starts with: backslashes alone, backslashes and a tag, or backslashes and a
character that starts no tag. -/
inductive Stretch : List Char → Prop
  | slashes (count : Nat) : Stretch (slashes count)
  | tag (count : Nat) {content : List Char} (h : IsTag content) (after : List Char) :
    Stretch (slashes count ++ (bracketed content ++ after))
  | char (count : Nat) {c : Char} (hc : c ≠ '\\') {rest : List Char}
    (h : tag? (c :: rest) = none) : Stretch (Markup.slashes count ++ c :: rest)

theorem takeWhile_slashes (count : Nat) (rest : List Char) (h : rest.head? ≠ some '\\') :
    (slashes count ++ rest).takeWhile (· == '\\') = slashes count := by
  rw [List.takeWhile_append_of_pos]
  · cases rest with
    | nil => simp
    | cons c rest =>
        have hc : c ≠ '\\' := fun heq => h (by rw [heq]; rfl)
        simp [hc]
  · intro c hc
    simpa using List.eq_of_mem_replicate hc

theorem stretch (s : List Char) : Stretch s := by
  have hslashes : s.takeWhile (· == '\\') = slashes (s.takeWhile (· == '\\')).length :=
    List.eq_replicate_of_mem fun c hc => by simpa using List.mem_takeWhile_imp hc
  have hsplit : s.takeWhile (· == '\\') ++ s.dropWhile (· == '\\') = s :=
    List.takeWhile_append_dropWhile
  rw [hslashes] at hsplit
  rw [← hsplit]
  cases hdrop : s.dropWhile (· == '\\') with
  | nil =>
      rw [List.append_nil]
      exact .slashes _
  | cons c rest =>
      cases htag : tag? (c :: rest) with
      | none =>
          refine .char _ ?_ htag
          have hhead := List.head?_dropWhile_not (· == '\\') s
          rw [hdrop] at hhead
          simpa using hhead
      | some found =>
          obtain ⟨hcontent, hrest⟩ := tag?_eq_some htag
          rw [hrest]
          exact .tag _ hcontent _

section scan

variable (steps : Nat) (shown : List Char)

theorem scan_slashes (count : Nat) :
    scan (steps + 1) shown (slashes count) = flush (slashes count ++ shown) := by
  have htake := takeWhile_slashes count [] (by simp)
  rw [List.append_nil] at htake
  simp only [scan, htake, List.drop_length]

theorem scan_tag (count : Nat) {content : List Char} (h : IsTag content) (after : List Char) :
    scan (steps + 1) shown (slashes count ++ (bracketed content ++ after)) =
      flush shown ++ .tag count content :: scan steps [] after := by
  have htag := tag?_bracketed h after
  have htake := takeWhile_slashes count (bracketed content ++ after) (by simp [bracketed])
  have hdrop : (slashes count ++ (bracketed content ++ after)).drop count =
      bracketed content ++ after := List.drop_left' (length_slashes count)
  simp only [scan, htake, length_slashes, hdrop]
  unfold bracketed at htag ⊢
  simp only [List.cons_append] at htag ⊢
  simp only [htag]

theorem scan_char (count : Nat) {c : Char} (hc : c ≠ '\\') {rest : List Char}
    (h : tag? (c :: rest) = none) :
    scan (steps + 1) shown (slashes count ++ c :: rest) =
      scan steps (c :: (slashes count ++ shown)) rest := by
  have htake := takeWhile_slashes count (c :: rest) (by simpa using hc)
  have hdrop : (slashes count ++ c :: rest).drop count = c :: rest :=
    List.drop_left' (length_slashes count)
  simp only [scan, htake, length_slashes, hdrop, h]

end scan

theorem scan_nil (steps : Nat) (shown : List Char) : scan steps shown [] = flush shown := by
  cases steps <;> rfl

/-- The number of steps does not matter if there are enough for the characters. -/
theorem scan_eq_of_le {s : List Char} {steps more : Nat} (h : s.length ≤ steps)
    (hmore : s.length ≤ more) (shown : List Char) : scan steps shown s = scan more shown s := by
  induction steps generalizing s more shown with
  | zero =>
      obtain rfl := List.eq_nil_of_length_eq_zero (Nat.le_zero.mp h)
      rw [scan_nil, scan_nil]
  | succ steps ih =>
      cases more with
      | zero =>
          obtain rfl := List.eq_nil_of_length_eq_zero (Nat.le_zero.mp hmore)
          rw [scan_nil, scan_nil]
      | succ more =>
          cases stretch s with
          | slashes count => rw [scan_slashes, scan_slashes]
          | tag count hcontent after =>
              simp only [bracketed, List.length_append, List.length_cons] at h hmore
              have hsteps : after.length ≤ steps := by omega
              have hmore : after.length ≤ more := by omega
              rw [scan_tag _ _ _ hcontent, scan_tag _ _ _ hcontent, ih hsteps hmore]
          | @char count c hc rest hchar =>
              simp only [List.length_append, List.length_cons] at h hmore
              have hsteps : rest.length ≤ steps := by omega
              have hmore : rest.length ≤ more := by omega
              rw [scan_char _ _ _ hc hchar, scan_char _ _ _ hc hchar, ih hsteps hmore]

/-! ## Escaping -/

def escapedTags (s : List Char) : List Char := (scan s.length [] s).flatMap Piece.escape

theorem escapedTags_eq {s : List Char} {steps : Nat} (h : s.length ≤ steps) :
    escapedTags s = (scan steps [] s).flatMap Piece.escape := by
  rw [escapedTags, scan_eq_of_le (Nat.le_refl _) h]

theorem flatMap_escape_flush (chars : List Char) :
    (flush chars).flatMap Piece.escape = chars.reverse := by
  cases chars <;> simp [flush, Piece.escape]

/-- Characters that are shown already stay in front of what is escaped. -/
theorem flatMap_escape_scan (steps : Nat) (shown s : List Char) :
    (scan steps shown s).flatMap Piece.escape =
      shown.reverse ++ (scan steps [] s).flatMap Piece.escape := by
  induction steps generalizing shown s with
  | zero => simp [scan, flatMap_escape_flush]
  | succ steps ih =>
      cases stretch s with
      | slashes count =>
          rw [scan_slashes, scan_slashes, flatMap_escape_flush, flatMap_escape_flush]
          simp
      | tag count hcontent after =>
          rw [scan_tag _ _ _ hcontent, scan_tag _ _ _ hcontent]
          simp [flatMap_escape_flush]
      | char count hc hchar =>
          rw [scan_char _ _ _ hc hchar, scan_char _ _ _ hc hchar, ih, ih (_ :: _)]
          simp

theorem escapedTags_slashes (count : Nat) : escapedTags (slashes count) = slashes count := by
  rw [escapedTags_eq (Nat.le_succ _), scan_slashes, flatMap_escape_flush]
  simp [slashes]

theorem escapedTags_tag (count : Nat) {content : List Char} (h : IsTag content)
    (after : List Char) :
    escapedTags (slashes count ++ (bracketed content ++ after)) =
      slashes (2 * count + 1) ++ (bracketed content ++ escapedTags after) := by
  have hafter : after.length ≤ (slashes count ++ (bracketed content ++ after)).length := by
    simp only [List.length_append]
    omega
  rw [escapedTags_eq (Nat.le_succ _), scan_tag _ _ _ h, escapedTags_eq hafter]
  simp [flush, Piece.escape, slashes]

theorem escapedTags_char (count : Nat) {c : Char} (hc : c ≠ '\\') {rest : List Char}
    (h : tag? (c :: rest) = none) :
    escapedTags (slashes count ++ c :: rest) = slashes count ++ c :: escapedTags rest := by
  have hrest : rest.length ≤ (slashes count ++ c :: rest).length := by
    simp only [List.length_append, List.length_cons]
    omega
  rw [escapedTags_eq (Nat.le_succ _), scan_char _ _ _ hc h, flatMap_escape_scan,
    escapedTags_eq hrest]
  simp [slashes]

theorem front_slashes (count : Nat) (s : List Char) :
    front (slashes count ++ s) = slashes count ++ front s := by
  unfold front
  rw [List.takeWhile_append_of_pos]
  intro c hc
  rw [List.eq_of_mem_replicate hc]
  rfl

@[simp] theorem front_open (s : List Char) : front ('[' :: s) = [] := rfl

theorem front_cons {c : Char} (h : c ≠ '[') (s : List Char) : front (c :: s) = c :: front s := by
  simp [front, h]

theorem slashes_append (count more : Nat) :
    slashes count ++ slashes more = slashes (count + more) := List.replicate_append_replicate

/-- Up to its first opening bracket an escaped text is the text itself, but for backslashes. -/
theorem exists_front_escapedTags (count : Nat) (tail s : List Char) :
    ∃ more, front (escapedTags s ++ (slashes count ++ '[' :: tail)) = front s ++ slashes more := by
  induction hlength : s.length using Nat.strong_induction_on generalizing s with
  | _ length ih =>
      cases stretch s with
      | slashes own =>
          have hown : front (slashes own) = slashes own := by
            simpa [front] using front_slashes own []
          refine ⟨count, ?_⟩
          rw [escapedTags_slashes, front_slashes, front_slashes, front_open, hown, List.append_nil]
      | tag own hcontent after =>
          refine ⟨own + 1, ?_⟩
          have htwice : 2 * own + 1 = own + (own + 1) := by omega
          rw [escapedTags_tag own hcontent, List.append_assoc, front_slashes, front_slashes, htwice,
            ← slashes_append]
          simp [bracketed]
      | @char own c hc rest hchar =>
          rw [escapedTags_char own hc hchar, List.append_assoc, front_slashes, front_slashes]
          by_cases hopen : c = '['
          · -- both end at this bracket
            exact ⟨0, by simp [hopen, slashes]⟩
          · obtain ⟨more, hmore⟩ := ih rest.length (by simp at hlength; omega) rest rfl
            refine ⟨more, ?_⟩
            rw [List.cons_append, front_cons hopen, front_cons hopen, hmore]
            simp

/-- A character that starts no tag starts none in the escaped text. -/
theorem tag?_escapedTags {c : Char} {rest : List Char} (h : tag? (c :: rest) = none) (count : Nat)
    (tail : List Char) :
    tag? (c :: (escapedTags rest ++ (slashes count ++ '[' :: tail))) = none := by
  by_cases hopen : c = '['
  · obtain ⟨more, hmore⟩ := exists_front_escapedTags count tail rest
    rw [hopen] at h ⊢
    exact tag?_eq_none_of_front hmore h
  · unfold tag?
    split
    · next heq => exact absurd (List.cons.inj heq).1 hopen
    · rfl

/-- All tags of the stretches count as plain text. -/
def IsPlain (pieces : List Piece) : Prop :=
  ∀ backslashes content, .tag backslashes content ∈ pieces → backslashes % 2 = 1

theorem isPlain_flush (chars : List Char) : IsPlain (flush chars) := by
  intro backslashes content hmem
  unfold flush at hmem
  split at hmem <;> simp at hmem

theorem IsPlain.append {first second : List Piece} (hfirst : IsPlain first)
    (hsecond : IsPlain second) : IsPlain (first ++ second) := by
  intro backslashes content hmem
  rcases List.mem_append.mp hmem with hmem | hmem
  · exact hfirst backslashes content hmem
  · exact hsecond backslashes content hmem

/-- **No tag of an escaped text counts as one.** Scanned with a tag behind it, only that tag may. -/
theorem exists_scan_escaped {name : List Char} (hname : IsTag name) (count : Nat) (s : List Char)
    {steps : Nat} (hsteps : (escapedTags s ++ (slashes count ++ bracketed name)).length ≤ steps)
    (shown : List Char) :
    ∃ pieces backslashes,
      scan steps shown (escapedTags s ++ (slashes count ++ bracketed name)) =
        pieces ++ [.tag backslashes name] ∧ IsPlain pieces := by
  -- the scan of an escaped text goes stretch by stretch, as the scan of the text itself does
  induction hlength : s.length using Nat.strong_induction_on generalizing s steps shown with
  | _ length ih =>
      cases steps with
      | zero => simp [bracketed] at hsteps
      | succ steps =>
          cases stretch s with
          | slashes own =>
              -- the last backslashes of the text join those of the tag behind it
              refine ⟨flush shown, own + count, ?_, isPlain_flush shown⟩
              rw [escapedTags_slashes, ← List.append_assoc, slashes_append]
              have hscan := scan_tag steps shown (own + count) hname []
              rwa [List.append_nil, scan_nil] at hscan
          | @tag own content hcontent after =>
              rw [escapedTags_tag own hcontent, List.append_assoc, List.append_assoc] at hsteps ⊢
              have hafter :
                  (escapedTags after ++ (slashes count ++ bracketed name)).length ≤ steps := by
                simp only [List.length_append, bracketed, List.length_cons] at hsteps ⊢
                omega
              have hshorter : after.length < length := by
                simp only [List.length_append, bracketed, List.length_cons] at hlength
                omega
              obtain ⟨pieces, backslashes, hscan, hplain⟩ := ih _ hshorter after hafter [] rfl
              refine ⟨flush shown ++ .tag (2 * own + 1) content :: pieces, backslashes, ?_, ?_⟩
              · rw [scan_tag _ _ _ hcontent, hscan]
                simp
              · refine (isPlain_flush shown).append ?_
                intro backslashes other hmem
                rcases List.mem_cons.mp hmem with heq | hmem
                · cases heq
                  omega
                · exact hplain backslashes other hmem
          | @char own c hc rest hchar =>
              rw [escapedTags_char own hc hchar, List.append_assoc, List.cons_append] at hsteps ⊢
              have hnone :
                  tag? (c :: (escapedTags rest ++ (slashes count ++ bracketed name))) = none :=
                tag?_escapedTags hchar count (name ++ [']'])
              have hrest :
                  (escapedTags rest ++ (slashes count ++ bracketed name)).length ≤ steps := by
                simp only [List.length_append, List.length_cons] at hsteps ⊢
                omega
              have hshorter : rest.length < length := by
                simp only [List.length_append, List.length_cons] at hlength
                omega
              rw [scan_char _ _ _ hc hnone]
              exact ih _ hshorter rest hrest _ rfl

/-- What escaping adds at the end are backslashes. -/
theorem exists_escape_eq (text : String) :
    ∃ count, (escape text).toList = escapedTags text.toList ++ slashes count := by
  have hpieces : (pieces text).flatMap Piece.escape = escapedTags text.toList := by
    have hlength : text.toList.length ≤ text.length + 1 := by
      rw [String.length_toList]
      exact Nat.le_succ _
    rw [pieces, escapedTags_eq hlength]
  unfold escape
  rw [hpieces]
  dsimp only
  split
  · exact ⟨0, by simp [slashes]⟩
  · exact ⟨1, by simp [slashes]⟩
  · exact ⟨0, by simp [slashes]⟩

end ModuleResolution.Markup
