import Mathlib.Control.Monad.Basic
import ModuleResolution.CommandLine.Run
import ModuleResolution.Proofs.Text.Escaped

/-! # Failures that are shown

A failure is shown in red with its text escaped. Since no tag of the text counts as one, at most the
style of red is opened and closed, so a failure can always be shown (`exists_showFailure`).
-/

set_option autoImplicit false

namespace ModuleResolution

open Markup (Piece IsPlain)

namespace Console

/-- The tag that is open where something is shown in red. -/
def red : Opened := ⟨"red".toList, none⟩

theorem styleName_red : styleName "red".toList = .ok "red".toList := by decide +kernel

theorem openAfter_red (offset : Nat) : openAfter offset [] "red".toList = .ok [red] := by
  have hspan : "red".toList.span (· != '=') = ("red".toList, []) := by decide +kernel
  unfold openAfter
  rw [hspan]
  show (styleName "red".toList).bind _ = _
  rw [styleName_red]
  rfl

theorem openAfter_red_closed (offset : Nat) : openAfter offset [red] "/red".toList = .ok [] := by
  have hspan : "/red".toList.span (· != '=') = ('/' :: "red".toList, []) := by decide +kernel
  have htrim : trimBlanks "red".toList = "red".toList := by decide +kernel
  have hname : ("red".toList).isEmpty = false := by decide
  unfold openAfter
  simp only [hspan, htrim, hname, styleName_red]
  rfl

/-- Stretches whose tags count as plain text open and close nothing. -/
theorem exists_shownPieces {pieces : List Piece} (h : IsPlain pieces) (offset : Nat)
    (opened : List Opened) (rest : List Piece) :
    ∃ parts next, (∀ part ∈ parts, part.opened = opened) ∧
      shownPieces offset opened (pieces ++ rest) =
        (shownPieces next opened rest).map (parts ++ ·) := by
  induction pieces generalizing offset with
  | nil =>
      refine ⟨[], offset, nofun, ?_⟩
      cases hrest : shownPieces offset opened rest <;> simp [hrest, Except.map]
  | cons piece more ih =>
      have hmore : IsPlain more := fun backslashes content hmem =>
        h backslashes content (List.mem_cons_of_mem _ hmem)
      -- each stretch shows something in front of the rest, with the same tags open
      have hshows : ∃ part next, part.opened = opened ∧
          shownPieces offset opened (piece :: (more ++ rest)) =
            (shownPieces next opened (more ++ rest)).map (part :: ·) := by
        cases piece with
        | plain chars => exact ⟨_, offset + chars.length, rfl, rfl⟩
        | tag backslashes content =>
            have hodd := h backslashes content List.mem_cons_self
            let chars := List.replicate (backslashes / 2) '\\' ++
              Emoji.replace (Markup.bracketed content)
            refine ⟨⟨chars, opened⟩, offset + backslashes + content.length + 2, rfl, ?_⟩
            simp only [shownPieces, hodd, if_true]
            rfl
      obtain ⟨part, next, hpart, hshown⟩ := hshows
      obtain ⟨parts, last, hparts, hrest⟩ := ih hmore next
      refine ⟨part :: parts, last, ?_, ?_⟩
      · intro other hmem
        rcases List.mem_cons.mp hmem with rfl | hmem
        · exact hpart
        · exact hparts other hmem
      · rw [List.cons_append, hshown, hrest]
        cases shownPieces last opened rest <;> rfl

/-- Between the tags of red an escaped text has no tag that counts. -/
theorem exists_pieces_red (text : String) :
    ∃ pieces backslashes,
      Markup.pieces ("[red]" ++ Markup.escape text ++ "[/red]") =
        .tag 0 "red".toList :: (pieces ++ [.tag backslashes "/red".toList]) ∧ IsPlain pieces := by
  have hred : Markup.IsTag "red".toList := ⟨'r', "ed".toList, by decide⟩
  have hclosed : Markup.IsTag "/red".toList := ⟨'/', "red".toList, by decide⟩
  obtain ⟨count, hescape⟩ := Markup.exists_escape_eq text
  let rest := Markup.escapedTags text.toList ++
    (Markup.slashes count ++ Markup.bracketed "/red".toList)
  have htext : ("[red]" ++ Markup.escape text ++ "[/red]").toList =
      Markup.slashes 0 ++ (Markup.bracketed "red".toList ++ rest) := by
    rw [String.toList_append, String.toList_append, hescape]
    simp [Markup.slashes, Markup.bracketed, rest]
  have hlength : rest.length ≤ ("[red]" ++ Markup.escape text ++ "[/red]").length := by
    rw [← String.length_toList, htext]
    simp
  obtain ⟨pieces, backslashes, hscan, hplain⟩ :=
    Markup.exists_scan_escaped hclosed count text.toList hlength []
  refine ⟨pieces, backslashes, ?_, hplain⟩
  rw [Markup.pieces, htext, Markup.scan_tag _ _ _ hred, hscan]
  rfl

/-- The styles of what is shown have no parameters. -/
def IsBare (parts : List Shown) : Prop :=
  ∀ part ∈ parts, ∀ tag ∈ part.opened, tag.parameters = none

theorem IsBare.append {first second : List Shown} (hfirst : IsBare first)
    (hsecond : IsBare second) : IsBare (first ++ second) := by
  intro part hpart
  rcases List.mem_append.mp hpart with hpart | hpart
  · exact hfirst part hpart
  · exact hsecond part hpart

/-- Characters that are never printed do not matter. -/
theorem IsBare.map {parts : List Shown} (h : IsBare parts) :
    IsBare (parts.map fun part => { part with chars := part.chars.filter (!isSilent ·) }) := by
  intro part hpart
  obtain ⟨whole, hwhole, rfl⟩ := List.mem_map.mp hpart
  exact h whole hwhole

theorem isBare_of_opened {parts : List Shown} (opened : List Opened)
    (h : ∀ part ∈ parts, part.opened = opened) (hopened : ∀ tag ∈ opened, tag = red) :
    IsBare parts := by
  intro part hpart tag htag
  rw [h part hpart] at htag
  rw [hopened tag htag]
  rfl

/-- The tag that closes red closes it, or counts as plain text. -/
theorem exists_shownPieces_closed (offset backslashes : Nat) :
    ∃ parts, shownPieces offset [red] [.tag backslashes "/red".toList] = .ok parts ∧
      IsBare parts := by
  by_cases hodd : backslashes % 2 = 1
  · -- the backslash at the end of the text escapes the tag
    let part : Shown := ⟨List.replicate (backslashes / 2) '\\' ++
      Emoji.replace (Markup.bracketed "/red".toList), [red]⟩
    refine ⟨[part], ?_, isBare_of_opened [red] ?_ (by simp)⟩
    · simp only [shownPieces, hodd, if_true]
      rfl
    · simp [part]
  · let first : Shown := ⟨List.replicate (backslashes / 2) '\\', [red]⟩
    have hfirst : IsBare [first] := isBare_of_opened [red] (by simp [first]) (by simp)
    refine ⟨[first, ⟨[], []⟩], ?_, hfirst.append (by simp [IsBare])⟩
    simp only [shownPieces, hodd, if_false, openAfter_red_closed]
    rfl

/-- What is shown of a text in red has the style of red or none. -/
theorem exists_shown_red (text : String) :
    ∃ parts, shown ("[red]" ++ Markup.escape text ++ "[/red]") = .ok parts ∧ IsBare parts := by
  obtain ⟨pieces, backslashes, hpieces, hplain⟩ := exists_pieces_red text
  obtain ⟨parts, next, hopened, hshown⟩ := exists_shownPieces hplain
    (0 + 0 + "red".toList.length + 2) [red] [.tag backslashes "/red".toList]
  obtain ⟨last, hlast, hbare⟩ := exists_shownPieces_closed next backslashes
  have hopen : ("[red]" ++ Markup.escape text ++ "[/red]").toList.contains '[' = true := by
    simp [String.toList_append]
  have hall : shownPieces 0 [] (Markup.pieces ("[red]" ++ Markup.escape text ++ "[/red]")) =
      .ok (⟨[], []⟩ :: ⟨[], [red]⟩ :: (parts ++ last)) := by
    rw [hpieces]
    simp only [shownPieces]
    rw [if_neg (by decide), openAfter_red]
    show ((shownPieces _ [red] _).bind _ : Except Failure _) = _
    rw [hshown, hlast]
    rfl
  have hopening : IsBare [⟨[], []⟩, ⟨[], [red]⟩] := by
    simp [IsBare, red]
  have hparts : IsBare (⟨[], []⟩ :: ⟨[], [red]⟩ :: (parts ++ last)) :=
    hopening.append ((isBare_of_opened [red] hopened (by simp)).append hbare)
  refine ⟨_, ?_, hparts.map⟩
  unfold shown
  rw [if_pos hopen, hall]
  rfl

theorem forM_eq_ok {ε α : Type} {items : List α} {step : α → Except ε Unit}
    (h : ∀ item ∈ items, step item = .ok ()) : items.forM step = .ok () := by
  induction items with
  | nil => rfl
  | cons item rest ih =>
      show (step item).bind (fun _ => rest.forM step) = _
      rw [h item List.mem_cons_self]
      exact ih fun other hmem => h other (List.mem_cons_of_mem _ hmem)

theorem checkStyles_of_isBare {parts : List Shown} (h : IsBare parts) :
    checkStyles parts = .ok () := by
  refine forM_eq_ok fun part hpart => ?_
  split
  · refine forM_eq_ok fun tag htag => ?_
    rw [Opened.checkShown, h part hpart tag htag]
  · rfl

/-- **A text can be shown in red.** -/
theorem exists_print_red (text : String) :
    ∃ shown, print ("[red]" ++ Markup.escape text ++ "[/red]") = .ok shown := by
  obtain ⟨parts, hshown, hbare⟩ := exists_shown_red text
  have hrender : render ("[red]" ++ Markup.escape text ++ "[/red]") =
      .ok (parts.flatMap (·.chars)) := by
    unfold render
    rw [hshown]
    show (checkStyles parts).bind _ = _
    rw [checkStyles_of_isBare hbare]
    rfl
  unfold print
  rw [hrender]
  exact ⟨_, rfl⟩

end Console

/-- **Every failure can be shown.** -/
theorem CommandLine.exists_showFailure (failure : Failure) :
    ∃ shown, showFailure failure = .ok shown :=
  Console.exists_print_red _

end ModuleResolution
