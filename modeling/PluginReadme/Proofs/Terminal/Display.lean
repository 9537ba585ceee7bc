import PluginReadme.Proofs.Outcome
import PluginReadme.Proofs.Terminal.Balanced
import PluginReadme.Terminal.Display

/-!
# Displays that can be relied on

Reports and commands put their messages together from text and from parts in a style (`IsStyled`).
A lawful display prints such a message, and it keeps a space in front of a message without tags
(`LawfulDisplay`). The display of the program is lawful, since the tags of such a message close
whatever the escaped texts in it are.
-/

namespace PluginReadme

open Terminal (IsPlain IsBalanced IsInert IsStyle)

def messageStyles : List Text :=
  (["bold", "dim", "green", "red", "yellow"] : List String).map String.toList

def styled (style body : Text) : Text := "[" ++ style ++ "]" ++ body ++ "[/" ++ style ++ "]"

/-- Messages put together from text without brackets and from parts in a style, which hold plain or
escaped text. -/
inductive IsStyled [Display] : Text → Prop
  | bare {t : Text} (h : '[' ∉ t) : IsStyled t
  | plain {front rest : Text} (hfront : IsPlain front) (hrest : IsStyled rest) :
      IsStyled (front ++ rest)
  | part {style body rest : Text} (hstyle : style ∈ messageStyles)
      (hbody : IsPlain body ∨ ∃ t, body = Display.escaped t) (hrest : IsStyled rest) :
      IsStyled (styled style body ++ rest)

class LawfulDisplay [Display] : Prop where
  /-- A message that is put together as it should be is printed. -/
  prints {width : Nat} {message : Text} (hwidth : 0 < width) (h : IsStyled message) :
    ∃ ls, Display.lines width message = .ok ls
  /-- A space in front of a message stays in front of what is printed. -/
  indents {width : Nat} {t : Text} (hwidth : 0 < width) (h : '[' ∉ t) :
    ∃ line more, Display.lines width (' ' :: t) = .ok ((' ' :: line) :: more)

namespace Terminal

/-- Each of the styles in messages is closed by its own closing tag. -/
theorem isStyle_of_mem {style : Text} (h : style ∈ messageStyles) : IsStyle style := by
  have hall : ∀ style ∈ messageStyles, IsInside style ∧ IsInside ('/' :: style) ∧
      style.takeWhile (· != '=') = style ∧ style.head? ≠ some '/' ∧
        Text.strip style = style ∧ (styleName style).toOption = some style := by
    decide +kernel
  obtain ⟨hopening, hclosing, hplain, hslash, hstrip, hname⟩ := hall style h
  exact isStyle_of_name hopening hclosing hplain hslash hstrip (eq_ok_of_toOption hname)

/-- The tags of a message close, whatever styles are open around it. -/
theorem isBalanced_of_isStyled {message : Text} (h : IsStyled message) : IsBalanced message := by
  induction h with
  | bare h => exact isBalanced_of_not_mem h
  | plain hfront _ ih => exact ih.plain_append hfront
  | @part style body rest hstyle hbody _ ih =>
    have hinert : IsInert body := by
      rcases hbody with hplain | ⟨t, rfl⟩
      · exact hplain.isInert
      · exact isInert_escaped t
    have htext : styled style body ++ rest =
        '[' :: (style ++ ']' :: (body ++ '[' :: ('/' :: style ++ ']' :: rest))) := by
      simp only [styled, List.append_assoc]
      rfl
    rw [htext]
    exact ih.styled (isStyle_of_mem hstyle) hinert

/-- A message has lines exactly if its styles can be read. -/
theorem exists_messageLines_iff (width : Nat) (message : Text) :
    (∃ ls, messageLines width message = .ok ls) ↔ ∃ t, shown message = .ok t := by
  simp only [messageLines, map_eq_ok]
  exact ⟨fun ⟨_, t, h, _⟩ ↦ ⟨t, h⟩, fun ⟨t, h⟩ ↦ ⟨_, t, h, rfl⟩⟩

instance : LawfulDisplay where
  prints _ h := (exists_messageLines_iff _ _).mpr
    ((exists_shown_iff _).mpr (isBalanced_of_isStyled h []))
  indents := by
    intro width t hwidth h
    have hmessage : '[' ∉ ' ' :: t := by simpa using h
    have hshown : withoutControls (pictured (' ' :: t)) = ' ' :: withoutControls (pictured t) := by
      rw [pictured_cons (by decide)]
      exact List.filter_cons_of_pos (by decide)
    obtain ⟨line, more, hlines⟩ := opens_wrapped hwidth (withoutControls (pictured t))
    refine ⟨line, more, ?_⟩
    change messageLines width (' ' :: t) = _
    rw [messageLines, shown_of_not_mem hmessage, hshown]
    exact congrArg Except.ok hlines

end Terminal

end PluginReadme
