import PluginReadme.Proofs.Terminal.Tags

/-!
# Balanced messages

A message that is put together from styled parts closes each style that it opens, whatever is open
around it (`IsBalanced.styled`). For that, no tag may be read in what stands between the two tags of
a style (`IsInert`), which holds of plain text and of escaped text.
-/

namespace PluginReadme.Terminal

open Scan (marks)

variable {t front body back rest style inside : Text} {opened : List Text}

theorem IsPlain.append (hfront : IsPlain front) (hback : IsPlain back) : IsPlain (front ++ back) :=
  List.forall_mem_append.mpr ⟨hfront, hback⟩

/-- In the text no tag is read, whatever tag stands behind it. -/
def IsInert (t : Text) : Prop :=
  ∀ inside rest, IsInside inside → ∃ ms n, (∀ m ∈ ms, m.1 % 2 = 1) ∧
    marks tag (t ++ '[' :: (inside ++ ']' :: rest)) = ms ++ (n, inside) :: marks tag rest

theorem IsPlain.isInert (h : IsPlain t) : IsInert t := by
  refine fun inside rest hinside ↦ ⟨[], 0, List.forall_mem_nil _, ?_⟩
  rw [marks_append_plain h]
  exact marks_append_tag hinside 0 rest

/-- In escaped text no tag is read. -/
theorem isInert_escaped (t : Text) : IsInert (escaped t) :=
  fun _ rest hinside ↦ exists_marks_escaped hinside rest t

/-! ## Styles -/

structure IsStyle (style : Text) : Prop where
  opening : IsInside style
  closing : IsInside ('/' :: style)
  opens : ∀ opened, openedAfter opened style = .ok (style :: opened)
  closes : ∀ opened, openedAfter (style :: opened) ('/' :: style) = .ok opened

/-- A style that is written as its name. -/
theorem isStyle_of_name (hopening : IsInside style) (hclosing : IsInside ('/' :: style))
    (hplain : style.takeWhile (· != '=') = style) (hslash : style.head? ≠ some '/')
    (hstrip : Text.strip style = style) (hname : styleName style = .ok style) : IsStyle style where
  opening := hopening
  closing := hclosing
  opens opened := by
    unfold openedAfter
    rw [hplain]
    split
    · exact absurd rfl hslash
    · rw [hname]
      rfl
  closes opened := by
    have hempty : style.isEmpty = false := by
      cases style with
      | nil => exact absurd hopening.start (by simp)
      | cons c style => rfl
    have hwhole : ('/' :: style).takeWhile (· != '=') = '/' :: style :=
      (List.takeWhile_cons_of_pos rfl).trans (congrArg _ hplain)
    have hcontains : (style :: opened).contains style = true := by simp
    have herase : (style :: opened).erase style = opened := List.erase_cons_head style opened
    unfold openedAfter
    rw [hwhole]
    change (if (Text.strip style).isEmpty then Except.ok opened else _) = _
    rw [hstrip, hempty, if_neg Bool.false_ne_true, hname]
    change (if (style :: opened).contains style = true then _ else _) = _
    rw [if_pos hcontains, herase]
    rfl

/-! ## Messages -/

/-- Whatever is open around the message, its tags close. -/
def IsBalanced (t : Text) : Prop := ∀ opened, closes opened (marks tag t) = true

theorem isBalanced_of_not_mem (h : '[' ∉ t) : IsBalanced t := by
  intro opened
  rw [Scan.marks_of_isFree (isFree_tag h)]
  rfl

/-- Plain text in front of a balanced message changes nothing about its tags. -/
theorem IsBalanced.plain_append (h : IsBalanced t) (hfront : IsPlain front) :
    IsBalanced (front ++ t) := by
  intro opened
  rw [marks_append_plain hfront]
  exact h opened

/-- A styled part may stand in front of a balanced message. -/
theorem IsBalanced.styled (h : IsBalanced rest) (hstyle : IsStyle style) (hbody : IsInert body) :
    IsBalanced ('[' :: (style ++ ']' :: (body ++ '[' :: ('/' :: style ++ ']' :: rest)))) := by
  intro opened
  obtain ⟨ms, n, hodd, hmarks⟩ := hbody _ rest hstyle.closing
  have hopening := marks_append_tag hstyle.opening 0
    (body ++ '[' :: ('/' :: style ++ ']' :: rest))
  rw [List.replicate_zero, List.nil_append] at hopening
  rw [hopening, hmarks, closes, if_neg (by decide), hstyle.opens]
  dsimp only
  rw [closes_append hodd, closes]
  split_ifs
  · exact h _
  · rw [hstyle.closes]
    exact h _

end PluginReadme.Terminal
