import PluginReadme.Proofs.Check.Findings
import PluginReadme.Repair.QuickFix

/-!
# What quick fixes do

The fixes for a heading, for emphasis and for a link put one line in place of the line an issue is
at. The fix for a fence inserts a line after it. When the fixed lines are joined and cut again, they
are the same lines, apart from a carriage return that may have stood at the very end of the text.
-/

namespace PluginReadme.QuickFix

variable {t : Text} {issue : Issue} {front back : List Text} {line : Text}

/-- The line of an issue, between the lines in front of it and those after it. -/
structure Located (t : Text) (issue : Issue) (front : List Text) (line : Text)
    (back : List Text) : Prop where
  lines_eq : Text.lines t = front ++ line :: back
  number_eq : issue.line = some ((front.length : Int) + 1)

theorem located_of_isAt {index : Nat} (h : issue.IsAt (Text.lines t) index line) :
    Located t issue ((Text.lines t).take index) line ((Text.lines t).drop (index + 1)) := by
  obtain ⟨hindex, hline⟩ := List.getElem?_eq_some_iff.mp h.line_eq
  constructor
  · rw [← hline, ← List.drop_eq_getElem_cons hindex, List.take_append_drop]
  · rw [h.number_eq, List.length_take_of_le hindex.le]

theorem Located.isAt (h : Located t issue front line back) :
    issue.IsAt (Text.lines t) front.length line where
  line_eq := by rw [h.lines_eq, List.getElem?_append_right (Nat.le_refl _), Nat.sub_self]; rfl
  number_eq := h.number_eq

/-! ## The lines after a fix -/

theorem Located.target? (h : Located t issue front line back) :
    target? (Text.lines t) issue = some (front.length, line) := by
  have hindex : ((front.length : Int) + 1 - 1).toNat = front.length := by omega
  have hpositive : (1 : Int) ≤ (front.length : Int) + 1 := by omega
  unfold QuickFix.target?
  rw [h.number_eq]
  change (if (1 : Int) ≤ (front.length : Int) + 1 then _ else _) = _
  rw [if_pos hpositive, hindex, h.isAt.line_eq]
  rfl

theorem set_append_cons (front back : List Text) (line new : Text) :
    (front ++ line :: back).set front.length new = front ++ new :: back := by
  rw [List.set_append_right _ _ (Nat.le_refl _), Nat.sub_self, List.set_cons_zero]

theorem appendTo_append_cons (front back : List Text) (line mark : Text) :
    appendTo (front ++ line :: back) front.length mark =
      front ++ (Text.stripRight line ++ mark) :: back := by
  unfold appendTo
  induction front with
  | nil => rfl
  | cons first front ih => rw [List.cons_append, List.length_cons, List.modify_succ_cons, ih]; rfl

/-- A fix changes lines and joins them with the line end in use. -/
theorem apply_eq {fix : QuickFix} (h : ofCode? issue.code = some fix) :
    apply t issue = (fix.run (Text.lines t) issue).map (Text.join (Text.lineEnd t)) := by
  unfold apply
  rw [h]
  cases hrun : fix.run (Text.lines t) issue with
  | none => simp [hrun]
  | some ls => simp [hrun]

/-- A heading is put in place of a line that is not that heading. -/
theorem apply_replace {fix : QuickFix} (hfix : fix = .replaceHeading ∨ fix = .convertHashes)
    (hcode : ofCode? issue.code = some fix) (hat : Located t issue front line back)
    (hne : ∀ heading ∈ issue.suggestion, heading ≠ [] ∧ line ≠ heading) :
    apply t issue = issue.suggestion.map fun heading ↦
      Text.join (Text.lineEnd t) (front ++ heading :: back) := by
  have hsuggestion : suggestion? issue = issue.suggestion := by
    unfold suggestion?
    cases hheading : issue.suggestion with
    | none => rfl
    | some heading => rw [Option.filter_some_pos (by simpa using (hne heading hheading).1)]
  have hrun : fix.run (Text.lines t) issue =
      (issue.suggestion.bind fun heading ↦
        if line = heading then none else some ((Text.lines t).set front.length heading)) := by
    rcases hfix with rfl | rfl
    all_goals
      unfold run
      rw [hat.target?, hsuggestion]
      rfl
  rw [apply_eq hcode, hrun]
  cases hheading : issue.suggestion with
  | none => rfl
  | some heading =>
    rw [Option.bind_some, if_neg (hne heading hheading).2, hat.lines_eq, set_append_cons]
    rfl

/-- Bold text is closed at the end of its line, if it is odd there. -/
theorem run_closeBold (hat : Located t issue front line back) :
    run .closeBold (Text.lines t) issue =
      if Check.boldCount line % 2 = 0 then none
      else some (front ++ (Text.stripRight line ++ Check.boldMark) :: back) := by
  unfold run
  rw [hat.target?]
  change (if Check.boldCount line % 2 = 0 then none else some (appendTo (Text.lines t) _ _)) = _
  rw [hat.lines_eq, appendTo_append_cons]

/-- Italic text is closed at the end of its line, if it is odd there. -/
theorem run_closeItalic (hat : Located t issue front line back) :
    run .closeItalic (Text.lines t) issue =
      if Check.italicCount line % 2 = 0 then none
      else some (front ++ (Text.stripRight line ++ ['*']) :: back) := by
  unfold run
  rw [hat.target?]
  change (if Check.italicCount line % 2 = 0 then none else some (appendTo (Text.lines t) _ _)) = _
  rw [hat.lines_eq, appendTo_append_cons]
  rfl

theorem run_closeLink (hat : Located t issue front line back)
    (hopen : Text.endsWith ")" (Text.stripRight line) = false) :
    run .closeLink (Text.lines t) issue =
      some (front ++ (Text.stripRight line ++ [')']) :: back) := by
  unfold run
  rw [hat.target?]
  change (if Text.endsWith ")" (Text.stripRight line) then none
    else some (appendTo (Text.lines t) _ _)) = _
  rw [hopen, hat.lines_eq, appendTo_append_cons]
  rfl

/-- Without a fence after it, a fence is closed after some of the lines that follow. -/
theorem run_closeFence (hat : Located t issue front line back)
    (hfence : Fence.isFence line = true) (hlast : ∀ other ∈ back, Fence.isFence other = false) :
    ∃ inside after, back = inside ++ after ∧
      run .closeFence (Text.lines t) issue =
        some ((front ++ line :: inside) ++ Fence.mark :: after) := by
  obtain ⟨after, hsplit⟩ := List.takeWhile_prefix (fun other ↦ !Text.isBlankText other) (l := back)
  refine ⟨_, after, hsplit.symm, ?_⟩
  have hnone : back.any Fence.isFence = false := by
    simpa [List.any_eq_false] using hlast
  have hbefore : (front ++ line :: back).take (front.length + 1) = front ++ [line] := by
    rw [List.append_cons, List.take_left' (by simp)]
  have hback : (front ++ line :: back).drop (front.length + 1) = back := by
    rw [List.append_cons, List.drop_left' (by simp)]
  have hafter : back.drop (back.takeWhile fun other ↦ !Text.isBlankText other).length = after := by
    calc
      back.drop (back.takeWhile fun other ↦ !Text.isBlankText other).length =
          ((back.takeWhile fun other ↦ !Text.isBlankText other) ++ after).drop
            (back.takeWhile fun other ↦ !Text.isBlankText other).length := by rw [hsplit]
      _ = after := List.drop_left
  unfold run
  rw [hat.target?]
  change withClosedFence? (Text.lines t) front.length line = _
  unfold withClosedFence?
  dsimp only
  rw [hat.lines_eq, hbefore, hback, hfence, hnone, hafter]
  simp

/-! ## The fixed lines found again -/

/-- A line that ends with no carriage return can stand anywhere. -/
theorem feedSafe_replace {new : Text} (h : Text.FeedSafe (front ++ line :: back))
    (hnew : new.getLast? ≠ some '\r') : Text.FeedSafe (front ++ new :: back) := by
  obtain ⟨hfront, hback, hbetween⟩ := List.pairwise_append.mp h
  refine List.pairwise_append.mpr ⟨hfront, ?_, fun other hother _ _ ↦ ?_⟩
  · exact List.Pairwise.cons (fun _ _ ↦ hnew) (List.pairwise_cons.mp hback).2
  · exact hbetween other hother line List.mem_cons_self

/-- A line put in place of another is found again, and so are the lines around it. -/
theorem lines_join_replace {new : Text} (h : Text.lines t = front ++ line :: back)
    (hfeed : '\n' ∉ new) (hnew : new.getLast? ≠ some '\r') :
    Text.lines (Text.join (Text.lineEnd t) (front ++ new :: back)) = front ++ new :: back := by
  apply Text.lines_join_lineEnd (by simp)
  · intro other hother
    rw [List.mem_append, List.mem_cons] at hother
    rcases hother with hother | rfl | hother
    · exact Text.feed_not_mem_of_mem_lines (h ▸ List.mem_append_left _ hother)
    · exact hfeed
    · exact Text.feed_not_mem_of_mem_lines
        (h ▸ List.mem_append_right _ (List.mem_cons_of_mem line hother))
  · intro hreturn
    exact feedSafe_replace (h ▸ Text.feedSafe_lines hreturn) hnew

/-- Where lines are put in, a line after which another one comes loses a carriage return at its
end. -/
theorem lines_join_insert {before added after : List Text} (h : Text.lines t = before ++ after)
    (hne : added ≠ []) (hadded : ∀ line ∈ added, '\n' ∉ line ∧ line.getLast? ≠ some '\r') :
    ∃ tidy : Text → Text, (tidy = id ∨ tidy = Text.dropFinalReturn) ∧
      Text.lines (Text.join (Text.lineEnd t) (before ++ (added ++ after))) =
        before.map tidy ++ (added ++ after) := by
  have hlines : ∀ other ∈ before ++ after, '\n' ∉ other := fun other hother ↦
    Text.feed_not_mem_of_mem_lines (h ▸ hother)
  have hall : ∀ other ∈ before ++ (added ++ after), '\n' ∉ other := by
    intro other hother
    rw [List.mem_append, List.mem_append] at hother
    rcases hother with hother | hother | hother
    · exact hlines other (List.mem_append_left _ hother)
    · exact (hadded other hother).1
    · exact hlines other (List.mem_append_right _ hother)
  cases hreturn : Text.hasCarriageReturn t with
  | true =>
    refine ⟨id, Or.inl rfl, ?_⟩
    rw [Text.lineEnd_of_hasCarriageReturn hreturn,
      Text.lines_join_pair (by simp [hne]) hall, List.map_id]
  | false =>
    -- Only the last line of the text can end with a carriage return, so only `before` can lose one.
    refine ⟨Text.dropFinalReturn, Or.inr rfl, ?_⟩
    have hafter : Text.FeedSafe (added ++ after) := by
      refine List.pairwise_append.mpr ⟨Text.feedSafe_of_forall fun line hline ↦
        (hadded line hline).2, ?_, fun line hline _ _ ↦ (hadded line hline).2⟩
      exact (List.pairwise_append.mp (h ▸ Text.feedSafe_lines hreturn)).2.1
    obtain ⟨middle, last, hend⟩ :=
      (List.eq_nil_or_concat' (added ++ after)).resolve_left (by simp [hne])
    rw [hend] at hall hafter ⊢
    rw [← List.append_assoc] at hall ⊢
    calc
      Text.lines (Text.join (Text.lineEnd t) (before ++ middle ++ [last])) =
          (before ++ middle).map Text.dropFinalReturn ++ [last] := by
        rw [Text.lineEnd_of_not_hasCarriageReturn hreturn]
        exact Text.lines_join_feed
          (fun other hother ↦ hall other (List.mem_append_left _ hother)) (hall last (by simp))
      _ = before.map Text.dropFinalReturn ++ (middle ++ [last]) := by
        rw [List.map_append, hafter.map_dropFinalReturn, List.append_assoc]

/-! ## Fixes of reported issues -/

/-- What is proposed for a malformed heading is another line. -/
theorem isWritten_of_suggested? {heading : Text} (hmalformed : Check.isMalformed line = true)
    (hline : '\n' ∉ line) (h : Heading.suggested? (Text.strip line) = some heading) :
    Heading.IsWritten heading ∧ '\n' ∉ heading ∧ line ≠ heading := by
  have hfeed : '\n' ∉ Text.strip line := fun hmem ↦ hline (Text.mem_of_mem_trim hmem)
  obtain ⟨n, title, before, after, hn, htitle, heq, hstrip, -, -⟩ :=
    Heading.suggested?_eq_some (Check.head_strip_of_isMalformed hmalformed) hfeed h
  have hwritten : Heading.IsWritten heading := ⟨n, title, hn, htitle, heq⟩
  refine ⟨hwritten, ?_, ?_⟩
  · rw [heq]
    apply Heading.feed_not_mem_write
    intro hmem
    apply hfeed
    rw [hstrip]
    exact List.mem_append_left after (List.mem_append_right before hmem)
  · rintro rfl
    rw [Check.isMalformed_of_isWritten hwritten] at hmalformed
    exact Bool.noConfusion hmalformed

/-- The heading suggested for a line with number signs is well-formed. -/
theorem isWritten_of_ofHashes? {heading : Text} (hhashed : Heading.isHashed line = true)
    (hline : '\n' ∉ line) (h : Heading.ofHashes? line = some heading) :
    Heading.IsWritten heading ∧ '\n' ∉ heading ∧ line ≠ heading := by
  obtain ⟨n, title, hn, htitle, heq, hmem⟩ := Heading.ofHashes?_eq_some h
  have hwritten : Heading.IsWritten heading := ⟨n, title, by omega, htitle, heq⟩
  refine ⟨hwritten, ?_, ?_⟩
  · rw [heq]
    apply Heading.feed_not_mem_write
    intro hfeed
    rcases hmem _ hfeed with hfeed | hspace
    · exact hline hfeed
    · exact absurd hspace (by decide)
  · rintro rfl
    rw [Check.isHashed_of_isWritten hwritten] at hhashed
    exact Bool.noConfusion hhashed

theorem Located.feed_not_mem (h : Located t issue front line back) : '\n' ∉ line :=
  Text.feed_not_mem_of_mem_lines (t := t) (by rw [h.lines_eq]; simp)

theorem apply_malformedHeading (hat : Located t issue front line back)
    (hcode : issue.code = .malformedHeading) (hmalformed : Check.isMalformed line = true)
    (hsuggestion : issue.suggestion = Heading.suggested? (Text.strip line)) :
    apply t issue = issue.suggestion.map fun heading ↦
      Text.join (Text.lineEnd t) (front ++ heading :: back) := by
  refine apply_replace (Or.inl rfl) (by rw [hcode]; rfl) hat fun heading hheading ↦ ?_
  rw [hsuggestion] at hheading
  obtain ⟨hwritten, -, hne⟩ := isWritten_of_suggested? hmalformed hat.feed_not_mem hheading
  exact ⟨hwritten.ne_nil, hne⟩

theorem apply_hashHeading (hat : Located t issue front line back)
    (hcode : issue.code = .hashHeading) (hhashed : Heading.isHashed line = true)
    (hsuggestion : issue.suggestion = Heading.ofHashes? line) :
    apply t issue = issue.suggestion.map fun heading ↦
      Text.join (Text.lineEnd t) (front ++ heading :: back) := by
  refine apply_replace (Or.inr rfl) (by rw [hcode]; rfl) hat fun heading hheading ↦ ?_
  rw [hsuggestion] at hheading
  obtain ⟨hwritten, -, hne⟩ := isWritten_of_ofHashes? hhashed hat.feed_not_mem hheading
  exact ⟨hwritten.ne_nil, hne⟩

theorem apply_unbalancedBold (hat : Located t issue front line back)
    (hcode : issue.code = .unbalancedBold) :
    apply t issue = if Check.boldCount line % 2 = 0 then none else
      some (Text.join (Text.lineEnd t)
        (front ++ (Text.stripRight line ++ Check.boldMark) :: back)) := by
  rw [apply_eq (by rw [hcode]; rfl), run_closeBold hat]
  split_ifs <;> rfl

theorem apply_unbalancedItalic (hat : Located t issue front line back)
    (hcode : issue.code = .unbalancedItalic) :
    apply t issue = if Check.italicCount line % 2 = 0 then none else
      some (Text.join (Text.lineEnd t) (front ++ (Text.stripRight line ++ ['*']) :: back)) := by
  rw [apply_eq (by rw [hcode]; rfl), run_closeItalic hat]
  split_ifs <;> rfl

theorem apply_unclosedLink (hat : Located t issue front line back)
    (hcode : issue.code = .unclosedLink) (hlink : Check.hasOpenLink line = true) :
    apply t issue = some (Text.join (Text.lineEnd t)
      (front ++ (Text.stripRight line ++ [')']) :: back)) := by
  have hopen : Text.endsWith ")" (Text.stripRight line) = false := by
    rw [Bool.eq_false_iff]
    intro hends
    obtain ⟨start, hstart⟩ := List.isSuffixOf_iff_suffix.mp hends
    have hlast : (Text.stripRight line).getLast? = some ')' := by
      rw [← hstart]
      exact List.getLast?_concat
    rw [(Check.sameInline_stripRight line).hasOpenLink_eq,
      Check.hasOpenLink_of_getLast hlast] at hlink
    exact Bool.noConfusion hlink
  rw [apply_eq (by rw [hcode]; rfl), run_closeLink hat hopen]
  rfl

theorem apply_unclosedFence (hat : Located t issue front line back)
    (hcode : issue.code = .unclosedFence) (hfence : Fence.isFence line = true)
    (hlast : ∀ other ∈ back, Fence.isFence other = false) :
    ∃ inside after, back = inside ++ after ∧ apply t issue =
      some (Text.join (Text.lineEnd t) ((front ++ line :: inside) ++ Fence.mark :: after)) := by
  obtain ⟨inside, after, hback, hrun⟩ := run_closeFence hat hfence hlast
  refine ⟨inside, after, hback, ?_⟩
  rw [apply_eq (by rw [hcode]; rfl), hrun]
  rfl

/-! ## What a fix has done -/

/-- The line that a fix puts in place of the line of an issue. -/
inductive LineMended (t line : Text) : Code → Text → Prop where
  | malformedHeading {heading : Text} (malformed : Check.isMalformed line = true)
      (suggested : Heading.suggested? (Text.strip line) = some heading) :
      LineMended t line .malformedHeading heading
  | hashHeading {heading : Text} (hashed : Heading.isHashed line = true)
      (suggested : Heading.ofHashes? line = some heading) :
      LineMended t line .hashHeading heading
  | unbalancedBold (odd : Check.boldCount t % 2 = 1) (line_odd : Check.boldCount line % 2 = 1) :
      LineMended t line .unbalancedBold (Text.stripRight line ++ Check.boldMark)
  | unbalancedItalic (odd : Check.italicCount t % 2 = 1)
      (line_odd : Check.italicCount line % 2 = 1) :
      LineMended t line .unbalancedItalic (Text.stripRight line ++ ['*'])
  | unclosedLink (link : Check.hasOpenLink line = true) :
      LineMended t line .unclosedLink (Text.stripRight line ++ [')'])

/-- A mended line can stand anywhere in a text. -/
theorem LineMended.ends {new : Text} {code : Code} (h : LineMended t line code new)
    (hline : '\n' ∉ line) : '\n' ∉ new ∧ new.getLast? ≠ some '\r' := by
  have hright : '\n' ∉ Text.stripRight line := fun hmem ↦
    hline (Text.dropEndWhile_append_takeEndWhile isBlank line ▸ List.mem_append_left _ hmem)
  have happend {mark : Text} {c : Char} (hfeed : '\n' ∉ mark) (hlast : mark.getLast? = some c)
      (hc : c ≠ '\r') :
      '\n' ∉ Text.stripRight line ++ mark ∧
        (Text.stripRight line ++ mark).getLast? ≠ some '\r' := by
    rw [List.mem_append, not_or, List.getLast?_append, hlast, Option.some_or, Ne,
      Option.some.injEq]
    exact ⟨⟨hright, hfeed⟩, hc⟩
  cases h with
  | malformedHeading hmalformed hsuggested =>
    obtain ⟨hwritten, hfeed, -⟩ := isWritten_of_suggested? hmalformed hline hsuggested
    exact ⟨hfeed, by rw [hwritten.getLast_eq]; decide⟩
  | hashHeading hhashed hsuggested =>
    obtain ⟨hwritten, hfeed, -⟩ := isWritten_of_ofHashes? hhashed hline hsuggested
    exact ⟨hfeed, by rw [hwritten.getLast_eq]; decide⟩
  | unbalancedBold _ _ => exact happend (by decide) rfl (by decide)
  | unbalancedItalic _ _ => exact happend (by decide) rfl (by decide)
  | unclosedLink _ => exact happend (by decide) rfl (by decide)

/-- What the fix for a reported issue has done to the lines of a text. -/
inductive Mended (t : Text) (issue : Issue) (fixed : Text) : Prop where
  | line {front back : List Text} {line new : Text} (located : Located t issue front line back)
      (lines_eq : Text.lines fixed = front ++ new :: back)
      (mended : LineMended t line issue.code new)
  | fence {before after : List Text} {tidy : Text → Text} (code_eq : issue.code = .unclosedFence)
      (source_eq : Text.lines t = before ++ after)
      (odd : (Text.lines t).countP Fence.isFence % 2 = 1)
      (tidy_eq : tidy = id ∨ tidy = Text.dropFinalReturn)
      (lines_eq : Text.lines fixed = before.map tidy ++ Fence.mark :: after)

/-- A fix that puts one line in place of another mends the text on that line. -/
theorem mended_of_line {new fixed : Text} (hat : Located t issue front line back)
    (hmended : LineMended t line issue.code new)
    (hfixed : fixed = Text.join (Text.lineEnd t) (front ++ new :: back)) :
    Mended t issue fixed := by
  obtain ⟨hfeed, hlast⟩ := hmended.ends hat.feed_not_mem
  refine .line hat ?_ hmended
  rw [hfixed, lines_join_replace hat.lines_eq hfeed hlast]

/-- Every fix of a reported issue is one of those. -/
theorem mended_of_apply {fixed : Text} (h : issue ∈ (Verdict.of (Readme.ofText t) []).issues)
    (hcode : issue.code ∈ Check.mendableCodes) (hfix : apply t issue = some fixed) :
    Mended t issue fixed := by
  obtain ⟨index, line, hat, hfinding⟩ := Check.finding_of_mem_issues h hcode
  have hlocated := located_of_isAt hat
  cases hfinding with
  | malformedHeading hkind hmalformed hsuggestion =>
    rw [apply_malformedHeading hlocated hkind hmalformed hsuggestion, hsuggestion] at hfix
    obtain ⟨heading, hheading, rfl⟩ := Option.map_eq_some_iff.mp hfix
    exact mended_of_line hlocated (hkind ▸ .malformedHeading hmalformed hheading) rfl
  | hashHeading hkind hhashed hsuggestion =>
    rw [apply_hashHeading hlocated hkind hhashed hsuggestion, hsuggestion] at hfix
    obtain ⟨heading, hheading, rfl⟩ := Option.map_eq_some_iff.mp hfix
    exact mended_of_line hlocated (hkind ▸ .hashHeading hhashed hheading) rfl
  | unclosedFence hkind hfence hlast hodd =>
    obtain ⟨inside, after, hback, happly⟩ := apply_unclosedFence hlocated hkind hfence hlast
    rw [happly, Option.some.injEq] at hfix
    have hlines : Text.lines t = ((Text.lines t).take index ++ line :: inside) ++ after := by
      rw [List.append_assoc, List.cons_append, ← hback]
      exact hlocated.lines_eq
    obtain ⟨tidy, htidy, hfixed⟩ :=
      lines_join_insert hlines (List.cons_ne_nil Fence.mark [])
        (List.forall_mem_singleton.mpr (by decide))
    exact .fence hkind hlines hodd htidy (hfix ▸ hfixed)
  | unbalancedBold hkind hodd =>
    rw [apply_unbalancedBold hlocated hkind] at hfix
    split_ifs at hfix with heven
    exact mended_of_line hlocated (hkind ▸ .unbalancedBold hodd (by omega))
      (Option.some.inj hfix).symm
  | unbalancedItalic hkind hodd =>
    rw [apply_unbalancedItalic hlocated hkind] at hfix
    split_ifs at hfix with heven
    exact mended_of_line hlocated (hkind ▸ .unbalancedItalic hodd (by omega))
      (Option.some.inj hfix).symm
  | unclosedLink hkind hlink =>
    rw [apply_unclosedLink hlocated hkind hlink] at hfix
    exact mended_of_line hlocated (hkind ▸ .unclosedLink hlink) (Option.some.inj hfix).symm

end PluginReadme.QuickFix
