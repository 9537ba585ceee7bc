import PluginReadme.Preview.Skeleton
import PluginReadme.Proofs.Check.Severity
import PluginReadme.Proofs.Readme.Region
import PluginReadme.Proofs.Readme.Sections
import PluginReadme.Proofs.Repair.Log

/-!
# Skeletons are valid and stay

Two lines of a skeleton depend on the plugin, the heading with its name and the line with its
folder; the others are the same for every plugin (`lines_eq`). So what a reading says about a
skeleton is settled by a look at the fixed lines and by two facts on the lines that vary: a name
between three marks is a heading whatever it holds, and the line with the folder starts with a
digit. From this follow the header (`ofLines_lines`), the titles of the sections
(`filterMap_lines`), and that every line is sound (`isSound_lines`): no heading is malformed, and
repair leaves it as it is.
-/

namespace PluginReadme.Skeleton

variable {name : Text}

/-! ## Lines -/

/-- The lines between the heading with the name and the line with the folder. -/
def opening : List Text := ((lines []).drop 1).take 19

/-- The lines after the one with the folder. -/
def closing : List Text := (lines []).drop 21

/-- The fixed lines stand around the one line with the folder, after the heading with the name. -/
theorem lines_eq (name : Text) :
    lines name = Heading.write 3 name :: (opening ++ uploadLine (folderOf name) :: closing) :=
  rfl

/-- What holds of the two lines that vary and of the fixed ones holds of all lines. -/
theorem forall_mem_lines {motive : Text → Prop} (heading : motive (Heading.write 3 name))
    (upload : motive (uploadLine (folderOf name)))
    (fixed : ∀ line ∈ opening ++ closing, motive line) :
    ∀ line ∈ lines name, motive line := by
  obtain ⟨hopening, hclosing⟩ := List.forall_mem_append.mp fixed
  rw [lines_eq]
  exact List.forall_mem_cons.mpr ⟨heading, List.forall_mem_append.mpr
    ⟨hopening, List.forall_mem_cons.mpr ⟨upload, hclosing⟩⟩⟩

/-! ## The name -/

/-- The name of a skeleton can stand in a heading. -/
theorem isTitle_nameOf (name : Text) : Heading.IsTitle (nameOf name) := by
  unfold nameOf
  dsimp only
  split_ifs with h
  · exact Heading.isTitle_strip (by decide : Text.strip defaultName ≠ [])
  · exact Heading.isTitle_strip (by simpa using h)

theorem feed_not_mem_nameOf (h : '\n' ∉ name) : '\n' ∉ nameOf name := by
  unfold nameOf
  dsimp only
  split_ifs
  · decide
  · exact fun hmem ↦ h (Text.mem_of_mem_trim hmem)

/-! ## The folder -/

theorem mem_slugFrom {c : Char} {gap : Bool} {t : Text} (h : c ∈ slugFrom gap t) :
    isSlugChar c = true ∨ c = '-' := by
  induction t generalizing gap with
  | nil => exact absurd h List.not_mem_nil
  | cons first rest ih =>
    rw [slugFrom] at h
    split_ifs at h with hfirst
    · rcases List.mem_cons.mp h with rfl | h
      · exact Or.inr rfl
      rcases List.mem_cons.mp h with rfl | h
      · exact Or.inl hfirst
      · exact ih h
    · rcases List.mem_cons.mp h with rfl | h
      · exact Or.inl hfirst
      · exact ih h
    · exact ih h

theorem feed_not_mem_folderOf (name : Text) : '\n' ∉ folderOf name := by
  unfold folderOf
  dsimp only
  split_ifs
  · decide
  · exact fun h ↦ absurd (mem_slugFrom h) (by decide)

theorem feed_not_mem_uploadLine (name : Text) : '\n' ∉ uploadLine (folderOf name) := by
  intro h
  rcases List.mem_append.mp h with h | h
  · rcases List.mem_append.mp h with h | h
    · exact absurd h (by decide +kernel)
    · exact feed_not_mem_folderOf name h
  · exact absurd h (by decide +kernel)

theorem head_uploadLine (folder : Text) : (uploadLine folder).head? = some '1' := by
  unfold uploadLine
  rw [List.append_assoc, List.head?_append_of_ne_nil _ (by decide +kernel)]
  decide +kernel

theorem getLast_uploadLine (folder : Text) : (uploadLine folder).getLast? = some '.' := by
  unfold uploadLine
  rw [List.getLast?_append_of_ne_nil _ (by decide +kernel)]
  decide +kernel

theorem strip_uploadLine (folder : Text) : Text.strip (uploadLine folder) = uploadLine folder := by
  apply Text.trim_eq_self
  constructor
  · intro c hc
    rw [head_uploadLine] at hc
    exact Option.some.inj hc ▸ rfl
  · intro c hc
    rw [getLast_uploadLine] at hc
    exact Option.some.inj hc ▸ rfl

theorem head_strip_uploadLine (folder : Text) :
    (Text.strip (uploadLine folder)).head? ≠ some '=' := by
  rw [strip_uploadLine, head_uploadLine]
  decide

/-- Repair leaves the line with the folder as it is. -/
theorem isSettledLine_uploadLine (folder : Text) : Repair.IsSettledLine (uploadLine folder) where
  heading _ := Repair.heading?_of_head_ne_mark (head_strip_uploadLine folder)
  hashes _ := by
    apply Repair.hashHeading?_of_head_ne_hash
    rw [head_uploadLine]
    decide
  fence := by
    apply Repair.opening?_of_head_ne_backtick
    rw [head_uploadLine]
    decide

/-! ## Sound lines -/

/-- A line that is read as it was written, that is no malformed heading, and that repair leaves as
it is. -/
structure IsSound (line : Text) : Prop where
  feed_not_mem : '\n' ∉ line
  getLast_ne_return : line.getLast? ≠ some '\r'
  isMalformed : Check.isMalformed line = false
  settled : Repair.IsSettledLine line
  eq_nil : Text.isBlankText line = true → line = []

theorem isMalformed_of_head_strip {line : Text} (h : (Text.strip line).head? ≠ some '=') :
    Check.isMalformed line = false := by
  rw [Bool.eq_false_iff]
  exact fun hmalformed ↦ h (Check.head_strip_of_isMalformed hmalformed)

theorem isBlankText_of_head {line : Text} {c : Char} (hhead : line.head? = some c)
    (hc : isBlank c = false) : Text.isBlankText line = false := by
  rw [Text.isBlankText, List.all_eq_false]
  exact ⟨c, List.mem_of_mem_head? hhead, by simpa using hc⟩

theorem isBlankText_heading (name : Text) : Text.isBlankText (Heading.write 3 name) = false :=
  isBlankText_of_head (Heading.head_write (by decide)) Heading.isBlank_mark

theorem isBlankText_uploadLine (folder : Text) : Text.isBlankText (uploadLine folder) = false :=
  isBlankText_of_head (head_uploadLine folder) (by decide)

theorem isSound_nil : IsSound [] where
  feed_not_mem := List.not_mem_nil
  getLast_ne_return := by decide
  isMalformed := isMalformed_of_head_strip (by decide)
  settled := Repair.isSettledLine_nil
  eq_nil _ := rfl

theorem isSound_heading (h : Heading.IsTitle name) (hfeed : '\n' ∉ name) :
    IsSound (Heading.write 3 name) where
  feed_not_mem := Heading.feed_not_mem_write hfeed
  getLast_ne_return := by
    rw [Heading.getLast_write (by decide)]
    decide
  isMalformed := by
    unfold Check.isMalformed
    dsimp only
    rw [Heading.strip_write (by decide), Heading.isCanonical_write (by decide) h, Bool.not_true,
      Bool.and_false]
  settled := Repair.isSettledLine_write_three name
  eq_nil hblank := absurd hblank (Bool.eq_false_iff.mp (isBlankText_heading name))

theorem isSound_uploadLine (name : Text) : IsSound (uploadLine (folderOf name)) where
  feed_not_mem := feed_not_mem_uploadLine name
  getLast_ne_return := by
    rw [getLast_uploadLine]
    decide
  isMalformed := isMalformed_of_head_strip (head_strip_uploadLine _)
  settled := isSettledLine_uploadLine _
  eq_nil hblank := absurd hblank (Bool.eq_false_iff.mp (isBlankText_uploadLine _))

/-- The fixed lines are sound. -/
theorem isSound_fixed : ∀ line ∈ opening ++ closing, IsSound line := by
  have hfixed : ∀ line ∈ opening ++ closing,
      ('\n' ∉ line ∧ line.getLast? ≠ some '\r' ∧ Check.isMalformed line = false ∧
        (Text.isBlankText line = true → line = [])) ∧
          Repair.heading? 0 line = none ∧ Repair.hashHeading? 0 line = none ∧
            Fence.opening? line = none := by
    decide +kernel
  intro line hline
  obtain ⟨⟨hfeed, hreturn, hmalformed, hblank⟩, hheading, hhashes, hfence⟩ := hfixed line hline
  exact ⟨hfeed, hreturn, hmalformed, ⟨Repair.heading?_eq_none_of_eq_none hheading,
    Repair.hashHeading?_eq_none_of_eq_none hhashes, hfence⟩, hblank⟩

/-- Every line of a skeleton is sound, the empty one at its end included. -/
theorem isSound_lines (h : Heading.IsTitle name) (hfeed : '\n' ∉ name) :
    ∀ line ∈ lines name ++ [[]], IsSound line :=
  List.forall_mem_append.mpr
    ⟨forall_mem_lines (isSound_heading h hfeed) (isSound_uploadLine name) isSound_fixed,
      List.forall_mem_singleton.mpr isSound_nil⟩

/-! ## The text -/

theorem text_eq_join (name : Text) : text name = Text.join ['\n'] (lines (nameOf name) ++ [[]]) :=
  (Text.join_concat_nil _).symm

/-- The lines of a skeleton are found again. -/
theorem lines_text (h : '\n' ∉ name) : Text.lines (text name) = lines (nameOf name) ++ [[]] := by
  have hsound := isSound_lines (isTitle_nameOf name) (feed_not_mem_nameOf h)
  have hfeeds : ∀ line ∈ lines (nameOf name), '\n' ∉ line := fun line hline ↦
    (hsound line (List.mem_append_left _ hline)).feed_not_mem
  have hsafe : Text.FeedSafe (lines (nameOf name) ++ [[]]) :=
    Text.feedSafe_of_forall fun line hline ↦ (hsound line hline).getLast_ne_return
  rw [text_eq_join, Text.lines_join_feed hfeeds List.not_mem_nil, hsafe.map_dropFinalReturn]

theorem lineEnd_text (h : '\n' ∉ name) : Text.lineEnd (text name) = ['\n'] := by
  have hsound := isSound_lines (isTitle_nameOf name) (feed_not_mem_nameOf h)
  rw [text_eq_join]
  exact Text.lineEnd_of_not_hasCarriageReturn (Text.hasCarriageReturn_join_feed
    (fun line hline ↦ (hsound line hline).feed_not_mem)
    (Text.feedSafe_of_forall fun line hline ↦ (hsound line hline).getLast_ne_return))

/-! ## The header -/

/-- A labelled field starts with a letter. -/
theorem ofLine?_write_three (name : Text) : Field.ofLine? (Heading.write 3 name) = none := rfl

theorem nameOn?_write_three (h : Heading.IsTitle name) (hfeed : '\n' ∉ name) :
    nameOn? (Heading.write 3 name) = some name := by
  rw [nameOn?, Heading.strip_write (by decide), Heading.pluginName?_write_three h hfeed]

theorem not_isSectionBetweenBlanks_write_three (h : Heading.IsTitle name) (hfeed : '\n' ∉ name) :
    ¬ Heading.IsSectionBetweenBlanks (Heading.write 3 name) := by
  intro hsection
  have hnone := nameOn?_of_isSectionBetweenBlanks hsection
  rw [nameOn?_write_three h hfeed] at hnone
  exact Option.some_ne_none _ hnone

/-- The header ends in the fixed lines after the name. -/
theorem regionOf_lines (h : Heading.IsTitle name) (hfeed : '\n' ∉ name) (rest : List Text) :
    Header.regionOf (lines name ++ rest) = Heading.write 3 name :: Header.regionOf opening := by
  have hsection : ∃ line ∈ opening, Heading.IsSectionBetweenBlanks line := by decide +kernel
  calc
    Header.regionOf (lines name ++ rest) =
        Text.strip (Heading.write 3 name) ::
          Header.regionOf (opening ++ uploadLine (folderOf name) :: closing ++ rest) := by
      rw [lines_eq, List.cons_append, Header.regionOf_cons,
        if_neg (not_isSectionBetweenBlanks_write_three h hfeed)]
    _ = Heading.write 3 name :: Header.regionOf opening := by
      rw [Heading.strip_write (by decide), List.append_assoc,
        Header.regionOf_append_of_exists hsection]

def fixedHeader : Header :=
  { (Header.regionOf opening).foldl Header.read {} with
    shortDescription := Header.firstRun (Header.regionOf opening) }

/-- The header of a skeleton says the same for every plugin, apart from the name. -/
theorem ofLines_lines (h : Heading.IsTitle name) (hfeed : '\n' ∉ name) (rest : List Text) :
    Header.ofLines (lines name ++ rest) = { fixedHeader with pluginName := name } := by
  have hread : Header.read {} (Heading.write 3 name) = {} := by
    rw [Header.read, ofLine?_write_three]
  have hname : Header.nameIn (lines name ++ rest) = name := by
    rw [Header.nameIn, lines_eq, List.cons_append, List.findSome?_cons, nameOn?_write_three h hfeed]
    rfl
  have hafter : Header.afterName (Heading.write 3 name :: Header.regionOf opening) =
      Header.regionOf opening := by
    rw [Header.afterName, List.dropWhile_cons_of_neg]
    · rfl
    · rw [Heading.pluginName?_write_three h hfeed]
      simp
  rw [Header.ofLines_eq, regionOf_lines h hfeed, List.foldl_cons, hread, hname, hafter,
    fixedHeader]

theorem lacks_of_ne_pluginName (header : Header) {field : Field} (h : field ≠ .pluginName) :
    { header with pluginName := name }.lacks field = header.lacks field := by
  cases field with
  | pluginName => exact absurd rfl h
  | _ => rfl

/-- A skeleton has every field that a readme needs. -/
theorem lacks_header (h : '\n' ∉ name) :
    ∀ field ∈ Field.required, (Readme.ofText (text name)).header.lacks field = false := by
  have hfixed :
      ∀ field ∈ Field.required, field ≠ .pluginName → fixedHeader.lacks field = false := by
    decide +kernel
  intro field hfield
  rw [Readme.ofText, lines_text h]
  dsimp only
  rw [ofLines_lines (isTitle_nameOf name) (feed_not_mem_nameOf h)]
  by_cases hname : field = .pluginName
  · rw [hname, Header.lacks]
    simpa using (isTitle_nameOf name).ne_nil
  · rw [lacks_of_ne_pluginName fixedHeader hname, hfixed field hfield hname]

/-! ## The sections -/

/-- The sections of a skeleton are those of a complete readme, in order. -/
theorem filterMap_lines (h : Heading.IsTitle name) (hfeed : '\n' ∉ name) :
    (lines name).filterMap Heading.section? = Section.standardTitles := by
  have hname : Heading.section? (Heading.write 3 name) = none := by
    have hnot := not_isSectionBetweenBlanks_write_three h hfeed
    rwa [Heading.IsSectionBetweenBlanks, Heading.strip_write (by decide), Bool.not_eq_true,
      Option.isSome_eq_false_iff, Option.isNone_iff_eq_none] at hnot
  have hupload : Heading.section? (uploadLine (folderOf name)) = none := by
    apply Heading.section?_of_head_ne_mark
    rw [head_uploadLine]
    decide
  rw [lines_eq, List.filterMap_cons_none hname, List.filterMap_append,
    List.filterMap_cons_none hupload]
  decide +kernel

/-! ## Repair -/

/-- No two blank lines follow each other in a skeleton. -/
theorem cutBlanksFrom_lines (name : Text) :
    Repair.cutBlanksFrom 0 (lines name ++ [[]]) = lines name ++ [[]] := by
  have hopening : Repair.cutBlanksFrom 0 opening = opening :=
    Repair.cutBlanksFrom_eq_self
      (fun line hline ↦ (isSound_fixed line (List.mem_append_left _ hline)).eq_nil)
      (by decide +kernel)
  have hclosing : Repair.cutBlanksFrom 0 (closing ++ [[]]) = closing ++ [[]] :=
    Repair.cutBlanksFrom_eq_self
      (List.forall_mem_append.mpr
        ⟨fun line hline ↦ (isSound_fixed line (List.mem_append_right _ hline)).eq_nil,
          List.forall_mem_singleton.mpr isSound_nil.eq_nil⟩)
      (by decide +kernel)
  have hlines : lines name ++ [[]] =
      Heading.write 3 name :: (opening ++ uploadLine (folderOf name) :: (closing ++ [[]])) := by
    rw [lines_eq, List.cons_append, List.append_assoc, List.cons_append]
  calc
    Repair.cutBlanksFrom 0 (lines name ++ [[]]) =
        Heading.write 3 name ::
          Repair.cutBlanksFrom 0 (opening ++ uploadLine (folderOf name) :: (closing ++ [[]])) := by
      rw [hlines, Repair.cutBlanksFrom, isBlankText_heading, if_neg Bool.false_ne_true]
    _ = Heading.write 3 name :: (Repair.cutBlanksFrom 0 opening ++
          uploadLine (folderOf name) :: Repair.cutBlanksFrom 0 (closing ++ [[]])) := by
      rw [Repair.cutBlanksFrom_append_cons (isBlankText_uploadLine _)]
    _ = lines name ++ [[]] := by
      rw [hopening, hclosing, hlines]

/-- A skeleton has nothing to repair. -/
theorem repair_text (h : '\n' ∉ name) (style : Repair.Style) :
    repair style (text name) = ⟨text name, []⟩ := by
  have hsettled : Repair.Settled style (lines (nameOf name) ++ [[]]) :=
    Repair.settled_of_forall fun line hline ↦
      (isSound_lines (isTitle_nameOf name) (feed_not_mem_nameOf h) line hline).settled
  unfold repair
  dsimp only
  rw [lines_text h, lineEnd_text h, hsettled.lines_eq (cutBlanksFrom_lines _), text_eq_join]

/-! ## Skeletons -/

/-- A skeleton has no errors, carries the name, has the standard sections and no others, and is left
as it is by repair. -/
theorem text_valid_and_settled (h : '\n' ∉ name) :
    (Verdict.of (Readme.ofText (text name)) []).errors = [] ∧
      (Readme.ofText (text name)).header.pluginName =
        (if (Text.strip name).isEmpty then defaultName else Text.strip name) ∧
      (Readme.ofText (text name)).sections.map (·.title) = Section.standardTitles ∧
      ∀ style, repair style (text name) = ⟨text name, []⟩ := by
  have htitle := isTitle_nameOf name
  have hfeed := feed_not_mem_nameOf h
  refine ⟨?_, ?_, ?_, repair_text h⟩
  · refine (Verdict.errors_of_eq_nil_iff _).mpr ⟨lacks_header h, ?_⟩
    change ∀ line ∈ Text.lines (text name), _
    rw [lines_text h]
    exact fun line hline ↦ (isSound_lines htitle hfeed line hline).isMalformed
  · rw [Readme.ofText, lines_text h]
    dsimp only
    rw [ofLines_lines htitle hfeed]
    rfl
  · rw [Readme.ofText, lines_text h]
    dsimp only
    rw [Section.ofLines, Section.titles_ofLinesFrom, List.filterMap_append,
      filterMap_lines htitle hfeed]
    exact List.append_nil _

/-- Marks around the name and a carriage return inside it. -/
theorem text_valid_and_settled_marks :
    '\n' ∉ " == a\r```[ #b =\t".toList ∧
      (Verdict.of (Readme.ofText (text " == a\r```[ #b =\t".toList)) []).errors = [] ∧
      (Readme.ofText (text " == a\r```[ #b =\t".toList)).header.pluginName =
        "== a\r```[ #b =".toList ∧
      (Readme.ofText (text " == a\r```[ #b =\t".toList)).sections.map (·.title) =
        Section.standardTitles ∧
      ∀ style, repair style (text " == a\r```[ #b =\t".toList) =
        ⟨text " == a\r```[ #b =\t".toList, []⟩ := by
  have hfeed : '\n' ∉ " == a\r```[ #b =\t".toList := by decide +kernel
  exact ⟨hfeed, text_valid_and_settled hfeed⟩

end PluginReadme.Skeleton
