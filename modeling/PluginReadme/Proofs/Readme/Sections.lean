import PluginReadme.Proofs.Readme.Heading
import PluginReadme.Proofs.Text.Lines
import PluginReadme.Readme.Document

/-!
# Sections as tiles

The sections of a readme are its headings in order, and each reaches to the line before the next one
(`IsTiling`). Lines without headings go to the heading before them. So sections that are written one
after the other are read again with the same titles, and with the same contents up to the blanks
around them (`ofLinesFrom_flatMap_writtenLines`).
-/

namespace PluginReadme.Section

variable {ls : List Text} {number : Nat}

def bodyIn (ls : List Text) (part : Section) : List Text :=
  (ls.take (part.lastLine + 1).toNat).drop (part.firstLine + 1).toNat

/-- The sections are the headings of the lines, in order, with the number of the line of each; a
section ends before the next one or with the lines, and its content is what stands between. -/
structure IsTiling (ls : List Text) (parts : List Section) : Prop where
  headings : parts.map (fun part ↦ (part.firstLine, part.title)) =
    ls.zipIdx.filterMap fun (line, index) ↦
      (Heading.section? line).map fun title ↦ ((index : Int), title)
  ends : ∀ index part, parts[index]? = some part →
    part.lastLine = ((parts[index + 1]?).map (·.firstLine)).getD (ls.length : Int) - 1
  contents : ∀ part ∈ parts, part.content = Text.strip (Text.join ['\n'] (bodyIn ls part))

/-! ## Reading line by line -/

theorem ofLinesFrom_cons_of_none {line : Text} (h : Heading.section? line = none) :
    ofLinesFrom number (line :: ls) = ofLinesFrom (number + 1) ls := by
  rw [ofLinesFrom, h]

theorem ofLinesFrom_cons_of_some {line title : Text} (h : Heading.section? line = some title) :
    ofLinesFrom number (line :: ls) =
      { title
        content := Text.strip
          (Text.join ['\n'] (ls.takeWhile fun other ↦ (Heading.section? other).isNone))
        firstLine := number
        lastLine := number + (ls.takeWhile fun other ↦ (Heading.section? other).isNone).length } ::
        ofLinesFrom (number + 1) ls := by
  rw [ofLinesFrom, h]
  rfl

/-- The sections are the headings, each with the number of its line. -/
theorem headings_ofLinesFrom (number : Nat) (ls : List Text) :
    (ofLinesFrom number ls).map (fun part ↦ (part.firstLine, part.title)) =
      (ls.zipIdx number).filterMap fun (line, index) ↦
        (Heading.section? line).map fun title ↦ ((index : Int), title) := by
  induction ls generalizing number with
  | nil => rfl
  | cons line ls ih =>
    rw [List.zipIdx_cons, List.filterMap_cons]
    cases h : Heading.section? line with
    | none =>
      rw [ofLinesFrom_cons_of_none h, ih]
      simp only [h, Option.map_none]
    | some title =>
      rw [ofLinesFrom_cons_of_some h, List.map_cons, ih]
      simp only [h, Option.map_some]

theorem titles_ofLinesFrom (number : Nat) (ls : List Text) :
    (ofLinesFrom number ls).map (·.title) = ls.filterMap Heading.section? := by
  induction ls generalizing number with
  | nil => rfl
  | cons line ls ih =>
    cases h : Heading.section? line with
    | none => rw [ofLinesFrom_cons_of_none h, List.filterMap_cons_none h, ih]
    | some title =>
      rw [ofLinesFrom_cons_of_some h, List.filterMap_cons_some h, List.map_cons, ih]

/-- The first heading stands after the lines that are none. -/
theorem firstLine_head_ofLinesFrom (number : Nat) (ls : List Text) :
    ((ofLinesFrom number ls).head?.map (·.firstLine)).getD ((number + ls.length : Nat) : Int) =
      number + (ls.takeWhile fun line ↦ (Heading.section? line).isNone).length := by
  induction ls generalizing number with
  | nil => rfl
  | cons line ls ih =>
    cases h : Heading.section? line with
    | none =>
      have hlength : number + (line :: ls).length = number + 1 + ls.length := by
        rw [List.length_cons]
        omega
      rw [ofLinesFrom_cons_of_none h, List.takeWhile_cons_of_pos (by rw [h]; rfl), hlength,
        ih (number + 1), List.length_cons]
      omega
    | some title =>
      rw [ofLinesFrom_cons_of_some h,
        List.takeWhile_cons_of_neg (by rw [h]; exact Bool.false_ne_true)]
      rfl

/-- A section ends before the line of the next heading, or with the last line. -/
theorem lastLine_of_getElem?_ofLinesFrom {index : Nat} {part : Section}
    (h : (ofLinesFrom number ls)[index]? = some part) :
    part.lastLine = (((ofLinesFrom number ls)[index + 1]?).map (·.firstLine)).getD
      ((number + ls.length : Nat) : Int) - 1 := by
  induction ls generalizing number index with
  | nil => exact absurd h (by simp [ofLinesFrom])
  | cons line ls ih =>
    have hlength : number + (line :: ls).length = number + 1 + ls.length := by
      rw [List.length_cons]
      omega
    rw [hlength]
    cases hline : Heading.section? line with
    | none =>
      rw [ofLinesFrom_cons_of_none hline] at h ⊢
      exact ih h
    | some title =>
      rw [ofLinesFrom_cons_of_some hline] at h ⊢
      cases index with
      | zero =>
        have hnext := firstLine_head_ofLinesFrom (number + 1) ls
        rw [List.getElem?_cons_zero] at h
        rw [List.getElem?_cons_succ, ← List.head?_eq_getElem?, hnext, ← Option.some.inj h]
        dsimp only
        omega
      | succ index =>
        rw [List.getElem?_cons_succ] at h ⊢
        exact ih h

/-- The section stands in the lines, of which the first has the given number: it is a line and those
after it that are its body. -/
def StandsIn (number : Nat) (ls : List Text) (part : Section) : Prop :=
  ∃ front line body rest, ls = front ++ line :: (body ++ rest) ∧
    part.firstLine = ((number + front.length : Nat) : Int) ∧
    part.lastLine = part.firstLine + body.length ∧
    part.content = Text.strip (Text.join ['\n'] body)

theorem StandsIn.cons {part : Section} (h : part.StandsIn (number + 1) ls) (line : Text) :
    part.StandsIn number (line :: ls) := by
  obtain ⟨front, other, body, rest, rfl, hfirst, hlast, hcontent⟩ := h
  refine ⟨line :: front, other, body, rest, rfl, ?_, hlast, hcontent⟩
  rw [hfirst, List.length_cons, Nat.add_assoc, Nat.add_comm 1]

/-- Every section stands in the lines. -/
theorem standsIn_of_mem_ofLinesFrom {part : Section} (h : part ∈ ofLinesFrom number ls) :
    part.StandsIn number ls := by
  induction ls generalizing number with
  | nil => exact absurd h List.not_mem_nil
  | cons line ls ih =>
    cases hline : Heading.section? line with
    | none =>
      rw [ofLinesFrom_cons_of_none hline] at h
      exact (ih h).cons line
    | some title =>
      rw [ofLinesFrom_cons_of_some hline] at h
      rcases List.mem_cons.mp h with rfl | h
      · exact ⟨[], line, _, ls.dropWhile fun other ↦ (Heading.section? other).isNone,
          by rw [List.takeWhile_append_dropWhile]; rfl, rfl, rfl, rfl⟩
      · exact (ih h).cons line

/-- The content of a section is what its lines hold, without the blanks around it. -/
theorem content_eq_of_mem_ofLines {part : Section} (h : part ∈ ofLines ls) :
    part.content = Text.strip (Text.join ['\n'] (bodyIn ls part)) := by
  obtain ⟨front, line, body, rest, rfl, hfirst, hlast, hcontent⟩ := standsIn_of_mem_ofLinesFrom h
  have hstart : (part.firstLine + 1).toNat = (front ++ [line]).length := by
    rw [hfirst, List.length_append, List.length_singleton]
    omega
  have hstop : (part.lastLine + 1).toNat = (front ++ [line] ++ body).length := by
    rw [hlast, hfirst, List.length_append, List.length_append, List.length_singleton]
    omega
  have hsplit : front ++ line :: (body ++ rest) = front ++ [line] ++ body ++ rest := by simp
  have hbody : bodyIn (front ++ line :: (body ++ rest)) part = body := by
    calc
      bodyIn (front ++ line :: (body ++ rest)) part =
          ((front ++ [line] ++ body ++ rest).take (front ++ [line] ++ body).length).drop
            (front ++ [line]).length := by
        rw [bodyIn, hstart, hstop, hsplit]
      _ = (front ++ [line] ++ body).drop (front ++ [line]).length := by rw [List.take_left]
      _ = body := List.drop_left
  rw [hcontent, hbody]

/-- The sections tile the lines from the first heading on. -/
theorem isTiling_ofLines (ls : List Text) : IsTiling ls (ofLines ls) where
  headings := headings_ofLinesFrom 0 ls
  ends index part h := by
    have hlast := lastLine_of_getElem?_ofLinesFrom h
    rw [Nat.zero_add] at hlast
    exact hlast
  contents _ := content_eq_of_mem_ofLines

/-! ## Written sections -/

/-- A title and a text that can be written as a section: the title on one line and without blanks
around it, the text without carriage returns and without a heading of its own. -/
structure IsWritable (title body : Text) : Prop where
  isTitle : Heading.IsTitle title
  feed_not_mem : '\n' ∉ title
  return_not_mem : '\r' ∉ body
  plain : ∀ line ∈ Text.lines body, Heading.section? line = none

def write (title body : Text) : Text := Heading.write 2 title ++ '\n' :: body

def writtenLines (title body : Text) : List Text := Heading.write 2 title :: Text.lines body

theorem lines_heading_append {title : Text} (h : '\n' ∉ title) (rest : Text) :
    Text.lines (Heading.write 2 title ++ '\n' :: rest) =
      Heading.write 2 title :: Text.lines rest := by
  have hlast : (Heading.write 2 title).getLast? ≠ some '\r' := by
    rw [Heading.getLast_write (by decide)]
    decide
  rw [Text.lines_append_feed (Heading.feed_not_mem_write h), Text.dropFinalReturn_eq_self hlast]

/-- A written section has its heading and its lines. -/
theorem lines_write {title body : Text} (h : IsWritable title body) :
    Text.lines (write title body) = writtenLines title body :=
  lines_heading_append h.feed_not_mem body

theorem lines_write_append {title body : Text} (h : IsWritable title body) (rest : Text) :
    Text.lines (write title body ++ '\n' :: rest) =
      writtenLines title body ++ Text.lines rest := by
  calc
    Text.lines (write title body ++ '\n' :: rest) =
        Heading.write 2 title :: Text.lines (body ++ '\n' :: rest) := by
      rw [write, List.append_assoc, List.cons_append, lines_heading_append h.feed_not_mem]
    _ = writtenLines title body ++ Text.lines rest := by
      rw [Text.lines_append_feed_of_not_mem h.return_not_mem, writtenLines, List.cons_append]

/-- The lines of written sections are found again. -/
theorem lines_join_write {parts : List (Text × Text)} (hne : parts ≠ [])
    (h : ∀ part ∈ parts, IsWritable part.1 part.2) :
    Text.lines (Text.join ['\n'] (parts.map fun part ↦ write part.1 part.2)) =
      parts.flatMap fun part ↦ writtenLines part.1 part.2 := by
  induction parts with
  | nil => exact absurd rfl hne
  | cons part parts ih =>
    obtain ⟨hpart, hparts⟩ := List.forall_mem_cons.mp h
    rw [List.map_cons, List.flatMap_cons]
    by_cases hnil : parts = []
    · subst hnil
      rw [List.map_nil, Text.join_singleton, lines_write hpart, List.flatMap_nil, List.append_nil]
    · calc
        Text.lines (Text.join ['\n'] (write part.1 part.2 :: parts.map fun part ↦
            write part.1 part.2)) =
            Text.lines (write part.1 part.2 ++ '\n' :: Text.join ['\n'] (parts.map fun part ↦
              write part.1 part.2)) := by
          rw [Text.join_cons (by simpa using hnil), List.append_assoc, List.singleton_append]
        _ = writtenLines part.1 part.2 ++ parts.flatMap fun part ↦ writtenLines part.1 part.2 := by
          rw [lines_write_append hpart, ih hnil hparts]

/-- In front of the first heading no section opens. -/
theorem ofLinesFrom_append_of_forall {body : List Text}
    (h : ∀ line ∈ body, Heading.section? line = none) (number : Nat) (rest : List Text) :
    ofLinesFrom number (body ++ rest) = ofLinesFrom (number + body.length) rest := by
  induction body generalizing number with
  | nil => rfl
  | cons line body ih =>
    obtain ⟨hline, hbody⟩ := List.forall_mem_cons.mp h
    rw [List.cons_append, ofLinesFrom_cons_of_none hline, ih hbody, List.length_cons,
      Nat.add_assoc, Nat.add_comm 1]

/-- Lines that are no headings go to the section before them, up to the next heading. -/
theorem takeWhile_append_of_forall {body rest : List Text}
    (h : ∀ line ∈ body, Heading.section? line = none)
    (hrest : ∀ line ∈ rest.head?, Heading.section? line ≠ none) :
    (body ++ rest).takeWhile (fun line ↦ (Heading.section? line).isNone) = body := by
  have hstop : rest.takeWhile (fun line ↦ (Heading.section? line).isNone) = [] := by
    cases rest with
    | nil => rfl
    | cons line rest =>
      refine List.takeWhile_cons_of_neg ?_
      rw [Option.isNone_iff_eq_none]
      exact hrest line rfl
  rw [List.takeWhile_append_of_pos fun line hline ↦ Option.isNone_iff_eq_none.mpr (h line hline),
    hstop, List.append_nil]

/-- Written sections give back their titles and contents. -/
theorem ofLinesFrom_flatMap_writtenLines {parts : List (Text × Text)}
    (h : ∀ part ∈ parts, IsWritable part.1 part.2) (number : Nat) :
    (ofLinesFrom number (parts.flatMap fun part ↦ writtenLines part.1 part.2)).map
        (fun part ↦ (part.title, part.content)) =
      parts.map fun part ↦ (part.1, Text.strip part.2) := by
  induction parts generalizing number with
  | nil => rfl
  | cons part parts ih =>
    obtain ⟨hpart, hparts⟩ := List.forall_mem_cons.mp h
    have hheading := Heading.title?_write 2 hpart.isTitle
    have hrest : ∀ line ∈ (parts.flatMap fun part ↦ writtenLines part.1 part.2).head?,
        Heading.section? line ≠ none := by
      intro line hline
      cases parts with
      | nil => exact absurd hline (by simp)
      | cons next parts =>
        rw [← Option.some.inj hline, Heading.section?, Heading.title?_write 2
          (hparts next List.mem_cons_self).isTitle]
        exact Option.some_ne_none _
    let later := parts.flatMap fun part ↦ writtenLines part.1 part.2
    have hbody : (Text.lines part.2 ++ later).takeWhile
        (fun line ↦ (Heading.section? line).isNone) = Text.lines part.2 :=
      takeWhile_append_of_forall hpart.plain hrest
    calc
      (ofLinesFrom number (Heading.write 2 part.1 :: (Text.lines part.2 ++ later))).map
          (fun part ↦ (part.title, part.content)) =
          (part.1, Text.strip (Text.join ['\n'] (Text.lines part.2))) ::
            (ofLinesFrom (number + 1) (Text.lines part.2 ++ later)).map
              fun part ↦ (part.title, part.content) := by
        rw [ofLinesFrom_cons_of_some hheading, List.map_cons]
        dsimp only
        rw [hbody]
      _ = (part.1, Text.strip part.2) :: parts.map fun part ↦ (part.1, Text.strip part.2) := by
        rw [Text.join_lines hpart.return_not_mem, ofLinesFrom_append_of_forall hpart.plain,
          ih hparts]

end PluginReadme.Section

namespace PluginReadme.Readme

/-- The sections of a readme tile its lines, and sections that are written one after the other are
read again. -/
theorem sections_tile_and_return :
    (∀ t : Text, Section.IsTiling (Text.lines t) (ofText t).sections) ∧
      ∀ parts : List (Text × Text), (∀ part ∈ parts, Section.IsWritable part.1 part.2) →
        (ofText (Text.join ['\n'] (parts.map fun part ↦ Section.write part.1 part.2))).sections.map
            (fun part ↦ (part.title, part.content)) =
          parts.map fun part ↦ (part.1, Text.strip part.2) := by
  refine ⟨fun t ↦ Section.isTiling_ofLines (Text.lines t), fun parts h ↦ ?_⟩
  by_cases hnil : parts = []
  · subst hnil
    rfl
  · change (Section.ofLines (Text.lines _)).map _ = _
    rw [Section.lines_join_write hnil h]
    exact Section.ofLinesFrom_flatMap_writtenLines h 0

/-- A title of marks, and a section without a body. -/
theorem sections_tile_and_return_marks :
    Section.IsWritable "==".toList " = x =\n===\n".toList ∧
      Section.IsWritable "a ==  b".toList [] ∧
      (ofText "== == ==\n = x =\n===\n\n== a ==  b ==\n".toList).sections.map
          (fun part ↦ (part.title, part.content)) =
        [("==".toList, "= x =\n===".toList), ("a ==  b".toList, [])] := by
  have hmarks : Section.IsWritable "==".toList " = x =\n===\n".toList :=
    ⟨Heading.isTitle_strip (by decide : Text.strip "==".toList ≠ []), by decide, by decide,
      by decide⟩
  have hempty : Section.IsWritable "a ==  b".toList [] :=
    ⟨Heading.isTitle_strip (by decide : Text.strip "a ==  b".toList ≠ []), by decide, by decide,
      by decide⟩
  refine ⟨hmarks, hempty, ?_⟩
  exact sections_tile_and_return.2 [("==".toList, " = x =\n===\n".toList), ("a ==  b".toList, [])]
    (List.forall_mem_cons.mpr ⟨hmarks, List.forall_mem_singleton.mpr hempty⟩)

end PluginReadme.Readme
