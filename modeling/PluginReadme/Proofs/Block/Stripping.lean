import PluginReadme.Proofs.Block.Collector

/-!
# Stripping definitions

The numbers of a definition are those of its lines as blocks count them, and its lines are dropped
under the numbers that a readme counts. Both stand for the same lines exactly if no carriage return
ends a line alone before the definition ends (`numbersAgree_iff`). In this case stripping drops the
lines of the definitions and keeps all others in order (`strip_eq`).
-/

namespace PluginReadme.LinkDefinition

open Text

variable {t : Text} {definition : LinkDefinition} {definitions : List LinkDefinition}

/-- The lines that definitions have the numbers of, as blocks count them, with their places. -/
def linesOfDefinitions (t : Text) (definitions : List LinkDefinition) : List (Nat × Text) :=
  definitions.flatMap fun definition ↦
    ((placedLines true t).take definition.endLine).drop definition.firstLine

/-- The numbers of a definition stand for the same lines, however lines are counted. -/
def NumbersAgree (t : Text) (definition : LinkDefinition) : Prop :=
  ∀ n, definition.firstLine ≤ n → n < definition.endLine →
    (placedLines true t)[n]? = (placedLines false t)[n]?

theorem lt_endLine_of_standsOn {source : List Text} (h : Block.StandsOn source definition) :
    definition.firstLine < definition.endLine ∧ definition.endLine ≤ source.length := by
  obtain ⟨line, pending, hend, htrails, -⟩ := h
  rw [List.length_cons] at hend
  obtain ⟨last, hlast, -⟩ := htrails pending.length _
    (List.getElem?_eq_getElem (by rw [List.length_cons]; exact Nat.lt_succ_self _))
  rw [List.getElem?_drop] at hlast
  have hlength := (List.getElem?_eq_some_iff.mp hlast).1
  omega

/-- The numbers of a definition agree exactly if no carriage return ends a line alone before its
end. -/
theorem numbersAgree_iff (h : Block.StandsOn (Block.documentLines t) definition) :
    NumbersAgree t definition ↔ ReturnsFrom definition.endLine t := by
  obtain ⟨hlt, hle⟩ := lt_endLine_of_standsOn h
  rw [Block.documentLines, List.length_map] at hle
  constructor
  · intro hagree
    have hlast := (getElem?_placedLines_eq_iff (by omega)).mp
      (hagree (definition.endLine - 1) (by omega) (by omega))
    rwa [Nat.sub_add_cancel (by omega)] at hlast
  · intro hreturns n _ hn
    refine (getElem?_placedLines_eq_iff (by omega)).mpr fun front rest heq hne hhead ↦ ?_
    exact Nat.lt_of_le_of_lt hn (hreturns front rest heq hne hhead)

theorem endLine_le_of_numbersAgree (h : Block.StandsOn (Block.documentLines t) definition)
    (hagree : NumbersAgree t definition) :
    definition.endLine ≤ (endedLines false t).length := by
  obtain ⟨hlt, hle⟩ := lt_endLine_of_standsOn h
  rw [Block.documentLines, List.length_map] at hle
  have hlast := hagree (definition.endLine - 1) (by omega) (by omega)
  rw [getElem?_placedLines, getElem?_placedLines, List.getElem?_eq_getElem (by omega)] at hlast
  obtain ⟨line, hline, -⟩ := Option.map_eq_some_iff.mp hlast.symm
  have hlength := (List.getElem?_eq_some_iff.mp hline).1
  omega

/-- Where the numbers agree, a line has the number of a definition exactly if it is one of the lines
of the definitions. -/
theorem mem_linesOfDefinitions_iff (hagree : ∀ definition ∈ definitions, NumbersAgree t definition)
    {n : Nat} {place : Nat × Text} (hplace : (placedLines false t)[n]? = some place) :
    place ∈ linesOfDefinitions t definitions ↔
      ∃ definition ∈ definitions, definition.firstLine ≤ n ∧ n < definition.endLine := by
  rw [linesOfDefinitions, List.mem_flatMap]
  refine exists_congr fun definition ↦ and_congr_right fun hdefinition ↦ ?_
  rw [List.mem_iff_getElem?]
  constructor
  · rintro ⟨i, hi⟩
    rw [List.getElem?_drop, List.getElem?_take] at hi
    split at hi
    · next hlt =>
      have hsame := hagree definition hdefinition _ (Nat.le_add_right _ i) hlt
      have hnumber : definition.firstLine + i = n := placedLines_inj (hsame.symm.trans hi) hplace
      omega
    · exact nomatch hi
  · rintro ⟨hfirst, hlt⟩
    refine ⟨n - definition.firstLine, ?_⟩
    rw [List.getElem?_drop, Nat.add_sub_cancel' hfirst, List.getElem?_take_of_lt hlt,
      hagree definition hdefinition n hfirst hlt, hplace]

def otherLines (t : Text) (definitions : List LinkDefinition) : List Text :=
  ((placedLines false t).filter fun place ↦
    !(linesOfDefinitions t definitions).contains place).map (fun place ↦ withoutEnd place.2) ++
      openLine t

/-- No definition has the number of the line. -/
def keeps (definitions : List LinkDefinition) (n : Nat) : Bool :=
  !definitions.any fun definition ↦ definition.firstLine ≤ n && n < definition.endLine

/-- A line is kept exactly if its number belongs to no definition. -/
theorem keeps_eq_true_iff {n : Nat} : keeps definitions n = true ↔
    ¬∃ definition ∈ definitions, definition.firstLine ≤ n ∧ n < definition.endLine := by
  rw [keeps, Bool.not_eq_true', ← Bool.not_eq_true, List.any_eq_true]
  simp

/-- Where the numbers agree, the lines that are kept are those that belong to no definition. -/
theorem filter_keeps_endedLines (hagree : ∀ definition ∈ definitions, NumbersAgree t definition) :
    (((endedLines false t).map withoutEnd).zipIdx.filter fun line ↦
      keeps definitions line.2).map (·.1) =
      ((placedLines false t).filter fun place ↦
        !(linesOfDefinitions t definitions).contains place).map fun place ↦ withoutEnd place.2 := by
  have hfilter : (endedLines false t).zipIdx.filter (fun line ↦ keeps definitions line.2) =
      (endedLines false t).zipIdx.filter fun line ↦
        !(linesOfDefinitions t definitions).contains (lineStart false t line.2, line.1) := by
    apply List.filter_congr
    rintro ⟨line, n⟩ hmem
    have hplace : (placedLines false t)[n]? = some (lineStart false t n, line) := by
      rw [getElem?_placedLines, List.mk_mem_zipIdx_iff_getElem?.mp hmem]
      rfl
    rw [Bool.eq_iff_iff, keeps_eq_true_iff, Bool.not_eq_true', ← Bool.not_eq_true,
      List.contains_iff_mem, mem_linesOfDefinitions_iff hagree hplace]
  rw [List.zipIdx_map, List.filter_map, List.map_map, placedLines, List.filter_map, List.map_map]
  exact congrArg _ hfilter

/-- The empty line behind the last line feed has a number that no definition has. -/
theorem filter_keeps_openLine (hstands : ∀ definition ∈ definitions,
      Block.StandsOn (Block.documentLines t) definition)
    (hagree : ∀ definition ∈ definitions, NumbersAgree t definition) :
    (((openLine t).zipIdx (endedLines false t).length).filter fun line ↦
      keeps definitions line.2).map (·.1) = openLine t := by
  have hkept : keeps definitions (endedLines false t).length = true := by
    rw [keeps_eq_true_iff]
    rintro ⟨definition, hdefinition, -, hlt⟩
    have hle := endLine_le_of_numbersAgree (hstands definition hdefinition)
      (hagree definition hdefinition)
    omega
  unfold openLine
  split
  · have hone := List.filter_cons_of_pos (p := fun line ↦ keeps definitions line.2)
      (a := (([] : Text), (endedLines false t).length)) (l := []) hkept
    rw [List.zipIdx_singleton, hone]
    rfl
  · rfl

/-- Where the numbers agree, stripping drops the lines of the definitions and no others. -/
theorem strip_eq (hstands : ∀ definition ∈ definitions,
      Block.StandsOn (Block.documentLines t) definition)
    (hagree : ∀ definition ∈ definitions, NumbersAgree t definition) :
    strip definitions t = join "\n" (otherLines t definitions) := by
  have hkept : ((lines t).zipIdx.filter fun line ↦ keeps definitions line.2).map (·.1) =
      otherLines t definitions := by
    calc
      ((lines t).zipIdx.filter fun line ↦ keeps definitions line.2).map (·.1) =
          (((endedLines false t).map withoutEnd).zipIdx.filter fun line ↦
            keeps definitions line.2).map (·.1) ++
          (((openLine t).zipIdx (endedLines false t).length).filter fun line ↦
            keeps definitions line.2).map (·.1) := by
        rw [lines_eq_map_withoutEnd, List.zipIdx_append, List.filter_append, List.map_append,
          List.length_map, Nat.zero_add]
      _ = otherLines t definitions := by
        rw [filter_keeps_endedLines hagree, filter_keeps_openLine hstands hagree, otherLines]
  exact congrArg (join "\n") hkept

/-- The definitions of a text stand on the lines that they have the numbers of. Stripping drops
these lines and no others if the numbers stand for the same lines where the readme is cut, and they
do exactly if no carriage return ends a line alone before the definition ends. -/
theorem strip_of_collect [Collector] [LawfulCollector]
    (h : Collector.definitions t = .ok definitions) :
    (∀ definition ∈ definitions, Block.StandsOn (Block.documentLines t) definition ∧
      (NumbersAgree t definition ↔ ReturnsFrom definition.endLine t)) ∧
    ((∀ definition ∈ definitions, NumbersAgree t definition) →
      strip definitions t = join "\n" (otherLines t definitions)) := by
  have hstands := LawfulCollector.stands h
  have hagree (definition : LinkDefinition) (hmem : definition ∈ definitions) :
      NumbersAgree t definition ↔ ReturnsFrom definition.endLine t :=
    numbersAgree_iff (hstands definition hmem)
  exact ⟨fun definition hmem ↦ ⟨hstands definition hmem, hagree definition hmem⟩,
    strip_eq hstands⟩

/-- A definition that runs over two lines of a quote, and one after it; a carriage return that ends
a line alone comes behind both. -/
theorem strip_of_collect_quoted :
    let t : Text := "a\r\n> [x]:\r\n> /u 'T'\r\n\r\n[y]: <v>\nend\rmore"
    let definitions : List LinkDefinition :=
      [⟨"X", "/u", some "T", 1, 3⟩, ⟨"Y", "v", none, 4, 5⟩]
    collect t = .ok definitions ∧ (∀ definition ∈ definitions, NumbersAgree t definition) ∧
      strip definitions t = join "\n" (otherLines t definitions) ∧
      otherLines t definitions = ["a".toList, [], "end\rmore".toList] := by
  intro t definitions
  have hcollect : Collector.definitions t = .ok definitions := by decide +kernel
  have hagree : ∀ definition ∈ definitions, NumbersAgree t definition := by
    unfold NumbersAgree
    decide +kernel
  exact ⟨hcollect, hagree, (strip_of_collect hcollect).2 hagree, by decide +kernel⟩

/-- After a carriage return that ends a line alone, the line behind a definition is dropped for
it. -/
theorem not_strip_of_collect : ¬ ∀ (t : Text) (definitions : List LinkDefinition),
    collect t = .ok definitions →
      (∀ definition ∈ definitions, NumbersAgree t definition) ∧
        strip definitions t = join "\n" (otherLines t definitions) := by
  intro h
  have hcollect : collect "a\rb\n\n[x]: /u\nend" = .ok [⟨"X", "/u", none, 3, 4⟩] := by
    decide +kernel
  exact absurd (h _ _ hcollect).2 (by decide +kernel)

end PluginReadme.LinkDefinition
