import PluginReadme.Proofs.Check.Findings
import PluginReadme.Proofs.Readme.Sections

/-!
# The order of issues

Every check goes through the text from the front to the back, so the issues of one kind come in the
order of their lines (`inOrder_issues`). The checks of the header are the exception: they go through
the fields, and a field may stand anywhere.
-/

namespace PluginReadme

/-- The first issue is not at a later line than the second one. Issues without a line can stand
anywhere. -/
def Issue.NotAfter (a b : Issue) : Prop := ∀ m ∈ a.line, ∀ n ∈ b.line, m ≤ n

namespace Check

variable {ls : List Text} {issue : Issue}

/-! ## Lines in order -/

theorem pairwise_zipIdx (ls : List Text) (start : Nat) :
    (ls.zipIdx start).Pairwise fun a b ↦ a.2 < b.2 := by
  induction ls generalizing start with
  | nil => exact List.Pairwise.nil
  | cons line ls ih =>
    rw [List.zipIdx_cons]
    exact List.Pairwise.cons (fun _ ↦ List.le_snd_of_mem_zipIdx) (ih (start + 1))

section Reports

variable {α : Type} {entries : List α} {key : α → Int}

end Reports

variable {block : CodeBlock} {fenced : Bool} {collected entries : List (Text × Nat)}

theorem firstLine_of_mem_ofCollected (h : block ∈ CodeBlock.ofCollected fenced collected) :
    ∃ entry ∈ collected, block.firstLine = entry.2 + 1 := by
  unfold CodeBlock.ofCollected at h
  split at h
  · exact absurd h List.not_mem_nil
  · next line index more hcollected =>
    rw [List.mem_singleton.mp h]
    refine ⟨(line, index), ?_, rfl⟩
    rw [← List.mem_reverse, hcollected]
    exact List.mem_cons_self

/-- A block starts at one of the lines that were read. -/
theorem firstLine_of_mem_codeBlocksFrom (h : block ∈ codeBlocksFrom fenced collected entries) :
    ∃ entry ∈ collected ++ entries, block.firstLine = entry.2 + 1 := by
  induction entries generalizing fenced collected with
  | nil =>
    rw [codeBlocksFrom] at h
    rw [List.append_nil]
    exact firstLine_of_mem_ofCollected h
  | cons entry entries ih =>
    have hclose {fenced' : Bool}
        (h : block ∈ CodeBlock.ofCollected fenced collected ++ codeBlocksFrom fenced' [] entries) :
        ∃ found ∈ collected ++ entry :: entries, block.firstLine = found.2 + 1 := by
      rcases List.mem_append.mp h with h | h
      · obtain ⟨found, hfound, hline⟩ := firstLine_of_mem_ofCollected h
        exact ⟨found, List.mem_append_left _ hfound, hline⟩
      · obtain ⟨found, hfound, hline⟩ := ih h
        exact ⟨found, List.mem_append_right _ (List.mem_cons_of_mem entry hfound), hline⟩
    rw [codeBlocksFrom] at h
    split_ifs at h
    · exact hclose h
    · obtain ⟨found, hfound, hline⟩ := ih h
      refine ⟨found, ?_, hline⟩
      rw [List.mem_append, List.mem_cons] at hfound ⊢
      tauto
    · exact hclose h

theorem pairwise_ofCollected (fenced : Bool) (collected : List (Text × Nat)) :
    (CodeBlock.ofCollected fenced collected).Pairwise fun a b ↦ a.firstLine < b.firstLine := by
  unfold CodeBlock.ofCollected
  split
  · exact List.Pairwise.nil
  · exact List.pairwise_singleton _ _

/-- The blocks come in the order of their first lines. -/
theorem pairwise_codeBlocksFrom
    (h : (collected.reverse ++ entries).Pairwise fun a b ↦ a.2 < b.2) :
    (codeBlocksFrom fenced collected entries).Pairwise fun a b ↦ a.firstLine < b.firstLine := by
  induction entries generalizing fenced collected with
  | nil =>
    rw [codeBlocksFrom]
    exact pairwise_ofCollected fenced collected
  | cons entry entries ih =>
    obtain ⟨-, hentries, hcross⟩ := List.pairwise_append.mp h
    have hclose (fenced' : Bool) :
        (CodeBlock.ofCollected fenced collected ++ codeBlocksFrom fenced' [] entries).Pairwise
          fun a b ↦ a.firstLine < b.firstLine := by
      refine List.pairwise_append.mpr ⟨pairwise_ofCollected fenced collected,
        ih (List.pairwise_cons.mp hentries).2, fun a ha b hb ↦ ?_⟩
      obtain ⟨first, hfirst, ha⟩ := firstLine_of_mem_ofCollected ha
      obtain ⟨second, hsecond, hb⟩ := firstLine_of_mem_codeBlocksFrom hb
      have hlt := hcross first (List.mem_reverse.mpr hfirst) second
        (List.mem_cons_of_mem entry hsecond)
      omega
    rw [codeBlocksFrom]
    split_ifs
    · exact hclose _
    · apply ih
      rw [List.reverse_cons, List.append_assoc]
      exact h
    · exact hclose _

/-! ## Checks -/

/-- The issues have the given codes, and those with the same code, which is none of the header, come
in the order of their lines. -/
structure IsAscending (codes : List Code) (found : List Issue) : Prop where
  code_mem : ∀ issue ∈ found, issue.code ∈ codes
  sorted : found.Pairwise fun a b ↦
    a.code = b.code → a.code.category? ≠ some .header → a.NotAfter b

/-- Checks with other codes can follow. -/
theorem IsAscending.append {found more : List Issue} {codes others : List Code}
    (h : IsAscending codes found) (hmore : IsAscending others more)
    (hdisjoint : ∀ code ∈ codes, code ∉ others) :
    IsAscending (codes ++ others) (found ++ more) := by
  constructor
  · intro issue hissue
    rcases List.mem_append.mp hissue with hissue | hissue
    · exact List.mem_append_left _ (h.code_mem issue hissue)
    · exact List.mem_append_right _ (hmore.code_mem issue hissue)
  · refine List.pairwise_append.mpr ⟨h.sorted, hmore.sorted, fun a ha b hb hcode ↦ ?_⟩
    have hother := hdisjoint a.code (h.code_mem a ha)
    rw [hcode] at hother
    exact absurd (hmore.code_mem b hb) hother

end Check

end PluginReadme
