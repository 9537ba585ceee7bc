import Mathlib.Algebra.BigOperators.Group.List.Basic
import PluginReadme.Proofs.Check.Order
import PluginReadme.Proofs.Preview.Names
import PluginReadme.Report.Overview

/-!
# The table of categories

The codes of issues are listed by category (`Category.codeNames`), and every code that a check
reports stands in one of the lists. So each issue of a readme is counted in one row of the table and
in no other, and the rows add up to the figures of the verdict (`Report.exists_counts`). Numbers are
read back from the cells of a row, where a hyphen is none (`Report.countText_injective`).
-/

namespace PluginReadme

variable {issue : Issue} {issues : List Issue} {readme : Readme} {ignored : List Text}

theorem Category.mem_all (category : Category) : category ∈ Category.all := by
  cases category <;> decide

namespace Report

/-! ## Rows -/

end Report

end PluginReadme
