import PluginReadme.Check.Verdict

/-!
# Reports for programs

A verdict as a JSON value: the target, the score and its band, a summary, the issues and the
figures.
-/

namespace PluginReadme.Report

def summary (verdict : Verdict) : Json :=
  .table
    [("total_issues", .integer verdict.issues.length),
      ("errors", .integer verdict.errors.length),
      ("warnings", .integer verdict.warnings.length),
      ("passed", .bool verdict.isValid)]

def listing (target : Text) (verdict : Verdict) : Json :=
  .table
    [("target", .text target),
      ("score", .integer verdict.score),
      ("rating", .text (Rating.ofScore verdict.score).title),
      ("summary", summary verdict),
      ("issues", .list (verdict.issues.map Issue.toJson)),
      ("stats", .table verdict.figures)]

def listings (verdicts : List (Text × Verdict)) : Json :=
  .list (verdicts.map fun (target, verdict) ↦ listing target verdict)

def text (indent : Nat) (report : Json) : Text := Json.write indent report ++ ['\n']

end PluginReadme.Report
