import PluginReadme.Text.Basic

/-!
# Score bars

A score as a bar of full and empty cells. The number of full cells is the share of the width in
floating-point numbers, cut toward zero.
-/

namespace PluginReadme.Report

/-- A floating-point number cut toward zero. -/
def truncated (x : Float) : Int :=
  let n : Int := x.abs.floor.toUInt64.toNat
  if x < 0 then -n else n

def filledCells (score width : Int) : Int :=
  truncated (Float.ofInt score / 100 * Float.ofInt width)

def bar (score width : Int) : Text :=
  let filled := filledCells score width
  List.replicate filled.toNat '█' ++ List.replicate (width - filled).toNat '░'

end PluginReadme.Report
