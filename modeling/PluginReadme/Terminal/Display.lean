import PluginReadme.Terminal.Layout
import PluginReadme.Terminal.Styled

/-!
# Displays

A display prints messages, which may hold style tags, and draws the figures of a report. Reports and
commands are written for any display; the program has the one that is put together here.
-/

namespace PluginReadme

class Display where
  /-- The lines of a message on a terminal of the given width. -/
  lines (width : Nat) (message : Text) : Except StyleFault (List Text)
  /-- The message that shows a text as it is. -/
  escaped (t : Text) : Text
  /-- A line across the terminal with a title in it. -/
  rule (width : Nat) (title : Text) : Text
  /-- A text in a frame, which may have a title. -/
  panel (width : Nat) (title : Option Text) (content : Text) : List Text
  table (width : Nat) (title : Text) (columns : List Terminal.Column) (rows : List (List Text)) :
    List Text

namespace Terminal

def messageLines (width : Nat) (message : Text) : Except StyleFault (List Text) :=
  (shown message).map (wrapped width)

instance display : Display where
  lines := messageLines
  escaped := escaped
  rule := titled
  panel width title content := panel width title (withoutControls content)
  table _ := table

end Terminal

end PluginReadme
