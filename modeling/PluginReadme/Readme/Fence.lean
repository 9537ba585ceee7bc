import PluginReadme.Text.Blank
import PluginReadme.Text.Class

/-!
# Fences

Three backticks at the start of a line open or close a block of code. Checks and rendering look
past the blanks in front of them and take any text after them; repairs are stricter.
-/

namespace PluginReadme.Fence

def isBacktick (c : Char) : Bool := c == '\x60'

/-- Three backticks. -/
def mark : Text := List.replicate 3 '\x60'

/-- A line that opens or closes a block. -/
def isFence (line : Text) : Bool := Text.startsWith mark (Text.strip line)

/-- The word after a fence with nothing else on its line, empty if there is none. -/
def opening? (line : Text) : Option Text :=
  match Text.after? mark line with
  | some rest =>
    let word := rest.takeWhile isWordChar
    if Text.isBlankText (rest.drop word.length) then some word else none
  | none => none

/-- A fence with nothing else on its line. -/
def isClosing (line : Text) : Bool := (Text.after? mark line).any Text.isBlankText

end PluginReadme.Fence
