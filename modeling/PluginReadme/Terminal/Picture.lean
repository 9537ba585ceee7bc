import PluginReadme.Terminal.PictureTable
import PluginReadme.Text.Blank
import PluginReadme.Text.Case
import PluginReadme.Text.Scan

/-!
# Pictures

A name between two colons, such as `:cat:`, shows as the picture of that name if there is one. An
ending of the name may ask for the picture as text or in colours.
-/

namespace PluginReadme.Terminal

/-- The endings of names, each with the mark that it puts behind the picture. -/
def pictureForms : List (Text × Char) :=
  [("-emoji".toList, Char.ofNat 0xFE0F), ("-text".toList, Char.ofNat 0xFE0E)]

/-- A name without its ending, and the mark that the ending asks for. -/
def pictureForm (name : Text) : Text × Text :=
  match pictureForms.find? fun (ending, _) ↦ Text.endsWith ending name with
  | some (ending, mark) => (name.take (name.length - ending.length), [mark])
  | none => (name, [])

/-- What stands between two colons without a blank. -/
def pictureName : Recogniser Text := fun _ t ↦
  match t with
  | ':' :: rest =>
    let name := rest.takeWhile fun c ↦ c != ':' && !isBlank c
    if Text.startsWith ":" (rest.drop name.length) then some (name, name.length + 1) else none
  | _ => none

/-- What shows in place of a name between colons. -/
def picture (name : Text) : Text :=
  let (base, mark) := pictureForm name
  match Table.pictures.named? (Text.lower base) with
  | some characters => characters ++ mark
  | none => ':' :: name ++ [':']

/-- The text with pictures in place of their names. -/
def pictured (t : Text) : Text := Scan.substitute pictureName picture t

end PluginReadme.Terminal
