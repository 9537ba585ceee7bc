import PluginReadme.Block.Definitions

/-!
# Collected definitions

Rendering is written for any collector, which finds the link definitions of a document; the program
has the one that walks its blocks. The lines of the definitions are dropped, and links find a
definition under the form of its label.
-/

namespace PluginReadme.LinkDefinition

class Collector where
  /-- The definitions of a text, one for each label. -/
  definitions (t : Text) : Except Block.Fault (List LinkDefinition)
  /-- The form of a label under which links find it. -/
  label (label : Text) : Text

instance collector : Collector := ⟨collect, normalLabel⟩

/-- The text without the lines of the definitions. -/
def strip (definitions : List LinkDefinition) (t : Text) : Text :=
  let kept := (Text.lines t).zipIdx.filter fun (_, index) ↦
    !definitions.any fun definition ↦ definition.firstLine ≤ index && index < definition.endLine
  Text.join "\n" (kept.map (·.1))

/-- The definition that a link with the label refers to. -/
def find? [Collector] (definitions : List LinkDefinition) (label : Text) : Option LinkDefinition :=
  definitions.find? (·.label == Collector.label label)

end PluginReadme.LinkDefinition
