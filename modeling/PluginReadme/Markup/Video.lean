import PluginReadme.Markup.Escape
import PluginReadme.Text.Class

/-!
# Videos

A line that is nothing but the address of a video, or the code of one, is shown as a player.
-/

namespace PluginReadme.Markup

inductive Video where
  | youTube (id : Text)
  | vimeo (id : Text)
  | videoPress (id : Text)
  deriving DecidableEq, Repr

namespace Video

/-- What follows the scheme and an optional `www.`. -/
def afterScheme? (line : Text) : Option Text :=
  (Text.after? "https://" line <|> Text.after? "http://" line).map fun rest ↦
    (Text.after? "www." rest).getD rest

def isIdChar (c : Char) : Bool := c.isAlphanum || c == '_' || c == '-'

def youTube? (line : Text) : Option Video := do
  let rest ← afterScheme? line
  let tail ← Text.after? "youtube.com/watch?v=" rest <|> Text.after? "youtu.be/" rest
  let id := tail.takeWhile isIdChar
  if id.isEmpty || (tail.drop id.length).any isBlank then none else some (.youTube id)

def vimeo? (line : Text) : Option Video := do
  let tail ← Text.after? "vimeo.com/" (← afterScheme? line)
  let id := tail.takeWhile isDecimal
  let rest := tail.drop id.length
  if id.isEmpty || !(rest.isEmpty || rest == ['/']) then none else some (.vimeo id)

/-- A code of the form `[wpvideo ID]`. -/
def videoPress? (line : Text) : Option Video := do
  let rest ← Text.after? "[wpvideo" line
  let inside := rest.takeWhile (· != ']')
  if inside.head?.any isBlank && 2 ≤ inside.length && rest.drop inside.length == [']'] then
    some (.videoPress (Text.strip inside))
  else none

def ofLine? (line : Text) : Option Video :=
  let line := Text.dropFinalFeed line
  youTube? line <|> vimeo? line <|> videoPress? line

def frame (kind address allowed : Text) : Text :=
  "<div class=\"video-embed " ++ kind ++ "-embed\"><iframe width=\"560\" height=\"315\" src=\"" ++
    address ++ "\" frameborder=\"0\" allow=\"" ++ allowed ++ "\" allowfullscreen></iframe></div>"

def html : Video → Text
  | .youTube id =>
    frame "youtube" ("https://www.youtube.com/embed/" ++ id)
      ("accelerometer; autoplay; clipboard-write; encrypted-media; " ++
        "gyroscope; picture-in-picture").toList
  | .vimeo id =>
    frame "vimeo" ("https://player.vimeo.com/video/" ++ id)
      "autoplay; fullscreen; picture-in-picture"
  | .videoPress id =>
    "<div class=\"video-embed videopress-embed\"><p><em>VideoPress video: " ++ escape id ++
      "</em></p></div>"

end Video

end PluginReadme.Markup
