import PluginReadme.Command.Run

/-!
# The program

Reads from the file system what the command looks at, runs the command on it, prints, and writes.
-/

namespace PluginReadme.Main

def readFile? (path : String) : IO (Option Entry) := do
  try
    return some (.file (← IO.FS.readBinFile path).toList)
  catch _ => return none

/-- The entry at a path, a folder without what is in it. -/
def shallow? (path : Path) : IO (Option Entry) := do
  let text := String.ofList path.text
  try
    discard <| ((← IO.currentDir) / text).readDir
    return some (.folder [])
  catch _ => readFile? text

/-- The folder at a path with what is in it. Files whose content does not matter are empty, and what
a link leads to is left out. -/
partial def deep? (path : Path) : IO (Option Entry) := do
  try
    let folder ← IO.FS.realPath (String.ofList path.text)
    let found ← folder.readDir
    let entries ← found.toList.filterMapM fun entry ↦ do
      let name := entry.fileName.toList
      let inside := path.child name
      let text := String.ofList inside.text
      let isLink := (← IO.FS.realPath text).toString != (folder / entry.fileName).toString
      let content ←
        if isLink then pure none
        else match ← deep? inside with
          | some found => pure (some found)
          | none => if Command.isRead name then readFile? text else pure (some (.file []))
      return content.map (name, ·)
    return some (.folder entries)
  catch _ => return none

/-- The part of the file system that a command looks at. -/
def treeFor (command : Command) : IO Tree := do
  let here := Path.ofText (← IO.currentDir).toString.toList
  let mut top := Entry.folder []
  for path in command.paths do
    if let some entry ← shallow? path then
      top := entry.put (path.within here).settled.names top
  if let some path := command.searched? then
    if let some folder ← deep? path then
      top := folder.put (path.within here).settled.names top
  return { top, here }

def perform (transcript : Transcript Unit) : IO UInt32 := do
  IO.print (String.ofList transcript.output)
  for (path, content) in transcript.writes do
    IO.FS.writeFile (String.ofList path.text) (String.ofList content)
  if let .error (.failure failure) := transcript.result then
    IO.eprintln (String.ofList failure.message)
  return transcript.code.toUInt32

end PluginReadme.Main

def main (arguments : List String) : IO UInt32 := do
  match PluginReadme.Command.ofArguments (arguments.map String.toList) with
  | some command =>
    PluginReadme.Main.perform (command.run (← PluginReadme.Main.treeFor command))
  | none =>
    IO.eprintln "usage: wp-readme-checker (check | preview | fix | init | version) [arguments]"
    return 2
