import FlowDeck.Shell.Run
import FlowDeck.Storage.Archive

/-!
# The command line

Reads the files that a call names, makes the call, and writes the decks that it has changed.
-/

namespace FlowDeck

open Shell

def usage : String :=
  let names := String.intercalate "|" (actionForms.map (·.1))
  s!"usage: flowdeck [-o OUTPUT] [-s SLIDE] [-t THEME] [--debug] DECK ({names}) ..."

def readIfThere (path : Path) : IO (Option String) := do
  try
    return some (← IO.FS.readFile path.text)
  catch _ =>
    return none

def isDirectory (path : Path) : IO Bool := do
  try
    (← IO.FS.realPath path.text).isDir
  catch _ =>
    return false

def changed (change : Except Fault Folder) : IO Folder :=
  match change with
  | .ok folder => return folder
  | .error fault => throw (IO.userError fault.message)

/-- The folder with the directories that a path leads through, as far as they are there. -/
def readDirectories (folder : Folder) (path : Path) : IO Folder := do
  let mut folder := folder
  for length in List.range path.parts.length do
    let place := { path with parts := path.parts.take (length + 1) }
    if ← isDirectory place then
      folder ← changed (folder.makeDirectories place)
  return folder

def readFolder (call : Call) : IO Folder := do
  let deck := Path.ofText call.deck
  let sheet := Path.ofText (call.theme.getD "")
  let mut folder : Folder := {}
  for path in [deck, sheet] ++ (call.output.map Path.ofText).toList do
    folder ← readDirectories folder path
  if let some text ← readIfThere sheet then
    folder ← changed (folder.writeSheet sheet text)
  if let some text ← readIfThere deck then
    match Archive.read? text with
    | some slides => folder ← changed (folder.writeDeck deck slides)
    | none => folder ← changed (folder.writeSheet deck text)
  return folder

def writeChanges (before after : Folder) : IO Unit := do
  for place in after.directories do
    if !before.directories.contains place then IO.FS.createDirAll place.text
  for (place, deck) in after.decks do
    if before.decks.lookup place ≠ some deck then
      IO.FS.writeFile place.text (Archive.write deck)

def serve (words : List String) : IO UInt32 := do
  let folder ←
    match Call.read words with
    | .ok call => readFolder call
    | .error _ => pure {}
  let outcome := Shell.run words folder
  writeChanges folder outcome.folder
  IO.print outcome.printed
  for line in outcome.log do
    IO.eprintln line
  match outcome.ending with
  | .done => return 0
  | .help =>
    IO.println usage
    return 0
  | .reported => return 1
  | .misuse =>
    IO.eprintln usage
    return 2
  | .failed fault =>
    IO.eprintln fault.message
    return 1

end FlowDeck

def main (words : List String) : IO UInt32 :=
  FlowDeck.serve words
