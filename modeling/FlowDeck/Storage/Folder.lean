import FlowDeck.Deck.Shape
import FlowDeck.Fault

/-!
# Folders

The files that the editor works with: style sheets, which it reads, and decks, of which it edits
a slide at a time. A file is known by its place. A path is walked part by part, so that it leads nowhere
if it passes through what is not a directory, even where it goes up again.
-/

namespace FlowDeck

structure Folder where
  directories : List Path := []
  sheets : List (Path × String) := []
  decks : List (Path × Deck) := []

namespace Folder

/-- Whether a place is a directory: the folder itself, one above it, or one inside. -/
def hasDirectory (folder : Folder) (place : Path) : Bool :=
  place.isAbove || folder.directories.contains place

def hasFile (folder : Folder) (place : Path) : Bool :=
  folder.sheets.any (·.1 == place) || folder.decks.any (·.1 == place)

def place? (folder : Folder) (path : Path) : Option Path :=
  path.parts.foldlM
    (fun place part => if folder.hasDirectory place then some (place.step part) else none)
    path.start

def sheet? (folder : Folder) (path : Path) : Option String :=
  (folder.place? path).bind fun place => folder.sheets.lookup place

def deck? (folder : Folder) (path : Path) : Option Deck :=
  (folder.place? path).bind fun place => folder.decks.lookup place

def isDirectory (folder : Folder) (path : Path) : Bool :=
  (folder.place? path).any folder.hasDirectory

/-! ## Writing -/

/-- The folder with a directory at a place, unless there is a file. -/
def makeDirectory (folder : Folder) (place : Path) : Except Fault Folder :=
  if folder.hasDirectory place then .ok folder
  else if folder.hasFile place then .error (.inTheWay place)
  else .ok { folder with directories := folder.directories ++ [place] }

def makeDirectories (folder : Folder) (path : Path) : Except Fault Folder := do
  if path.hasNull then throw .unwritablePath
  let (folder, _) ← path.parts.foldlM
    (fun (folder, place) part => do
      let next := place.step part
      return (← folder.makeDirectory next, next))
    (folder, path.start)
  return folder

/-- The folder ready for a file at a path, and the place of the file: its directory is there, and
the file that was at its place is not. -/
def clear (folder : Folder) (path : Path) : Except Fault (Folder × Path) := do
  let folder ← folder.makeDirectories path.parent
  if path.hasNull then throw .unwritablePath
  match folder.place? path with
  | none => throw (.inTheWay path)
  | some place =>
    if folder.hasDirectory place then throw (.inTheWay place)
    return ({
      folder with
      sheets := folder.sheets.filter fun sheet => sheet.1 ≠ place
      decks := folder.decks.filter fun deck => deck.1 ≠ place }, place)

def writeSheet (folder : Folder) (path : Path) (sheet : String) : Except Fault Folder := do
  let (folder, place) ← folder.clear path
  return { folder with sheets := folder.sheets ++ [(place, sheet)] }

def writeDeck (folder : Folder) (path : Path) (deck : Deck) : Except Fault Folder := do
  let (folder, place) ← folder.clear path
  return { folder with decks := folder.decks ++ [(place, deck)] }

/-- Writes a deck of one slide. -/
def write (folder : Folder) (path : Path) (slide : Slide) : Except Fault Folder :=
  folder.writeDeck path [slide]

/-! ## Listing -/

def contains (place : Path) : Bool :=
  place.root == "" && place.parts.head? != some ".."

/-- The decks inside the folder in the order of their paths, each with its first slide. -/
def sorted (folder : Folder) : List (Path × Slide) :=
  let inside := folder.decks.filter fun deck => contains deck.1
  (inside.mergeSort fun a b => a.1.text ≤ b.1.text).map fun (place, deck) => (place, deck.headD [])

def files (folder : Folder) : List String :=
  let places := folder.sheets.map (·.1) ++ folder.decks.map (·.1)
  ((places.filter contains).map Path.text).mergeSort fun a b => a ≤ b

end Folder

end FlowDeck
