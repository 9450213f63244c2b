import FlowDeck.Deck.Drawing
import FlowDeck.Storage.Folder
import FlowDeck.Theme.Bundled

/-!
# Opening and saving decks

The editor works on one slide of a deck and saves the deck with all its slides. A deck that does
not exist yet begins with one empty slide.
-/

namespace FlowDeck.Editor

open Edit

def deckSuffix : String := ".pptx"

def deskOf (style : Style) : Desk :=
  { style, paint := some style }

def styleNamed (folder : Folder) (theme : String) : Except Fault Style :=
  match (Theme.load folder.sheet? theme).bind Theme.style with
  | .ok style => .ok style
  | .error fault => .error (.theme fault)

def newDeck : Deck := [[]]

def openDeck (folder : Folder) (path : Path) : Edit Deck := do
  if folder.isDirectory path then throw .notADeck
  if (folder.sheet? path).isSome then throw (.notAPackage path)
  match folder.deck? path with
  | some deck =>
    note .info s!"📂 Opened {path.text}"
    return deck
  | none => return newDeck

/-- Begins work on a slide of a deck. Slides are counted from zero. -/
def turnTo (deck : Deck) (index : Int) : Edit Nat := do
  match index with
  | .ofNat i =>
    match deck[i]? with
    | some slide =>
      setSlide slide
      return i
    | none => throw (.noSlide index deck.length)
  | .negSucc _ => throw (.noSlide index deck.length)

def setUp (folder : Folder) (theme : String) (debug : Bool) : Edit Desk := do
  let style ← orFault (styleNamed folder theme)
  return { deskOf style with debug }

def openNew (folder : Folder) (index : Int) (theme : String) (debug : Bool) : Edit Desk := do
  let _ ← turnTo newDeck index
  setUp folder theme debug

/-- The path under which a deck is saved, always with the suffix of decks. -/
def savedPath (path : Path) : Except Fault Path :=
  if path.suffix = deckSuffix then .ok path
  else if path.name = "" then .error (.namelessPath path)
  else .ok (path.withSuffix deckSuffix)

/-- Saves a deck after work on this page, under the given path. The result is the path written and
the page after that, and the folder, where the directories for the path stay even if no deck can be
written there. -/
def saveDeck (folder : Folder) (path : Option Path) (deck : Deck) (page : Page) :
    Except Fault (Path × Page) × Folder :=
  match path.elim (.error .noOutputPath) savedPath with
  | .error fault => (.error fault, folder)
  | .ok path =>
    match folder.makeDirectories path.parent with
    | .error fault => (.error fault, folder)
    | .ok ready =>
      match ready.writeDeck path deck with
      | .error fault => (.error fault, ready)
      | .ok written => (.ok (path, page.noted .info s!"💾 Saved {path.text}"), written)

/-- Saves a page as the only slide of a deck. -/
def save (folder : Folder) (path : Option Path) (page : Page) :
    Except Fault (Path × Page) × Folder :=
  saveDeck folder path [page.slide] page

def addNode (desk : Desk) (text : String) (x y width height : Option (Measure Float)) :
    Edit ShapeId := do
  let node ← drawShape desk desk.style.nodeKind {
    x := x.getD (.whole 40)
    y := y.getD (.whole 40)
    width := width.getD (.whole desk.style.nodeWidth)
    height := height.getD (.whole desk.style.nodeHeight) }
  if text ≠ "" then setText desk node text
  return node

def node (key : String) : Edit ShapeId := do
  match (← slide).findNode? key with
  | some id => return id
  | none => throw (.unknownKey key)

end FlowDeck.Editor
