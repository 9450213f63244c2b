import FlowDeck.Command.Cells
import FlowDeck.Command.Inspect
import FlowDeck.Command.Link
import FlowDeck.Command.Sibling
import FlowDeck.Editor.Open
import FlowDeck.Shell.Call

/-!
# Running calls

A call opens its deck, turns to a slide of it, does its action there, prints what came of it and
saves the deck with all its slides, unless the action only reads. The decks of a folder change only
when all of this succeeds.
-/

namespace FlowDeck.Shell

open Edit

def line (s : String) : String := s ++ "\n"

def require {α : Type} (what : String) : Option α → Edit α
  | some value => return value
  | none => throw (.leftBlank what)

/-- Creates children. Whether the count or a label is blank matters only where it is used: after
the checks of node and direction, and after the shape for the label is drawn. -/
def drawChildren (desk : Desk) (shape direction : String) (count : Option Int)
    (gap : Option (Measure Float)) (labels : List (Option String)) : Edit Creation := do
  let node ← Editor.node shape
  if labels.isEmpty ∧ count.isNone then let _ ← Command.requireSide direction
  let count ← if labels.isEmpty then require "count" count else pure 0
  let creation ← Command.createChildren desk (some node) direction count gap
    (labels.map (·.getD "")) none
  labels.forM fun label => do let _ ← require "text" label
  return creation

/-- Does an action. The result is what is printed. -/
def Action.perform (desk : Desk) : Action → Edit String
  | .addNode text x y => do
    return line (toString (← Editor.addNode desk text x y none none))
  | .initRoot shape => do
    return line (← Command.initRoot (some (← Editor.node shape))).current
  | .addChildren shape direction count gap labels => do
    let creation ← drawChildren desk shape direction count gap labels
    return line (String.intercalate " " creation.childIds)
  | .addSibling shape gap => do
    let creation ← Command.createSibling desk (some (← Editor.node shape)) gap none
    return line (String.intercalate " " creation.childIds)
  | .connect first second => do
    let creation ← Command.link desk (some (← Editor.node first)) (some (← Editor.node second))
      none
    return line (String.intercalate " " creation.childIds)
  | .link first second orientation => do
    let _ ← Command.connect desk (some (← Editor.node first)) (some (← Editor.node second))
      orientation none
    return ""
  | .select shape scope => do
    let scope ← require "scope" scope
    let selected ← Command.selectScope scope (some (← Editor.node shape))
    return line (String.intercalate " " (selected.map toString))
  | .describe shape => do
    return line (← Command.describe (some (← Editor.node shape)))
  | .clear shape => do
    let _ ← Command.clear (some (← Editor.node shape))
    return ""
  | .setLayout shape layout => do
    let _ ← Command.setLayout (some (← Editor.node shape)) (some layout)
    return ""
  | .setChildLayout shape child layout => do
    let _ ← Command.setChildLayout (some (← Editor.node shape)) child (some layout)
    return ""
  | .split shape rows padding paddingTop gap => do
    let rows ← rows.mapM (require "row")
    let _ ← Command.split desk (some (← Editor.node shape)) rows padding paddingTop gap
    return ""
  | .analyze => do
    return line (← Command.analyze)

inductive Ending where
  | done
  | reported
  | help
  | misuse
  /-- The fault was of a kind that calls do not expect. -/
  | failed (fault : Fault)

/-- What a call leaves: its end, what it printed, the lines it logged, and the folder. -/
structure Outcome where
  ending : Ending
  printed : String := ""
  log : List String := []
  folder : Folder

/-- Faults that are reported to the user: what a command refuses, and what is not found. -/
def isReported : Fault → Bool
  | .refused _ => true
  | .theme (.noSuchFile _) | .theme (.noSuchTheme ..) => true
  | .noShape _ | .unknownKey _ | .noSlide .. | .notADeck => true
  | _ => false

/-- The text of a fault as it is reported. Texts about what a slide or a deck does not hold are
quoted; quotes at the ends are dropped. -/
def report (fault : Fault) : String :=
  let text :=
    match fault with
    | .noShape _ | .unknownKey _ | .notADeck => Text.quoted fault.message
    | _ => fault.message
  String.ofList (Text.trim (fun c => c == '\'' || c == '"') text.toList)

/-- The lines of a log, without those for debugging unless they are wanted. -/
def logLines (debug : Bool) (log : List LogEntry) : List String :=
  let shown := log.filter fun entry => debug || entry.level != .debug
  shown.flatMap fun entry =>
    ((entry.level.name ++ "  " ++ entry.text).toList.splitOn '\n').map String.ofList

/-- What a call does with its deck. The result is what is printed and the deck to be saved, if one
is, with the path for it. -/
def Call.edit (call : Call) (folder : Folder) : Edit (String × Option (Path × Deck)) := do
  let path := Path.ofText call.deck
  let deck ← Editor.openDeck folder path
  let index ← Editor.turnTo deck (← require "slide" call.slide)
  let desk ← Editor.setUp folder (← require "theme" call.theme) call.debug
  let printed ← call.action.perform desk
  if call.action.readsOnly then return (printed, none)
  return (printed, some ((call.output.map Path.ofText).getD path, deck.set index (← Edit.slide)))

def Call.run (call : Call) (folder : Folder) : Outcome :=
  match (call.edit folder).run.run {} with
  | (.ok (printed, none), page) => outcome .done printed page.log folder
  | (.ok (printed, some (output, deck)), page) =>
    match Editor.saveDeck folder (some output) deck page with
    | (.ok (_, saved), folder) => outcome .done printed saved.log folder
    | (.error fault, folder) => failure fault printed page.log folder
  | (.error fault, page) => failure fault "" page.log folder
where
  outcome (ending : Ending) (printed : String) (log : List LogEntry) (folder : Folder) : Outcome :=
    { ending, printed, log := logLines call.debug log, folder }
  failure (fault : Fault) (printed : String) (log : List LogEntry) (folder : Folder) : Outcome :=
    if isReported fault then
      outcome .reported printed (log ++ [⟨.error, report fault⟩]) folder
    else outcome (.failed fault) printed log folder

def runBy (rule : DashRule) (words : List String) (folder : Folder) : Outcome :=
  match Call.readBy rule words with
  | .ok call => call.run folder
  | .error .help => { ending := .help, folder }
  | .error .misuse => { ending := .misuse, folder }

def run (words : List String) (folder : Folder) : Outcome :=
  runBy .everywhere words folder

end FlowDeck.Shell
