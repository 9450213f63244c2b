import FlowDeck.Arrange.Flow
import FlowDeck.Arrange.Grid
import FlowDeck.Arrange.Site
import FlowDeck.Arrange.Stack
import FlowDeck.Command.Cells
import FlowDeck.Command.Children
import FlowDeck.Command.Creation
import FlowDeck.Command.Inspect
import FlowDeck.Command.Link
import FlowDeck.Command.Refusal
import FlowDeck.Command.Request
import FlowDeck.Command.Root
import FlowDeck.Command.Scope
import FlowDeck.Command.Sibling
import FlowDeck.Deck.ByHand
import FlowDeck.Deck.Drawing
import FlowDeck.Deck.Kind
import FlowDeck.Deck.Memo
import FlowDeck.Deck.Page
import FlowDeck.Deck.Shape
import FlowDeck.Editor.Open
import FlowDeck.Editor.Session
import FlowDeck.Fault
import FlowDeck.Hierarchy.Descriptor
import FlowDeck.Hierarchy.Level
import FlowDeck.Hierarchy.Outline
import FlowDeck.Hierarchy.Record
import FlowDeck.Main
import FlowDeck.Number.Binary
import FlowDeck.Number.Fault
import FlowDeck.Number.Limit
import FlowDeck.Number.Printing
import FlowDeck.Number.Reading
import FlowDeck.Number.Rounding
import FlowDeck.Plane.Box
import FlowDeck.Plane.Scalar
import FlowDeck.Plane.Side
import FlowDeck.Proofs.Arrange.Showing
import FlowDeck.Proofs.Arrange.Stacking
import FlowDeck.Proofs.Arrange.Tiling
import FlowDeck.Proofs.Command.Asking
import FlowDeck.Proofs.Command.Batches
import FlowDeck.Proofs.Command.Beside
import FlowDeck.Proofs.Command.Circles
import FlowDeck.Proofs.Command.Classes
import FlowDeck.Proofs.Command.Creating
import FlowDeck.Proofs.Command.Finding
import FlowDeck.Proofs.Command.Following
import FlowDeck.Proofs.Command.Framing
import FlowDeck.Proofs.Command.Gathering
import FlowDeck.Proofs.Command.Joining
import FlowDeck.Proofs.Command.Keeping
import FlowDeck.Proofs.Command.Linking
import FlowDeck.Proofs.Command.Numbering
import FlowDeck.Proofs.Command.Offspring
import FlowDeck.Proofs.Command.Onward
import FlowDeck.Proofs.Command.Placing
import FlowDeck.Proofs.Command.Planting
import FlowDeck.Proofs.Command.Refusal
import FlowDeck.Proofs.Command.Repeating
import FlowDeck.Proofs.Command.Splitting
import FlowDeck.Proofs.Command.Touching
import FlowDeck.Proofs.Command.Traces
import FlowDeck.Proofs.Command.Typing
import FlowDeck.Proofs.Deck.ByHand
import FlowDeck.Proofs.Deck.Drawing
import FlowDeck.Proofs.Deck.Extension
import FlowDeck.Proofs.Deck.Figures
import FlowDeck.Proofs.Deck.Frame
import FlowDeck.Proofs.Deck.Joints
import FlowDeck.Proofs.Deck.Labels
import FlowDeck.Proofs.Deck.Migrating
import FlowDeck.Proofs.Deck.Orderly
import FlowDeck.Proofs.Deck.Redrawn
import FlowDeck.Proofs.Deck.Slides
import FlowDeck.Proofs.Deck.Steady
import FlowDeck.Proofs.Edit.Echoes
import FlowDeck.Proofs.Edit.Leads
import FlowDeck.Proofs.Edit.Makes
import FlowDeck.Proofs.Edit.Pairs
import FlowDeck.Proofs.Edit.Reads
import FlowDeck.Proofs.Editor.Commuting
import FlowDeck.Proofs.Editor.Listing
import FlowDeck.Proofs.Editor.Relatives
import FlowDeck.Proofs.Editor.Relinking
import FlowDeck.Proofs.Editor.Session
import FlowDeck.Proofs.Hierarchy.Attaching
import FlowDeck.Proofs.Hierarchy.Codec
import FlowDeck.Proofs.Hierarchy.Depth
import FlowDeck.Proofs.Hierarchy.Descent
import FlowDeck.Proofs.Hierarchy.Grammar
import FlowDeck.Proofs.Hierarchy.Levels
import FlowDeck.Proofs.Hierarchy.Lineage
import FlowDeck.Proofs.Hierarchy.Marks
import FlowDeck.Proofs.Hierarchy.Restoring
import FlowDeck.Proofs.Hierarchy.Storable
import FlowDeck.Proofs.Hierarchy.Succession
import FlowDeck.Proofs.Number.Signs
import FlowDeck.Proofs.Plane.Boxes
import FlowDeck.Proofs.Shell.Effects
import FlowDeck.Proofs.Shell.Sequence
import FlowDeck.Proofs.Text.Pieces
import FlowDeck.Proofs.Theme.Blocks
import FlowDeck.Proofs.Theme.Colours
import FlowDeck.Proofs.Theme.Comments
import FlowDeck.Proofs.Theme.Declaring
import FlowDeck.Proofs.Theme.Lengths
import FlowDeck.Shell.Call
import FlowDeck.Shell.Form
import FlowDeck.Shell.Run
import FlowDeck.Storage.Archive
import FlowDeck.Storage.Coding
import FlowDeck.Storage.Field
import FlowDeck.Storage.Folder
import FlowDeck.Storage.Path
import FlowDeck.Text.Alphanumeric
import FlowDeck.Text.Attribute
import FlowDeck.Text.Blank
import FlowDeck.Text.Casing
import FlowDeck.Text.CodePoints
import FlowDeck.Text.Digit
import FlowDeck.Text.FinalSigma
import FlowDeck.Text.Printable
import FlowDeck.Text.Quoted
import FlowDeck.Text.Scan
import FlowDeck.Text.Storable
import FlowDeck.Theme.Bundled
import FlowDeck.Theme.Colour
import FlowDeck.Theme.Style
import FlowDeck.Theme.Variables
