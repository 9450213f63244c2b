import FlowDeck.Command.Request
import FlowDeck.Deck.ByHand
import FlowDeck.Editor.Open

/-!
# Sessions

What happens to a slide from the moment it is empty: shapes are drawn, requests are performed and
users edit by hand, in any order. A step that faults keeps what it has done, and the session goes
on.
-/

namespace FlowDeck

inductive Step where
  | addNode (text : String) (x y width height : Option (Measure Float))
  | request (request : Request)
  | byHand (edit : HandEdit)

namespace Step

def perform (desk : Desk) : Step → Edit Unit
  | .addNode text x y width height => do let _ ← Editor.addNode desk text x y width height
  | .request asked => asked.perform desk
  | .byHand edit => do let _ ← edit.perform

/-- The page after a step. -/
def after (desk : Desk) (page : Page) (step : Step) : Page :=
  ((step.perform desk).run.run page).2

/-- The texts that a step puts into shapes or beside them. -/
def texts : Step → List String
  | .addNode text .. => [text]
  | .request (.createChildren _ _ _ _ labels _) => labels
  | .request (.split _ rows _ _ _) => rows.flatten
  | .byHand (.drawTextBox _ text) | .byHand (.write _ text) => [text]
  | .byHand (.setTitle _ title) => title.toList
  | _ => []

/-- A user sets a description by hand, whatever it says. -/
def setsDescr : Step → Bool
  | .byHand (.setDescr ..) => true
  | _ => false

/-- Steps that leave descriptors to the commands: none of their texts is meant as one, and they do
not set the descriptions that hold them. -/
def IsPlain (step : Step) : Prop :=
  (∀ text ∈ step.texts, Descriptor.looksLike text = false) ∧ step.setsDescr = false

instance (step : Step) : Decidable step.IsPlain :=
  inferInstanceAs (Decidable (_ ∧ _))

end Step

/-- The page after these steps on an empty slide. -/
def session (desk : Desk) (steps : List Step) : Page :=
  steps.foldl (Step.after desk) {}

end FlowDeck
