import FlowDeck.Command.Refusal
import FlowDeck.Plane.Scalar
import FlowDeck.Storage.Path
import FlowDeck.Text.Quoted
import FlowDeck.Theme.Style

/-!
# Faults

All the ways in which work on a deck can fail.
-/

namespace FlowDeck

inductive Fault where
  | refused (refusal : Refusal)
  | number (fault : NumberFault)
  | theme (fault : ThemeFault)
  /-- No shape has this number, or no number was given. -/
  | noShape (id : Option ShapeId)
  | unknownKey (key : String)
  | noSlide (index : Int) (count : Nat)
  /-- A directory where a deck should be. -/
  | notADeck
  /-- A file that is not a deck where one should be. -/
  | notAPackage (path : Path)
  | noOutputPath
  | namelessPath (path : Path)
  | unwritablePath
  | inTheWay (place : Path)
  | leftBlank (what : String)
  | notStorable
  | notDrawable
  | notMarkup (text : String)
  | outOfRange (least most value : Int)
  | notASide (name : Option String)
  | notALayout (token : Option String)
  deriving DecidableEq, Repr

namespace Fault

def shown {α : Type} (text : α → String) (value : Option α) : String :=
  (value.map text).getD "None"

def message : Fault → String
  | .refused refusal => refusal.message
  | .number fault => fault.message
  | .theme fault => fault.message
  | .noShape id => "No shape with id " ++ shown toString id ++ " on this slide"
  | .unknownKey key => s!"❌ No shape '{key}' on slide"
  | .noSlide index count => s!"❌ Slide {index} out of range; the deck has {count} slide(s)"
  | .notADeck => "no member '/[Content_Types].xml' in package"
  | .notAPackage path => s!"Package not found at '{path.text}'"
  | .noOutputPath => "❌ No output path given"
  | .namelessPath path => "PosixPath(" ++ Text.quoted path.text ++ ") has an empty name"
  | .unwritablePath => "embedded null byte"
  | .inTheWay place => s!"{place.text} is in the way"
  | .leftBlank what => s!"{what} was left blank"
  | .notStorable =>
    "All strings must be XML compatible: Unicode or ASCII, no NULL bytes or control characters"
  | .notDrawable => "RGBColor() takes three integer values 0-255"
  | .notMarkup text => s!"{text} cannot be marked up"
  | .outOfRange least most value =>
    s!"value must be in range {least} to {most} inclusive, got {value}"
  | .notASide name => shown Text.quoted name ++ " is not a valid Side"
  | .notALayout token => shown Text.quoted token ++ " is not a valid Layout"

end Fault

def Side.read (name : Option String) : Except Fault Side :=
  match name.bind Side.ofName? with
  | some side => .ok side
  | none => .error (.notASide name)

def Layout.read (token : Option String) : Except Fault Layout :=
  match token.bind Layout.ofToken? with
  | some layout => .ok layout
  | none => .error (.notALayout token)

end FlowDeck
