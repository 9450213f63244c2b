import FlowDeck.Text.Casing
import FlowDeck.Theme.Colour
import FlowDeck.Theme.Variables

/-!
# Styles

The variables of a theme give the sizes, gaps and colours with which shapes and connectors are
drawn. Every variable must be there and must have a value of its kind, except for the colours,
which may be missing.
-/

namespace FlowDeck

/-- How connectors are drawn: the name of a line type and those of the arrows at both ends. -/
structure EdgeStyle where
  lineType : String := "STRAIGHT"
  startArrow : Option String := some "NONE"
  endArrow : Option String := some "FILL_ARROW"
  deriving DecidableEq, Repr

/-- How shapes and connectors are drawn. Lengths are whole pixels, colours their texts. -/
structure Style where
  nodeGap : Int
  nodeWidth : Int
  nodeHeight : Int
  nodeKind : String
  lineType : String
  startArrow : String
  endArrow : String
  nodeFill : Option String
  nodeLine : Option String
  textColour : Option String
  gridPadding : Int
  gridPaddingTop : Int
  gridGap : Int
  deriving DecidableEq, Repr

def Style.edge (style : Style) : EdgeStyle :=
  ⟨style.lineType, some style.startArrow, some style.endArrow⟩

inductive ThemeFault where
  | noSuchFile (path : String)
  | invalidName (name : String)
  | noSuchTheme (name : String) (available : String)
  | noBlock (theme : String)
  | noVariable (name theme : String)
  | notPixels (name value : String)
  | notColour (name theme value : String)
  | number (fault : NumberFault)
  deriving DecidableEq, Repr

def ThemeFault.message : ThemeFault → String
  | .noSuchFile path => s!"Theme file '{path}' not found"
  | .invalidName name => s!"Invalid theme name: {name}"
  | .noSuchTheme name available => s!"Theme '{name}' not found. Available themes: {available}"
  | .noBlock theme => s!"No :root section found in theme '{theme}'"
  | .noVariable name theme => s!"❌ CSS variable '--{name}' not found in theme '{theme}'"
  | .notPixels name value => s!"CSS variable '--{name}' is not a pixel value: {value}"
  | .notColour name theme value =>
    s!"❌ CSS variable '--{name}' in theme '{theme}' is not a hex colour: {value}"
  | .number fault => fault.message

/-- The text of a style sheet and the name under which it was asked for. -/
structure Theme where
  name : String
  sheet : String

namespace Theme

def declared (theme : Theme) : Except ThemeFault Variables :=
  match variables? theme.sheet with
  | some vars => .ok vars
  | none => .error (.noBlock theme.name)

def raw (theme : Theme) (name : String) : Except ThemeFault String := do
  let value := ((← theme.declared).get? name).getD ""
  if value = "" then throw (.noVariable name theme.name)
  return String.ofList (Text.trim (fun c => c == '\'' || c == '"') value.toList)

/-- The whole number of pixels that begins here: whether it is negative, and its digits. -/
def pixelsHere? (s : List Char) : Option (Bool × List Char) :=
  let negative := s.head? == some '-'
  let (digits, rest) := Number.takeDigits (if negative then s.drop 1 else s)
  if digits.isEmpty || !"px".toList.isPrefixOf rest then none else some (negative, digits)

def firstPixels? : List Char → Option (Bool × List Char)
  | [] => none
  | c :: rest => (pixelsHere? (c :: rest)).or (firstPixels? rest)

def length (theme : Theme) (name : String) : Except ThemeFault Int := do
  let value ← theme.raw name
  match firstPixels? value.toList with
  | none => throw (.notPixels name value)
  | some (negative, digits) =>
    match Number.checkDigits digits.length with
    | .error fault => throw (.number fault)
    | .ok () =>
      let size : Int := Text.number digits
      return if negative then -size else size

def colourless : List String := ["none", "transparent", "inherit"]

def colour (theme : Theme) (name : String) : Except ThemeFault (Option String) := do
  let value := ((← theme.declared).get? name).getD ""
  if value = "" ∨ Text.lower value ∈ colourless then return none
  if (Rgb.read? value).isNone then throw (.notColour name theme.name value)
  return some value

def word (theme : Theme) (name : String) : Except ThemeFault String :=
  Text.upper <$> theme.raw name

def style (theme : Theme) : Except ThemeFault Style := do
  return {
    nodeGap := ← theme.length "node-gap"
    nodeWidth := ← theme.length "node-width"
    nodeHeight := ← theme.length "node-height"
    nodeKind := ← theme.word "node-kind"
    lineType := ← theme.word "line-type"
    startArrow := ← theme.word "start-arrow"
    endArrow := ← theme.word "end-arrow"
    nodeFill := ← theme.colour "node-fill"
    nodeLine := ← theme.colour "node-line-color"
    textColour := ← theme.colour "text-color"
    gridPadding := ← theme.length "grid-padding"
    gridPaddingTop := ← theme.length "grid-padding-top"
    gridGap := ← theme.length "grid-gap" }

end Theme

end FlowDeck
