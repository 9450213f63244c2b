import FlowDeck.Storage.Path
import FlowDeck.Text.Alphanumeric
import FlowDeck.Theme.Style

/-!
# Where themes come from

A theme is one of the bundled ones, asked for by its name, or a style sheet of the user's, asked
for by its path.
-/

namespace FlowDeck.Theme

def defaultLines : List String := [
  "/* Default flowchart theme */",
  ":root \x7b",
  "  --node-gap: 20px;",
  "  --node-width: 160px;",
  "  --node-height: 60px;",
  "  --node-kind: ROUNDED_RECTANGLE;",
  "  --line-type: STRAIGHT;",
  "  --start-arrow: NONE;",
  "  --end-arrow: FILL_ARROW;",
  "  --node-fill: #E8F0FF;",
  "  --node-line-color: #2196F3;",
  "  --text-color: #1A1A1A;",
  "  --grid-padding: 10px;",
  "  --grid-padding-top: 30px;",
  "  --grid-gap: 10px;",
  "\x7d"]

def darkLines : List String := [
  "/* Dark flowchart theme */",
  ":root \x7b",
  "  --node-gap: 24px;",
  "  --node-width: 160px;",
  "  --node-height: 60px;",
  "  --node-kind: RECTANGLE;",
  "  --line-type: BENT;",
  "  --start-arrow: NONE;",
  "  --end-arrow: FILL_ARROW;",
  "  --node-fill: #2D2D2D;",
  "  --node-line-color: #8AB4F8;",
  "  --text-color: #F4F4F4;",
  "  --grid-padding: 10px;",
  "  --grid-padding-top: 30px;",
  "  --grid-gap: 8px;",
  "\x7d"]

def bundled : List (String × List String) :=
  [("dark", darkLines), ("default", defaultLines)]

def bundledNames : List String :=
  bundled.map (·.1)

def ofLines (lines : List String) : String :=
  String.join (lines.map fun line => line ++ "\n")

/-- The text with every kind of line end as a line feed. -/
def plainLineEnds : List Char → List Char
  | [] => []
  | '\r' :: '\n' :: rest => '\n' :: plainLineEnds rest
  | c :: rest => (if c = '\r' then '\n' else c) :: plainLineEnds rest

/-- Names that bundled themes may have: letters, numbers, dashes and underscores, and not dashes
and underscores alone. -/
def isName (name : String) : Bool :=
  let letters := name.toList.filter fun c => c != '_' && c != '-'
  !letters.isEmpty && letters.all Text.isAlphanumeric

/-- The file that a theme is in, and its text. A name that ends in `.css` is a path, where
`sheets` says what is at each path. -/
def locate (sheets : Path → Option String) (name : String) :
    Except ThemeFault (String × String) :=
  let path := Path.ofText name
  if path.suffix = ".css" then
    match sheets path with
    | some sheet => .ok (path.name, String.ofList (plainLineEnds sheet.toList))
    | none => .error (.noSuchFile path.text)
  else if !isName name then .error (.invalidName name)
  else
    match bundled.lookup name with
    | some lines => .ok (name ++ ".css", ofLines lines)
    | none =>
      let quoted := bundledNames.map fun other => "'" ++ other ++ "'"
      .error (.noSuchTheme name ("[" ++ String.intercalate ", " quoted ++ "]"))

def load (sheets : Path → Option String) (name : String) : Except ThemeFault Theme :=
  (locate sheets name).map fun (_, sheet) => ⟨name, sheet⟩

end FlowDeck.Theme
