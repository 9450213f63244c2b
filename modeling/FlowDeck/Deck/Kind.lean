import FlowDeck.Text.Casing

/-!
# Kinds of shapes

The kinds of shapes that a slide offers, by their names in capitals, with the titles under which
new shapes are named.
-/

namespace FlowDeck.Kind

def rectangle : String := "RECTANGLE"

/-- Kinds whose title is their name in words. -/
def plain : List String := [
  "ARC", "BENT_ARROW", "BEVEL", "BLOCK_ARC", "CAN", "CHART_PLUS", "CHART_STAR", "CHART_X",
  "CHEVRON", "CHORD", "CIRCULAR_ARROW", "CLOUD", "CLOUD_CALLOUT", "CORNER", "CORNER_TABS",
  "CROSS", "CUBE", "CURVED_DOWN_ARROW", "CURVED_DOWN_RIBBON", "CURVED_LEFT_ARROW",
  "CURVED_RIGHT_ARROW", "CURVED_UP_ARROW", "CURVED_UP_RIBBON", "DECAGON", "DIAGONAL_STRIPE",
  "DIAMOND", "DODECAGON", "DONUT", "DOUBLE_BRACE", "DOUBLE_BRACKET", "DOUBLE_WAVE", "DOWN_ARROW",
  "DOWN_ARROW_CALLOUT", "DOWN_RIBBON", "FOLDED_CORNER", "FRAME", "FUNNEL", "GEAR_6", "GEAR_9",
  "HALF_FRAME", "HEART", "HEPTAGON", "HEXAGON", "HORIZONTAL_SCROLL", "ISOSCELES_TRIANGLE",
  "LEFT_ARROW", "LEFT_ARROW_CALLOUT", "LEFT_BRACE", "LEFT_BRACKET", "LEFT_CIRCULAR_ARROW",
  "LEFT_RIGHT_CIRCULAR_ARROW", "LEFT_RIGHT_RIBBON", "LIGHTNING_BOLT", "LINE_CALLOUT_1",
  "LINE_CALLOUT_2", "LINE_CALLOUT_3", "MOON", "NOTCHED_RIGHT_ARROW", "OCTAGON", "OVAL",
  "OVAL_CALLOUT", "PARALLELOGRAM", "PENTAGON", "PIE", "PLAQUE", "PLAQUE_TABS", "QUAD_ARROW",
  "QUAD_ARROW_CALLOUT", "RECTANGLE", "RECTANGULAR_CALLOUT", "REGULAR_PENTAGON", "RIGHT_ARROW",
  "RIGHT_ARROW_CALLOUT", "RIGHT_BRACE", "RIGHT_BRACKET", "RIGHT_TRIANGLE", "ROUNDED_RECTANGLE",
  "ROUNDED_RECTANGULAR_CALLOUT", "SMILEY_FACE", "SQUARE_TABS", "STRIPED_RIGHT_ARROW", "SUN",
  "SWOOSH_ARROW", "TRAPEZOID", "UP_ARROW", "UP_ARROW_CALLOUT", "UP_RIBBON", "VERTICAL_SCROLL",
  "WAVE"]

/-- Kinds with a title of their own. -/
def titled : List (String × String) := [
  ("ACTION_BUTTON_BACK_OR_PREVIOUS", "Action Button: Back or Previous"),
  ("ACTION_BUTTON_BEGINNING", "Action Button: Beginning"),
  ("ACTION_BUTTON_CUSTOM", "Action Button: Custom"),
  ("ACTION_BUTTON_DOCUMENT", "Action Button: Document"),
  ("ACTION_BUTTON_END", "Action Button: End"),
  ("ACTION_BUTTON_FORWARD_OR_NEXT", "Action Button: Forward or Next"),
  ("ACTION_BUTTON_HELP", "Action Button: Help"), ("ACTION_BUTTON_HOME", "Action Button: Home"),
  ("ACTION_BUTTON_INFORMATION", "Action Button: Information"),
  ("ACTION_BUTTON_MOVIE", "Action Button: Movie"),
  ("ACTION_BUTTON_RETURN", "Action Button: Return"),
  ("ACTION_BUTTON_SOUND", "Action Button: Sound"), ("BALLOON", "Rounded Rectangular Callout"),
  ("BENT_UP_ARROW", "Bent-Up Arrow"), ("EXPLOSION1", "Explosion"), ("EXPLOSION2", "Explosion"),
  ("FLOWCHART_ALTERNATE_PROCESS", "Alternate process"), ("FLOWCHART_CARD", "Card"),
  ("FLOWCHART_COLLATE", "Collate"), ("FLOWCHART_CONNECTOR", "Connector"),
  ("FLOWCHART_DATA", "Data"), ("FLOWCHART_DECISION", "Decision"), ("FLOWCHART_DELAY", "Delay"),
  ("FLOWCHART_DIRECT_ACCESS_STORAGE", "Direct Access Storage"), ("FLOWCHART_DISPLAY", "Display"),
  ("FLOWCHART_DOCUMENT", "Document"), ("FLOWCHART_EXTRACT", "Extract"),
  ("FLOWCHART_INTERNAL_STORAGE", "Internal Storage"),
  ("FLOWCHART_MAGNETIC_DISK", "Magnetic Disk"), ("FLOWCHART_MANUAL_INPUT", "Manual Input"),
  ("FLOWCHART_MANUAL_OPERATION", "Manual Operation"), ("FLOWCHART_MERGE", "Merge"),
  ("FLOWCHART_MULTIDOCUMENT", "Multidocument"), ("FLOWCHART_OFFLINE_STORAGE", "Offline Storage"),
  ("FLOWCHART_OFFPAGE_CONNECTOR", "Off-page Connector"), ("FLOWCHART_OR", "Or"),
  ("FLOWCHART_PREDEFINED_PROCESS", "Predefined Process"),
  ("FLOWCHART_PREPARATION", "Preparation"), ("FLOWCHART_PROCESS", "Process"),
  ("FLOWCHART_PUNCHED_TAPE", "Punched Tape"),
  ("FLOWCHART_SEQUENTIAL_ACCESS_STORAGE", "Sequential Access Storage"),
  ("FLOWCHART_SORT", "Sort"), ("FLOWCHART_STORED_DATA", "Stored Data"),
  ("FLOWCHART_SUMMING_JUNCTION", "Summing Junction"), ("FLOWCHART_TERMINATOR", "Terminator"),
  ("LEFT_RIGHT_ARROW", "Left-Right Arrow"),
  ("LEFT_RIGHT_ARROW_CALLOUT", "Left-Right Arrow Callout"),
  ("LEFT_RIGHT_UP_ARROW", "Left-Right-Up Arrow"), ("LEFT_UP_ARROW", "Left-Up Arrow"),
  ("LINE_CALLOUT_1_ACCENT_BAR", "Line Callout 1 (Accent Bar)"),
  ("LINE_CALLOUT_1_BORDER_AND_ACCENT_BAR", "Line Callout 1 (Border and Accent Bar)"),
  ("LINE_CALLOUT_1_NO_BORDER", "Line Callout 1 (No Border)"),
  ("LINE_CALLOUT_2_ACCENT_BAR", "Line Callout 2 (Accent Bar)"),
  ("LINE_CALLOUT_2_BORDER_AND_ACCENT_BAR", "Line Callout 2 (Border and Accent Bar)"),
  ("LINE_CALLOUT_2_NO_BORDER", "Line Callout 2 (No Border)"),
  ("LINE_CALLOUT_3_ACCENT_BAR", "Line Callout 3 (Accent Bar)"),
  ("LINE_CALLOUT_3_BORDER_AND_ACCENT_BAR", "Line Callout 3 (Border and Accent Bar)"),
  ("LINE_CALLOUT_3_NO_BORDER", "Line Callout 3 (No Border)"),
  ("LINE_CALLOUT_4", "Line Callout 3"),
  ("LINE_CALLOUT_4_ACCENT_BAR", "Line Callout 3 (Accent Bar)"),
  ("LINE_CALLOUT_4_BORDER_AND_ACCENT_BAR", "Line Callout 3 (Border and Accent Bar)"),
  ("LINE_CALLOUT_4_NO_BORDER", "Line Callout 3 (No Border)"),
  ("LINE_INVERSE", "Straight Connector"), ("MATH_DIVIDE", "Division"), ("MATH_EQUAL", "Equal"),
  ("MATH_MINUS", "Minus"), ("MATH_MULTIPLY", "Multiply"), ("MATH_NOT_EQUAL", "Not Equal"),
  ("MATH_PLUS", "Plus"), ("NON_ISOSCELES_TRAPEZOID", "Non-isosceles Trapezoid"),
  ("NO_SYMBOL", "\"No\" Symbol"), ("PIE_WEDGE", "Pie"),
  ("ROUND_1_RECTANGLE", "Round Single Corner Rectangle"),
  ("ROUND_2_DIAG_RECTANGLE", "Round Diagonal Corner Rectangle"),
  ("ROUND_2_SAME_RECTANGLE", "Round Same Side Corner Rectangle"),
  ("SNIP_1_RECTANGLE", "Snip Single Corner Rectangle"),
  ("SNIP_2_DIAG_RECTANGLE", "Snip Diagonal Corner Rectangle"),
  ("SNIP_2_SAME_RECTANGLE", "Snip Same Side Corner Rectangle"),
  ("SNIP_ROUND_RECTANGLE", "Snip and Round Single Corner Rectangle"),
  ("STAR_10_POINT", "10-Point Star"), ("STAR_12_POINT", "12-Point Star"),
  ("STAR_16_POINT", "16-Point Star"), ("STAR_24_POINT", "24-Point Star"),
  ("STAR_32_POINT", "32-Point Star"), ("STAR_4_POINT", "4-Point Star"),
  ("STAR_5_POINT", "5-Point Star"), ("STAR_6_POINT", "6-Point Star"),
  ("STAR_7_POINT", "7-Point Star"), ("STAR_8_POINT", "8-Point Star"), ("TEAR", "Teardrop"),
  ("UP_DOWN_ARROW", "Up-Down Arrow"), ("UP_DOWN_ARROW_CALLOUT", "Up-Down Arrow Callout"),
  ("U_TURN_ARROW", "U-Turn Arrow")]

def capitalized (word : List Char) : List Char :=
  word.take 1 ++ (word.drop 1).map Char.toLower

def inWords (kind : String) : String :=
  String.ofList ([' '].intercalate ((kind.toList.splitOn '_').map capitalized))

def title? (kind : String) : Option String :=
  (titled.lookup kind).or (if kind ∈ plain then some (inWords kind) else none)

def aliases : List (String × String) := [
  ("LINE_CALLOUT_4", "LINE_CALLOUT_3"),
  ("LINE_CALLOUT_4_ACCENT_BAR", "LINE_CALLOUT_3_ACCENT_BAR"),
  ("LINE_CALLOUT_4_BORDER_AND_ACCENT_BAR", "LINE_CALLOUT_3_BORDER_AND_ACCENT_BAR"),
  ("LINE_CALLOUT_4_NO_BORDER", "LINE_CALLOUT_3_NO_BORDER"),
  ("ROUNDED_RECTANGULAR_CALLOUT", "BALLOON")]

def kept (kind : String) : String :=
  (aliases.lookup kind).getD kind

/-- Kinds whose number of connection sites is not four. -/
def siteCounts : List (String × Nat) := [
  ("OVAL", 8), ("FLOWCHART_CONNECTOR", 8), ("OCTAGON", 8), ("HEXAGON", 6), ("PENTAGON", 2),
  ("CHEVRON", 2), ("LINE_INVERSE", 1)]

def siteCount (kind : String) : Nat :=
  (siteCounts.lookup kind).getD 4

end FlowDeck.Kind
