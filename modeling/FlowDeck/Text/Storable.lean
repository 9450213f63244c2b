import FlowDeck.Text.Quoted

/-!
# Text that a slide can hold

Slides are stored as marked-up text, which has no place for most control characters. Inside a
shape they are written by their codes; in alternative texts they are refused.
-/

namespace FlowDeck.Text

/-- The two code points that are set aside and stand for no character. -/
def isSetAside (c : Char) : Bool :=
  c.toNat == 0xFFFE || c.toNat == 0xFFFF

/-- Characters that stored text can hold: no controls but tab and line ends. -/
def isStorable (c : Char) : Bool :=
  (32 ≤ c.toNat || c = '\t' || c = '\n' || c = '\r') && !isSetAside c

/-- The character between paragraphs and the one between lines of a paragraph. -/
def isBreak (c : Char) : Bool :=
  c = '\n' || c.toNat = 11

/-- A character as it stands inside a shape: controls are written by their codes. -/
def encodeControl (c : Char) : List Char :=
  if c.toNat < 32 ∧ !isBreak c ∧ c ≠ '\t' then
    '_' :: 'x' :: (hexadecimal 4 c.toNat).map Char.toUpper ++ ['_']
  else [c]

def encodeControls (s : List Char) : List Char :=
  s.flatMap encodeControl

def runs (s : List Char) : List (List Char) :=
  (s.splitOnP isBreak).filter (· ≠ [])

end FlowDeck.Text
