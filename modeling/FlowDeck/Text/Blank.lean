/-!
# White space

Blanks at the ends of a text carry no meaning anywhere in a deck: descriptors, labels, layout
tokens and theme values are all read without them.
-/

namespace FlowDeck.Text

/-- White space: the ASCII controls from tab to carriage return and the four separators before
the space, next line, and the space, line and paragraph separators beyond ASCII. -/
def isBlank (c : Char) : Bool :=
  let n := c.toNat
  (9 ≤ n && n ≤ 13) || (28 ≤ n && n ≤ 32) || n == 0x85 || n == 0xA0 || n == 0x1680
    || (0x2000 ≤ n && n ≤ 0x200A) || n == 0x2028 || n == 0x2029 || n == 0x202F || n == 0x205F
    || n == 0x3000

def trimEnd (p : Char → Bool) (s : List Char) : List Char :=
  (s.reverse.dropWhile p).reverse

def trim (p : Char → Bool) (s : List Char) : List Char :=
  trimEnd p (s.dropWhile p)

def strip (s : List Char) : List Char :=
  trim isBlank s

end FlowDeck.Text
