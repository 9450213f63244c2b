import FlowDeck.Text.Blank
import FlowDeck.Text.Storable
import FlowDeck.Text.Uri

/-!
# Attributes of tags

A slide is stored as marked-up text. A text that is pasted there as it is, as the value of an
attribute, may end that value and go on with attributes of its own. It is read character by
character, as the tag is in which it stands.
-/

namespace FlowDeck.Text

/-! ## References -/

def namedReferences : List (String × Char) :=
  [("lt", '<'), ("gt", '>'), ("amp", '&'), ("quot", '"'), ("apos", '\'')]

def digitIn? (base : Nat) (c : Char) : Option Nat :=
  let value? :=
    if '0' ≤ c ∧ c ≤ '9' then some (c.toNat - '0'.toNat)
    else if 'a' ≤ c.toLower ∧ c.toLower ≤ 'f' then some (c.toLower.toNat - 'a'.toNat + 10)
    else none
  value?.filter (· < base)

def numberIn? (base : Nat) (s : List Char) : Option Nat :=
  if s.isEmpty then none
  else s.foldlM (fun n c => (digitIn? base c).map fun value => base * n + value) 0

def charOf? (n : Nat) : Option Char :=
  if n.isValidChar && isStorable (Char.ofNat n) then some (Char.ofNat n) else none

/-- The character that a reference stands for, by what is between its ampersand and its
semicolon: a name, or a number, which is hexadecimal after an `x`. -/
def reference? : List Char → Option Char
  | '#' :: 'x' :: digits => (numberIn? 16 digits).bind charOf?
  | '#' :: digits => (numberIn? 10 digits).bind charOf?
  | name => namedReferences.lookup (String.ofList name)

/-! ## Names -/

/-- The characters beyond the letters and digits of plain English that a name can begin with. -/
def nameRanges : List (Nat × Nat) := [
  (0xC0, 0xD6), (0xD8, 0xF6), (0xF8, 0x2FF), (0x370, 0x37D), (0x37F, 0x1FFF), (0x200C, 0x200D),
  (0x2070, 0x218F), (0x2C00, 0x2FEF), (0x3001, 0xD7FF), (0xF900, 0xFDCF), (0xFDF0, 0xFFFD),
  (0x10000, 0xEFFFF)]

def laterNameRanges : List (Nat × Nat) := [(0xB7, 0xB7), (0x300, 0x36F), (0x203F, 0x2040)]

def isAmong (ranges : List (Nat × Nat)) (c : Char) : Bool :=
  ranges.any fun (first, last) => first ≤ c.toNat && c.toNat ≤ last

def isNameStart (c : Char) : Bool :=
  isAsciiLetter c || c = '_' || isAmong nameRanges c

def isNameChar (c : Char) : Bool :=
  isNameStart c || isAsciiDigit c || c = '-' || c = '.' || isAmong laterNameRanges c

def isName (s : List Char) : Bool :=
  s.head?.any isNameStart && s.all isNameChar

/-! ## Reading a tag -/

def isTagBlank (c : Char) : Bool :=
  c = ' ' || c = '\t' || c = '\n' || c = '\r'

/-- Every end of a line in the same form. -/
def unifyLineEnds : List Char → List Char
  | [] => []
  | '\r' :: '\n' :: rest => '\n' :: unifyLineEnds rest
  | c :: rest => (if c = '\r' then '\n' else c) :: unifyLineEnds rest

/-- Where a reader inside a tag stands. What it has begun to read is kept backwards. -/
inductive TagPlace where
  /-- Behind a value, with blanks between or not. -/
  | behind (apart : Bool)
  | inName (letters : List Char)
  | afterName (name : List Char)
  | beforeValue (name : List Char)
  /-- In a value that this mark ends. A reference may have begun there. -/
  | inValue (name : List Char) (mark : Char) (letters : List Char) (reference : Option (List Char))

/-- The attributes that have been read, by name and value, and where the reader stands. -/
structure TagReading where
  attributes : List (List Char × List Char) := []
  place : TagPlace

def TagReading.next? (r : TagReading) (c : Char) : Option TagReading :=
  match r.place with
  | .behind apart =>
    if isTagBlank c then some { r with place := .behind true }
    else if apart && isNameStart c then some { r with place := .inName [c] }
    else none
  | .inName letters =>
    if isNameChar c || c = ':' then some { r with place := .inName (c :: letters) }
    else if isTagBlank c then some { r with place := .afterName letters.reverse }
    else if c = '=' then some { r with place := .beforeValue letters.reverse }
    else none
  | .afterName name =>
    if isTagBlank c then some r
    else if c = '=' then some { r with place := .beforeValue name }
    else none
  | .beforeValue name =>
    if isTagBlank c then some r
    else if c = '"' || c = '\'' then some { r with place := .inValue name c [] none }
    else none
  | .inValue name mark letters (some reference) =>
    if c = ';' then
      (reference? reference.reverse).map fun c => { r with place := .inValue name mark (c :: letters) none }
    else some { r with place := .inValue name mark letters (some (c :: reference)) }
  | .inValue name mark letters none =>
    if c = mark then some ⟨r.attributes ++ [(name, letters.reverse)], .behind false⟩
    else if c = '&' then some { r with place := .inValue name mark letters (some []) }
    else if c = '<' || !isStorable c then none
    else
      let c := if isTagBlank c then ' ' else c
      some { r with place := .inValue name mark (c :: letters) none }

/-- The attributes of a tag where this text is pasted between quotation marks, as the value of an
attribute of this name. The last of them has the quotation mark behind the text for its end. -/
def pasted? (name text : String) : Option (List (List Char × List Char)) :=
  let start : TagReading := { place := .inValue name.toList '"' [] none }
  match (unifyLineEnds text.toList).foldlM TagReading.next? start with
  | some ⟨attributes, .inValue last '"' letters none⟩ => some (attributes ++ [(last, letters.reverse)])
  | _ => none

/-! ## Names with spaces -/

/-- An attribute with its name taken apart: a prefix, if there is one, and the rest. -/
structure Attribute where
  lead : Option String
  name : String
  value : String
  deriving DecidableEq

def Attribute.of? : List Char × List Char → Option Attribute
  | (name, value) =>
    let value := String.ofList value
    match name.splitOn ':' with
    | [name] => if isName name then some ⟨none, String.ofList name, value⟩ else none
    | [lead, name] =>
      if isName lead && isName name then some ⟨some (String.ofList lead), String.ofList name, value⟩
      else none
    | _ => none

def xmlSpace : String := "http://www.w3.org/XML/1998/namespace"

def xmlnsSpace : String := "http://www.w3.org/2000/xmlns/"

/-- The prefix that an attribute declares and the space it stands for, or the space of names without
a prefix. -/
def Attribute.declares? : Attribute → Option (Option String × String)
  | ⟨none, "xmlns", space⟩ => some (none, space)
  | ⟨some "xmlns", lead, space⟩ => some (some lead, space)
  | _ => none

def isDeclarable : Option String × String → Bool
  | (lead, space) =>
    if lead = some "xml" then space = xmlSpace
    else
      lead ≠ some "xmlns" && space ≠ xmlSpace && space ≠ xmlnsSpace &&
        if space = "" then lead = none else isUri space.toList

/-- The space of an attribute, which has one only by a prefix, and its name there. -/
def Attribute.fullName? (declared : List (Option String × String)) (a : Attribute) :
    Option (Option String × String) :=
  match a.lead with
  | none => some (none, a.name)
  | some "xml" => some (some xmlSpace, a.name)
  | some lead => (declared.lookup (some lead)).map fun space => (some space, a.name)

/-- Identifiers must be names. -/
def Attribute.isAcceptable (a : Attribute) : Bool :=
  (a.lead, a.name) ≠ (some "xml", "id") || isName (trim isTagBlank a.value.toList)

/-- Whether a tag can have these attributes: prefixes are declared, and no name occurs twice. -/
def isTag (attributes : List Attribute) : Bool :=
  let declared := attributes.filterMap Attribute.declares?
  let others := attributes.filter (·.declares?.isNone)
  decide (attributes.map fun a => (a.lead, a.name)).Nodup && declared.all isDeclarable &&
    (others.mapM (Attribute.fullName? declared)).any (fun names => decide names.Nodup) &&
    others.all (·.isAcceptable)

/-- The value of the attribute of this name in whose place a text is pasted, where these attributes
follow. There is none if the tag is at fault. -/
def pastedValue? (name : String) (following : List Attribute) (text : String) : Option String := do
  let attributes ← (← pasted? name text).mapM Attribute.of?
  if isTag (attributes ++ following) then attributes.head?.map (·.value) else none

end FlowDeck.Text
