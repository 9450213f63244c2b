import FlowDeck.Text.Digit

/-!
# Forms of calls

A form says which options and which other words a call may have. Options stand anywhere among the
words, long ones may be shortened as long as they stay unambiguous, and a value may follow its
option in the same word. Words are matched with the places of the form in order, as many places
at once as the words up to the next option allow.

After the first double dash all words are plain. It belongs to the place whose word it stands next
to. Places drop one double dash from what they are given, so that a place which is given a double
dash and nothing else is left blank. Readers of command lines differ in whether options do so too.
-/

namespace FlowDeck.Shell

/-- What an option does: it takes a value, which must be acceptable, or is on, or asks for help. -/
inductive Effect where
  | value (accepts : String → Bool)
  | flag
  | help

structure Opt where
  key : String
  names : List String
  effect : Effect

/-- What drops one double dash from what it is given: places and options, or places alone. -/
inductive DashRule where
  | everywhere
  | inPlaces
  deriving DecidableEq

/-- How many words a place takes: one, one or none, or one and all that follow. -/
inductive Arity where
  | one
  | optional
  | rest
  deriving DecidableEq

structure Place where
  key : String
  arity : Arity

structure Form where
  options : List Opt
  places : List Place
  required : List String := []

/-- Why there is no call: help was asked for, or the words do not fit the form. -/
inductive Stop where
  | help
  | misuse
  deriving DecidableEq, Repr

/-- An option as it is found in a word, by a name of one letter or not, with what follows the
name there. -/
structure Found where
  option : Opt
  short : Bool
  tail : Option (List Char) := none

inductive Word where
  | plain (text : String)
  /-- The first double dash, after which all words are plain. -/
  | dashes
  /-- An option, or what looks like one but is none. -/
  | option (text : String) (found : Option Found)

namespace Word

def text : Word → String
  | .plain text => text
  | .dashes => "--"
  | .option text _ => text

def isDashes : Word → Bool
  | .dashes => true
  | _ => false

def isOption : Word → Bool
  | .option .. => true
  | _ => false

end Word

namespace Form

def named (form : Form) : List (String × Opt) :=
  form.options.flatMap fun option => option.names.map fun name => (name, option)

def cutAtEquals (s : List Char) : String × Option (List Char) :=
  (String.ofList (s.takeWhile (· != '=')), (s.dropWhile (· != '=')).tail?)

/-- Names of one letter follow a single dash. -/
def isShort (name : String) : Bool :=
  !name.startsWith "--"

def candidates (form : Form) (s : String) : List Found :=
  if s.startsWith "--" then
    let (start, tail) := cutAtEquals s.toList
    form.named.filterMap fun (name, option) =>
      if name.startsWith start then some ⟨option, isShort name, tail⟩ else none
  else
    form.named.filterMap fun (name, option) =>
      if name.toList = s.toList.take 2 then some ⟨option, isShort name, some (s.toList.drop 2)⟩
      else if name.startsWith s then some ⟨option, isShort name, none⟩
      else none

/-- Words that look like negative numbers are values. -/
def looksNegative (s : String) : Bool :=
  let s := s.toList.drop 1
  let s := if s.getLast? = some '\n' then s.dropLast else s
  let whole := s.takeWhile Text.isDigit
  match s.drop whole.length with
  | [] => !whole.isEmpty
  | '.' :: decimals => !decimals.isEmpty && decimals.all Text.isDigit
  | _ => false

def readDashed (form : Form) (s : String) : Except Stop Word :=
  let (start, tail) := cutAtEquals s.toList
  match form.named.lookup s, form.named.lookup start with
  | some option, _ => .ok (.option s (some ⟨option, isShort s, none⟩))
  | none, some option => .ok (.option s (some ⟨option, isShort start, tail⟩))
  | none, none =>
    if s = "-" then .ok (.plain s)
    else
      match form.candidates s with
      | [found] => .ok (.option s (some found))
      | _ :: _ :: _ => .error .misuse
      | [] =>
        if looksNegative s || s.toList.contains ' ' then .ok (.plain s)
        else .ok (.option s none)

def readWords (form : Form) : List String → Except Stop (List Word)
  | [] => .ok []
  | s :: rest =>
    if s = "--" then .ok (.dashes :: rest.map .plain)
    else do
      let word ← if s.startsWith "-" then form.readDashed s else .ok (.plain s)
      return word :: (← form.readWords rest)

end Form

structure Reading where
  /-- The keys of options and places with their values, in order; one left blank has none. -/
  values : List (String × Option String) := []
  rest : List String := []
  /-- Whether there were words for which there is no place. -/
  surplus : Bool := false

namespace Reading

def has (r : Reading) (key : String) : Bool :=
  r.values.any fun v => v.1 == key

def all (r : Reading) (key : String) : List (Option String) :=
  (r.values.filter fun v => v.1 == key).map (·.2)

def last? (r : Reading) (key : String) : Option (Option String) :=
  (r.all key).getLast?

def add (r : Reading) (key : String) (value : Option String) : Reading :=
  { r with values := r.values ++ [(key, value)] }

end Reading

/-- The value that words give: none if a double dash is all there is. -/
def worth (words : List String) : Option String :=
  (words.erase "--").head?

/-- The words that a place takes, and those that are left. -/
def Place.take (place : Place) (words : List Word) : Option (List Word × List Word) :=
  let opening := words.takeWhile Word.isDashes
  match place.arity, words.dropWhile Word.isDashes with
  | .rest, .plain _ :: _ => some (words, [])
  | .one, .plain s :: more | .optional, .plain s :: more =>
    some (opening ++ .plain s :: more.takeWhile Word.isDashes, more.dropWhile Word.isDashes)
  | .optional, more => some (opening, more)
  | _, _ => none

def Reading.fillPlace (r : Reading) (place : Place) (words : List String) : Reading :=
  match place.arity with
  | .rest => { r with rest := words }
  | .one => r.add place.key (worth words)
  | .optional => if (worth words).isSome then r.add place.key (worth words) else r

/-- Fills as many places as possible. The result is what has been read, the places that are left
and the words that are left. -/
def fill (r : Reading) : List Place → List Word → Reading × List Place × List Word
  | [], words => (r, [], words)
  | place :: places, words =>
    match place.take words with
    | none => (r, place :: places, words)
    | some (taken, more) => fill (r.fillPlace place (taken.map Word.text)) places more

/-- The options in a word with their values, and how many of the following words are used. -/
structure Unfolded where
  options : List (Opt × String)
  used : Nat := 0

/-- The options in a word, from one of them on, where `tail` is what follows its name. In a word
of short options each but the last takes no value. -/
def Form.unfold (form : Form) (next : Option Word) (found : Found) : Except Stop Unfolded :=
  match found.option.effect, _h : found.tail with
  | .value _, some value => .ok { options := [(found.option, String.ofList value)] }
  | .value _, none =>
    match next with
    | some (.plain s) => .ok { options := [(found.option, s)], used := 1 }
    | _ => .error .misuse
  | _, none => .ok { options := [(found.option, "")] }
  | _, some [] => .error .misuse
  | _, some (c :: more) =>
    match form.named.lookup (String.ofList ['-', c]), found.short with
    | some other, true => do
      let others ← form.unfold next ⟨other, true, if more = [] then none else some more⟩
      return { others with options := (found.option, "") :: others.options }
    | _, _ => .error .misuse
termination_by (found.tail.getD []).length
decreasing_by
  rw [_h]
  split <;> simp [*]

/-- The value that an option has by its word. -/
def DashRule.valueOf : DashRule → String → Option String
  | .everywhere, word => worth [word]
  | .inPlaces, word => some word

/-- What options do, in order. A value that is left blank is always acceptable. -/
def perform (rule : DashRule) (r : Reading) : List (Opt × String) → Except Stop Reading
  | [] => .ok r
  | (option, word) :: more =>
    let value := rule.valueOf word
    match option.effect with
    | .help => .error .help
    | .flag => perform rule (r.add option.key value) more
    | .value accepts =>
      if value.all accepts then perform rule (r.add option.key value) more
      else .error .misuse

/-- Reads words into the places that are left. The result has the places that are left then. -/
def Form.readInto (form : Form) (rule : DashRule) (places : List Place) (words : List Word)
    (r : Reading) : Except Stop (Reading × List Place) :=
  match words with
  | [] =>
    let (filled, left, _) := fill r places []
    .ok (filled, left)
  | .option _ none :: more => form.readInto rule places more { r with surplus := true }
  | .option _ (some found) :: more => do
    let here ← form.unfold more.head? found
    let r ← perform rule r here.options
    form.readInto rule places (more.drop here.used) r
  | word :: more =>
    let (filled, left, rest) := fill r places (word :: more)
    if rest.length ≤ more.length then form.readInto rule left rest filled
    else
      form.readInto rule left (more.dropWhile fun w => !w.isOption) { filled with surplus := true }
termination_by words.length
decreasing_by
  · simp
  · exact Nat.lt_succ_of_le (by simp [List.length_drop])
  · simp only [List.length_cons]; omega
  · have := (List.dropWhile_sublist (l := more) fun w : Word => !w.isOption).length_le
    simp only [List.length_cons]; omega

def Form.read (form : Form) (rule : DashRule) (words : List String) : Except Stop Reading := do
  let words ← form.readWords words
  let (r, left) ← form.readInto rule form.places words {}
  if left.any fun place => place.arity != .optional then throw .misuse
  if !form.required.all r.has then throw .misuse
  return r

end FlowDeck.Shell
