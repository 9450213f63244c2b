import FlowDeck.Text.Scan

/-!
# Addresses

Whether a text can stand where the name of a resource is wanted: it has a scheme, or is relative to
another address.
-/

namespace FlowDeck.Text

def isAsciiLetter (c : Char) : Bool :=
  'a' ≤ c ∧ c ≤ 'z' ∨ 'A' ≤ c ∧ c ≤ 'Z'

def isAsciiDigit (c : Char) : Bool :=
  '0' ≤ c ∧ c ≤ '9'

def isHexadecimal (c : Char) : Bool :=
  isAsciiDigit c || 'a' ≤ c ∧ c ≤ 'f' || 'A' ≤ c ∧ c ≤ 'F'

/-- Characters that stand for themselves in every part of an address. -/
def isPlainInUri (c : Char) : Bool :=
  isAsciiLetter c || isAsciiDigit c || "-._~!$&'()*+,;=".toList.contains c

/-- Whether there are only plain characters, these others, and bytes by their codes. -/
def isUriPart (others : List Char) : List Char → Bool
  | [] => true
  | '%' :: a :: b :: rest => isHexadecimal a && isHexadecimal b && isUriPart others rest
  | c :: rest => (isPlainInUri c || others.contains c) && isUriPart others rest

/-- The text before the first such mark, and the text behind it if it is there. -/
def cutAt (mark : Char) (s : List Char) : List Char × Option (List Char) :=
  ((s.takeWhile (· != mark)), (s.dropWhile (· != mark)).tail?)

def isPort (s : List Char) : Bool :=
  !s.isEmpty && s.all isAsciiDigit

/-- A server, by its name or by a number in brackets, with a port or without. -/
def isServer (s : List Char) : Bool :=
  match s with
  | '[' :: rest =>
    match cutAt ']' rest with
    | (_, some []) => true
    | (_, some (':' :: port)) => isPort port
    | _ => false
  | _ =>
    let (name, port) := cutAt ':' s
    isUriPart [] name && port.all isPort

/-- A server after the name of a user, or alone. -/
def isAuthority (s : List Char) : Bool :=
  match cutAt '@' s with
  | (user, some server) => isUriPart [':'] user && isServer server
  | (server, none) => isServer server

def isUriPath (s : List Char) : Bool :=
  match s with
  | '/' :: '/' :: rest =>
    let authority := rest.takeWhile (· != '/')
    isAuthority authority && isUriPart [':', '@', '/'] (rest.drop authority.length)
  | _ => isUriPart [':', '@', '/'] s

def isScheme (s : List Char) : Bool :=
  s.head?.any isAsciiLetter &&
    s.all fun c => isAsciiLetter c || isAsciiDigit c || "+-.".toList.contains c

/-- An address without what follows a number sign or a question mark in it. -/
def isUriBody (s : List Char) : Bool :=
  match cutAt ':' s with
  | (scheme, some path) => isScheme scheme && isUriPath path || isRelative s
  | (_, none) => isRelative s
where
  isRelative (s : List Char) : Bool :=
    isUriPath s && (s.head? == some '/' || !(s.takeWhile (· != '/')).contains ':')

def isUri (s : List Char) : Bool :=
  let (address, fragment) := cutAt '#' s
  let (body, query) := cutAt '?' address
  isUriBody body && query.all (isUriPart [':', '@', '/', '?']) &&
    fragment.all (isUriPart [':', '@', '/', '?', '[', ']'])

end FlowDeck.Text
