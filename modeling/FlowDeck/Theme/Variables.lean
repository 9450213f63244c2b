import FlowDeck.Text.Blank
import FlowDeck.Text.Scan

/-!
# Theme variables

A theme is a style sheet; what counts of it are the variables that the first `:root` block
declares.
-/

namespace FlowDeck.Theme

open FlowDeck.Text

/-- What the braces hold if a block that is not empty stands here. -/
def blockHere? (s : List Char) : Option (List Char) := do
  let s ← after? ":root".toList s
  let s ← after? ['{'] (s.dropWhile isBlank)
  let (inside, _) ← upTo? '}' s
  if inside.isEmpty then none else some inside

def block? : List Char → Option (List Char)
  | [] => none
  | c :: rest => (blockHere? (c :: rest)).or (block? rest)

/-- The value that begins after a colon, and what follows its semicolon. Blanks in front do not
belong to it, but the last of them is the value where nothing else is. -/
def value? (s : List Char) : Option (List Char × List Char) := do
  let (value, rest) ← upTo? ';' (s.dropWhile isBlank)
  if !value.isEmpty then some (value, rest)
  else (s.takeWhile isBlank).getLast?.map fun blank => ([blank], rest)

def declarationHere? (s : List Char) : Option ((List Char × List Char) × List Char) := do
  let s ← after? "--".toList s
  let (name, s) ← upTo? ':' s
  let (value, s) ← value? s
  if name.isEmpty then none else some ((name, value), s)

theorem length_of_value? {s value rest : List Char} (h : value? s = some (value, rest)) :
    rest.length ≤ s.length := by
  have shorter : (s.dropWhile isBlank).length ≤ s.length :=
    (List.dropWhile_sublist isBlank).length_le
  simp only [value?, Option.bind_eq_bind, Option.bind_eq_some_iff] at h
  obtain ⟨⟨v, r⟩, hv, h⟩ := h
  have hr := length_of_upTo? hv
  dsimp only at h
  split at h
  · obtain ⟨-, rfl⟩ := Prod.mk.inj (Option.some.inj h)
    omega
  · obtain ⟨b, -, h⟩ := Option.map_eq_some_iff.1 h
    obtain ⟨-, rfl⟩ := Prod.mk.inj h
    omega

theorem length_of_declarationHere? {s rest : List Char} {d : List Char × List Char}
    (h : declarationHere? s = some (d, rest)) : rest.length < s.length := by
  simp only [declarationHere?, Option.bind_eq_bind, Option.bind_eq_some_iff] at h
  obtain ⟨s₁, h₁, ⟨name, s₂⟩, h₂, ⟨value, s₃⟩, h₃, h⟩ := h
  dsimp only at h h₃
  split at h
  · simp at h
  · obtain ⟨-, rfl⟩ := Prod.mk.inj (Option.some.inj h)
    have := length_of_after? h₁
    have := length_of_upTo? h₂
    have := length_of_value? h₃
    omega

/-- The declarations of a block, in order, as they are written. Where no declaration begins, the
search moves on by one character. -/
def declarations (s : List Char) : List (List Char × List Char) :=
  match _h : declarationHere? s with
  | some (d, rest) => d :: declarations rest
  | none =>
    match s with
    | [] => []
    | _ :: rest => declarations rest
termination_by s.length
decreasing_by
  · exact length_of_declarationHere? ‹_›
  · simp

/-- Names with their values, each name once. -/
abbrev Variables := List (String × String)

/-- The variables with one more; a name that is there gets the new value. -/
def Variables.assign (vars : Variables) (name value : String) : Variables :=
  if vars.any fun v => v.1 == name then
    vars.map fun v => if v.1 = name then (name, value) else v
  else vars ++ [(name, value)]

def Variables.get? (vars : Variables) (name : String) : Option String :=
  vars.lookup name

def Variables.sorted (vars : Variables) : Variables :=
  vars.mergeSort fun v w => v.1 ≤ w.1

def variables? (sheet : String) : Option Variables :=
  (block? sheet.toList).map fun block =>
    (declarations block).foldl
      (fun vars (name, value) =>
        vars.assign (String.ofList (strip name)) (String.ofList (strip value))) []

end FlowDeck.Theme
