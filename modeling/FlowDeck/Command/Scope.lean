import FlowDeck.Command.Root

/-!
# Selecting relatives

The relatives of a node, and their selection on the page.
-/

namespace FlowDeck

inductive Scope where
  | siblings
  | level
  | ancestors
  | family
  deriving DecidableEq, Repr

namespace Scope

def all : List Scope := [.siblings, .level, .ancestors, .family]

def name : Scope → String
  | .siblings => "siblings"
  | .level => "level"
  | .ancestors => "ancestors"
  | .family => "family"

def ofName? (s : String) : Option Scope :=
  all.find? fun scope => scope.name == s

def label : Scope → String
  | .siblings => "siblings"
  | .level => "level peers"
  | .ancestors => "ancestors"
  | .family => "descendants"

/-- The relatives of a node. Siblings and peers begin with the node itself. -/
def relatives (scope : Scope) (outline : Outline) (node : ShapeId) (d : Descriptor) :
    List ShapeId :=
  match scope with
  | .siblings => outline.siblings node d
  | .level => outline.levelPeers node d
  | .ancestors => outline.ancestors node d
  | .family => outline.family node d

end Scope

namespace Command

open Edit

def relatives (scope : Scope) (node : ShapeId) : Edit (List ShapeId) := do
  match ← descriptor? node with
  | some d => return scope.relatives (← outline) node d
  | none => return []

def selectScope (scope : Scope) (node : Option ShapeId) : Edit (List ShapeId) := do
  let (node, d) ← requireDescriptor node
  let selected := (scope.relatives (← outline) node d).foldl Outline.insertLast [node]
  for id in selected do
    select id (id != node)
  if selected.length = 1 then
    note .info s!"ℹ️ No {scope.label} found for shape {node}"
  else
    note .info s!"🎯 Selected {selected.length} shape(s): {scope.label}"
  return selected

end Command

end FlowDeck
