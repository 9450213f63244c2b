import FlowDeck.Hierarchy.Level
import FlowDeck.Plane.Side

/-!
# Descriptors

A descriptor is the record that a node of a hierarchy carries: its identifier, the identifiers
of its ancestors from the root down, and the children it knows of. Nothing else is kept of a
hierarchy; every question about it is answered from the descriptors on the page.

A layout is kept as its token, an empty one where it is inherited.
-/

namespace FlowDeck

/-- A child as its parent lists it, with the layout the parent prescribes for it, if any. -/
structure ChildRef where
  id : String
  layout : String := ""
  deriving DecidableEq, Repr

structure Descriptor where
  current : String
  chain : List String := []
  layout : String := ""
  children : List ChildRef := []
  deriving DecidableEq, Repr

def defaultLayout : Layout := .leftToRight

namespace Descriptor

def level (d : Descriptor) : String :=
  levelOf d.current

def parentId? (d : Descriptor) : Option String :=
  d.chain.getLast?

def isRoot (d : Descriptor) : Bool :=
  d.chain.isEmpty

def chainKey (d : Descriptor) : String :=
  String.intercalate "|" d.chain

def chainBelow (d : Descriptor) : List String :=
  d.chain ++ [d.current]

def childIds (d : Descriptor) : List String :=
  d.children.map (·.id)

/-- The first entry for a child. -/
def child? (d : Descriptor) (id : String) : Option ChildRef :=
  d.children.find? fun c => c.id == id

/-- The ancestors from the root down, each with the chain that leads to it. -/
def lineage (d : Descriptor) : List (String × List String) :=
  d.chain.mapIdx fun i id => (id, d.chain.take i)

/-- The list with the last entry for the child replaced. -/
def replaceLast (ref : ChildRef) : List ChildRef → List ChildRef
  | [] => []
  | c :: rest =>
    if c.id = ref.id ∧ ref.id ∉ rest.map (·.id) then ref :: rest
    else c :: replaceLast ref rest

/-- The list with one child more. A child that is listed stays where it is, and keeps its
layout unless the new entry prescribes one. -/
def attachRef (children : List ChildRef) (ref : ChildRef) : List ChildRef :=
  if ref.id = "" then children
  else if ref.id ∈ children.map (·.id) then
    if ref.layout = "" then children else replaceLast ref children
  else children ++ [ref]

def attach (d : Descriptor) (refs : List ChildRef) : Descriptor :=
  { d with children := refs.foldl attachRef d.children }

/-- The descriptor with another layout for every entry of one child. -/
def withChildLayout (d : Descriptor) (id layout : String) : Descriptor :=
  { d with children := d.children.map fun c => if c.id = id then ⟨id, layout⟩ else c }

end Descriptor

end FlowDeck
