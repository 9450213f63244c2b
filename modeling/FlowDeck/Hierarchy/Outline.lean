import FlowDeck.Hierarchy.Descriptor

/-!
# Outlines

The nodes of a page with their descriptors, in the order in which they are drawn. Pages are read
as they are: identifiers may repeat, chains may lead nowhere or run in a circle.
-/

namespace FlowDeck

abbrev ShapeId := Int

/-- The nodes of a page that carry a descriptor. -/
abbrev Outline := List (ShapeId × Descriptor)

namespace Outline

def lookup (outline : Outline) (node : ShapeId) : Option Descriptor :=
  (outline.find? fun entry => entry.1 == node).map (·.2)

def named (outline : Outline) (id : String) : Outline :=
  outline.filter fun entry => entry.2.current == id

/-- The node with this identifier at the end of this chain. Identifiers are unique among siblings
only, but where no node has that chain, any node with the identifier will do. -/
def locate? (outline : Outline) (id : String) (chain : List String) :
    Option (ShapeId × Descriptor) :=
  let candidates := outline.named id
  (candidates.find? fun entry => entry.2.chain == chain).or candidates.head?

def locateAnywhere? (outline : Outline) (id : String) : Option (ShapeId × Descriptor) :=
  (outline.named id).head?

def parent? (outline : Outline) (d : Descriptor) : Option (ShapeId × Descriptor) :=
  d.parentId?.bind fun id => outline.locate? id d.chain.dropLast

/-- A child has its parent's chain and identifier for a chain. A chain of one identifier may also
stand for the parent alone. -/
def isChild (d parent : Descriptor) : Bool :=
  d.chain == parent.chainBelow || d.chain == [parent.current]

def children (outline : Outline) (parent : Descriptor) : Outline :=
  outline.filter fun entry => isChild entry.2 parent

def firstThen (outline : Outline) (node : ShapeId) (related : Descriptor → Bool) :
    List ShapeId :=
  node :: (outline.filter fun entry => entry.1 != node && related entry.2).map (·.1)

/-- The node and the others below the same chain. -/
def siblings (outline : Outline) (node : ShapeId) (d : Descriptor) : List ShapeId :=
  outline.firstThen node fun other => other.chainKey == d.chainKey

/-- The node and the others at its level, under any parent. -/
def levelPeers (outline : Outline) (node : ShapeId) (d : Descriptor) : List ShapeId :=
  if d.level = "" then []
  else outline.firstThen node fun other => other.level == d.level

def insertLast (xs : List ShapeId) (x : ShapeId) : List ShapeId :=
  if xs.contains x then xs else xs ++ [x]

/-- The ancestors from the root down to the parent, as far as they can be found. -/
def ancestors (outline : Outline) (node : ShapeId) (d : Descriptor) : List ShapeId :=
  let found := d.lineage.filterMap fun (id, chain) => (outline.locate? id chain).map (·.1)
  (found.filter (· != node)).foldl insertLast []

/-- The nodes directly below an identifier, by the last identifier of their chain. -/
def directlyBelow (outline : Outline) (id : String) : Outline :=
  outline.filter fun entry => entry.2.parentId? == some id

/-- The nodes that are not directly below a visited identifier. -/
def unvisited (outline : Outline) (visited : List String) : Outline :=
  outline.filter fun entry => !entry.2.parentId?.any (visited.contains ·)

theorem length_directlyBelow_add_length_unvisited (outline : Outline) {visited : List String} {id : String}
    (h : id ∉ visited) :
    (outline.directlyBelow id).length + (outline.unvisited (id :: visited)).length =
      (outline.unvisited visited).length := by
  unfold directlyBelow unvisited
  induction outline with
  | nil => rfl
  | cons entry outline ih =>
    cases parent : entry.2.parentId? with
    | none =>
      simp only [List.filter_cons, parent] at ih ⊢
      simp at ih ⊢
      omega
    | some other =>
      by_cases same : other = id
      · subst same
        simp only [List.filter_cons, parent] at ih ⊢
        simp [h] at ih ⊢
        omega
      · simp only [List.filter_cons, parent] at ih ⊢
        by_cases seen : other ∈ visited <;> simp [same, seen] at ih ⊢ <;> omega

/-- The nodes below the identifiers of `frontier`, added to those that have been found: each
identifier is visited once, and leaves those of the nodes directly below it to be visited, so that a
circle ends where it closes. -/
def gather (outline : Outline) (node : ShapeId) (visited frontier : List String)
    (found : List ShapeId) : List ShapeId :=
  match frontier with
  | [] => found
  | id :: frontier =>
    if id ∈ visited then gather outline node visited frontier found
    else
      let reached := outline.directlyBelow id
      gather outline node (id :: visited) (frontier ++ reached.map (·.2.current))
        (((reached.map (·.1)).filter (· != node)).foldl insertLast found)
termination_by ((outline.unvisited visited).length, frontier.length)
decreasing_by
  · exact Prod.Lex.right _ (by simp)
  · rename_i new
    have h := length_directlyBelow_add_length_unvisited outline new
    by_cases empty : outline.directlyBelow id = []
    · rw [empty, List.length_nil, Nat.zero_add] at h
      simp only [empty, h, List.map_nil, List.append_nil]
      exact Prod.Lex.right _ (by simp)
    · have := List.length_pos_iff.2 empty
      exact Prod.Lex.left _ _ (by omega)

def family (outline : Outline) (node : ShapeId) (d : Descriptor) : List ShapeId :=
  gather outline node [] [d.current] []

def prescribedLayout? (outline : Outline) (d : Descriptor) : Option String :=
  ((outline.parent? d).bind fun parent => parent.2.child? d.current).bind fun ref =>
    if ref.layout = "" then none else some ref.layout

/-- The layout that the nearest ancestor with one declares. -/
def inheritedLayout? (outline : Outline) (d : Descriptor) : Option String :=
  d.lineage.reverse.findSome? fun (id, chain) =>
    (outline.locate? id chain).bind fun ancestor =>
      if ancestor.2.layout = "" then none else some ancestor.2.layout

/-- The layout that is in effect below a node: its own, or what its parent prescribes for it, or
what it inherits. -/
def layout (outline : Outline) (d : Descriptor) : String :=
  if d.layout ≠ "" then d.layout
  else
    ((outline.prescribedLayout? d).or (outline.inheritedLayout? d)).getD defaultLayout.token

end Outline

end FlowDeck
