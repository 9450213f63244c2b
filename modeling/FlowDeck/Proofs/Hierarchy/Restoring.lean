import FlowDeck.Proofs.Hierarchy.Lineage

/-!
# Descriptors stored again

A descriptor that is stored and read again is the same, but for a root without a layout, which comes
back with the default one. That is the layout which is in effect below it anyway, and the root is the
last of its line to be asked. So where the nodes found for a chain stand in it, no effective layout
changes.
-/

namespace FlowDeck

namespace Descriptor

variable {d : Descriptor}

theorem stored_of_chain (h : d.chain ≠ []) : d.stored = d :=
  if_neg fun hd => h (List.isEmpty_iff.1 hd.1)

def declared? (d : Descriptor) : Option String :=
  if d.layout = "" then none else some d.layout

/-- To declare the default layout is as good as to declare none, if nobody is asked after that. -/
theorem declared?_stored_getD (d : Descriptor) :
    d.stored.declared?.getD defaultLayout.token = d.declared?.getD defaultLayout.token := by
  by_cases h : d.isRoot ∧ d.layout = ""
  · have root : d.stored = { d with layout := defaultLayout.token } := if_pos h
    have token : defaultLayout.token ≠ "" := by decide
    simp [root, declared?, h.2, token]
  · rw [show d.stored = d from if_neg h]

end Descriptor

namespace Outline

variable {outline : Outline} {d : Descriptor} {node : ShapeId}

/-- Every entry of a chain stands for a node at the end of the chain in front of it, or no node has that
identifier. -/
def Settled (outline : Outline) : Prop :=
  ∀ e ∈ outline, ∀ place ∈ e.2.lineage,
    (∃ h ∈ outline, h.2.current = place.1 ∧ h.2.chain = place.2) ∨ ∀ h ∈ outline, h.2.current ≠ place.1

def storedEntry (e : ShapeId × Descriptor) : ShapeId × Descriptor := (e.1, e.2.stored)

def restored (outline : Outline) : Outline := outline.map storedEntry

theorem named_restored (outline : Outline) (id : String) :
    outline.restored.named id = (outline.named id).map storedEntry := by
  rw [named, named, restored, List.filter_map]
  simp [Function.comp_def, storedEntry]

/-- The same nodes are found as before. -/
theorem locate?_restored (outline : Outline) (id : String) (chain : List String) :
    outline.restored.locate? id chain = (outline.locate? id chain).map storedEntry := by
  have atPlace : (fun e : ShapeId × Descriptor => e.2.chain == chain) ∘ storedEntry = fun e => e.2.chain == chain := by
    funext e
    simp [storedEntry]
  rw [locate?, locate?, named_restored, List.find?_map, atPlace, List.head?_map]
  cases (outline.named id).find? fun e => e.2.chain == chain <;> rfl

/-! ## Layouts along a line -/

def declaredAt? (outline : Outline) (place : String × List String) : Option String :=
  (outline.locate? place.1 place.2).bind (·.2.declared?)

theorem inheritedLayout?_eq (outline : Outline) (d : Descriptor) :
    outline.inheritedLayout? d = d.lineage.reverse.findSome? outline.declaredAt? := rfl

theorem layout_eq (outline : Outline) (d : Descriptor) : outline.layout d =
    ((d.declared?.or (outline.prescribedLayout? d)).or (outline.inheritedLayout? d)).getD defaultLayout.token := by
  unfold layout Descriptor.declared?
  by_cases h : d.layout = "" <;> simp [h]

/-- A parent prescribes for its children what it did before. -/
theorem prescribedLayout?_restored (outline : Outline) (d : Descriptor) :
    outline.restored.prescribedLayout? d = outline.prescribedLayout? d := by
  have parent : outline.restored.parent? d = (outline.parent? d).map storedEntry := by
    unfold parent?
    cases d.parentId? with
    | none => rfl
    | some id => exact locate?_restored outline id _
  have child (p : Descriptor) : p.stored.child? d.current = p.child? d.current := by
    simp [Descriptor.child?]
  rw [prescribedLayout?, prescribedLayout?, parent]
  cases outline.parent? d with
  | none => rfl
  | some p => simp [storedEntry, child]

/-- Below the root of a line nothing has changed. -/
theorem Settled.declaredAt?_restored (hs : outline.Settled) (he : (node, d) ∈ outline)
    {place : String × List String} (hplace : place ∈ d.lineage) (hc : place.2 ≠ []) :
    outline.restored.declaredAt? place = outline.declaredAt? place := by
  rw [declaredAt?, declaredAt?, locate?_restored]
  cases hl : outline.locate? place.1 place.2 with
  | none => rfl
  | some e =>
    obtain ⟨hm, hcur, hchain⟩ := locate?_spec hl
    rcases hs (node, d) he place hplace with atPlace | absent
    · have inPlace : e.2.chain = place.2 := hchain atPlace
      simp [storedEntry, Descriptor.stored_of_chain (inPlace ▸ hc)]
    · exact absurd hcur (absent e hm)

theorem declaredAt?_restored_getD (outline : Outline) (place : String × List String) :
    (outline.restored.declaredAt? place).getD defaultLayout.token =
      (outline.declaredAt? place).getD defaultLayout.token := by
  rw [declaredAt?, declaredAt?, locate?_restored]
  cases outline.locate? place.1 place.2 with
  | none => rfl
  | some e => exact e.2.declared?_stored_getD

theorem lineage_cons {id : String} {chain : List String} (h : d.chain = id :: chain) :
    ∃ rest, d.lineage = (id, []) :: rest ∧ ∀ place ∈ rest, place.2 ≠ [] := by
  refine ⟨_, by rw [Descriptor.lineage, h, List.mapIdx_cons]; rfl, fun place hplace => ?_⟩
  obtain ⟨i, hi, rfl⟩ := List.mem_mapIdx.1 hplace
  simp

/-- The root of a line is asked last, so what it declares may change between nothing and the default. -/
theorem Settled.inheritedLayout?_restored (hs : outline.Settled) (he : (node, d) ∈ outline) :
    (outline.restored.inheritedLayout? d).getD defaultLayout.token =
      (outline.inheritedLayout? d).getD defaultLayout.token := by
  rw [inheritedLayout?_eq, inheritedLayout?_eq]
  cases hchain : d.chain with
  | nil => simp [Descriptor.lineage, hchain]
  | cons id chain =>
    obtain ⟨rest, hline, hrest⟩ := lineage_cons hchain
    have below : rest.reverse.findSome? outline.restored.declaredAt? = rest.reverse.findSome? outline.declaredAt? := by
      rw [← List.head?_filterMap, ← List.head?_filterMap]
      refine congrArg List.head? (List.filterMap_congr fun place hplace => ?_)
      have hplace := List.mem_reverse.1 hplace
      exact hs.declaredAt?_restored he (hline ▸ List.mem_cons_of_mem _ hplace) (hrest place hplace)
    have root := outline.declaredAt?_restored_getD (id, [])
    rw [hline, List.reverse_cons, List.findSome?_append, List.findSome?_append, below]
    cases rest.reverse.findSome? outline.declaredAt? with
    | some layout => rfl
    | none => simpa using root

/-- Storing all descriptors again changes no effective layout. -/
theorem Settled.layout_restored (hs : outline.Settled) (he : (node, d) ∈ outline) :
    outline.restored.layout d.stored = outline.layout d := by
  rw [layout_eq, layout_eq]
  by_cases hc : d.chain = []
  · have alone (o : Outline) (r : Descriptor) (hr : r.chain = []) :
        o.prescribedLayout? r = none ∧ o.inheritedLayout? r = none := by
      simp [prescribedLayout?, parent?, Descriptor.parentId?, inheritedLayout?, Descriptor.lineage, hr]
    obtain ⟨prescribed, inherited⟩ := alone outline d hc
    obtain ⟨prescribed', inherited'⟩ := alone outline.restored d.stored (by simpa using hc)
    simpa [prescribed, inherited, prescribed', inherited'] using d.declared?_stored_getD
  · rw [Descriptor.stored_of_chain hc, prescribedLayout?_restored]
    cases d.declared?.or (outline.prescribedLayout? d) with
    | some layout => rfl
    | none => exact hs.inheritedLayout?_restored he

end Outline

end FlowDeck
