import FlowDeck.Hierarchy.Outline
import FlowDeck.Proofs.Hierarchy.Depth

/-!
# Marks inside identifiers

The identifier of a node may hold a bar or a colon, the entries of a chain may not. So a chain through
such an identifier is cut up when it is read, and what was stored below the node does not count as a
child of it any more.
-/

namespace FlowDeck

namespace Record

variable {chain : List String} {id : String}

/-- Neither a bar nor a colon is in the identifier: it comes back from a chain as it is. -/
def Chainable (id : String) : Prop :=
  '|' ∉ id.toList ∧ ':' ∉ id.toList

instance (id : String) : Decidable (Chainable id) :=
  inferInstanceAs (Decidable (_ ∧ _))

theorem Fits.chainable (h : Fits ['|', ':', ']'] id) : Chainable id :=
  ⟨h.free _ (by simp), h.free _ (by simp)⟩

theorem chainText_cons (id : String) (h : chain ≠ []) :
    chainText (id :: chain) = id.toList ++ '|' :: chainText chain := by
  obtain ⟨second, others, rfl⟩ := List.exists_cons_of_ne_nil h
  rw [chainText, List.map_cons, List.map_cons, List.intercalate_cons_cons]
  simp [chainText]

theorem readChain_append (s t : List Char) : readChain (s ++ '|' :: t) = readChain s ++ readChain t := by
  rw [readChain, List.splitOn_append_cons_self, List.map_append, List.filter_append]; rfl

theorem readChain_entry (h : Fits ['|', ':', ']'] id) : readChain id.toList = [id] := by
  have single : ∀ other ∈ [id], Fits ['|', ':', ']'] other := by simpa using h
  simpa [chainText] using readChain_chainText single

/-- An entry is cut where it holds a mark; those in front of it are not. -/
theorem readChain_concat (h : ∀ id ∈ chain, Fits ['|', ':', ']'] id) (id : String) :
    readChain (chainText (chain ++ [id])) = chain ++ readChain id.toList := by
  induction chain with
  | nil => simp [chainText]
  | cons first others ih =>
    have alone : readChain first.toList = [first] := readChain_entry (h first List.mem_cons_self)
    rw [List.cons_append, chainText_cons first (by simp), readChain_append, alone,
      ih fun id hid => h id (List.mem_cons_of_mem _ hid)]
    rfl

theorem Fits.of_chainable (hf : Fits [']'] id) (h : Chainable id) : Fits ['|', ':', ']'] id where
  ne_empty := hf.ne_empty
  stripped := hf.stripped
  free := by simpa using ⟨h.1, h.2, hf.free _ (by simp)⟩

theorem bracket_not_mem_chainText_concat (h : ∀ id ∈ chain, Fits ['|', ':', ']'] id) (hid : ']' ∉ id.toList) :
    ']' ∉ chainText (chain ++ [id]) := by
  intro hm
  rcases Text.mem_intercalate hm with hb | ⟨piece, hp, hc⟩
  · simp at hb
  · obtain ⟨other, ho, rfl⟩ := List.mem_map.1 hp
    rcases List.mem_append.1 ho with ho | ho
    · exact (h other ho).free _ (by simp) hc
    · exact hid (List.mem_singleton.1 ho ▸ hc)

theorem bracket_not_mem_childrenText_of {children : List ChildRef}
    (h : ∀ c ∈ children, ']' ∉ c.id.toList ∧ (c.layout = "" ∨ c.layout ∈ Layout.tokens)) :
    ']' ∉ childrenText children := by
  intro hm
  rcases Text.mem_intercalate hm with hb | ⟨piece, hp, hc⟩
  · simp at hb
  obtain ⟨c, hcm, rfl⟩ := List.mem_map.1 hp
  obtain ⟨hid, hlayout⟩ := h c hcm
  unfold childText at hc
  split at hc
  · exact hid hc
  · next hne =>
    have token := (fits_token (hlayout.resolve_left hne)).free ']' (by simp)
    simp [hid, token] at hc

end Record

namespace Descriptor

open Record

variable {d parent : Descriptor}

/-- A descriptor whose parts can be told apart in its text is read back part by part. -/
theorem read?_render_of (hcurrent : Fits [']'] d.current) (hchain : ']' ∉ chainText d.chain)
    (hlayout : d.layout = "" ∨ d.layout ∈ Layout.tokens) (hchildren : ']' ∉ childrenText d.children) :
    read? d.render = some ⟨d.current, readChain (chainText d.chain), d.stored.layout,
      readChildren (childrenText d.children)⟩ := by
  have separable : d.parts.Separable := {
    chain := hchain
    layout := fun l hl => by
      obtain rfl : d.layout.toList = l := by
        unfold parts at hl
        split at hl
        · cases hl
        · simpa using hl
      rcases hlayout with hl | hl
      · simp [hl]
      · exact (fits_token hl).free _ (by simp)
    current := hcurrent.free _ (by simp)
    children := hchildren }
  have layout : readLayout? d.parts.layout = some d.stored.layout := by
    unfold parts stored
    split
    · rfl
    · simp only [readLayout?, plain_token hlayout]
      exact if_pos hlayout
  have current : plain d.parts.current = d.current := plain_toList hcurrent.stripped
  rw [read?, strip_render, Record.parts?_eq_some_iff.2 ⟨separable, toList_render d⟩, Option.bind_some]
  simp only [Parts.read?, layout, current, Option.bind_eq_bind, Option.bind_some, if_neg hcurrent.ne_empty]
  rfl

/-- What is read back of a node that is stored below a parent. -/
theorem read?_render_below {id layout : String} {children : List ChildRef} (hp : parent.WellFormed)
    (hid : Fits [']'] id) (hl : layout = "" ∨ layout ∈ Layout.tokens) (hc : ']' ∉ childrenText children) :
    ∃ d, read? (render ⟨id, parent.chainBelow, layout, children⟩) = some d ∧
      d.chain = parent.chain ++ readChain parent.current.toList := by
  have bracket : ']' ∉ chainText parent.chainBelow :=
    bracket_not_mem_chainText_concat hp.chain (hp.current.free _ (by simp))
  exact ⟨_, read?_render_of hid bracket hl hc, readChain_concat hp.chain _⟩

theorem current_of_read?_below {id layout : String} {children : List ChildRef} (hp : parent.WellFormed)
    (hid : Fits [']'] id) (hl : layout = "" ∨ layout ∈ Layout.tokens) (hc : ']' ∉ childrenText children)
    (hd : read? (render ⟨id, parent.chainBelow, layout, children⟩) = some d) : d.current = id := by
  have bracket : ']' ∉ chainText parent.chainBelow :=
    bracket_not_mem_chainText_concat hp.chain (hp.current.free _ (by simp))
  rw [read?_render_of hid bracket hl hc] at hd
  cases hd
  rfl

/-- What is read back of a parent that lists a child more. -/
theorem read?_render_attach {refs : List ChildRef} (hp : parent.WellFormed)
    (hr : ∀ ref ∈ refs, ']' ∉ ref.id.toList ∧ (ref.layout = "" ∨ ref.layout ∈ Layout.tokens)) :
    ∃ d, read? (parent.attach refs).render = some d ∧ d.current = parent.current ∧ d.chain = parent.chain := by
  have children : ']' ∉ childrenText (parent.attach refs).children := by
    refine bracket_not_mem_childrenText_of fun c hc => ?_
    rcases mem_foldl_attachRef hc with hc | hc
    · exact ⟨(hp.childIds c hc).free _ (by simp), hp.childLayouts c hc⟩
    · exact hr c hc
  exact ⟨_, read?_render_of (d := parent.attach refs) hp.current (bracket_not_mem_chainText hp.chain) hp.layout
    children, rfl, readChain_chainText hp.chain⟩

theorem isChild_of_chainable {child : Descriptor} (hp : Fits [']'] parent.current)
    (hchild : child.chain = parent.chain ++ readChain parent.current.toList) (h : Chainable parent.current) :
    Outline.isChild child parent = true := by
  rw [readChain_entry (hp.of_chainable h)] at hchild
  simp [Outline.isChild, hchild, chainBelow]

/-- No text below an identifier with a mark in it can be read as the text of a child. -/
theorem chainable_of_isChild {text : String} {child : Descriptor} (hd : read? text = some child)
    (h : Outline.isChild child parent = true) : Chainable parent.current := by
  have listed : parent.current ∈ child.chain := by
    simp only [Outline.isChild, Bool.or_eq_true, beq_iff_eq] at h
    rcases h with h | h <;> simp [h, chainBelow]
  exact ((wellFormed_of_read? hd).chain _ listed).chainable

end Descriptor

end FlowDeck
