import FlowDeck.Proofs.Command.Creating
import FlowDeck.Proofs.Deck.Redrawn

/-!
# The same children on another slide

A command that creates children looks at the node, at what it keeps and at the children that are found
below it. Where two slides show the same of these, the same children are created on both.
-/

namespace FlowDeck

open Slide Edit

variable {sl sl' now now' mid mid' after after' : Slide} {node id id' : ShapeId} {parent d : Descriptor} {desk : Desk}

namespace Slide

/-- Both slides show the same of a node that is typed, and of the children below it. -/
structure SameView (now now' : Slide) (node : ShapeId) (parent : Descriptor) : Prop where
  here : now.outline.lookup node = some parent
  here' : now'.outline.lookup node = some parent
  alike : now.AlikeAt node now' node
  children : (childrenBelow now'.outline parent).map (fun e => (e.1, e.2.current)) =
    (childrenBelow now.outline parent).map fun e => (e.1, e.2.current)
  boxes : ∀ id ∈ (childrenBelow now.outline parent).map (·.1),
    ∃ s s', now.shape? id = some s ∧ now'.shape? id = some s' ∧ s'.box = s.box

theorem SameView.childNodes (h : now.SameView now' node parent) :
    (childrenBelow now'.outline parent).map (·.1) = (childrenBelow now.outline parent).map (·.1) := by
  simpa [Function.comp_def] using congrArg (List.map Prod.fst) h.children

theorem SameView.childIds (h : now.SameView now' node parent) :
    (childrenBelow now'.outline parent).map (·.2.current) = (childrenBelow now.outline parent).map (·.2.current) := by
  simpa [Function.comp_def] using congrArg (List.map Prod.snd) h.children

theorem SameView.symm (h : now.SameView now' node parent) : now'.SameView now node parent where
  here := h.here'
  here' := h.here
  alike := by
    obtain ⟨s, s', hs, hs', same⟩ := h.alike
    exact ⟨s', s, hs', hs, same.symm⟩
  children := h.children.symm
  boxes id hid := by
    rw [h.childNodes] at hid
    obtain ⟨s, s', hs, hs', same⟩ := h.boxes id hid
    exact ⟨s', s, hs', hs, same.symm⟩

def MadeAlike (sl sl' : Slide) (node : ShapeId) (c : Creation) (after : Slide) (c' : Creation)
    (after' : Slide) : Prop :=
  ∃ d kids kids' lines lines', sl.Made node d kids lines c after ∧ sl'.Made node d kids' lines' c' after' ∧
    kids'.map (·.content) = kids.map (·.content) ∧ lines'.map (·.content) = lines.map (·.content) ∧
    c'.childIds = c.childIds

theorem AddedAlike.contents {new new' : List Shape} (h : sl.AddedAlike now sl' now' new new') :
    new'.map (·.content) = new.map (·.content) :=
  map_eq_of_forall₂ h.alike fun _ _ same => same

theorem AddedAlike.alikeAt {new new' : List Shape} (h : sl.AddedAlike now sl' now' new new')
    (ha : sl.AlikeAt id sl' id') :
    now.AlikeAt id now' id' := by
  rw [h.eq, h.eq']
  exact ha.append new new'

theorem AlikeAt.storing (h : sl.AlikeAt id sl' id) (d : Descriptor) :
    (sl.storing id d).AlikeAt id (sl'.storing id d) id := by
  obtain ⟨s, s', hs, hs', same⟩ := h
  refine ⟨s.withMemo d.render, s'.withMemo d.render, shape?_storing hs d, shape?_storing hs' d, ?_⟩
  rw [Shape.content_withMemo, Shape.content_withMemo, same]

/-- What is new on the slides can be joined on both or on none. -/
theorem AddedAlike.ends {new new' : List Shape} (h : sl.AddedAlike now sl' now' new new')
    (hd : ∀ i i', sl.Lacks i → sl'.Lacks i' → desk.siteless i' = desk.siteless i) :
    List.Forall₂ (fun id id' => EndsAlike desk now id now' id') (new.map (·.id)) (new'.map (·.id)) := by
  rw [h.eq, h.eq']
  have found := (List.forall₂_and_left _ _).2 ⟨fun s hs => hs, h.alike⟩
  have found' := (List.forall₂_and_left _ _).2 ⟨fun s' hs' => hs', found.flip⟩
  apply List.forall₂_map_left_iff.2
  apply List.forall₂_map_right_iff.2
  refine found'.flip.imp fun s s' ⟨hs', hs, same⟩ => ⟨?_, s, s', h.fresh.shape? hs, h.fresh'.shape? hs', same⟩
  exact hd _ _ (h.fresh.lacks s hs) (h.fresh'.lacks s' hs')

theorem AddedAlike.storing {new new' : List Shape} (h : sl.AddedAlike now sl' now' new new')
    (hid : ∃ s ∈ sl, s.id = node) (hid' : ∃ s ∈ sl', s.id = node) (d : Descriptor) :
    (sl.storing node d).AddedAlike (now.storing node d) (sl'.storing node d) (now'.storing node d) new new' where
  eq := by rw [h.eq, storing_append_of_mem hid]
  eq' := by rw [h.eq', storing_append_of_mem hid']
  fresh := h.fresh.of_ids (ids_storing sl node d)
  fresh' := h.fresh'.of_ids (ids_storing sl' node d)
  alike := h.alike

end Slide

namespace Edit

theorem echoes_requireNode (h : now.hasNode node) (h' : now'.hasNode node) :
    Echoes (requireNode (some node)) (requireNode (some node)) now now'
      fun a mid a' mid' => (now = mid ∧ now' = mid') ∧ node = a ∧ node = a' := by
  refine echoes_slide.bind fun sl mid sl' mid' read => ?_
  obtain ⟨⟨rfl, rfl⟩, rfl, rfl⟩ := read
  rw [if_pos h, if_pos h']
  exact echoes_pure ⟨⟨rfl, rfl⟩, rfl, rfl⟩

theorem echoes_typed (h : now.outline.lookup node = some parent) (h' : now'.outline.lookup node = some parent) :
    Echoes (typed node) (typed node) now now'
      fun a mid a' mid' => (now = mid ∧ now' = mid') ∧ parent = a ∧ parent = a' := by
  have found : Echoes (ensureDescriptor node) (ensureDescriptor node) now now'
      fun a mid a' mid' => (now = mid ∧ now' = mid') ∧ some parent = a ∧ some parent = a' := by
    refine echoes_outline.bind fun o mid o' mid' read => ?_
    obtain ⟨⟨rfl, rfl⟩, rfl, rfl⟩ := read
    rw [h, h']
    exact echoes_pure ⟨⟨rfl, rfl⟩, rfl, rfl⟩
  refine found.bind fun a mid a' mid' read => ?_
  obtain ⟨same, rfl, rfl⟩ := read
  exact echoes_pure ⟨same, rfl, rfl⟩

theorem shares_requireSide (name : String) : Shares (Command.requireSide name) (Command.requireSide name) now now' := by
  unfold Command.requireSide
  split
  · exact shares_pure _
  · exact shares_throw _

theorem echoes_drawChild (desk : Desk) (kind : String) (b : Box Float) (label : String) (d : Descriptor) :
    Echoes (Command.drawChild desk kind b label d) (Command.drawChild desk kind b label d) now now'
      fun id after id' after' => now.DrawnAlike id after now' id' after' := by
  have kept {id id' : ShapeId} {mid mid' : Slide} (hd : now.DrawnAlike id mid now' id' mid') : Echoes
      (do
        store id d
        return id)
      (do
        store id' d
        return id') mid mid' fun id after id' after' => now.DrawnAlike id after now' id' after' := by
    refine (echoes_store d hd.alikeAt).bind fun _ after _ after' h => echoes_pure ?_
    obtain ⟨rfl, rfl⟩ := h
    exact hd.modify (fun s => s.withMemo_id _) fun s => s.content_withMemo _
  refine (echoes_drawShape desk _ _).bind fun id mid id' mid' hd => ?_
  refine .ite (fun _ => ?_) fun _ => kept hd
  exact ((dressAlike_setText desk label).echoes hd).bind fun _ _ _ _ h => kept h.2

/-- Whatever is drawn one after the other is drawn alike on both slides. -/
theorem echoes_mapM_drawn {α : Type} {g : α → Edit ShapeId} (hg : ∀ x now now', Echoes (g x) (g x) now now'
      fun id after id' after' => now.DrawnAlike id after now' id' after') (xs : List α) :
    Echoes (xs.mapM g) (xs.mapM g) sl sl' fun created after created' after' =>
      ∃ new new', sl.AddedAlike after sl' after' new new' ∧ created = new.map (·.id) ∧ created' = new'.map (·.id) := by
  refine echoes_mapM _ (fun x done now done' now' h => ?_) xs ⟨[], [], addedAlike_nil sl sl', rfl, rfl⟩
  obtain ⟨new, new', added, rfl, rfl⟩ := h
  refine (hg x now now').mono fun id after id' after' hd => ?_
  obtain ⟨s, s', rfl, rfl, added⟩ := added.concat hd
  exact ⟨_, _, added, by simp, by simp⟩

theorem echoes_joinChildren (desk : Desk) (c₀ c₀' : Creation) {children children' : List ShapeId} (side side' : Side)
    (style : EdgeStyle) (hp : EndsAlike desk now c₀.parent now' c₀'.parent)
    (hc : List.Forall₂ (fun child child' => EndsAlike desk now child now' child') children children')
    (he : c₀.edges = []) (he' : c₀'.edges = []) :
    Echoes (children.foldlM (fun c child => joinChild desk c child side side' style) c₀)
      (children'.foldlM (fun c child => joinChild desk c child side side' style) c₀') now now'
      (JoinsAlike now now' c₀ c₀') := by
  refine echoes_foldlM (JoinsAlike now now' c₀ c₀') (fun child child' ends c last c' last' h => ?_) hc ?_
  · exact echoes_joinChild desk side side' style hp ends h
  · refine ⟨[], [], c₀.skipped, c₀'.skipped, addedAlike_nil now now', ?_, ?_⟩
    · rw [List.map_nil, ← he]
    · rw [List.map_nil, ← he']

end Edit

namespace Command

/-- Where two slides show the same of a node, its children are created on both or on none. -/
theorem echoes_createChildren (desk : Desk) (direction : String) (count : Int) (gap : Option (Measure Float))
    (labels : List String) (edge : Option EdgeStyle) (h : now.SameView now' node parent)
    (hd : ∀ i i', now.Lacks i → now'.Lacks i' → desk.siteless i' = desk.siteless i) :
    Echoes (createChildren desk (some node) direction count gap labels edge)
      (createChildren desk (some node) direction count gap labels edge) now now'
      (now.MadeAlike now' node) := by
  have mem := Outline.mem_of_lookup h.here
  have mem' := Outline.mem_of_lookup h.here'
  obtain ⟨s, s', hs, hs', same⟩ := h.alike
  refine (echoes_requireNode (hasNode_of_mem mem) (hasNode_of_mem mem')).bind fun a mid a' mid' read => ?_
  obtain ⟨⟨rfl, rfl⟩, rfl, rfl⟩ := read
  refine (shares_requireSide direction).followed fun direction => ?_
  refine .ite (fun _ => ?_) fun _ => ?_
  · refine (shares_note _ _ _ _).followed fun _ => echoes_pure ⟨none, [], [], [], [], ?_, ?_, rfl, rfl, rfl⟩
    · exact ⟨by simp [mayStore], rfl, rfl, fresh_nil _⟩
    · exact ⟨by simp [mayStore], rfl, rfl, fresh_nil _⟩
  refine (shares_box hs hs' (Shape.box_eq_of_content same)).followed fun parentBox => .guard ?_
  refine (shares_ofNumber _).followed fun gap => .guard ?_
  refine (echoes_typed h.here h.here').bind fun a mid a' mid' read => ?_
  obtain ⟨⟨rfl, rfl⟩, rfl, rfl⟩ := read
  refine echoes_outline.bind fun o mid o' mid' read => ?_
  obtain ⟨⟨rfl, rfl⟩, rfl, rfl⟩ := read
  -- Of the children that are there, only the numbers and the identifiers are read.
  dsimp only [newChildIds]
  rw [h.childNodes, h.childIds]
  refine (shares_boxes h.boxes).followed fun boxes => (shares_ofNumber _).followed fun corners => ?_
  refine (shares_ofNumber _).followed fun ids => (echoes_shape hs hs').bind fun t mid t' mid' read => ?_
  obtain ⟨⟨rfl, rfl⟩, rfl, rfl⟩ := read
  rw [Shape.kind_eq_of_content same]
  refine (echoes_mapM_drawn ?_ _).bind fun created drawn created' drawn' h => ?_
  · intro ⟨⟨corner, id⟩, i⟩ now now'
    exact echoes_drawChild desk _ _ _ _
  obtain ⟨kids, kids', added, rfl, rfl⟩ := h
  refine (echoes_store _ (added.alikeAt h.alike)).bind fun _ last _ last' hlast => ?_
  obtain ⟨rfl, rfl⟩ := hlast
  generalize parent.attach (ids.map fun id => { id }) = listed
  have stored := added.storing (exists_of_mem_outline mem) (exists_of_mem_outline mem') listed
  have parents : EndsAlike desk (drawn.storing node listed) node (drawn'.storing node listed) node :=
    ⟨rfl, stored.alikeAt (h.alike.storing listed)⟩
  have new : ∀ i i', (now.storing node listed).Lacks i → (now'.storing node listed).Lacks i' →
      desk.siteless i' = desk.siteless i := by
    intro i i' hi hi'
    exact hd i i' (lacks_storing.1 hi) (lacks_storing.1 hi')
  refine (echoes_joinChildren desk { parent := node, created := kids.map (·.id), childIds := ids }
    { parent := node, created := kids'.map (·.id), childIds := ids } _ _ _ parents (stored.ends new) rfl rfl).bind ?_
  intro c after c' after' joined
  obtain ⟨lines, lines', skipped, skipped', joined, rfl, rfl⟩ := joined
  refine (shares_note _ _ _ _).followed fun _ => echoes_pure ?_
  refine ⟨some listed, kids, kids', lines, lines', ⟨?_, rfl, rfl, ?_⟩, ⟨?_, rfl, rfl, ?_⟩, added.contents,
    joined.contents, rfl⟩
  · rw [joined.eq, stored.eq]
    rfl
  · exact added.fresh.append (joined.fresh.of_ids (by rw [ids_storing, added.eq]))
  · rw [joined.eq', stored.eq']
    rfl
  · exact added.fresh'.append (joined.fresh'.of_ids (by rw [ids_storing, added.eq']))

end Command

end FlowDeck
