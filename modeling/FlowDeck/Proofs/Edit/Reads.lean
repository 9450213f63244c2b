import FlowDeck.Command.Root
import FlowDeck.Proofs.Edit.Leads

/-!
# Edits that only read

Much of a command looks at the page and computes what is to be done. That leaves the shapes and the
selection alone, whether or not it comes to an end; the log may say more.
-/

namespace FlowDeck

def Page.SameContent (page after : Page) : Prop :=
  after.slide = page.slide ∧ after.selection = page.selection

theorem Page.SameContent.refl (page : Page) : page.SameContent page := ⟨rfl, rfl⟩

theorem Page.SameContent.trans {a b c : Page} (h : a.SameContent b) (h' : b.SameContent c) :
    a.SameContent c :=
  ⟨h'.1.trans h.1, h'.2.trans h.2⟩

namespace Edit

variable {α β : Type} {m : Edit α} {f : α → Edit β}

/-- The edit changes neither shapes nor selection, however it ends. -/
structure Reads (m : Edit α) : Prop where
  leads : ∀ page, Leads m page (fun _ => page.SameContent) fun _ => page.SameContent

theorem Reads.bind (hm : Reads m) (hf : ∀ a, Reads (f a)) : Reads (m >>= f) where
  leads page := leads_bind.2 ((hm.leads page).mono
    (fun a after h => ((hf a).leads after).mono (fun _ _ h' => h.trans h') fun _ _ h' => h.trans h')
    fun _ _ h => h)

theorem reads_pure (a : α) : Reads (pure a) := ⟨fun page => leads_pure.2 (.refl page)⟩

theorem reads_throw (fault : Fault) : Reads (throw fault : Edit α) := ⟨fun page => leads_throw.2 (.refl page)⟩

theorem reads_slide : Reads slide := ⟨fun page => leads_slide.2 (.refl page)⟩

theorem reads_note (level : LogLevel) (text : String) : Reads (note level text) :=
  ⟨fun page => leads_note.2 (.refl page)⟩

theorem reads_refuse (r : Refusal) : Reads (refuse r : Edit α) := reads_throw _

theorem reads_ofNumber (x : Except NumberFault α) : Reads (ofNumber x) :=
  ⟨fun page => leads_ofNumber.2 ⟨fun _ _ => .refl page, fun _ _ => .refl page⟩⟩

theorem reads_orFault (x : Except Fault α) : Reads (orFault x) :=
  ⟨fun page => leads_orFault.2 ⟨fun _ _ => .refl page, fun _ _ => .refl page⟩⟩

theorem reads_shape (id : ShapeId) : Reads (shape id) :=
  ⟨fun page => leads_shape.2 ⟨fun _ _ => .refl page, fun _ => .refl page⟩⟩

theorem reads_requireStorable (text : String) : Reads (requireStorable text) :=
  ⟨fun page => leads_requireStorable (fun _ => .refl page) (.refl page)⟩

theorem reads_box (id : ShapeId) : Reads (box id) :=
  ⟨fun page => leads_box (fun _ => .refl page) fun _ _ => .refl page⟩

theorem reads_mapM {g : α → Edit β} (hg : ∀ a, Reads (g a)) (xs : List α) : Reads (xs.mapM g) where
  leads page := leads_mapM (fun _ _ after => page.SameContent after)
    (fun x _ _ now h => ((hg x).leads now).mono (fun _ _ h' => h.trans h') fun _ _ h' => h.trans h')
    (.refl page)

theorem reads_forM {g : α → Edit Unit} (hg : ∀ a, Reads (g a)) (xs : List α) : Reads (xs.forM g) where
  leads page := leads_forM (fun _ after => page.SameContent after)
    (fun x _ now h => ((hg x).leads now).mono (fun _ _ h' => h.trans h') fun _ _ h' => h.trans h')
    (.refl page)

theorem Reads.ite {c : Prop} [Decidable c] {m' : Edit α} (h : Reads m) (h' : Reads m') :
    Reads (if c then m else m') := by
  split
  · exact h
  · exact h'

/-! ## Reading the page -/

theorem reads_outline : Reads outline := reads_slide.bind fun _ => reads_pure _

theorem reads_memo (id : ShapeId) : Reads (memo id) := (reads_shape id).bind fun _ => reads_pure _

theorem reads_descriptor? (id : ShapeId) : Reads (descriptor? id) :=
  (reads_shape id).bind fun _ => reads_pure _

theorem reads_boxes (ids : List ShapeId) : Reads (boxes ids) := reads_mapM reads_box ids

theorem reads_requireNode (node : Option ShapeId) : Reads (requireNode node) := by
  unfold requireNode
  cases node with
  | none => exact reads_refuse _
  | some id =>
    refine reads_slide.bind fun sl => ?_
    split
    · exact reads_pure _
    · exact reads_refuse _

theorem reads_requireDescriptor (node : Option ShapeId) : Reads (requireDescriptor node) := by
  refine (reads_requireNode node).bind fun id => (reads_descriptor? id).bind fun d => ?_
  split
  · exact reads_pure _
  · exact reads_refuse _

/-! ## Computing what to draw -/

theorem reads_drawable (colour : Option Rgb) : Reads (drawable colour) := by
  unfold drawable
  split
  · exact .ite (reads_pure _) (reads_throw _)
  · exact reads_pure _

theorem reads_kindNamed (name : String) : Reads (kindNamed name) := by
  unfold kindNamed
  exact .ite (reads_pure _) ((reads_note _ _).bind fun _ => reads_pure _)

theorem reads_roughly (length : Measure Float) : Reads (roughly length) :=
  (reads_ofNumber _).bind fun _ => reads_pure _

theorem reads_notePlace (name : String) (id : ShapeId) (b : Box (Measure Float)) :
    Reads (notePlace name id b) :=
  (reads_roughly _).bind fun _ => (reads_roughly _).bind fun _ => (reads_roughly _).bind fun _ =>
    (reads_roughly _).bind fun _ => reads_note _ _

theorem reads_arrowType (arrow : Option String) : Reads (arrowType arrow) := by
  unfold arrowType
  split
  · exact reads_pure _
  · split
    · exact reads_pure _
    · exact reads_pure _
    · exact reads_throw _

theorem reads_courseNamed (lineType : String) : Reads (courseNamed lineType) := by
  unfold courseNamed
  split
  · exact reads_pure _
  · exact (reads_note _ _).bind fun _ => reads_pure _

theorem reads_siteOn (desk : Desk) (id : ShapeId) (side : Side) : Reads (siteOn desk id side) := by
  have sites : Reads (sitesOf desk id) := by
    unfold sitesOf
    exact .ite (reads_pure _) ((reads_shape id).bind fun _ => (reads_box id).bind fun _ => reads_pure _)
  exact sites.bind fun _ => reads_pure _

theorem reads_layoutBelow (node : ShapeId) : Reads (layoutBelow node) := by
  refine reads_outline.bind fun o => ?_
  unfold layoutIn
  split
  · exact reads_pure _
  · refine (reads_descriptor? node).bind fun d => ?_
    split <;> exact reads_pure _

end Edit

end FlowDeck
