import FlowDeck.Command.Request
import FlowDeck.Proofs.Edit.Reads

/-!
# Refusals come first

Every command asks all that it may be refused for while it only reads the page, and draws and
stores only after that, in steps that are never refused. So a refusal leaves the shapes and the
selection as they were; the log may say more.
-/

namespace FlowDeck

namespace Edit

variable {α β : Type} {m : Edit α} {f : α → Edit β}

/-- The edit is not refused, whatever else may fail. -/
structure Willing (m : Edit α) : Prop where
  leads : ∀ page, Leads m page (fun _ _ => True) fun fault _ => ∀ r, fault ≠ .refused r

structure AllOrNothing (m : Edit α) : Prop where
  leads : ∀ page, Leads m page (fun _ _ => True) fun fault after =>
    (∃ r, fault = .refused r) → page.SameContent after

theorem Willing.bind (hm : Willing m) (hf : ∀ a, Willing (f a)) : Willing (m >>= f) where
  leads page := leads_bind.2 ((hm.leads page).mono (fun a after _ => (hf a).leads after) fun _ _ h => h)

theorem Reads.allOrNothing (hm : Reads m) : AllOrNothing m where
  leads page := (hm.leads page).mono (fun _ _ _ => trivial) fun _ _ h _ => h

theorem Willing.allOrNothing (hm : Willing m) : AllOrNothing m where
  leads page := (hm.leads page).mono (fun _ _ _ => trivial) fun _ _ h hr => absurd hr.choose_spec (h _)

/-- What is refused after a reading has changed nothing since the reading began. -/
theorem Reads.then (hm : Reads m) (hf : ∀ a, AllOrNothing (f a)) : AllOrNothing (m >>= f) where
  leads page := leads_bind.2 ((hm.leads page).mono
    (fun a after h => ((hf a).leads after).mono (fun _ _ _ => trivial) fun _ _ h' hr => h.trans (h' hr))
    fun _ _ h _ => h)

theorem willing_pure (a : α) : Willing (pure a) := ⟨fun _ => leads_pure.2 trivial⟩

theorem willing_throw {fault : Fault} (h : ∀ r, fault ≠ .refused r) : Willing (throw fault : Edit α) :=
  ⟨fun _ => leads_throw.2 h⟩

theorem willing_slide : Willing slide := ⟨fun _ => leads_slide.2 trivial⟩

theorem willing_note (level : LogLevel) (text : String) : Willing (note level text) :=
  ⟨fun _ => leads_note.2 trivial⟩

theorem willing_ofNumber (x : Except NumberFault α) : Willing (ofNumber x) :=
  ⟨fun _ => leads_ofNumber.2 ⟨fun _ _ => trivial, fun _ _ => nofun⟩⟩

theorem willing_orFault {x : Except Fault α} (hx : ∀ r, x ≠ .error (.refused r)) : Willing (orFault x) :=
  ⟨fun _ => leads_orFault.2 ⟨fun _ _ => trivial, fun _ h r e => hx r (h.trans (congrArg _ e))⟩⟩

theorem willing_shape (id : ShapeId) : Willing (shape id) :=
  ⟨fun _ => leads_shape.2 ⟨fun _ _ => trivial, fun _ => nofun⟩⟩

theorem willing_change (id : ShapeId) (g : Shape → Shape) : Willing (change id g) :=
  ⟨fun _ => leads_change.2 trivial⟩

theorem willing_add (title : String) (form : Form) : Willing (add title form) :=
  ⟨fun _ => leads_add.2 trivial⟩

theorem willing_requireStorable (text : String) : Willing (requireStorable text) :=
  ⟨fun _ => leads_requireStorable (fun _ => trivial) nofun⟩

theorem willing_box (id : ShapeId) : Willing (box id) :=
  ⟨fun _ => leads_box (fun _ => trivial) fun _ h => h⟩

theorem willing_mapM {g : α → Edit β} (hg : ∀ a, Willing (g a)) (xs : List α) : Willing (xs.mapM g) :=
  ⟨fun _ => leads_mapM (fun _ _ _ => True) (fun x _ _ now _ => (hg x).leads now) trivial⟩

theorem willing_forM {g : α → Edit Unit} (hg : ∀ a, Willing (g a)) (xs : List α) : Willing (xs.forM g) :=
  ⟨fun _ => leads_forM (fun _ _ => True) (fun x _ now _ => (hg x).leads now) trivial⟩

theorem willing_foldlM {g : β → α → Edit β} (hg : ∀ b a, Willing (g b a)) (b : β) (xs : List α) :
    Willing (xs.foldlM g b) :=
  ⟨fun _ => leads_foldlM (fun _ _ _ => True) (fun x _ b now _ => (hg b x).leads now) trivial⟩

/-! ## Reading the page -/

theorem willing_outline : Willing outline := willing_slide.bind fun _ => willing_pure _

theorem willing_memo (id : ShapeId) : Willing (memo id) := (willing_shape id).bind fun _ => willing_pure _

theorem willing_descriptor? (id : ShapeId) : Willing (descriptor? id) :=
  (willing_shape id).bind fun _ => willing_pure _

theorem willing_boxes (ids : List ShapeId) : Willing (boxes ids) := willing_mapM willing_box ids

/-! ## Drawing and storing -/

theorem willing_drawable (colour : Option Rgb) : Willing (drawable colour) := by
  unfold drawable
  split
  · split
    · exact willing_pure _
    · exact willing_throw nofun
  · exact willing_pure _

theorem willing_kindNamed (name : String) : Willing (kindNamed name) := by
  unfold kindNamed
  generalize (if name = "" then Kind.rectangle else Text.upper name) = kind
  dsimp only
  split
  · exact willing_pure _
  · exact (willing_note _ _).bind fun _ => willing_pure _

theorem willing_roughly (length : Measure Float) : Willing (roughly length) :=
  (willing_ofNumber _).bind fun _ => willing_pure _

theorem willing_notePlace (name : String) (id : ShapeId) (b : Box (Measure Float)) :
    Willing (notePlace name id b) :=
  (willing_roughly _).bind fun _ => (willing_roughly _).bind fun _ => (willing_roughly _).bind fun _ =>
    (willing_roughly _).bind fun _ => willing_note _ _

theorem willing_drawShape (desk : Desk) (name : String) (b : Box (Measure Float)) :
    Willing (drawShape desk name b) := by
  have finish (id : ShapeId) : Willing (do
      if desk.debug then notePlace name id b
      return id) := by
    dsimp only
    split
    · exact (willing_notePlace name id b).bind fun _ => willing_pure _
    · exact willing_pure _
  unfold drawShape
  refine (willing_kindNamed name).bind fun kind => ?_
  refine (willing_ofNumber b.x.units).bind fun x => ?_
  refine (willing_ofNumber b.y.units).bind fun y => ?_
  refine (willing_ofNumber b.width.units).bind fun w => ?_
  refine (willing_ofNumber b.height.units).bind fun h => ?_
  refine (willing_forM (fun length => willing_ofNumber (Number.checkLength length)) [x, y, w, h]).bind
    fun _ => ?_
  refine (willing_add _ _).bind fun id => ?_
  dsimp only
  split
  · exact (willing_drawable _).bind fun _ => (willing_change _ _).bind fun _ =>
      (willing_drawable _).bind fun _ => (willing_change _ _).bind fun _ => finish id
  · exact finish id

theorem willing_setPlainText (id : ShapeId) (text : String) : Willing (setPlainText id text) := by
  unfold setPlainText
  dsimp only
  split
  · exact willing_change _ _
  · exact (willing_change _ _).bind fun _ => willing_throw nofun

theorem willing_setText (desk : Desk) (id : ShapeId) (text : String) : Willing (setText desk id text) := by
  refine (willing_shape id).bind fun s => ?_
  split
  · exact willing_note _ _
  · refine (willing_setPlainText id text).bind fun _ => ?_
    show Willing (ite _ _ _)
    split
    · exact (willing_drawable _).bind fun _ => willing_change _ _
    · exact willing_pure _

theorem willing_arrowType (arrow : Option String) : Willing (arrowType arrow) := by
  unfold arrowType
  split
  · exact willing_pure _
  · split
    · exact willing_pure _
    · exact willing_pure _
    · exact willing_throw nofun

theorem willing_courseNamed (lineType : String) : Willing (courseNamed lineType) := by
  unfold courseNamed
  split
  · exact willing_pure _
  · exact (willing_note _ _).bind fun _ => willing_pure _

theorem willing_drawEdge (desk : Desk) (a b : Point Float) (style : EdgeStyle) :
    Willing (drawEdge desk a b style) :=
  (willing_courseNamed _).bind fun _ => (willing_ofNumber _).bind fun _ => (willing_ofNumber _).bind fun _ =>
    (willing_ofNumber _).bind fun _ => (willing_ofNumber _).bind fun _ => (willing_add _ _).bind fun _ =>
    (willing_drawable _).bind fun _ => (willing_change _ _).bind fun _ => (willing_arrowType _).bind fun _ =>
    (willing_change _ _).bind fun _ => (willing_arrowType _).bind fun _ => (willing_change _ _).bind fun _ =>
    willing_pure _

theorem willing_siteOn (desk : Desk) (id : ShapeId) (side : Side) : Willing (siteOn desk id side) := by
  have sites : Willing (sitesOf desk id) := by
    unfold sitesOf
    split
    · exact willing_pure _
    · exact (willing_shape id).bind fun _ => (willing_box id).bind fun _ => willing_pure _
  exact sites.bind fun _ => willing_pure _

theorem willing_join (desk : Desk) (a b : ShapeId) (sideA sideB : Side) (style : EdgeStyle) :
    Willing (join desk a b sideA sideB style) := by
  refine (willing_siteOn desk a sideA).bind fun pointA => (willing_siteOn desk b sideB).bind fun pointB => ?_
  split
  · exact (willing_drawEdge _ _ _ _).bind fun _ => (willing_note _ _).bind fun _ => willing_pure _
  · exact (willing_note _ _).bind fun _ => willing_pure _

theorem willing_joinChild (desk : Desk) (c : Creation) (child : ShapeId) (side side' : Side)
    (style : EdgeStyle) : Willing (joinChild desk c child side side' style) := by
  refine (willing_join _ _ _ _ _ _).bind fun edge => ?_
  split <;> exact willing_pure _

theorem willing_setMemo (id : ShapeId) (text : String) : Willing (setMemo id text) := by
  refine (willing_shape id).bind fun s => (willing_requireStorable _).bind fun _ =>
    (willing_change _ _).bind fun _ => ?_
  have last : Willing (if s.hasMisplacedText then
      note .debug s!"🔁 Migrated descriptor out of the text of shape {id}" else pure ()) := by
    split
    · exact willing_note _ _
    · exact willing_pure _
  dsimp only
  split
  · exact (willing_note _ _).bind fun _ => last
  · exact last

theorem willing_store (id : ShapeId) (d : Descriptor) : Willing (store id d) :=
  (willing_setMemo _ _).bind fun _ => willing_note _ _

theorem willing_clearMemo (id : ShapeId) : Willing (clearMemo id) := by
  refine (willing_memo id).bind fun previous => (willing_setMemo _ _).bind fun _ => ?_
  dsimp only
  split
  · exact (willing_note _ _).bind fun _ => willing_pure _
  · exact willing_pure _

theorem willing_plantRoot (node : ShapeId) : Willing (plantRoot node) :=
  willing_outline.bind fun _ => (willing_ofNumber _).bind fun _ => (willing_store _ _).bind fun _ =>
    (willing_note _ _).bind fun _ => willing_pure _

theorem willing_typed (node : ShapeId) : Willing (typed node) := by
  have ensure : Willing (ensureDescriptor node) := by
    refine willing_outline.bind fun o => ?_
    split
    · exact willing_pure _
    · exact (willing_plantRoot node).bind fun _ => willing_outline.bind fun _ => willing_pure _
  refine ensure.bind fun d => ?_
  split
  · exact willing_pure _
  · exact willing_throw nofun

theorem willing_layoutBelow (node : ShapeId) : Willing (layoutBelow node) := by
  refine willing_outline.bind fun o => ?_
  unfold layoutIn
  split
  · exact willing_pure _
  · refine (willing_descriptor? node).bind fun d => ?_
    split <;> exact willing_pure _

theorem willing_readLayout (token : Option String) : Willing (orFault (Layout.read token)) := by
  refine willing_orFault fun r h => ?_
  unfold Layout.read at h
  split at h <;> cases h

theorem willing_drawChild (desk : Desk) (kind : String) (b : Box Float) (label : String) (d : Descriptor) :
    Willing (Command.drawChild desk kind b label d) := by
  refine (willing_drawShape _ _ _).bind fun child => ?_
  dsimp only
  split
  · exact (willing_setText _ _ _).bind fun _ => (willing_store _ _).bind fun _ => willing_pure _
  · exact (willing_store _ _).bind fun _ => willing_pure _

theorem willing_drawCell (desk : Desk) (label : String) (cell : Box Float) :
    Willing (Command.drawCell desk label cell) := by
  refine (willing_drawShape _ _ _).bind fun node => ?_
  dsimp only
  split
  · exact (willing_setText _ _ _).bind fun _ => willing_pure _
  · exact willing_pure _

theorem willing_select (id : ShapeId) (additive : Bool) : Willing (select id additive) :=
  ⟨fun _ => leads_select.2 trivial⟩

theorem AllOrNothing.ite {c : Prop} [Decidable c] {m' : Edit α} (h : AllOrNothing m) (h' : AllOrNothing m') :
    AllOrNothing (if c then m else m') := by
  split
  · exact h
  · exact h'

/-- Nothing follows a refusal. -/
theorem allOrNothing_refuse (r : Refusal) : AllOrNothing (refuse r >>= f) where
  leads page := leads_bind.2 (leads_refuse.2 fun _ => .refl page)

/-- A refusal under a condition, before what else there is to do. -/
theorem AllOrNothing.guard {c : Prop} [Decidable c] {r : Refusal} {rest : Unit → Edit β}
    (h : AllOrNothing (rest ())) : AllOrNothing (if c then refuse r >>= rest else rest ()) :=
  .ite (allOrNothing_refuse r) h

theorem willing_forIn {g : α → Unit → Edit (ForInStep Unit)} (hg : ∀ a, Willing (g a ())) (xs : List α) :
    Willing (forIn xs () g) :=
  ⟨fun _ => leads_forIn (fun _ => True) (fun x now _ => (hg x).leads now) trivial⟩

end Edit

namespace Command

open Edit

theorem allOrNothing_initRoot (node : Option ShapeId) : AllOrNothing (initRoot node) := by
  refine (reads_requireNode node).then fun id => (reads_descriptor? id).then fun d => ?_
  split
  · split
    · exact ((reads_note _ _).bind fun _ => reads_pure _).allOrNothing
    · exact (willing_plantRoot id).allOrNothing
  · exact (willing_plantRoot id).allOrNothing

theorem reads_requireSide (name : String) : Reads (requireSide name) := by
  unfold requireSide
  split
  · exact reads_pure _
  · exact reads_refuse _

theorem allOrNothing_createChildren (desk : Desk) (node : Option ShapeId) (direction : String) (count : Int)
    (gap : Option (Measure Float)) (labels : List String) (edge : Option EdgeStyle) :
    AllOrNothing (createChildren desk node direction count gap labels edge) := by
  refine (reads_requireNode node).then fun node => (reads_requireSide direction).then fun direction => ?_
  refine .ite ((reads_note _ _).bind fun _ => reads_pure _).allOrNothing ?_
  refine (reads_box node).then fun parentBox => .guard ?_
  refine (reads_ofNumber _).then fun gap => .guard ?_
  -- The parent may have become a root by now, so from here on nothing may be refused.
  refine Willing.allOrNothing ?_
  refine (willing_typed node).bind fun parent => willing_outline.bind fun outline => ?_
  refine (willing_boxes _).bind fun boxes => (willing_ofNumber _).bind fun corners => ?_
  refine (willing_ofNumber _).bind fun ids => (willing_shape node).bind fun s => ?_
  refine (willing_mapM (fun _ => willing_drawChild _ _ _ _ _) _).bind fun created => ?_
  refine (willing_store _ _).bind fun _ => ?_
  refine (willing_foldlM (fun _ _ => willing_joinChild _ _ _ _ _ _) _ _).bind fun creation => ?_
  exact (willing_note _ _).bind fun _ => willing_pure _

theorem allOrNothing_createSibling (desk : Desk) (node : Option ShapeId) (gap : Option (Measure Float))
    (edge : Option EdgeStyle) : AllOrNothing (createSibling desk node gap edge) := by
  refine (reads_requireDescriptor node).then fun (node, d) => .guard ?_
  refine reads_outline.then fun outline => ?_
  split
  · exact (reads_refuse _).allOrNothing
  refine Willing.allOrNothing ?_
  refine (willing_readLayout _).bind fun layout => (willing_boxes _).bind fun boxes => ?_
  refine (willing_ofNumber _).bind fun corners => (willing_ofNumber _).bind fun id => ?_
  refine (willing_box node).bind fun size => (willing_shape node).bind fun s => ?_
  refine (willing_mapM (fun _ => willing_drawChild _ _ _ _ _) _).bind fun created => ?_
  refine (willing_store _ _).bind fun _ => ?_
  refine (willing_foldlM (fun _ _ => willing_joinChild _ _ _ _ _ _) _ _).bind fun creation => ?_
  exact (willing_note _ _).bind fun _ => willing_pure _

theorem allOrNothing_split (desk : Desk) (node : Option ShapeId) (rows : List (List String))
    (padding paddingTop gap : Option (Measure Float)) :
    AllOrNothing (split desk node rows padding paddingTop gap) := by
  refine (reads_requireNode node).then fun node => .guard ?_
  refine (reads_box node).then fun parent => (reads_ofNumber _).then fun refusal => ?_
  cases refusal with
  | some r => exact allOrNothing_refuse r
  | none =>
    refine (reads_ofNumber _).then fun cells => Willing.allOrNothing ?_
    refine (willing_mapM (fun _ => willing_mapM (fun _ => willing_drawCell _ _ _) _) _).bind fun created => ?_
    exact (willing_note _ _).bind fun _ => willing_pure _

theorem reads_requireTwo (a b : Option ShapeId) : Reads (requireTwo a b) := by
  refine (reads_requireNode a).bind fun a => (reads_requireNode b).bind fun b => ?_
  split
  · exact (reads_refuse _).bind fun _ => reads_pure _
  · exact reads_pure _

theorem reads_requireOrientation (name : String) : Reads (requireOrientation name) := by
  unfold requireOrientation
  split
  · exact reads_pure _
  · exact reads_refuse _

theorem allOrNothing_connect (desk : Desk) (a b : Option ShapeId) (orientation : Option String)
    (edge : Option EdgeStyle) : AllOrNothing (connect desk a b orientation edge) := by
  refine (reads_requireTwo a b).then fun (a, b) => (reads_box a).then fun boxA => (reads_box b).then fun boxB => ?_
  cases orientation with
  | none => exact (reads_pure _).then fun orientation => (willing_join _ _ _ _ _ _).allOrNothing
  | some name =>
    exact (reads_requireOrientation name).then fun orientation => (willing_join _ _ _ _ _ _).allOrNothing

/-- The child must not be among the ancestors of the parent, if the parent has any. -/
theorem allOrNothing_unlessAncestor {α : Type} (parentNode childNode : ShapeId) (d : Option Descriptor)
    {rest : Unit → Edit α} (h : AllOrNothing (rest ())) :
    AllOrNothing (match d with
      | some d => do
        if ((← outline).ancestors parentNode d).contains childNode then
          let done ← refuse .childIsAncestor
          rest done
        else rest ()
      | _ => rest ()) := by
  cases d with
  | none => exact h
  | some d => exact reads_outline.then fun _ => .guard h

/-- A remark on a renumbered child changes nothing that matters. -/
theorem willing_remark {α : Type} (child : Option Descriptor) (id : String) (text : Descriptor → String)
    {rest : Unit → Edit α} (h : Willing (rest ())) :
    Willing (match child with
      | some d =>
        if d.current ≠ id then do
          let done ← note .info (text d)
          rest done
        else rest ()
      | _ => rest ()) := by
  cases child with
  | none => exact h
  | some d =>
    dsimp only
    split
    · exact (willing_note _ _).bind fun _ => h
    · exact h

theorem allOrNothing_link (desk : Desk) (a b : Option ShapeId) (edge : Option EdgeStyle) :
    AllOrNothing (link desk a b edge) := by
  refine (reads_requireTwo a b).then fun (a, b) => ?_
  refine (reads_descriptor? a).then fun first => (reads_descriptor? b).then fun second => ?_
  split
  next parentNode childNode _ =>
  refine (reads_descriptor? parentNode).then fun d => allOrNothing_unlessAncestor _ _ d ?_
  refine Willing.allOrNothing ?_
  refine (willing_typed _).bind fun parent => willing_outline.bind fun outline => ?_
  refine (willing_ofNumber _).bind fun id => willing_remark _ _ _ ?_
  refine (willing_store _ _).bind fun _ => (willing_store _ _).bind fun _ => ?_
  refine (willing_layoutBelow _).bind fun token => (willing_readLayout _).bind fun layout => ?_
  refine (willing_box _).bind fun boxP => (willing_box _).bind fun boxC => ?_
  refine (willing_joinChild _ _ _ _ _ _).bind fun creation => ?_
  exact (willing_note _ _).bind fun _ => willing_pure _

theorem allOrNothing_selectScope (scope : Scope) (node : Option ShapeId) :
    AllOrNothing (selectScope scope node) := by
  refine (reads_requireDescriptor node).then fun (node, d) => Willing.allOrNothing ?_
  refine willing_outline.bind fun outline => (willing_forIn (fun _ => ?_) _).bind fun _ => ?_
  · exact (willing_select _ _).bind fun _ => willing_pure _
  · dsimp only
    split
    · exact (willing_note _ _).bind fun _ => willing_pure _
    · exact (willing_note _ _).bind fun _ => willing_pure _

theorem allOrNothing_describe (node : Option ShapeId) : AllOrNothing (describe node) :=
  (reads_requireNode node).then fun _ => ((reads_memo _).bind fun _ => reads_pure _).allOrNothing

theorem allOrNothing_clear (node : Option ShapeId) : AllOrNothing (clear node) :=
  (reads_requireNode node).then fun id => (willing_clearMemo id).allOrNothing

theorem reads_requireLayout (text : Option String) : Reads (requireLayout text) := by
  unfold requireLayout
  dsimp only
  split
  · exact (reads_refuse _).bind fun _ => reads_pure _
  · exact reads_pure _

theorem allOrNothing_setLayout (node : Option ShapeId) (layout : Option String) :
    AllOrNothing (setLayout node layout) :=
  (reads_requireDescriptor node).then fun _ => (reads_requireLayout layout).then fun _ =>
    ((willing_store _ _).bind fun _ => willing_pure _).allOrNothing

theorem allOrNothing_setChildLayout (node : Option ShapeId) (child : String) (layout : Option String) :
    AllOrNothing (setChildLayout node child layout) :=
  (reads_requireDescriptor node).then fun _ => .guard <| (reads_requireLayout layout).then fun _ =>
    ((willing_store _ _).bind fun _ => willing_pure _).allOrNothing

theorem reads_analyze : Reads analyze := by
  refine reads_slide.bind fun slide => reads_outline.bind fun outline => ?_
  dsimp only
  split
  · exact reads_pure _
  refine (reads_mapM (fun entry => ?_) _).bind fun _ => reads_pure _
  unfold analyzeNode
  dsimp only
  split
  · exact reads_pure _
  · refine Reads.bind ?_ fun _ => reads_pure _
    exact (reads_box _).bind fun _ => (reads_boxes _).bind fun _ => (reads_note _ _).bind fun _ => reads_pure _

end Command

/-! ## All commands -/

open Edit Command in
theorem Request.allOrNothing_perform (desk : Desk) (request : Request) :
    AllOrNothing (request.perform desk) := by
  have drop {α : Type} {m : Edit α} (h : AllOrNothing m) : AllOrNothing (do let _ ← m) :=
    ⟨fun page => leads_bind.2 ((h.leads page).mono (fun _ _ _ => leads_pure.2 trivial) fun _ _ h => h)⟩
  cases request with
  | initRoot node => exact drop (allOrNothing_initRoot node)
  | createChildren node direction count gap labels edge => exact drop (allOrNothing_createChildren ..)
  | createSibling node gap edge => exact drop (allOrNothing_createSibling ..)
  | split node rows padding paddingTop gap => exact drop (allOrNothing_split ..)
  | connect a b orientation edge => exact drop (allOrNothing_connect ..)
  | link a b edge => exact drop (allOrNothing_link ..)
  | select scope node => exact drop (allOrNothing_selectScope ..)
  | describe node => exact drop (allOrNothing_describe node)
  | clear node => exact drop (allOrNothing_clear node)
  | setLayout node layout => exact drop (allOrNothing_setLayout ..)
  | setChildLayout node child layout => exact drop (allOrNothing_setChildLayout ..)
  | analyze => exact drop reads_analyze.allOrNothing

/-- A request that is refused leaves the shapes, with all that is in them, and the selection as they
were. -/
theorem Request.refused_keeps_page (desk : Desk) (request : Request) (page after : Page) (r : Refusal)
    (h : (request.perform desk).run.run page = (.error (.refused r), after)) :
    after.slide = page.slide ∧ after.selection = page.selection :=
  ((request.allOrNothing_perform desk).leads page).error h ⟨r, rfl⟩

/-- A desk without colours. -/
def Desk.plain : Desk where
  style := ⟨40, 160, 60, "RECTANGLE", "STRAIGHT", "NONE", "FILL_ARROW", none, none, none, 10, 30, 10⟩
  paint := none

/-- A desk without connection sites, on which nothing can be joined. -/
def Desk.bare : Desk := { Desk.plain with siteless := fun _ => true }

def Page.withRoot : Page where
  slide := [{
    id := 2, name := "Rectangle 1", descr := some "graph[](LR)[A1][B1]",
    form := .figure "RECTANGLE" ⟨0, 0, 9525, 9525⟩ none none {} }]
  selection := [2]

theorem Request.refused_keeps_page_of_unlisted_child :
    ∃ after, ((Request.setChildLayout (some 2) "B2" (some "TD")).perform Desk.plain).run.run Page.withRoot =
        (.error (.refused (.notAChild "B2" "A1")), after) ∧
      after.slide = Page.withRoot.slide ∧ after.selection = Page.withRoot.selection := by
  have h : (((Request.setChildLayout (some 2) "B2" (some "TD")).perform Desk.plain).run.run Page.withRoot).1 =
      .error (.refused (.notAChild "B2" "A1")) := by rfl
  exact ⟨_, Edit.run_eq h, Request.refused_keeps_page _ _ _ _ _ (Edit.run_eq h)⟩

end FlowDeck
