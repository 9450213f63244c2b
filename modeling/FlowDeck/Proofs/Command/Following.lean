import FlowDeck.Editor.Open
import FlowDeck.Proofs.Command.Refusal
import FlowDeck.Proofs.Edit.Follows

/-!
# Commands on another page

Commands do the same on all pages with the same shapes, and at a desk where the places of new shapes
are not logged.
-/

namespace FlowDeck

def Desk.quiet (desk : Desk) : Desk :=
  { desk with debug := false }

namespace Edit

variable (desk : Desk)

/-! ## Drawing -/

theorem follows_drawable (colour : Option Rgb) : Follows (drawable colour) (drawable colour) := by
  unfold drawable
  split
  · exact .ite (fun _ => follows_pure _) fun _ => follows_throw _
  · exact follows_pure _

theorem follows_kindNamed (name : String) : Follows (kindNamed name) (kindNamed name) :=
  .ite (fun _ => follows_pure _) fun _ => (follows_note _ _).bind fun _ => follows_pure _

theorem follows_drawShape (name : String) (b : Box (Measure Float)) :
    Follows (drawShape desk name b) (drawShape desk.quiet name b) := by
  refine (follows_kindNamed name).bind fun kind => (follows_ofNumber _).bind fun x => ?_
  refine (follows_ofNumber _).bind fun y => (follows_ofNumber _).bind fun width => ?_
  refine (follows_ofNumber _).bind fun height => (follows_forM (fun _ => follows_ofNumber _) _).bind fun _ => ?_
  refine (follows_add _ _).bind fun id => ?_
  have finish : Follows (do
      if desk.debug then notePlace name id b
      return id) (pure id : Edit ShapeId) := by
    dsimp only
    split
    · exact (reads_notePlace name id b).leftOut (follows_pure id)
    · exact follows_pure id
  dsimp only [Desk.quiet]
  cases desk.paint with
  | none => exact finish
  | some paint =>
    refine (follows_drawable _).bind fun fill => (follows_change _ _).bind fun _ => ?_
    exact (follows_drawable _).bind fun line => (follows_change _ _).bind fun _ => finish

theorem follows_setBody (id : ShapeId) (body : Body) : Follows (setBody id body) (setBody id body) :=
  follows_change _ _

theorem follows_setPlainText (id : ShapeId) (text : String) :
    Follows (setPlainText id text) (setPlainText id text) := by
  unfold setPlainText
  dsimp only
  exact .ite (fun _ => follows_setBody _ _) fun _ => (follows_setBody _ _).bind fun _ => follows_throw _

theorem follows_setText (id : ShapeId) (text : String) :
    Follows (setText desk id text) (setText desk.quiet id text) := by
  refine (follows_shape id).bind fun s => .ite (fun _ => follows_note _ _) fun _ => ?_
  refine (follows_setPlainText id text).bind fun _ => .ite (fun _ => ?_) fun _ => follows_pure _
  exact (follows_drawable _).bind fun _ => follows_setBody _ _

theorem follows_addNode (text : String) (x y width height : Option (Measure Float)) :
    Follows (Editor.addNode desk text x y width height) (Editor.addNode desk.quiet text x y width height) := by
  refine (follows_drawShape desk _ _).bind fun id => .ite (fun _ => ?_) fun _ => follows_pure _
  exact (follows_setText desk id text).bind fun _ => follows_pure _

theorem follows_arrowType (arrow : Option String) : Follows (arrowType arrow) (arrowType arrow) := by
  unfold arrowType
  split
  · exact follows_pure _
  · split
    · exact follows_pure _
    · exact follows_pure _
    · exact follows_throw _

theorem follows_courseNamed (lineType : String) : Follows (courseNamed lineType) (courseNamed lineType) := by
  unfold courseNamed
  split
  · exact follows_pure _
  · exact (follows_note _ _).bind fun _ => follows_pure _

theorem follows_drawEdge (a b : Point Float) (style : EdgeStyle) :
    Follows (drawEdge desk a b style) (drawEdge desk.quiet a b style) := by
  refine (follows_courseNamed _).bind fun course => (follows_ofNumber _).bind fun x => ?_
  refine (follows_ofNumber _).bind fun y => (follows_ofNumber _).bind fun toX => ?_
  refine (follows_ofNumber _).bind fun toY => (follows_add _ _).bind fun id => ?_
  refine (follows_drawable _).bind fun colour => (follows_change _ _).bind fun _ => ?_
  refine (follows_arrowType _).bind fun head => (follows_change _ _).bind fun _ => ?_
  exact (follows_arrowType _).bind fun tail => (follows_change _ _).bind fun _ => follows_pure _

theorem follows_siteOn (id : ShapeId) (side : Side) : Follows (siteOn desk id side) (siteOn desk.quiet id side) := by
  have sites : Follows (sitesOf desk id) (sitesOf desk.quiet id) :=
    .ite (fun _ => follows_pure _) fun _ =>
      (follows_shape id).bind fun _ => (follows_box id).bind fun _ => follows_pure _
  exact sites.bind fun _ => follows_pure _

theorem follows_join (a b : ShapeId) (side side' : Side) (style : EdgeStyle) :
    Follows (join desk a b side side' style) (join desk.quiet a b side side' style) := by
  refine (follows_siteOn desk a side).bind fun pointA => (follows_siteOn desk b side').bind fun pointB => ?_
  split
  · exact (follows_drawEdge desk _ _ style).bind fun _ => (follows_note _ _).bind fun _ => follows_pure _
  · exact (follows_note _ _).bind fun _ => follows_pure _

theorem follows_joinChild (c : Creation) (child : ShapeId) (side side' : Side) (style : EdgeStyle) :
    Follows (joinChild desk c child side side' style) (joinChild desk.quiet c child side side' style) := by
  refine (follows_join desk _ child side side' style).bind fun edge => ?_
  cases edge with
  | some _ => exact follows_pure _
  | none => exact follows_pure _

/-! ## Descriptors -/

theorem follows_setMemo (id : ShapeId) (text : String) : Follows (setMemo id text) (setMemo id text) := by
  refine (follows_shape id).bind fun s => (follows_requireStorable text).bind fun _ => ?_
  refine (follows_change _ _).bind fun _ => .ite (fun _ => (follows_note _ _).bind fun _ => ?_) fun _ => ?_
  all_goals exact .ite (fun _ => follows_note _ _) fun _ => follows_pure _

theorem follows_store (id : ShapeId) (d : Descriptor) : Follows (store id d) (store id d) :=
  (follows_setMemo id _).bind fun _ => follows_note _ _

theorem follows_clearMemo (node : ShapeId) : Follows (clearMemo node) (clearMemo node) := by
  refine (follows_memo node).bind fun previous => (follows_setMemo node "").bind fun _ => ?_
  exact .ite (fun _ => (follows_note _ _).bind fun _ => follows_pure _) fun _ => follows_pure _

theorem follows_plantRoot (node : ShapeId) : Follows (plantRoot node) (plantRoot node) :=
  follows_outline.bind fun _ => (follows_ofNumber _).bind fun _ => (follows_store node _).bind fun _ =>
    (follows_note _ _).bind fun _ => follows_pure _

theorem follows_typed (node : ShapeId) : Follows (typed node) (typed node) := by
  have ensured : Follows (ensureDescriptor node) (ensureDescriptor node) := by
    refine follows_outline.bind fun outline => ?_
    split
    · exact follows_pure _
    · exact (follows_plantRoot node).bind fun _ => follows_outline.bind fun _ => follows_pure _
  refine ensured.bind fun d => ?_
  cases d with
  | some d => exact follows_pure d
  | none => exact follows_throw _

theorem follows_layoutBelow (node : ShapeId) : Follows (layoutBelow node) (layoutBelow node) := by
  refine follows_outline.bind fun outline => ?_
  unfold layoutIn
  split
  · exact follows_pure _
  · refine (follows_descriptor? node).bind fun d => ?_
    cases d with
    | some d => exact follows_pure _
    | none => exact follows_pure _

end Edit

/-! ## Commands -/

namespace Command

open Edit

variable (desk : Desk) (node a b : Option ShapeId) (edge : Option EdgeStyle)

theorem follows_initRoot : Follows (initRoot node) (initRoot node) := by
  refine (follows_requireNode node).bind fun id => (follows_descriptor? id).bind fun d => ?_
  cases d with
  | none => exact follows_plantRoot id
  | some d => exact .ite (fun _ => (follows_note _ _).bind fun _ => follows_pure _) fun _ => follows_plantRoot id

theorem follows_requireSide (name : String) : Follows (requireSide name) (requireSide name) := by
  unfold requireSide
  split
  · exact follows_pure _
  · exact follows_refuse _

theorem follows_drawChild (kind : String) (box : Box Float) (label : String) (d : Descriptor) :
    Follows (drawChild desk kind box label d) (drawChild desk.quiet kind box label d) := by
  refine (follows_drawShape desk kind _).bind fun child => ?_
  have stored : Follows (do store child d; return child) (do store child d; return child) :=
    (follows_store child d).bind fun _ => follows_pure _
  exact .ite (fun _ => (follows_setText desk child label).bind fun _ => stored) fun _ => stored

theorem follows_createChildren (direction : String) (count : Int) (gap : Option (Measure Float))
    (labels : List String) :
    Follows (createChildren desk node direction count gap labels edge)
      (createChildren desk.quiet node direction count gap labels edge) := by
  refine (follows_requireNode node).bind fun node => (follows_requireSide direction).bind fun direction => ?_
  refine .ite (fun _ => (follows_note _ _).bind fun _ => follows_pure _) fun _ => ?_
  refine (follows_box node).bind fun parentBox => .guard <| (follows_ofNumber _).bind fun gap => .guard ?_
  refine (follows_typed node).bind fun parent => follows_outline.bind fun outline => ?_
  refine (follows_boxes _).bind fun boxes => (follows_ofNumber _).bind fun corners => ?_
  refine (follows_ofNumber _).bind fun ids => (follows_shape node).bind fun s => ?_
  refine (follows_mapM (fun _ => follows_drawChild desk _ _ _ _) _).bind fun created => ?_
  refine (follows_store node _).bind fun _ => ?_
  refine (follows_foldlM (fun _ _ => follows_joinChild desk _ _ _ _ _) _ _).bind fun creation => ?_
  exact (follows_note _ _).bind fun _ => follows_pure _

theorem follows_createSibling (gap : Option (Measure Float)) :
    Follows (createSibling desk node gap edge) (createSibling desk.quiet node gap edge) := by
  refine (follows_requireDescriptor node).bind fun (node, d) => .guard <| follows_outline.bind fun outline => ?_
  split
  · exact follows_refuse _
  refine (follows_orFault _).bind fun layout => (follows_boxes _).bind fun boxes => ?_
  refine (follows_ofNumber _).bind fun corners => (follows_ofNumber _).bind fun id => ?_
  refine (follows_box node).bind fun size => (follows_shape node).bind fun s => ?_
  refine (follows_mapM (fun _ => follows_drawChild desk _ _ _ _) _).bind fun created => ?_
  refine (follows_store _ _).bind fun _ => ?_
  refine (follows_foldlM (fun _ _ => follows_joinChild desk _ _ _ _ _) _ _).bind fun creation => ?_
  exact (follows_note _ _).bind fun _ => follows_pure _

theorem follows_requireTwo : Follows (requireTwo a b) (requireTwo a b) :=
  (follows_requireNode a).bind fun _ => (follows_requireNode b).bind fun _ => .guard (follows_pure _)

theorem follows_connect (orientation : Option String) :
    Follows (connect desk a b orientation edge) (connect desk.quiet a b orientation edge) := by
  have named (name : String) : Follows (requireOrientation name) (requireOrientation name) := by
    unfold requireOrientation
    split
    · exact follows_pure _
    · exact follows_refuse _
  refine (follows_requireTwo a b).bind fun (a, b) => ?_
  refine (follows_box a).bind fun boxA => (follows_box b).bind fun boxB => ?_
  cases orientation with
  | none => exact (follows_pure _).bind fun _ => follows_join desk _ _ _ _ _
  | some name => exact (named name).bind fun _ => follows_join desk _ _ _ _ _

theorem follows_unlessAncestor {α : Type} (parentNode childNode : ShapeId) (d : Option Descriptor)
    {rest rest' : Unit → Edit α} (h : Follows (rest ()) (rest' ())) :
    Follows (match d with
      | some d => do
        if ((← outline).ancestors parentNode d).contains childNode then
          let done ← refuse .childIsAncestor
          rest done
        else rest ()
      | _ => rest ())
      (match d with
      | some d => do
        if ((← outline).ancestors parentNode d).contains childNode then
          let done ← refuse .childIsAncestor
          rest' done
        else rest' ()
      | _ => rest' ()) := by
  cases d with
  | none => exact h
  | some d => exact follows_outline.bind fun _ => .guard h

theorem follows_remark {α : Type} (child : Option Descriptor) (id : String) (text : Descriptor → String)
    {rest rest' : Unit → Edit α} (h : Follows (rest ()) (rest' ())) :
    Follows (match child with
      | some d =>
        if d.current ≠ id then do
          let done ← note .info (text d)
          rest done
        else rest ()
      | _ => rest ())
      (match child with
      | some d =>
        if d.current ≠ id then do
          let done ← note .info (text d)
          rest' done
        else rest' ()
      | _ => rest' ()) := by
  cases child with
  | none => exact h
  | some d => exact .ite (fun _ => (follows_note _ _).bind fun _ => h) fun _ => h

theorem follows_link : Follows (link desk a b edge) (link desk.quiet a b edge) := by
  refine (follows_requireTwo a b).bind fun (a, b) => (follows_descriptor? a).bind fun first => ?_
  refine (follows_descriptor? b).bind fun second => ?_
  split
  next parentNode childNode _ =>
  refine (follows_descriptor? parentNode).bind fun d => follows_unlessAncestor _ _ d ?_
  refine (follows_typed parentNode).bind fun parent => follows_outline.bind fun outline => ?_
  refine (follows_ofNumber _).bind fun id => follows_remark _ id _ ?_
  refine (follows_store _ _).bind fun _ => (follows_store _ _).bind fun _ => ?_
  refine (follows_layoutBelow _).bind fun token => (follows_orFault _).bind fun layout => ?_
  refine (follows_box _).bind fun boxP => (follows_box _).bind fun boxC => ?_
  refine (follows_joinChild desk _ _ _ _ _).bind fun creation => ?_
  exact (follows_note _ _).bind fun _ => follows_pure _

theorem follows_drawCell (label : String) (cell : Box Float) :
    Follows (drawCell desk label cell) (drawCell desk.quiet label cell) := by
  refine (follows_drawShape desk _ _).bind fun id => .ite (fun _ => ?_) fun _ => follows_pure _
  exact (follows_setText desk id _).bind fun _ => follows_pure _

theorem follows_split (rows : List (List String)) (padding paddingTop gap : Option (Measure Float)) :
    Follows (split desk node rows padding paddingTop gap) (split desk.quiet node rows padding paddingTop gap) := by
  refine (follows_requireNode node).bind fun node => .guard <| (follows_box node).bind fun parent => ?_
  refine (follows_ofNumber _).bind fun refusal => ?_
  cases refusal with
  | some r => exact follows_refused r _
  | none =>
    refine (follows_ofNumber _).bind fun cells => ?_
    refine (follows_mapM (fun _ => follows_mapM (fun _ => follows_drawCell desk _ _) _) _).bind fun created => ?_
    exact (follows_note _ _).bind fun _ => follows_pure _

theorem follows_describe : Follows (describe node) (describe node) :=
  (follows_requireNode node).bind fun _ => (follows_memo _).bind fun _ => follows_pure _

theorem follows_clear : Follows (clear node) (clear node) :=
  (follows_requireNode node).bind fun _ => follows_clearMemo _

theorem follows_requireLayout (text : Option String) : Follows (requireLayout text) (requireLayout text) := by
  unfold requireLayout
  dsimp only
  exact .guard (follows_pure _)

theorem follows_setLayout (layout : Option String) : Follows (setLayout node layout) (setLayout node layout) :=
  (follows_requireDescriptor node).bind fun _ => (follows_requireLayout layout).bind fun _ =>
    (follows_store _ _).bind fun _ => follows_pure _

theorem follows_setChildLayout (child : String) (layout : Option String) :
    Follows (setChildLayout node child layout) (setChildLayout node child layout) :=
  (follows_requireDescriptor node).bind fun _ => .guard <| (follows_requireLayout layout).bind fun _ =>
    (follows_store _ _).bind fun _ => follows_pure _

theorem follows_analyze : Follows analyze analyze := by
  have shown (node : ShapeId) (children : List ShapeId) :
      Follows (shownLayoutOf node children) (shownLayoutOf node children) :=
    (follows_box node).bind fun _ => (follows_boxes children).bind fun _ => (follows_note _ _).bind fun _ =>
      follows_pure _
  have line (outline : Outline) (node : ShapeId) (d : Descriptor) :
      Follows (analyzeNode outline node d) (analyzeNode outline node d) :=
    .ite (fun _ => follows_pure _) fun _ => (shown _ _).bind fun _ => follows_pure _
  refine follows_slide.bind fun slide => follows_outline.bind fun outline => ?_
  exact .ite (fun _ => follows_pure _) fun _ => (follows_mapM (fun _ => line _ _ _) _).bind fun _ => follows_pure _

theorem follows_selectScope (scope : Scope) : Follows (selectScope scope node) (selectScope scope node) := by
  refine (follows_requireDescriptor node).bind fun (node, d) => follows_outline.bind fun outline => ?_
  refine (follows_forIn (fun id => (follows_select id _).bind fun _ => follows_pure _) _).bind fun _ => ?_
  exact .ite (fun _ => (follows_note _ _).bind fun _ => follows_pure _) fun _ =>
    (follows_note _ _).bind fun _ => follows_pure _

end Command

end FlowDeck
