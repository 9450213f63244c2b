import FlowDeck.Proofs.Deck.Drawing
import FlowDeck.Proofs.Deck.Frame

/-!
# What joining draws

A connector runs from a site of one shape to a site of another. It is drawn unless one of the two has
no sites, and nothing else is: so of a list of pairs, those that can be joined are, in their order, and
the others are kept aside.
-/

namespace FlowDeck

/-! ## Sites -/

theorem Kind.siteCount_pos (kind : String) : 0 < Kind.siteCount kind := by
  unfold Kind.siteCount
  cases h : Kind.siteCounts.lookup kind with
  | none => decide
  | some count =>
    have listed : (kind, count) ∈ Kind.siteCounts := by
      have := List.lookup_eq_some_iff.1 h
      obtain ⟨before, after, he, -⟩ := this
      rw [he]
      simp
    have all : ∀ entry ∈ Kind.siteCounts, 0 < entry.2 := by decide
    exact all _ listed

theorem pickSite?_lt {count i : Nat} {side : Side} (h : pickSite? count side = some i) : i < count := by
  unfold pickSite? at h
  split at h
  · cases h
  next positive =>
  unfold siteTable? at h
  split at h
  · next table ht =>
    split at ht <;> cases ht <;> cases side <;> cases h <;> decide
  · cases h
    exact Nat.pos_of_ne_zero positive

theorem exists_pickSite? {count : Nat} (h : 0 < count) (side : Side) : ∃ i, pickSite? count side = some i := by
  unfold pickSite?
  rw [if_neg (Nat.ne_of_gt h)]
  split
  · exact ⟨_, rfl⟩
  · exact ⟨_, rfl⟩

namespace Connector

variable (course : Course) (a b : Point Int)

@[simp] theorem start_between : (between course a b).start = a := by
  obtain ⟨ax, ay⟩ := a
  obtain ⟨bx, byy⟩ := b
  simp only [between, start, Point.mk.injEq, decide_eq_true_eq]
  constructor
  · split <;> omega
  · split <;> omega

@[simp] theorem finish_between : (between course a b).finish = b := by
  obtain ⟨ax, ay⟩ := a
  obtain ⟨bx, byy⟩ := b
  simp only [between, finish, Point.mk.injEq, decide_eq_true_eq]
  constructor
  · split <;> omega
  · split <;> omega

end Connector

/-- At this desk, one of the two has no sites. -/
def Desk.parts (desk : Desk) (pair : ShapeId × ShapeId) : Bool :=
  desk.siteless pair.1 || desk.siteless pair.2

namespace Slide

variable {sl now after : Slide} {id : ShapeId} {pair : ShapeId × ShapeId} {sides : Side × Side}

def SiteAt (sl : Slide) (id : ShapeId) (side : Side) (point : Point Float) : Prop :=
  ∃ s b i, sl.shape? id = some s ∧ s.box.pixels = .ok b ∧
    let all := sites b (Kind.siteCount s.kind)
    pickSite? all.length side = some i ∧ ∃ h : i < all.length, all[i] = point

def Joins (sl : Slide) (sides : Side × Side) (pair : ShapeId × ShapeId) (s : Shape) : Prop :=
  ∃ line a b, s.form = .connector line ∧ sl.SiteAt pair.1 sides.1 a ∧ sl.SiteAt pair.2 sides.2 b ∧
    units a.x = .ok line.start.x ∧ units a.y = .ok line.start.y ∧
    units b.x = .ok line.finish.x ∧ units b.y = .ok line.finish.y

theorem SiteAt.append {side : Side} {point : Point Float} (h : sl.SiteAt id side point) (more : Slide) :
    SiteAt (sl ++ more) id side point := by
  obtain ⟨s, b, i, hs, hb, hi⟩ := h
  exact ⟨s, b, i, shape?_append hs more, hb, hi⟩

theorem Joins.append {s : Shape} (h : sl.Joins sides pair s) (more : Slide) : Joins (sl ++ more) sides pair s := by
  obtain ⟨line, a, b, hform, ha, hb, ends⟩ := h
  exact ⟨line, a, b, hform, ha.append more, hb.append more, ends⟩

def Draws (sl : Slide) (a b : Point Int) (after : Slide) : Prop :=
  ∃ s line, after = sl ++ [s] ∧ s.id = sl.nextId ∧ s.form = .connector line ∧ line.start = a ∧ line.finish = b

/-- The command has come from this slide to `after` by joining these pairs: one new connector for every pair
that can be joined, in their order, and nothing else. It takes note of them and of the other pairs. -/
def Joined (start : Slide) (desk : Desk) (sides : Side × Side) (c₀ : Creation) (pairs : List (ShapeId × ShapeId))
    (c : Creation) (after : Slide) : Prop :=
  ∃ lines : List Shape, after = start ++ lines ∧
    c = { c₀ with edges := lines.map (·.id), skipped := pairs.filter desk.parts } ∧
    List.Forall₂ (after.Joins sides) (pairs.filter fun pair => !desk.parts pair) lines ∧ start.Fresh lines

theorem joined_nil (start : Slide) (desk : Desk) (sides : Side × Side) (c₀ : Creation)
    (he : c₀.edges = []) (hs : c₀.skipped = []) : start.Joined desk sides c₀ [] c₀ start := by
  refine ⟨[], (List.append_nil start).symm, ?_, .nil, start.fresh_nil⟩
  obtain ⟨parent, created, childIds, edges, skipped⟩ := c₀
  obtain rfl : edges = [] := he
  obtain rfl : skipped = [] := hs
  rfl

end Slide

namespace Edit

open Slide

variable {sl now : Slide} {id : ShapeId}

/-- A shape has a site on every side, unless it has none at all. -/
theorem asks_siteOn (desk : Desk) (side : Side) : Asks (siteOn desk id side) sl fun site =>
    if desk.siteless id then site = none else ∃ point, site = some point ∧ sl.SiteAt id side point := by
  have listed : Asks (sitesOf desk id) sl fun all =>
      if desk.siteless id then all = []
      else ∃ s b, sl.shape? id = some s ∧ s.box.pixels = .ok b ∧ all = sites b (Kind.siteCount s.kind) := by
    unfold sitesOf
    by_cases hid : desk.siteless id
    · simp only [hid, if_true]
      exact asks_pure rfl
    · simp only [hid, Bool.false_eq_true, if_false]
      refine asks_shape?.bind fun s hs => asks_box.bind fun b ⟨t, ht, hb⟩ => asks_pure ?_
      obtain rfl : s = t := Option.some.inj (hs.symm.trans ht)
      exact ⟨s, b, hs, hb, rfl⟩
  refine listed.bind fun all h => asks_pure ?_
  by_cases hid : desk.siteless id
  · rw [if_pos hid] at h ⊢
    rw [h]
    rfl
  · rw [if_neg hid] at h ⊢
    obtain ⟨s, b, hs, hb, rfl⟩ := h
    have some : 0 < (sites b (Kind.siteCount s.kind)).length := by
      rw [sites, List.length_map, List.length_range]
      exact Kind.siteCount_pos s.kind
    obtain ⟨i, hi⟩ := exists_pickSite? some side
    -- The index lies within the list, so what is found there is a site of the shape.
    have within := pickSite?_lt hi
    refine ⟨_, ?_, s, b, i, hs, hb, hi, within, rfl⟩
    rw [hi, Option.bind_some]
    exact List.getElem?_eq_getElem within

theorem makes_changeConnector {a b : Point Int} {g : Connector → Connector} {E : Slide → Prop}
    (hid : id = sl.nextId) (hd : sl.Draws a b now)
    (hg : ∀ line, (g line).start = line.start ∧ (g line).finish = line.finish) :
    Makes (changeConnector id g) now (fun _ => sl.Draws a b) E := by
  obtain ⟨s, line, rfl, hs, hform, rfl, rfl⟩ := hd
  obtain ⟨same, same'⟩ := hg line
  refine makes_change ⟨{ s with form := .connector (g line) }, g line, ?_, hs, rfl, same, same'⟩
  rw [hid, ← hs, Slide.modify_between _ fun t ht => hs ▸ Slide.nextId_ne ht]
  simp only [hform]

theorem makes_drawEdge_between (desk : Desk) (a b : Point Float) (style : EdgeStyle) :
    Makes (drawEdge desk a b style) sl (fun edge after => edge = sl.nextId ∧
      ∃ p q, sl.Draws p q after ∧ units a.x = .ok p.x ∧ units a.y = .ok p.y ∧ units b.x = .ok q.x ∧ units b.y = .ok q.y)
      fun _ => True := by
  refine (reads_courseNamed _).followed trivial fun course => ?_
  refine asks_ofNumber.followed trivial fun x hx => asks_ofNumber.followed trivial fun y hy => ?_
  refine asks_ofNumber.followed trivial fun x' hx' => asks_ofNumber.followed trivial fun y' hy' => ?_
  let drawn (id : ShapeId) (now : Slide) : Prop := id = sl.nextId ∧ sl.Draws ⟨x, y⟩ ⟨x', y'⟩ now
  refine (makes_add (Q := drawn) ?_).bind fun id now ⟨hid, hd⟩ => ?_
  · exact ⟨rfl, _, _, rfl, rfl, rfl, Connector.start_between .., Connector.finish_between ..⟩
  refine (reads_drawable _).followed trivial fun colour => ?_
  refine (makes_changeConnector hid hd ?_).bind fun _ now hd => ?_
  · exact fun _ => ⟨rfl, rfl⟩
  refine (reads_arrowType _).followed trivial fun head => (makes_changeConnector hid hd ?_).bind fun _ now hd => ?_
  · exact fun _ => ⟨rfl, rfl⟩
  refine (reads_arrowType _).followed trivial fun tail => (makes_changeConnector hid hd ?_).bind fun _ now hd => ?_
  · exact fun _ => ⟨rfl, rfl⟩
  apply makes_pure
  exact ⟨hid, _, _, hd, hx, hy, hx', hy'⟩

theorem makes_join_exact (desk : Desk) (a b : ShapeId) (side side' : Side) (style : EdgeStyle) :
    Makes (join desk a b side side' style) sl (fun edge after =>
      if desk.parts (a, b) then edge = none ∧ after = sl
      else ∃ s : Shape, edge = some s.id ∧ after = sl ++ [s] ∧ s.id = sl.nextId ∧ sl.Joins (side, side') (a, b) s)
      fun _ => True := by
  refine (asks_siteOn desk side).followed trivial fun pointA hA => ?_
  refine (asks_siteOn desk side').followed trivial fun pointB hB => ?_
  by_cases apart : desk.parts (a, b)
  · simp only [apart, if_true]
    have missing : pointA = none ∨ pointB = none := by
      rcases Bool.or_eq_true_iff.1 apart with h | h
      · exact .inl (by simpa [h] using hA)
      · exact .inr (by simpa [h] using hB)
    split
    · rcases missing with h | h <;> cases h
    · exact (reads_note _ _).followed trivial fun _ => makes_pure ⟨rfl, rfl⟩
  · simp only [apart, Bool.false_eq_true, if_false]
    obtain ⟨hasA, hasB⟩ : desk.siteless a = false ∧ desk.siteless b = false := by simpa [Desk.parts] using apart
    rw [hasA, if_neg Bool.false_ne_true] at hA
    rw [hasB, if_neg Bool.false_ne_true] at hB
    obtain ⟨pointA, rfl, siteA⟩ := hA
    obtain ⟨pointB, rfl, siteB⟩ := hB
    refine (makes_drawEdge_between desk pointA pointB style).bind fun edge now ⟨hedge, p, q, hd, ends⟩ => ?_
    obtain ⟨s, line, rfl, hs, hform, rfl, rfl⟩ := hd
    refine (reads_note _ _).followed trivial fun _ => makes_pure ⟨s, ?_, rfl, hs, ?_⟩
    · rw [hedge, hs]
    · exact ⟨line, pointA, pointB, hform, siteA, siteB, ends⟩

theorem makes_joinChild_joined (desk : Desk) {c₀ c : Creation} {start : Slide} {pairs : List (ShapeId × ShapeId)}
    (child : ShapeId) (side side' : Side) (style : EdgeStyle) (h : start.Joined desk (side, side') c₀ pairs c now) :
    Makes (joinChild desk c child side side' style) now
      (start.Joined desk (side, side') c₀ (pairs ++ [(c₀.parent, child)])) fun _ => True := by
  obtain ⟨lines, rfl, rfl, hlines, fresh⟩ := h
  refine (makes_join_exact desk c₀.parent child side side' style).bind fun edge after h => ?_
  by_cases parted : desk.parts (c₀.parent, child)
  · rw [if_pos parted] at h
    obtain ⟨rfl, rfl⟩ := h
    refine makes_pure ⟨lines, rfl, ?_, ?_, fresh⟩
    · simp [List.filter_append, parted]
    · simpa [List.filter_append, parted] using hlines
  · rw [if_neg parted] at h
    obtain ⟨s, rfl, rfl, hs, joins⟩ := h
    refine makes_pure ⟨lines ++ [s], List.append_assoc .., ?_, ?_, fresh.concat hs⟩
    · simp [List.filter_append, parted]
    · rw [List.filter_append, List.filter_cons_of_pos (by simpa using parted), List.filter_nil]
      exact List.rel_append (hlines.imp fun _ _ h => h.append [s]) (.cons (joins.append [s]) .nil)

/-- The children of a node are joined with it one after the other. -/
theorem makes_joinChildren_joined (desk : Desk) (c₀ : Creation) (children : List ShapeId) (side side' : Side)
    (style : EdgeStyle) (he : c₀.edges = []) (hs : c₀.skipped = []) :
    Makes (children.foldlM (fun c child => joinChild desk c child side side' style) c₀) sl
      (sl.Joined desk (side, side') c₀ (children.map fun child => (c₀.parent, child))) fun _ => True := by
  refine makes_foldlM_done
    (fun done c now => sl.Joined desk (side, side') c₀ (done.map fun child => (c₀.parent, child)) c now)
    (fun done child c now h => ?_) (sl.joined_nil desk _ c₀ he hs)
  rw [List.map_append]
  exact makes_joinChild_joined desk child side side' style h

end Edit

end FlowDeck
