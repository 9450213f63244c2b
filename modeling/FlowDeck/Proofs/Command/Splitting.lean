import FlowDeck.Proofs.Command.Creating
import FlowDeck.Proofs.Deck.Figures

/-!
# What cells say

Cells get no descriptors. But a text inside a shape is read as one where it looks like one, so a cell
becomes part of a hierarchy if its label says so.
-/

namespace FlowDeck

open Slide Edit

theorem forall₂_of_mapM {α β ε : Type} {f : α → Except ε β} {xs : List α} {ys : List β} (h : xs.mapM f = .ok ys) :
    List.Forall₂ (fun x y => f x = .ok y) xs ys := by
  induction xs generalizing ys with
  | nil =>
    obtain rfl : [] = ys := Except.ok.inj h
    exact .nil
  | cons x xs ih =>
    rw [List.mapM_cons] at h
    cases hx : f x with
    | error e => simp [hx, bind, Except.bind] at h
    | ok y =>
      cases hxs : xs.mapM f with
      | error e => simp [hx, hxs, bind, Except.bind] at h
      | ok rest =>
        obtain rfl : y :: rest = ys := by simpa [hx, hxs, bind, Except.bind, pure, Except.pure] using h
        exact .cons hx (ih hxs)

/-- A row of cells has as many of them as there are columns. -/
theorem length_rowCells {α : Type} [Scalar α] {parent : Box α} {room : GridRoom α} {height : α} {row : Nat}
    {columns : Int} {cells : List (Box α)} (h : rowCells parent room height row columns = .ok cells) :
    cells.length = columns.toNat := by
  simp only [rowCells, bind, Except.bind] at h
  repeat' split at h
  all_goals cases h
  rw [List.length_map, List.length_range]

theorem lengths_gridCells {α : Type} [Scalar α] {parent : Box α} {room : GridRoom α} {columns : List Int}
    {cells : List (List (Box α))} (h : gridCells parent room columns = .ok cells) :
    List.Forall₂ (fun count row => row.length = count.toNat) columns cells := by
  unfold gridCells at h
  split at h
  · next none =>
    obtain rfl := Except.ok.inj h
    rw [List.isEmpty_iff.1 none]
    exact .nil
  · simp only [bind, Except.bind] at h
    split at h
    · cases h
    rw [← List.zipIdx_map_fst 0 columns, List.forall₂_map_left_iff]
    exact (forall₂_of_mapM h).imp fun _ _ hrow => length_rowCells hrow

namespace Command

variable {sl : Slide}

def cellText (label : String) : String :=
  (Body.ofText (String.ofList (Text.strip label.toList)) none).text

theorem makes_drawCell_exact (desk : Desk) (label : String) (cell : Box Float) :
    Makes (drawCell desk label cell) sl (fun child after => ∃ s : Shape, after = sl ++ [s] ∧ s.id = sl.nextId ∧
      child = s.id ∧ s.IsFigure desk.style.nodeKind cell (cellText label)) fun _ => True := by
  have done {now : Slide} (hf : sl.AddsFigure desk.style.nodeKind cell (cellText label) now) :
      ∃ s : Shape, now = sl ++ [s] ∧ s.id = sl.nextId ∧ sl.nextId = s.id ∧
        s.IsFigure desk.style.nodeKind cell (cellText label) := by
    obtain ⟨s, hnow, hs, hfig⟩ := hf
    exact ⟨s, hnow, hs, hs.symm, hfig⟩
  refine ((makes_drawShapeAt _ _ _).mono (fun _ _ h => h) fun _ _ => trivial).bind fun child now ⟨hid, hf⟩ => ?_
  subst hid
  refine .ite (fun _ => ?_) fun blank => makes_pure (done ?_)
  · refine ((makes_setText desk _ rfl hf).mono (fun _ _ h => h) fun _ _ => trivial).bind fun _ now hf => ?_
    exact makes_pure (done hf)
  · have empty : Text.strip label.toList = [] := by simpa using blank
    rw [cellText, empty]
    exact hf

def IsCell (label : String) (s : Shape) : Prop :=
  s.isNode ∧ s.descriptor? = Descriptor.read? (cellText label)

/-- A row is drawn in front, one cell for each label. -/
theorem makes_row_exact (desk : Desk) {labels : List String} {boxes : List (Box Float)}
    (hlen : boxes.length = labels.length) :
    Makes ((labels.zip boxes).mapM fun (label, cell) => drawCell desk label cell) sl
      (fun created after =>
        ∃ kids, after = sl ++ kids ∧ created = kids.map (·.id) ∧ sl.Fresh kids ∧ List.Forall₂ IsCell labels kids)
      fun _ => True := by
  have all : (labels.zip boxes).map Prod.fst = labels := List.map_fst_zip hlen.ge
  refine (makes_mapM_drawn (P := fun x => IsCell x.1) ?_).mono (fun created after h => ?_) fun _ h => h
  · intro (label, cell) _ now
    refine (makes_drawCell_exact desk label cell).mono (fun child after h => ?_) fun _ h => h
    obtain ⟨s, hafter, hs, hchild, hfig⟩ := h
    exact ⟨s, hafter, hs, hchild, hfig.isNode, hfig.descriptor?_eq⟩
  · obtain ⟨kids, hnow, hcreated, fresh, cells⟩ := h
    refine ⟨kids, hnow, hcreated, fresh, ?_⟩
    rw [← all]
    exact List.forall₂_map_left_iff.2 cells

theorem makes_rows_exact (desk : Desk) {rows : List (List String)} {cells : List (List (Box Float))}
    (hlen : List.Forall₂ (fun row boxes => boxes.length = row.length) rows cells) :
    Makes ((rows.zip cells).mapM fun (labels, boxes) =>
        (labels.zip boxes).mapM fun (label, cell) => drawCell desk label cell) sl
      (fun created after =>
        ∃ kids, after = sl ++ kids ∧ created.flatten = kids.map (·.id) ∧ sl.Fresh kids ∧
          List.Forall₂ IsCell rows.flatten kids)
      fun _ => True := by
  have all : (rows.zip cells).map Prod.fst = rows := List.map_fst_zip hlen.length_eq.le
  -- What has been drawn has the labels of the rows that have been gone through.
  refine (makes_mapM_done (fun done created now => ∃ kids, now = sl ++ kids ∧ created.flatten = kids.map (·.id) ∧
    sl.Fresh kids ∧ List.Forall₂ IsCell (done.map Prod.fst).flatten kids) ?_
    ⟨[], (List.append_nil sl).symm, rfl, sl.fresh_nil, .nil⟩).mono
    (fun _ _ h => by rwa [all] at h) fun _ h => h
  rintro done created ⟨row, boxes⟩ hx now ⟨kids, rfl, hcreated, fresh, drawn⟩
  refine (makes_row_exact desk (List.forall₂_zip hlen hx)).mono (fun ids after h => ?_) fun _ h => h
  obtain ⟨more, rfl, rfl, new, cells⟩ := h
  refine ⟨kids ++ more, List.append_assoc .., ?_, fresh.append new, ?_⟩
  · rw [List.flatten_append, hcreated, List.map_append, List.flatten_singleton]
  · rw [List.map_append, List.flatten_append, List.map_singleton, List.flatten_singleton]
    exact List.rel_append drawn cells

/-- A split draws a cell for each label, in front of all that is there. -/
theorem makes_split_exact (desk : Desk) (given : Option ShapeId) (rows : List (List String))
    (padding paddingTop gap : Option (Measure Float)) :
    Makes (split desk given rows padding paddingTop gap) sl
      (fun created after =>
        ∃ kids, after = sl ++ kids ∧ created.flatten = kids.map (·.id) ∧ sl.Fresh kids ∧
          List.Forall₂ IsCell rows.flatten kids)
      fun _ => True := by
  refine asks_requireNode.followed trivial fun node _ => .guard trivial ?_
  refine (reads_box node).followed trivial fun parent => (reads_ofNumber _).followed trivial fun refusal => ?_
  cases refusal with
  | some r => exact (makes_refuse (Q := fun _ _ => False) trivial).bind fun _ _ h => h.elim
  | none =>
    refine asks_ofNumber.followed trivial fun cells hcells => ?_
    have fits := List.forall₂_map_left_iff.1 (lengths_gridCells hcells)
    refine (makes_rows_exact desk (by simpa using fits)).bind fun created after h => ?_
    refine (reads_note _ _).followed trivial fun _ => makes_pure ?_
    rwa [List.flatten_filter_ne_nil] at h

/-- The cells that can be read as part of a hierarchy, with what they say. -/
def cellEntries (cells : List ShapeId) (labels : List String) : Outline :=
  (cells.zip labels).filterMap fun (cell, label) => (Descriptor.read? (cellText label)).map fun d => (cell, d)

theorem entries_cells {labels : List String} {kids : List Shape} (h : List.Forall₂ IsCell labels kids) :
    kids.filterMap Shape.entry? = cellEntries (kids.map (·.id)) labels := by
  unfold cellEntries
  induction h with
  | nil => rfl
  | @cons label s labels kids hs _ ih =>
    have entry : s.entry? = (Descriptor.read? (cellText label)).map fun d => (s.id, d) := by
      rw [Shape.entry?, if_pos hs.1, hs.2]
    rw [List.map_cons, List.zip_cons_cons, List.filterMap_cons, List.filterMap_cons, entry, ih]

theorem cellEntries_eq_nil {cells : List ShapeId} {labels : List String} (hlen : cells.length = labels.length) :
    cellEntries cells labels = [] ↔ ∀ label ∈ labels, Descriptor.read? (cellText label) = none := by
  rw [cellEntries, List.filterMap_eq_nil_iff]
  constructor
  · intro h label hl
    have all : (cells.zip labels).map Prod.snd = labels := List.map_snd_zip hlen.ge
    obtain ⟨⟨cell, _⟩, hx, rfl⟩ := List.mem_map.1 (all.symm ▸ hl)
    simpa using h _ hx
  · rintro h ⟨cell, label⟩ hx
    simp [h label (List.of_mem_zip hx).2]

/-- The cells of a split become part of a hierarchy exactly as far as the texts inside them read as descriptors;
so the nodes with descriptors stay the same just where none of them does. -/
theorem split_outline (desk : Desk) (given : Option ShapeId) (rows : List (List String))
    (padding paddingTop gap : Option (Measure Float)) (page after : Page) (cells : List (List ShapeId))
    (run : (split desk given rows padding paddingTop gap).run.run page = (.ok cells, after)) :
    after.slide.outline = page.slide.outline ++ cellEntries cells.flatten rows.flatten ∧
      (after.slide.outline = page.slide.outline ↔
        ∀ label ∈ rows.flatten, Descriptor.read? (cellText label) = none) := by
  obtain ⟨kids, hafter, hcells, fresh, drawn⟩ :=
    ((makes_split_exact desk given rows padding paddingTop gap).leads page rfl).ok run
  have hlen : cells.flatten.length = rows.flatten.length := by
    rw [hcells, List.length_map, drawn.length_eq]
  have outline : after.slide.outline = page.slide.outline ++ cellEntries cells.flatten rows.flatten := by
    rw [hafter, fresh.outline, entries_cells drawn, hcells]
  refine ⟨outline, ?_⟩
  rw [outline, List.append_right_eq_self, cellEntries_eq_nil hlen]

/-- Of two cells, the one with a descriptor for a label is a root from then on. -/
theorem split_outline_labelled : ∃ after cells,
    (split Desk.bare (some 2) [["plain"], [" graph[][A7][] "]] none none none).run.run cutPage = (.ok cells, after) ∧
      after.slide.outline = cutPage.slide.outline ++ [(5, ⟨"A7", [], "LR", []⟩)] ∧
      after.slide.outline ≠ cutPage.slide.outline := by
  have run : ((split Desk.bare (some 2) [["plain"], [" graph[][A7][] "]] none none none).run.run cutPage).1 =
      .ok [[4], [5]] := by decide +kernel
  have entries : cellEntries [4, 5] ["plain", " graph[][A7][] "] = [(5, ⟨"A7", [], "LR", []⟩)] := by decide +kernel
  obtain ⟨outline, same⟩ := split_outline Desk.bare (some 2) _ none none none cutPage _ _ (run_eq run)
  refine ⟨_, _, run_eq run, outline.trans (congrArg _ entries), fun kept => ?_⟩
  have unread := same.1 kept " graph[][A7][] " (by decide)
  revert unread
  decide +kernel

end Command

end FlowDeck
