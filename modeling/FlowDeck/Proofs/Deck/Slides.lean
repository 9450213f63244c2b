import FlowDeck.Deck.Memo
import FlowDeck.Proofs.Hierarchy.Levels
import Mathlib.Data.Int.Order.Basic

/-!
# Slides under change

What shapes keep as descriptors, and what the numbers of shapes and the outline of a slide become when
shapes are added, changed and removed. The outline is read by the numbers of the nodes, so a change that
keeps what each number stands for keeps the outline.
-/

namespace FlowDeck

/-! ## Descriptors kept by shapes -/

namespace Shape

variable {s : Shape}

theorem isNode_of_isEdge (h : s.isEdge) : s.isNode = false := by
  unfold isEdge at h
  unfold isNode
  cases hf : s.form <;> simp [hf] at h ⊢

structure Tidy (s : Shape) : Prop where
  title : s.hasMisplacedTitle = false
  text : s.hasMisplacedText = false

theorem Tidy.memo_eq (h : s.Tidy) : s.memo = s.descr.getD "" := by
  have title : s.title.bind misplaced? = none := by
    rw [Option.bind_eq_none_iff]
    intro text ht
    have := h.title
    rw [hasMisplacedTitle, ht] at this
    exact if_neg (by simpa using this)
  have text : (s.body?.map (·.text)).bind misplaced? = none := by
    rw [Option.bind_eq_none_iff]
    intro text ht
    obtain ⟨body, hb, rfl⟩ := Option.map_eq_some_iff.1 ht
    have := h.text
    rw [hasMisplacedText, hb] at this
    exact if_neg (by simpa using this)
  rw [memo, title, text]
  cases hd : s.descr with
  | none => rfl
  | some descr =>
    by_cases he : descr = ""
    · rw [he]; rfl
    · rw [Option.filter_some, if_pos (by simpa using he)]; rfl

/-- The shapes differ at most in where they are, in how they look and in what they are called. -/
structure Alike (s t : Shape) : Prop where
  id : t.id = s.id
  isNode : t.isNode = s.isNode
  descr : t.descr = s.descr
  title : t.title = s.title
  body : t.body? = s.body?

theorem Alike.tidy {t : Shape} (h : s.Alike t) (hs : s.Tidy) : t.Tidy where
  title := by rw [hasMisplacedTitle, h.title]; exact hs.title
  text := by rw [hasMisplacedText, h.body]; exact hs.text

theorem alike_withBox (s : Shape) (b : Box Int) : s.Alike (s.withBox b) := by
  obtain ⟨id, name, descr, title, form⟩ := s
  cases form <;> exact ⟨rfl, rfl, rfl, rfl, rfl⟩

@[simp] theorem withBody_isNode (s : Shape) (body : Body) : (s.withBody body).isNode = s.isNode := by
  unfold withBody isNode
  cases s.form <;> rfl

theorem withBody_body? (s : Shape) (body : Body) :
    (s.withBody body).body? = s.body?.map fun _ => body := by
  unfold withBody body?
  cases s.form <;> rfl

/-- Keeping a text sets the alternative texts first; then a text inside that was meant as a descriptor
goes. -/
theorem withMemo_eq (s : Shape) (text : String) :
    ∃ described : Shape, described.id = s.id ∧ described.form = s.form ∧
      described.descr = (if text = "" then none else some text) ∧
      described.title = (if s.hasMisplacedTitle then none else s.title) ∧
      s.withMemo text = if s.hasMisplacedText then described.withBody {} else described :=
  ⟨{ s with
      descr := if text = "" then none else some text
      title := if s.hasMisplacedTitle then none else s.title }, rfl, rfl, rfl, rfl, rfl⟩

theorem withBody_tidy {body : Body} (h : s.Tidy) (hb : Descriptor.looksLike body.text = false) :
    (s.withBody body).Tidy where
  title := h.title
  text := by
    rw [hasMisplacedText, withBody_body?]
    cases s.body? with
    | none => rfl
    | some _ => exact hb

@[simp] theorem withMemo_id (s : Shape) (text : String) : (s.withMemo text).id = s.id := by
  obtain ⟨described, hid, -, -, -, he⟩ := withMemo_eq s text
  rw [he]
  split <;> exact hid

@[simp] theorem withMemo_isNode (s : Shape) (text : String) : (s.withMemo text).isNode = s.isNode := by
  obtain ⟨described, -, hform, -, -, he⟩ := withMemo_eq s text
  have : described.isNode = s.isNode := by unfold isNode; rw [hform]
  rw [he]
  split
  · rw [withBody_isNode, this]
  · exact this

theorem withMemo_descr (s : Shape) (text : String) :
    (s.withMemo text).descr = if text = "" then none else some text := by
  obtain ⟨described, -, -, hdescr, -, he⟩ := withMemo_eq s text
  rw [he, ← hdescr]
  split <;> rfl

theorem withMemo_tidy (s : Shape) (text : String) : (s.withMemo text).Tidy := by
  obtain ⟨described, -, hform, -, htitle, he⟩ := withMemo_eq s text
  have title : described.hasMisplacedTitle = false := by
    rw [hasMisplacedTitle, htitle]
    cases h : s.hasMisplacedTitle with
    | false => exact h
    | true => rfl
  have body : described.body? = s.body? := by unfold body?; rw [hform]
  rw [he]
  split
  · refine ⟨title, ?_⟩
    rw [hasMisplacedText, withBody_body?, Option.any_map]
    cases described.body? <;> rfl
  · next h =>
    refine ⟨title, ?_⟩
    rw [hasMisplacedText, body]
    simpa [hasMisplacedText] using h

/-- What is kept as the descriptor of a shape is found there. -/
theorem memo_withMemo (s : Shape) (text : String) : (s.withMemo text).memo = text := by
  rw [(withMemo_tidy s text).memo_eq, withMemo_descr]
  split
  · next h => exact h.symm
  · rfl

/-- What was kept before is forgotten. -/
theorem withMemo_withMemo (s : Shape) (text later : String) :
    (s.withMemo text).withMemo later = s.withMemo later := by
  have tidy := s.withMemo_tidy text
  have last : (s.withMemo text).withMemo later =
      { s.withMemo text with descr := if later = "" then none else some later } := by
    rw [withMemo, tidy.title, tidy.text]; rfl
  rw [last]
  unfold withMemo
  dsimp only
  split <;> rfl

def entry? (s : Shape) : Option (ShapeId × Descriptor) :=
  if s.isNode then s.descriptor?.map fun d => (s.id, d) else none

theorem entry?_eq_some_iff {n : ShapeId} {d : Descriptor} :
    s.entry? = some (n, d) ↔ s.isNode ∧ s.id = n ∧ s.descriptor? = some d := by
  unfold entry?
  split
  · next h => simp [h, and_comm]
  · next h => simp [h]

end Shape

namespace Slide

variable {sl behind : Slide} {s : Shape} {id : ShapeId}

/-! ## Numbers not in use -/

theorem id_mem_ids (hs : s ∈ sl) : s.id ∈ sl.ids := by
  refine List.mem_cons_of_mem _ (List.mem_flatMap.2 ⟨s, hs, ?_⟩)
  unfold Shape.ids
  split <;> simp

theorem lt_nextId {n : ShapeId} (h : n ∈ sl.ids) : n < sl.nextId :=
  Int.lt_add_one_of_le ((le_foldl_max sl.ids 1).2 n h)

theorem nextId_ne (hs : s ∈ sl) : s.id ≠ sl.nextId := Int.ne_of_lt (lt_nextId (id_mem_ids hs))

theorem freeId_not_mem_ids : sl.freeId ∉ sl.ids := by
  obtain ⟨n, hn, -, hfree⟩ := find?_not_mem
    ((List.range (sl.ids.length + 1)).map fun (i : Nat) => (i : Int) + 1) sl.ids
    (List.nodup_range.map fun i j (h : (i : Int) + 1 = j + 1) => by omega) (by simp)
  rw [freeId, hn]
  exact hfree

/-! ## Shapes changed in place -/

/-- The shape that is changed is the first one with the number. -/
theorem modify_between (f : Shape → Shape) (h : ∀ t ∈ sl, t.id ≠ s.id) :
    modify (sl ++ s :: behind) s.id f = sl ++ f s :: behind := by
  induction sl with
  | nil => exact if_pos rfl
  | cons t sl ih =>
    rw [List.cons_append, modify, if_neg (h t List.mem_cons_self),
      ih fun t ht => h t (List.mem_cons_of_mem _ ht)]
    rfl

/-- What is read shape by shape stays if the changed shape says the same. -/
theorem filterMap_modify {β : Type} {f : Shape → Shape} {g : Shape → Option β}
    (h : ∀ s ∈ sl, s.id = id → g (f s) = g s) : (sl.modify id f).filterMap g = sl.filterMap g := by
  induction sl with
  | nil => rfl
  | cons t sl ih =>
    rw [modify]
    split
    · next ht => rw [List.filterMap_cons, List.filterMap_cons, h t List.mem_cons_self ht]
    · rw [List.filterMap_cons, List.filterMap_cons, ih fun s hs => h s (List.mem_cons_of_mem _ hs)]

theorem map_modify {β : Type} {f : Shape → Shape} {g : Shape → β} (h : ∀ s, g (f s) = g s) :
    (sl.modify id f).map g = sl.map g := by
  have : (sl.modify id f).filterMap (some ∘ g) = sl.filterMap (some ∘ g) :=
    filterMap_modify fun s _ _ => by simp [h]
  simpa [List.filterMap_eq_map] using this

/-- A shape of the changed slide is the changed one, or it was there before. -/
theorem mem_modify {f : Shape → Shape} {t : Shape} (h : t ∈ sl.modify id f) :
    t ∈ sl ∨ ∃ s ∈ sl, s.id = id ∧ t = f s := by
  induction sl with
  | nil => simp [modify] at h
  | cons u sl ih =>
    rw [modify] at h
    split at h
    · next hu =>
      rcases List.mem_cons.1 h with rfl | h
      · exact .inr ⟨u, List.mem_cons_self, hu, rfl⟩
      · exact .inl (List.mem_cons_of_mem _ h)
    · rcases List.mem_cons.1 h with rfl | h
      · exact .inl List.mem_cons_self
      · rcases ih h with h | ⟨s, hs, he⟩
        · exact .inl (List.mem_cons_of_mem _ h)
        · exact .inr ⟨s, List.mem_cons_of_mem _ hs, he⟩

/-! ## Shapes by their numbers -/

theorem shape?_modify_self {f : Shape → Shape} (hf : ∀ s, (f s).id = s.id) :
    (sl.modify id f).shape? id = (sl.shape? id).map f := by
  induction sl with
  | nil => rfl
  | cons t sl ih =>
    rw [Slide.modify]
    by_cases ht : t.id = id
    · simp [shape?, ht, hf]
    · rw [if_neg ht]
      simpa [shape?, ht] using ih

theorem shape?_modify_other {n : ShapeId} {f : Shape → Shape} (hf : ∀ s, (f s).id = s.id) (h : n ≠ id) :
    (sl.modify id f).shape? n = sl.shape? n := by
  induction sl with
  | nil => rfl
  | cons t sl ih =>
    rw [Slide.modify]
    by_cases ht : t.id = id
    · have : ¬t.id = n := fun same => h (same.symm.trans ht)
      simp [shape?, ht, hf, h.symm]
    · rw [if_neg ht]
      unfold shape? at ih ⊢
      rw [List.find?_cons, List.find?_cons, ih]

theorem shape?_append {s : Shape} (h : sl.shape? id = some s) (more : Slide) : shape? (sl ++ more) id = some s := by
  rw [shape?, List.find?_append]
  simp only [shape?] at h
  rw [h]; rfl

theorem shape?_spec (h : sl.shape? id = some s) : s ∈ sl ∧ s.id = id :=
  ⟨List.mem_of_find?_eq_some h, by simpa using List.find?_some h⟩

/-- With distinct numbers, each shape is the one that its number stands for. -/
theorem shape?_of_mem (h : (sl.map (·.id)).Nodup) (hs : s ∈ sl) : sl.shape? s.id = some s := by
  induction sl with
  | nil => cases hs
  | cons t sl ih =>
    rw [List.map_cons, List.nodup_cons] at h
    rcases List.mem_cons.1 hs with rfl | hs
    · simp [shape?]
    · have other : t.id ≠ s.id := fun he => h.1 (he ▸ List.mem_map.2 ⟨s, hs, rfl⟩)
      simpa [shape?, other] using ih h.2 hs

theorem modify_eq_self {f : Shape → Shape} (hs : sl.shape? id = some s) (hf : f s = s) : sl.modify id f = sl := by
  induction sl with
  | nil => rfl
  | cons t sl ih =>
    rw [shape?, List.find?_cons] at hs
    rw [modify]
    by_cases ht : t.id = id
    · simp only [ht, beq_self_eq_true, Option.some.injEq] at hs
      subst hs
      rw [if_pos ht, hf]
    · have rest : (t.id == id) = false := by simpa using ht
      rw [rest] at hs
      rw [if_neg ht, ih hs]

theorem exists_shape? (h : ∃ s ∈ sl, s.id = id) : ∃ s, sl.shape? id = some s := by
  obtain ⟨s, hs, hid⟩ := h
  cases hf : sl.shape? id with
  | some t => exact ⟨t, rfl⟩
  | none => exact absurd hid (by simpa using List.find?_eq_none.1 hf s hs)

end Slide

/-! ## Outlines -/

theorem Outline.mem_of_lookup {outline : Outline} {node : ShapeId} {d : Descriptor}
    (h : outline.lookup node = some d) : (node, d) ∈ outline := by
  obtain ⟨⟨n, d'⟩, he, rfl⟩ := Option.map_eq_some_iff.1 h
  obtain rfl : n = node := by simpa using List.find?_some he
  exact List.mem_of_find?_eq_some he

theorem Outline.not_mem_of_lookup {outline : Outline} {node : ShapeId} {d : Descriptor}
    (h : outline.lookup node = none) : (node, d) ∉ outline := by
  rw [Outline.lookup, Option.map_eq_none_iff, List.find?_eq_none] at h
  intro hd
  simpa using h _ hd

namespace Slide

variable {sl sl' : Slide} {s : Shape} {n id : ShapeId} {d e : Descriptor}

theorem hasNode_iff : sl.hasNode n ↔ ∃ s ∈ sl, s.id = n ∧ s.isNode := by
  simp [hasNode]

theorem hasNode_of_shape? (hs : sl.shape? n = some s) (hn : s.isNode) : sl.hasNode n := by
  obtain ⟨mem, hid⟩ := shape?_spec hs
  exact hasNode_iff.2 ⟨s, mem, hid, hn⟩

theorem mem_nodes : n ∈ sl.nodes ↔ sl.hasNode n := by
  rw [hasNode_iff, nodes, List.mem_map]
  constructor
  · rintro ⟨s, hs, rfl⟩
    obtain ⟨hs, hn⟩ := List.mem_filter.1 hs
    exact ⟨s, hs, rfl, hn⟩
  · rintro ⟨s, hs, rfl, hn⟩
    exact ⟨s, List.mem_filter.2 ⟨hs, hn⟩, rfl⟩

theorem exists_of_hasNode (h : sl.hasNode n) : ∃ s ∈ sl, s.id = n := by
  obtain ⟨s, hs, hid, -⟩ := hasNode_iff.1 h
  exact ⟨s, hs, hid⟩

theorem exists_of_mem_nodes (h : n ∈ sl.nodes) : ∃ s ∈ sl, s.id = n :=
  exists_of_hasNode (mem_nodes.1 h)

theorem mem_outline : (n, d) ∈ sl.outline ↔ n ∈ sl.nodes ∧ sl.descriptorOf? n = some d := by
  simp [outline]

theorem eq_of_mem_outline (hd : (n, d) ∈ sl.outline) (he : (n, e) ∈ sl.outline) : d = e :=
  Option.some.inj ((mem_outline.1 hd).2.symm.trans (mem_outline.1 he).2)

theorem lookup_eq_of_mem (h : (n, d) ∈ sl.outline) : sl.outline.lookup n = some d := by
  cases hl : sl.outline.lookup n with
  | some e => rw [eq_of_mem_outline (Outline.mem_of_lookup hl) h]
  | none => exact absurd h (Outline.not_mem_of_lookup hl)

/-- What a node is looked up to be is what its number stands for. -/
theorem lookup_eq_descriptorOf? (hn : n ∈ sl.nodes) : sl.outline.lookup n = sl.descriptorOf? n := by
  cases hl : sl.outline.lookup n with
  | some d => exact (mem_outline.1 (Outline.mem_of_lookup hl)).2.symm
  | none =>
    cases hd : sl.descriptorOf? n with
    | none => rfl
    | some d =>
      rw [lookup_eq_of_mem (mem_outline.2 ⟨hn, hd⟩)] at hl
      cases hl

theorem wellFormed_of_descriptorOf? (h : sl.descriptorOf? n = some d) : d.WellFormed := by
  obtain ⟨s, -, hd⟩ := Option.bind_eq_some_iff.1 h
  exact Descriptor.wellFormed_of_read? hd

theorem wellFormed_of_mem (h : (n, d) ∈ sl.outline) : d.WellFormed :=
  wellFormed_of_descriptorOf? (mem_outline.1 h).2

theorem hasNode_of_mem (h : (n, d) ∈ sl.outline) : sl.hasNode n :=
  mem_nodes.1 (mem_outline.1 h).1

theorem exists_of_mem_outline (h : (n, d) ∈ sl.outline) : ∃ s ∈ sl, s.id = n :=
  exists_of_hasNode (hasNode_of_mem h)

/-- With distinct numbers, the outline is read shape by shape. -/
theorem outline_eq (hu : (sl.map (·.id)).Nodup) : sl.outline = sl.filterMap Shape.entry? := by
  rw [outline, nodes, List.filterMap_map, List.filterMap_filter]
  refine List.filterMap_congr fun s hs => ?_
  rw [Function.comp_apply, descriptorOf?, shape?_of_mem hu hs, Option.bind_some]
  rfl

theorem mem_outline_shapes (hu : (sl.map (·.id)).Nodup) :
    (n, d) ∈ sl.outline ↔ ∃ s ∈ sl, s.isNode ∧ s.id = n ∧ s.descriptor? = some d := by
  simp only [outline_eq hu, List.mem_filterMap, Shape.entry?_eq_some_iff]

theorem descriptorOf?_append (h : ∃ s ∈ sl, s.id = n) (more : Slide) :
    descriptorOf? (sl ++ more) n = sl.descriptorOf? n := by
  obtain ⟨s, hs⟩ := exists_shape? h
  rw [descriptorOf?, shape?_append hs, descriptorOf?, hs]

/-- Shapes with new numbers go to the end of the outline. -/
theorem outline_append (h : ∀ s ∈ sl', ∀ t ∈ sl, t.id ≠ s.id) : outline (sl ++ sl') = sl.outline ++ sl'.outline := by
  have nodes : nodes (sl ++ sl') = sl.nodes ++ sl'.nodes := by
    rw [Slide.nodes, List.filter_append, List.map_append]
    rfl
  rw [outline, nodes, List.filterMap_append]
  congr 1
  · refine List.filterMap_congr fun n hn => ?_
    rw [descriptorOf?_append (exists_of_mem_nodes hn)]
  · refine List.filterMap_congr fun n hn => ?_
    obtain ⟨s, hs, rfl⟩ := exists_of_mem_nodes hn
    have lacking : sl.shape? s.id = none := by
      rw [shape?, List.find?_eq_none]
      intro t ht
      simpa using h s hs t ht
    rw [descriptorOf?, shape?, List.find?_append]
    simp only [shape?] at lacking
    rw [lacking]
    rfl

theorem outline_concat (h : ∀ t ∈ sl, t.id ≠ s.id) : outline (sl ++ [s]) = sl.outline ++ s.entry?.toList := by
  have single : ([s].map (·.id)).Nodup := List.nodup_singleton _
  rw [outline_append (by simpa using h), outline_eq single]
  cases he : s.entry? <;> simp [he]

/-! ## Outlines when a text is kept -/

theorem nodes_eq (sl : Slide) : sl.nodes = sl.filterMap fun s => if s.isNode then some s.id else none := by
  induction sl with
  | nil => rfl
  | cons s sl ih =>
    rw [List.filterMap_cons, ← ih, nodes, nodes]
    cases h : s.isNode <;> simp [h]

theorem nodes_withMemo (sl : Slide) (id : ShapeId) (text : String) :
    (sl.modify id fun s => s.withMemo text).nodes = sl.nodes := by
  rw [nodes_eq, nodes_eq]
  exact filterMap_modify fun s _ _ => by simp

theorem descriptorOf?_withMemo {text : String} (h : ∃ s ∈ sl, s.id = id) :
    (sl.modify id fun s => s.withMemo text).descriptorOf? id = Descriptor.read? text := by
  obtain ⟨s, hs⟩ := exists_shape? h
  rw [descriptorOf?, shape?_modify_self fun s => s.withMemo_id _, hs, Option.map_some, Option.bind_some,
    Shape.descriptor?, Shape.memo_withMemo]

theorem descriptorOf?_withMemo_other {text : String} (h : n ≠ id) :
    (sl.modify id fun s => s.withMemo text).descriptorOf? n = sl.descriptorOf? n := by
  rw [descriptorOf?, shape?_modify_other (fun s => s.withMemo_id _) h, descriptorOf?]

theorem mem_outline_withMemo {text : String} :
    (n, d) ∈ (sl.modify id fun s => s.withMemo text).outline ↔
      (n ≠ id ∧ (n, d) ∈ sl.outline) ∨ n = id ∧ sl.hasNode id ∧ Descriptor.read? text = some d := by
  rw [mem_outline, nodes_withMemo]
  by_cases same : n = id
  · subst same
    simp only [ne_eq, not_true, false_and, false_or, true_and, mem_nodes]
    exact and_congr_right fun hn => by rw [descriptorOf?_withMemo (exists_of_hasNode hn)]
  · simp only [ne_eq, same, not_false_iff, true_and, false_and, or_false]
    rw [descriptorOf?_withMemo_other same, mem_outline]

end Slide

end FlowDeck
