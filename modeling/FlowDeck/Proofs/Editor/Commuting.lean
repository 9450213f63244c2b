import FlowDeck.Proofs.Command.Beside
import FlowDeck.Proofs.Editor.Session

/-!
# Children of two nodes, in either order

Children of two nodes that are not the same to the hierarchy may be created in either order. Only the
numbers of the new shapes depend on the order, and which of them stand in front of which.
-/

namespace FlowDeck

open Slide Edit Command

variable {sl mid mid' after after' : Slide} {node other id : ShapeId} {d e : Option Descriptor}
variable {kids lines kids' lines' : List Shape} {c c' : Creation}

namespace Slide

def content? (sl : Slide) (id : ShapeId) : Option Shape :=
  (sl.shape? id).map (·.content)

/-- Two commands have created the same in both orders. `c` is what the one of them gave when it came first, and
`c'` when it came second; `e` and `e'` are what the other gave. -/
structure Interchanged (sl : Slide) (c e : Creation) (after : Slide) (c' e' : Creation) (after' : Slide) : Prop where
  childIds : c'.childIds = c.childIds ∧ e'.childIds = e.childIds
  created : c'.created.map after'.content? = c.created.map after.content? ∧
    e'.created.map after'.content? = e.created.map after.content?
  edges : c'.edges.map after'.content? = c.edges.map after.content? ∧
    e'.edges.map after'.content? = e.edges.map after.content?
  old : ∀ id, ¬sl.Lacks id → after'.shape? id = after.shape? id
  all : (after'.map (·.content)).Perm (after.map (·.content))

theorem modify_comm {f g : Shape → Shape} (hf : ∀ s, (f s).id = s.id) (hg : ∀ s, (g s).id = s.id) (h : node ≠ other) :
    (sl.modify node f).modify other g = (sl.modify other g).modify node f := by
  induction sl with
  | nil => rfl
  | cons s sl ih =>
    by_cases hn : s.id = node
    · simp [modify, hn, hf, h]
    · by_cases ho : s.id = other
      · simp [modify, ho, hg, h.symm]
      · simp [modify, hn, ho, ih]

theorem mayStore_comm (h : node ≠ other) :
    (sl.mayStore node d).mayStore other e = (sl.mayStore other e).mayStore node d := by
  cases d with
  | none => rfl
  | some d =>
    cases e with
    | none => rfl
    | some e => exact modify_comm (fun s => s.withMemo_id _) (fun s => s.withMemo_id _) h

theorem exists_mayStore (h : ∃ s ∈ sl, s.id = id) : ∃ s ∈ sl.mayStore node d, s.id = id := by
  have listed : id ∈ sl.map (·.id) := List.mem_map.2 h
  rw [← ids_mayStore sl node d] at listed
  exact List.mem_map.1 listed

theorem mayStore_append (h : ∃ s ∈ sl, s.id = node) (more : Slide) :
    mayStore (sl ++ more) node d = sl.mayStore node d ++ more := by
  cases d with
  | none => rfl
  | some d => exact storing_append_of_mem h d more

/-- When another command has followed, the slide is that of two commands, first what was there and then what each has
drawn. -/
theorem Made.eq_append {more : List Shape} {lines₂ : List Shape} {c₂ : Creation} (h : sl.Made node d kids lines c mid)
    (h₂ : mid.Made other e more lines₂ c₂ after) (ho : ∃ s ∈ sl, s.id = other) :
    after = (sl.mayStore node d).mayStore other e ++ ((kids ++ lines) ++ (more ++ lines₂)) := by
  rw [h₂.eq, h.eq, List.append_assoc _ kids lines, mayStore_append (exists_mayStore ho)]
  simp only [List.append_assoc]

theorem map_content?_new {new new' : List Shape} (h : ∀ s ∈ new, after.shape? s.id = some s)
    (h' : ∀ s ∈ new', after'.shape? s.id = some s) (same : new'.map (·.content) = new.map (·.content)) :
    (new'.map (·.id)).map after'.content? = (new.map (·.id)).map after.content? := by
  have contents {new : List Shape} {after : Slide} (h : ∀ s ∈ new, after.shape? s.id = some s) :
      (new.map (·.id)).map after.content? = (new.map (·.content)).map some := by
    rw [List.map_map, List.map_map]
    refine List.map_congr_left fun s hs => ?_
    rw [Function.comp_apply, content?, h s hs]
    rfl
  rw [contents h, contents h', same]

/-- Where each command makes the same in both orders, they may be interchanged. -/
theorem interchanged_of_made {c e c' e' : Creation} (hne : node ≠ other) (hn : ∃ s ∈ sl, s.id = node)
    (ho : ∃ s ∈ sl, s.id = other) (h : sl.MadeAlike mid' node c mid c' after')
    (h₂ : mid.MadeAlike sl other e after e' mid') :
    sl.Interchanged c e after c' e' after' := by
  obtain ⟨d, kids, kids', lines, lines', first, last', hkids, hlines, hids⟩ := h
  obtain ⟨f, more, more', lines₂, lines₂', last, first', hmore, hlines₂, hids₂⟩ := h₂
  have eq := first.eq_append last ho
  have eq' := first'.eq_append last' hn
  rw [← mayStore_comm hne] at eq'
  have drawn : ∀ s ∈ kids ++ lines, after.shape? s.id = some s := fun s hs =>
    last.shape_other (first.shape_new hs) (first.kid_ne hs ho)
  have drawn' : ∀ s ∈ more' ++ lines₂', after'.shape? s.id = some s := fun s hs =>
    last'.shape_other (first'.shape_new hs) (first'.kid_ne hs hn)
  refine ⟨⟨hids, hids₂⟩, ⟨?_, ?_⟩, ⟨?_, ?_⟩, fun id hid => ?_, ?_⟩
  · rw [first.created, last'.created]
    exact map_content?_new (fun s hs => drawn s (List.mem_append_left _ hs))
      (fun s hs => last'.shape_new (List.mem_append_left _ hs)) hkids
  · rw [last.created, first'.created]
    exact map_content?_new (fun s hs => last.shape_new (List.mem_append_left _ hs))
      (fun s hs => drawn' s (List.mem_append_left _ hs)) hmore
  · rw [first.edges, last'.edges]
    exact map_content?_new (fun s hs => drawn s (List.mem_append_right _ hs))
      (fun s hs => last'.shape_new (List.mem_append_right _ hs)) hlines
  · rw [last.edges, first'.edges]
    exact map_content?_new (fun s hs => last.shape_new (List.mem_append_right _ hs))
      (fun s hs => drawn' s (List.mem_append_right _ hs)) hlines₂
  · obtain ⟨s, hs⟩ : ∃ s, ((sl.mayStore node d).mayStore other f).shape? id = some s := by
      refine exists_shape? (exists_mayStore (exists_mayStore ?_))
      simpa [Lacks] using hid
    rw [eq, eq', shape?_append hs, shape?_append hs]
  · simp only [eq, eq', List.map_append, hkids, hlines, hmore, hlines₂]
    apply List.Perm.append_left
    exact List.perm_append_comm

end Slide

/-! ## Two commands -/

def CreatesBelow (desk : Desk) (node : ShapeId) (m : Edit Creation) : Prop :=
  ∃ direction count gap labels edge, m = createChildren desk (some node) direction count gap labels edge

section
variable {desk : Desk} {page midP afterP : Page} {p q : Descriptor} {m n : Edit Creation} {first second : Creation}

/-- Where children have been created below one node and then below another, it can be done the other way round. -/
theorem createChildren_interchange (hm : CreatesBelow desk node m) (hn : CreatesBelow desk other n)
    (h : page.slide.Orderly) (hp : (node, p) ∈ page.slide.outline) (hq : (other, q) ∈ page.slide.outline)
    (hne : p.identity ≠ q.identity)
    (hd : ∀ i j, page.slide.Lacks i → page.slide.Lacks j → desk.siteless i = desk.siteless j)
    (run : m.run.run page = (.ok first, midP)) (run₂ : n.run.run midP = (.ok second, afterP)) :
    ∃ second' midP' first' afterP',
      n.run.run page = (.ok second', midP') ∧ m.run.run midP' = (.ok first', afterP') ∧
      page.slide.Interchanged first second afterP.slide first' second' afterP'.slide := by
  obtain ⟨direction, count, gap, labels, edge, rfl⟩ := hm
  obtain ⟨direction₂, count₂, gap₂, labels₂, edge₂, rfl⟩ := hn
  -- The second command is done on the page as it was before the first: that shows the same of its node.
  have beside := makes_createChildren_beside desk direction count gap labels edge h hq hp hne.symm
  obtain ⟨view, lacks⟩ := (beside.leads page rfl).ok run
  have echo₂ := echoes_createChildren desk direction₂ count₂ gap₂ labels₂ edge₂ view.symm
    fun i j hi hj => hd j i hj (lacks i hi)
  obtain ⟨second', midP', run₂', made₂⟩ := echo₂.ends rfl rfl run₂
  -- The first command is done on the page that has come of this, for the same reason.
  have beside' := makes_createChildren_beside desk direction₂ count₂ gap₂ labels₂ edge₂ h hp hq hne
  obtain ⟨view', lacks'⟩ := (beside'.leads page rfl).ok run₂'
  have echo := echoes_createChildren desk direction count gap labels edge view'
    fun i j hi hj => hd j i (lacks' j hj) hi
  obtain ⟨first', afterP', run', made⟩ := echo.ends rfl rfl run
  have apart : node ≠ other := by
    rintro rfl
    exact hne (congrArg Descriptor.identity (eq_of_mem_outline hp hq))
  refine ⟨second', midP', first', afterP', run₂', run', interchanged_of_made apart ?_ ?_ made made₂⟩
  · exact exists_of_mem_outline hp
  · exact exists_of_mem_outline hq

/-- On the page of a session of plain steps, children of two nodes that differ in chain or identifier may be created
in either order: what succeeds in the one succeeds in the other, and the same shapes come of it, but for their numbers
and for their places between back and front. What is new has sites or has none, whatever its number. -/
theorem session_createChildren_interchange (desk : Desk) (steps : List Step) (plain : ∀ step ∈ steps, step.IsPlain)
    (hm : CreatesBelow desk node m) (hn : CreatesBelow desk other n)
    (hp : (node, p) ∈ (session desk steps).slide.outline) (hq : (other, q) ∈ (session desk steps).slide.outline)
    (hne : (p.chain, p.current) ≠ (q.chain, q.current))
    (hd : ∀ i j, (session desk steps).slide.Lacks i → (session desk steps).slide.Lacks j →
      desk.siteless i = desk.siteless j)
    (run : m.run.run (session desk steps) = (.ok first, midP)) (run₂ : n.run.run midP = (.ok second, afterP)) :
    ∃ second' midP' first' afterP',
      n.run.run (session desk steps) = (.ok second', midP') ∧ m.run.run midP' = (.ok first', afterP') ∧
      (session desk steps).slide.Interchanged first second afterP.slide first' second' afterP'.slide :=
  createChildren_interchange hm hn (session_orderly desk plain) hp hq hne hd run run₂

end

def rootWithChild : List Step :=
  [.addNode "Start" none none none none, .request (.createChildren (some 2) "RIGHT" 1 none [] none)]

/-- A child more for the root, and two for its child. -/
theorem session_interchange_rootWithChild :
    let page := session Desk.bare rootWithChild
    let m := createChildren Desk.bare (some 2) "RIGHT" 1 none [] none
    let n := createChildren Desk.bare (some 3) "BOTTOM" 2 none [] none
    ∃ first midP second afterP, m.run.run page = (.ok first, midP) ∧ n.run.run midP = (.ok second, afterP) ∧
      ∃ second' midP' first' afterP', n.run.run page = (.ok second', midP') ∧ m.run.run midP' = (.ok first', afterP') ∧
        page.slide.Interchanged first second afterP.slide first' second' afterP'.slide := by
  intro page m n
  have outline : page.slide.outline =
      [(2, ⟨"A1", [], "LR", [⟨"B1", ""⟩]⟩), (3, ⟨"B1", ["A1"], "LR", []⟩)] := by decide +kernel
  have hp : (2, ⟨"A1", [], "LR", [⟨"B1", ""⟩]⟩) ∈ page.slide.outline := by
    rw [outline]
    decide
  have hq : (3, ⟨"B1", ["A1"], "LR", []⟩) ∈ page.slide.outline := by
    rw [outline]
    decide
  have run : (m.run.run page).1 = .ok ⟨2, [4], ["B2"], [], [(2, 4)]⟩ := by decide +kernel
  have run₂ : (n.run.run (m.run.run page).2).1 = .ok ⟨3, [5, 6], ["C1", "C2"], [], [(3, 5), (3, 6)]⟩ := by
    decide +kernel
  refine ⟨_, _, _, _, run_eq run, run_eq run₂, ?_⟩
  exact session_createChildren_interchange Desk.bare rootWithChild (by decide) ⟨_, _, _, _, _, rfl⟩ ⟨_, _, _, _, _, rfl⟩
    hp hq (by decide) (fun _ _ _ _ => rfl) (run_eq run) (run_eq run₂)

end FlowDeck
