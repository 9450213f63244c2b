import FlowDeck.Proofs.Command.Asking
import FlowDeck.Proofs.Command.Offspring
import Mathlib.Order.Bounds.Defs

/-!
# Planting a root

A node that is no root becomes one with the least number that no other node has at the level of roots. It
keeps the text of a root then and nothing else, so that it stays as it is when it is asked for again. For this
the numbers of the other nodes are read. One with more digits than can be read is a fault, which leaves the
slide as it is.
-/

namespace FlowDeck

open Slide Edit Record

variable {sl : Slide} {page : Page} {node : ShapeId} {s : Shape} {d root : Descriptor} {outline : Outline} {n : Nat}

/-! ## The least free number -/

theorem numberAt?_eq_some_iff {level id : String} : numberAt? level id = some n ↔ splitId? id = some (level, n) := by
  rw [numberAt?, Option.bind_eq_some_iff]
  constructor
  · rintro ⟨⟨other, number⟩, split, h⟩
    obtain ⟨rfl, rfl⟩ : other = level ∧ number = n := by simpa using h
    exact split
  · intro split
    exact ⟨_, split, if_pos rfl⟩

theorem isLeast_freeRootNumber (ids : List String) :
    IsLeast {n | 0 < n ∧ ∀ id ∈ ids, splitId? id ≠ some (rootLevel, n)} (freeRootNumber ids) := by
  obtain ⟨i, -, found, free, passed⟩ := freeRootNumber_passes ids
  rw [found]
  refine ⟨⟨i.succ_pos, fun id hid split => free id hid (numberAt?_eq_some_iff.2 split)⟩, ?_⟩
  rintro m ⟨pos, unused⟩
  by_contra below
  obtain ⟨id, hid, number⟩ := passed (m - 1) (by omega)
  rw [Nat.sub_add_cancel pos] at number
  exact unused id hid (numberAt?_eq_some_iff.1 number)

/-! ## Numbers that can be read -/

/-- The number of an identifier, if it has one, is short enough to be read. -/
def Readable (id : String) : Prop :=
  ∀ letters digits, idParts? id = some (letters, digits) → digits.length ≤ Number.maxDigits

theorem checkId_eq_ok_iff {id : String} : checkId id = .ok () ↔ Readable id := by
  unfold checkId Readable
  cases idParts? id with
  | none => simp
  | some parts =>
    obtain ⟨letters, digits⟩ := parts
    simp only [Number.checkDigits, Option.some.injEq, Prod.mk.injEq, and_imp]
    constructor
    · rintro h _ _ rfl rfl
      by_contra long
      rw [if_neg long] at h
      cases h
    · intro h
      rw [if_pos (h _ _ rfl rfl)]

instance (id : String) : Decidable (Readable id) :=
  decidable_of_iff _ checkId_eq_ok_iff

theorem forM_eq_ok_iff {α ε : Type} {f : α → Except ε Unit} {xs : List α} :
    xs.forM f = .ok () ↔ ∀ x ∈ xs, f x = .ok () := by
  induction xs with
  | nil => exact ⟨fun _ _ hx => (nomatch hx), fun _ => rfl⟩
  | cons x xs ih =>
    have step : (x :: xs).forM f = f x >>= fun _ => xs.forM f := rfl
    rw [step, List.forall_mem_cons, ← ih]
    cases f x with
    | error fault => exact ⟨nofun, nofun⟩
    | ok _ => exact ⟨fun h => ⟨rfl, h⟩, fun h => h.2⟩

/-- The least free number is found exactly if all numbers can be read. -/
theorem readFreeRootId_eq_ok_iff {ids : List String} :
    readFreeRootId ids = .ok (freeRootId ids) ↔ ∀ id ∈ ids, Readable id := by
  have step : readFreeRootId ids = ids.forM checkId >>= fun _ => .ok (freeRootId ids) := rfl
  simp only [step, ← checkId_eq_ok_iff, ← forM_eq_ok_iff]
  cases ids.forM checkId with
  | error fault => exact ⟨nofun, nofun⟩
  | ok _ => exact ⟨fun _ => rfl, fun _ => rfl⟩

/-! ## The number of a new root -/

namespace Outline

/-- `n` is the least number for a root that no other node has. There are not many to pass. -/
structure FreeRoot (outline : Outline) (node : ShapeId) (n : Nat) : Prop where
  least : IsLeast {n | 0 < n ∧ ∀ e ∈ outline, e.1 ≠ node → splitId? e.2.current ≠ some (rootLevel, n)} n
  new : ∀ e ∈ outline, e.1 ≠ node → e.2.current ≠ siblingId rootLevel n
  bound : n ≤ (outline.filter fun e => e.1 != node && e.2.level == rootLevel).length + 1

def Legible (outline : Outline) (node : ShapeId) : Prop :=
  ∀ e ∈ outline, e.1 ≠ node → e.2.level = rootLevel → Readable e.2.current

instance (outline : Outline) (node : ShapeId) : Decidable (outline.Legible node) :=
  inferInstanceAs (Decidable (∀ e ∈ outline, _ → _ → Readable e.2.current))

def otherRoots (outline : Outline) (node : ShapeId) : List String :=
  (outline.filter fun e => e.1 != node && e.2.level == rootLevel).map (·.2.current)

theorem mem_otherRoots {id : String} :
    id ∈ outline.otherRoots node ↔ ∃ e ∈ outline, e.1 ≠ node ∧ e.2.level = rootLevel ∧ e.2.current = id := by
  simp [otherRoots, and_assoc]

theorem legible_iff : outline.Legible node ↔ ∀ id ∈ outline.otherRoots node, Readable id := by
  constructor
  · intro h id hid
    obtain ⟨e, he, hn, level, rfl⟩ := mem_otherRoots.1 hid
    exact h e he hn level
  · exact fun h e he hn level => h _ (mem_otherRoots.2 ⟨e, he, hn, level, rfl⟩)

/-- What has a number at the level of roots is at that level. -/
theorem level_of_splitId? (h : splitId? d.current = some (rootLevel, n)) : d.level = rootLevel := by
  by_contra other
  have none : numberAt? rootLevel d.current = none := numberAt?_of_level other
  rw [numberAt?_eq_some_iff.2 h] at none
  cases none

theorem freeRoot_freeRootNumber (outline : Outline) (node : ShapeId) :
    outline.FreeRoot node (freeRootNumber (outline.otherRoots node)) := by
  have same : {n | 0 < n ∧ ∀ e ∈ outline, e.1 ≠ node → splitId? e.2.current ≠ some (rootLevel, n)} =
      {n | 0 < n ∧ ∀ id ∈ outline.otherRoots node, splitId? id ≠ some (rootLevel, n)} := by
    ext n
    refine and_congr_right fun _ => ⟨fun h id hid => ?_, fun h e he hn split => ?_⟩
    · obtain ⟨e, he, hn, -, rfl⟩ := mem_otherRoots.1 hid
      exact h e he hn
    · exact h _ (mem_otherRoots.2 ⟨e, he, hn, level_of_splitId? split, rfl⟩) split
  have least := isLeast_freeRootNumber (outline.otherRoots node)
  rw [← same] at least
  refine ⟨least, fun e he hn taken => ?_, ?_⟩
  · refine least.1.2 e he hn ?_
    rw [taken]
    exact splitId?_siblingId isLevel_rootLevel
  · obtain ⟨i, hi, found, -⟩ := freeRootNumber_passes (outline.otherRoots node)
    rw [otherRoots, List.length_map] at hi
    rw [found]
    exact Nat.succ_le_succ hi

/-- The new root is known exactly if the other numbers can be read. -/
theorem freshRoot_eq_ok_iff :
    freshRoot outline node = .ok { current := siblingId rootLevel (freeRootNumber (outline.otherRoots node)) } ↔
      outline.Legible node := by
  have step : freshRoot outline node =
      readFreeRootId (outline.otherRoots node) >>= fun id => .ok { current := id } := rfl
  rw [legible_iff, ← readFreeRootId_eq_ok_iff, step]
  cases hr : readFreeRootId (outline.otherRoots node) with
  | error fault => exact ⟨nofun, nofun⟩
  | ok id =>
    obtain rfl := readFreeRootId_eq hr
    exact ⟨fun _ => rfl, fun _ => rfl⟩

theorem legible_of_freshRoot (h : freshRoot outline node = .ok root) : outline.Legible node :=
  freshRoot_eq_ok_iff.1 (freshRoot_eq h ▸ h)

end Outline

/-! ## What becomes of the node -/

def rootText (n : Nat) : String :=
  "graph[][A" ++ toString n ++ "][]"

theorem render_root (n : Nat) : Descriptor.render { current := siblingId rootLevel n } = rootText n := by
  apply String.toList_inj.1
  have digits : (toString n).toList = Nat.toDigits 10 n := Nat.toList_repr
  have name : (siblingId rootLevel n).toList = 'A' :: Nat.toDigits 10 n := toList_siblingId
  rw [rootText, String.toList_append, String.toList_append, digits, Descriptor.render, String.toList_ofList, name]
  simp [opening, chainText, childrenText, layoutText, Descriptor.isRoot]

theorem read?_rootText (n : Nat) :
    Descriptor.read? (rootText n) = some ⟨siblingId rootLevel n, [], "LR", []⟩ := by
  have formed : Descriptor.WellFormed { current := siblingId rootLevel n } :=
    ⟨fits_siblingId isLevel_rootLevel.letters (by decide), by simp, .inl rfl, by simp, by simp⟩
  rw [← render_root, Descriptor.read?_render formed]
  rfl

namespace Slide

def planted (sl : Slide) (node : ShapeId) (n : Nat) : Slide :=
  sl.modify node fun s => s.withMemo (rootText n)

end Slide

theorem storing_root : sl.storing node { current := siblingId rootLevel n } = sl.planted node n := by
  rw [Slide.storing, render_root, planted]

namespace Edit

section
variable {α : Type} {m : Edit α} {a : α} {after : Slide}

def Comes (m : Edit α) (page : Page) (a : α) (after : Slide) : Prop :=
  ∃ last, m.run.run page = (.ok a, last) ∧ last.slide = after

def Stops (m : Edit α) (page : Page) : Prop :=
  ∃ fault last, m.run.run page = (.error fault, last) ∧ last.slide = page.slide

theorem Makes.comes (h : Makes m page.slide (fun b now => b = a ∧ now = after) fun _ => False) : Comes m page a after := by
  obtain ⟨_, last, run, rfl, slide⟩ := h.runs rfl
  exact ⟨last, run, slide⟩

theorem Makes.stops (h : Makes m page.slide (fun _ _ => False) (· = page.slide)) : Stops m page :=
  h.faults rfl

end

theorem makes_plantRoot_legible (hs : sl.shape? node = some s) (h : sl.outline.Legible node) :
    Makes (plantRoot node) sl (fun root after =>
      root = { current := siblingId rootLevel (freeRootNumber (sl.outline.otherRoots node)) } ∧
        after = sl.planted node (freeRootNumber (sl.outline.otherRoots node))) fun _ => False := by
  refine gives_outline.followed ?_
  have found := Outline.freshRoot_eq_ok_iff.2 h
  rw [found]
  refine gives_pure.followed ((makes_store_of hs (storable_freshRoot found)).bind ?_)
  rintro _ _ rfl
  exact (makes_note (Q := fun _ after => after = sl.planted node _) storing_root).bind fun _ _ he => makes_pure ⟨rfl, he⟩

/-- Where one of the other numbers cannot be read, nothing is planted. -/
theorem makes_plantRoot_illegible (h : ¬sl.outline.Legible node) :
    Makes (plantRoot node) sl (fun _ _ => False) (· = sl) :=
  makes_plantRoot_exact.mono (fun _ _ made => h (Outline.legible_of_freshRoot made.1)) fun _ h => h

/-- A node without a descriptor shows the root that it has become. -/
theorem makes_ensureDescriptor_legible (hs : sl.shape? node = some s) (hn : s.isNode)
    (untyped : sl.outline.lookup node = none) (h : sl.outline.Legible node) :
    Makes (ensureDescriptor node) sl (fun found after =>
      found = some ⟨siblingId rootLevel (freeRootNumber (sl.outline.otherRoots node)), [], "LR", []⟩ ∧
        after = sl.planted node (freeRootNumber (sl.outline.otherRoots node))) fun _ => False := by
  refine gives_outline.followed ?_
  rw [untyped]
  refine (makes_plantRoot_legible hs h).bind ?_
  rintro _ _ ⟨rfl, rfl⟩
  refine gives_outline.followed (makes_pure ⟨?_, rfl⟩)
  rw [← storing_root]
  exact lookup_eq_of_mem (mem_outline_storing_self (hasNode_of_shape? hs hn) (by rw [render_root, read?_rootText]))

theorem makes_ensureDescriptor_illegible (untyped : sl.outline.lookup node = none) (h : ¬sl.outline.Legible node) :
    Makes (ensureDescriptor node) sl (fun _ _ => False) (· = sl) := by
  refine gives_outline.followed ?_
  rw [untyped]
  exact (makes_plantRoot_illegible h).bind fun _ _ h => h.elim

end Edit

namespace Command

/-- A root is left as it is. -/
theorem makes_initRoot_root (hs : sl.shape? node = some s) (hn : s.isNode) (hd : s.descriptor? = some d)
    (root : d.isRoot) : Makes (initRoot (some node)) sl (fun found after => found = d ∧ after = sl) fun _ => False := by
  refine (gives_requireNode (hasNode_of_shape? hs hn)).followed ((gives_descriptor? hs).followed ?_)
  rw [hd]
  dsimp only
  rw [if_pos root]
  exact (makes_note (Q := fun _ after => after = sl) rfl).bind fun _ _ he => makes_pure ⟨rfl, he⟩

/-- Any other node is planted. -/
theorem makes_initRoot_other (hs : sl.shape? node = some s) (hn : s.isNode)
    (other : ¬∃ d, s.descriptor? = some d ∧ d.isRoot) {Q : Descriptor → Slide → Prop} {E : Slide → Prop}
    (planting : Makes (plantRoot node) sl Q E) : Makes (initRoot (some node)) sl Q E := by
  refine (gives_requireNode (hasNode_of_shape? hs hn)).followed ((gives_descriptor? hs).followed ?_)
  cases hd : s.descriptor? with
  | none => exact planting
  | some d =>
    have below : ¬d.isRoot := fun root => other ⟨d, hd, root⟩
    dsimp only
    rw [if_neg below]
    exact planting

theorem shape?_planted (hs : sl.shape? node = some s) (n : Nat) :
    (sl.planted node n).shape? node = some (s.withMemo (rootText n)) := by
  rw [← storing_root, shape?_storing hs, render_root]

/-- Whatever becomes of the node, it stays so when it is asked for again. -/
theorem initRoot_again (hs : page.slide.shape? node = some s) (hn : s.isNode) {after : Page}
    (run : (initRoot (some node)).run.run page = (.ok d, after)) :
    ∃ e, Comes (initRoot (some node)) after e after.slide := by
  by_cases rooted : ∃ d, s.descriptor? = some d ∧ d.isRoot
  · obtain ⟨e, he, root⟩ := rooted
    obtain ⟨-, same⟩ := ((makes_initRoot_root hs hn he root).leads page rfl).ok run
    rw [← same] at hs
    exact ⟨e, (makes_initRoot_root hs hn he root).comes⟩
  · by_cases legible : page.slide.outline.Legible node
    · obtain ⟨-, slide⟩ :=
        ((makes_initRoot_other hs hn rooted (makes_plantRoot_legible hs legible)).leads page rfl).ok run
      have there : after.slide.shape? node = some (s.withMemo (rootText _)) := slide ▸ shape?_planted hs _
      have shown := read?_rootText (freeRootNumber (page.slide.outline.otherRoots node))
      rw [← s.memo_withMemo (rootText _)] at shown
      exact ⟨_, (makes_initRoot_root there (by simpa using hn) shown rfl).comes⟩
    · exact (((makes_initRoot_other hs hn rooted (makes_plantRoot_illegible legible)).leads page rfl).ok run).elim

/-- A node that is no root becomes the root with the least free number, and a root stays as it is, so that
nothing more happens the second time. A node without a descriptor gets the same text when one is needed, and
shows a root with the default layout. All that can go wrong is a number of another node that cannot be read:
then the slide is left as it is. -/
theorem initRoot_plants_least (hs : page.slide.shape? node = some s) (hn : s.isNode) :
    ∃ n, page.slide.outline.FreeRoot node n ∧
      (∀ d, s.descriptor? = some d → d.isRoot → Comes (initRoot (some node)) page d page.slide) ∧
      ((¬∃ d, s.descriptor? = some d ∧ d.isRoot) →
        if page.slide.outline.Legible node then
          Comes (initRoot (some node)) page { current := siblingId rootLevel n } (page.slide.planted node n)
        else Stops (initRoot (some node)) page) ∧
      (page.slide.outline.lookup node = none →
        if page.slide.outline.Legible node then
          Comes (ensureDescriptor node) page (some ⟨siblingId rootLevel n, [], "LR", []⟩) (page.slide.planted node n)
        else Stops (ensureDescriptor node) page) ∧
      (page.slide.planted node n).memoOf? node = some ("graph[][A" ++ toString n ++ "][]") ∧
      ∀ d after, (initRoot (some node)).run.run page = (.ok d, after) →
        ∃ e, Comes (initRoot (some node)) after e after.slide := by
  refine ⟨_, Outline.freeRoot_freeRootNumber _ _, fun d hd root => ?_, fun other => ?_, fun untyped => ?_, ?_,
    fun d after run => initRoot_again hs hn run⟩
  · exact (makes_initRoot_root hs hn hd root).comes
  · split
    · next legible => exact (makes_initRoot_other hs hn other (makes_plantRoot_legible hs legible)).comes
    · next illegible => exact (makes_initRoot_other hs hn other (makes_plantRoot_illegible illegible)).stops
  · split
    · next legible => exact (makes_ensureDescriptor_legible hs hn untyped legible).comes
    · next illegible => exact (makes_ensureDescriptor_illegible untyped illegible).stops
  · rw [memoOf?, shape?_planted hs, Option.map_some, s.memo_withMemo, rootText]

/-- Numbers with a zero in front and with other digits, one that is none, and a node without a descriptor. -/
def gaps : Page where
  slide := described [(2, "graph[][A01][]"), (3, "graph[A1](TD)[A٣][]"), (4, "graph[][A2x][B1]"), (5, "")]

theorem outline_gaps : gaps.slide.outline =
    [(2, ⟨"A01", [], "LR", []⟩), (3, ⟨"A٣", ["A1"], "TD", []⟩), (4, ⟨"A2x", [], "LR", [⟨"B1", ""⟩]⟩)] := by
  decide +kernel

theorem initRoot_plants_least_gaps : gaps.slide.outline.FreeRoot 5 2 ∧
    Comes (initRoot (some 5)) gaps { current := "A2" } (gaps.slide.planted 5 2) ∧
    Comes (ensureDescriptor 5) gaps (some ⟨"A2", [], "LR", []⟩) (gaps.slide.planted 5 2) ∧
    (gaps.slide.planted 5 2).memoOf? 5 = some "graph[][A2][]" := by
  have legible : gaps.slide.outline.Legible 5 := by
    rw [outline_gaps]
    decide +kernel
  have untyped : gaps.slide.outline.lookup 5 = none := by
    rw [outline_gaps]
    rfl
  have here : gaps.slide.shape? 5 = some ⟨5, "", some "", none, .textBox ⟨0, 0, 0, 0⟩ {}⟩ := rfl
  obtain ⟨n, free, -, planted, ensured, text, -⟩ := initRoot_plants_least here rfl
  obtain rfl : n = 2 := by
    have upper : n ≤ 2 := free.least.2 ⟨by decide, by rw [outline_gaps]; decide⟩
    have passed : n ≠ 1 := by
      rintro rfl
      exact free.least.1.2 (2, ⟨"A01", [], "LR", []⟩) (by rw [outline_gaps]; simp) (by decide) (by decide)
    have positive : 0 < n := free.least.1.1
    omega
  rw [if_pos legible] at planted ensured
  refine ⟨free, planted ?_, ensured untyped, text⟩
  have bare : Shape.descriptor? ⟨5, "", some "", none, .textBox ⟨0, 0, 0, 0⟩ {}⟩ = none := by decide +kernel
  rw [bare]
  exact nofun

end Command

end FlowDeck
