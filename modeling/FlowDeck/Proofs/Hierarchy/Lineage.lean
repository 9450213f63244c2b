import FlowDeck.Proofs.Hierarchy.Descent

/-!
# Looking up a line of ancestors

Ancestors are looked up one by one, each by its identifier and the chain in front of it; where no node
stands there, any node with the identifier will do, and the first one on the page is taken. So the
order of a page counts only where a chain leads nowhere. Where chains are resolved and the nodes are
told apart, every look-up comes to the one node that is meant, and what is asked of the hierarchy
does not depend on the order.
-/

namespace FlowDeck

theorem Descriptor.mem_lineage {d : Descriptor} {id : String} {chain : List String} :
    (id, chain) ∈ d.lineage ↔ ∃ i, d.chain[i]? = some id ∧ chain = d.chain.take i := by
  rw [lineage, List.mem_mapIdx]
  constructor
  · rintro ⟨i, hi, he⟩
    obtain ⟨rfl, rfl⟩ := Prod.mk.inj he
    exact ⟨i, List.getElem?_eq_getElem hi, rfl⟩
  · rintro ⟨i, hi, rfl⟩
    obtain ⟨hlt, rfl⟩ := List.getElem?_eq_some_iff.1 hi
    exact ⟨i, hlt, rfl⟩

namespace Outline

variable {outline other : Outline} {e f : ShapeId × Descriptor} {d : Descriptor} {n node : ShapeId}

/-- A number stands for one node, and no two nodes are the same to the hierarchy. -/
structure Separate (outline : Outline) : Prop where
  eq : ∀ e ∈ outline, ∀ f ∈ outline, e.1 = f.1 → e = f
  distinct : outline.Distinct

theorem Separate.mono (h : outline.Separate) (hs : other ⊆ outline) : other.Separate :=
  ⟨fun e he f hf => h.eq e (hs he) f (hs hf), h.distinct.mono hs⟩

theorem Separate.eq_of_place (h : outline.Separate) (he : e ∈ outline) (hf : f ∈ outline)
    (hc : e.2.current = f.2.current) (hchain : e.2.chain = f.2.chain) : e = f :=
  h.eq e he f hf (h.distinct.eq e he f hf (Prod.ext hchain hc))

/-- A node is found by its identifier and its chain, wherever it is drawn. -/
theorem Separate.locate?_eq (h : outline.Separate) (he : e ∈ outline) :
    outline.locate? e.2.current e.2.chain = some e := by
  obtain ⟨f, hf⟩ := exists_locate? he
  obtain ⟨hm, hc, hchain⟩ := locate?_spec hf
  rw [hf, h.eq_of_place hm he hc (hchain ⟨e, he, rfl, rfl⟩)]

theorem parent_mem_lineage {id : String} (h : d.parentId? = some id) : (id, d.chain.dropLast) ∈ d.lineage := by
  rw [Descriptor.mem_lineage, List.dropLast_eq_take]
  exact ⟨_, (getElem?_of_parentId? h).1, rfl⟩

/-! ## The line of a node -/

def Stands (outline : Outline) (place : String × List String) (n : ShapeId) : Prop :=
  ∃ h, (n, h) ∈ outline ∧ h.current = place.1 ∧ h.chain = place.2

def IsLine (outline : Outline) (d : Descriptor) (line : List ShapeId) : Prop :=
  List.Forall₂ outline.Stands d.lineage line

theorem Separate.biUnique_stands (h : outline.Separate) : Relator.BiUnique outline.Stands := by
  constructor
  · rintro ⟨id, chain⟩ ⟨id', chain'⟩ n ⟨d, hd, rfl, rfl⟩ ⟨e, he, rfl, rfl⟩
    obtain rfl : d = e := congrArg Prod.snd (h.eq _ hd _ he rfl)
    rfl
  · rintro ⟨id, chain⟩ n m ⟨d, hd, rfl, rfl⟩ ⟨e, he, hc, hchain⟩
    exact congrArg Prod.fst (h.eq_of_place hd he hc.symm hchain.symm)

theorem nodup_lineage (d : Descriptor) : d.lineage.Nodup := by
  have lengths : d.lineage.map (·.2.length) = List.range d.chain.length := by
    apply List.ext_getElem
    · simp [Descriptor.lineage]
    · intro i hi _
      simp only [Descriptor.lineage, List.length_map, List.length_mapIdx] at hi
      simp [Descriptor.lineage, Nat.le_of_lt hi]
  exact .of_map _ (lengths ▸ List.nodup_range)

theorem resolved_iff : outline.Resolved ↔ ∀ e ∈ outline, ∀ place ∈ e.2.lineage,
    ∃ h ∈ outline, h.2.current = place.1 ∧ h.2.chain = place.2 := by
  constructor
  · rintro hr e he ⟨id, chain⟩ hplace
    obtain ⟨i, hi, rfl⟩ := Descriptor.mem_lineage.1 hplace
    exact hr e he i id hi
  · intro hr e he i id hi
    exact hr e he (id, e.2.chain.take i) (Descriptor.mem_lineage.2 ⟨i, hi, rfl⟩)

/-- Where every entry of a chain stands for a node, that node is found. -/
theorem Resolved.locate? (hs : outline.Separate) (hr : outline.Resolved) (he : (node, d) ∈ outline)
    {place : String × List String} (hplace : place ∈ d.lineage) :
    ∃ h ∈ outline, h.2.current = place.1 ∧ h.2.chain = place.2 ∧ outline.locate? place.1 place.2 = some h := by
  obtain ⟨h, hm, hc, hchain⟩ := resolved_iff.1 hr (node, d) he place hplace
  exact ⟨h, hm, hc, hchain, hc ▸ hchain ▸ hs.locate?_eq hm⟩

def lookedUp (outline : Outline) (d : Descriptor) : List ShapeId :=
  d.lineage.filterMap fun place => (outline.locate? place.1 place.2).map (·.1)

theorem Resolved.isLine_lookedUp (hs : outline.Separate) (hr : outline.Resolved) (he : (node, d) ∈ outline) :
    outline.IsLine d (outline.lookedUp d) := by
  have found : ∀ place ∈ d.lineage, ∃ n, (outline.locate? place.1 place.2).map (·.1) = some n ∧
      outline.Stands place n := by
    intro place hplace
    obtain ⟨h, hm, hc, hchain, hl⟩ := hr.locate? hs he hplace
    exact ⟨h.1, by rw [hl]; rfl, h.2, hm, hc, hchain⟩
  unfold IsLine lookedUp
  generalize d.lineage = places at found
  induction places with
  | nil => exact .nil
  | cons place places ih =>
    obtain ⟨n, hn, hstands⟩ := found place List.mem_cons_self
    simp only [List.filterMap_cons, hn]
    exact .cons hstands (ih fun place hp => found place (List.mem_cons_of_mem _ hp))

theorem foldl_insertLast_of_nodup {xs ys : List ShapeId} (h : (ys ++ xs).Nodup) :
    xs.foldl insertLast ys = ys ++ xs := by
  induction xs generalizing ys with
  | nil => rw [List.foldl_nil, List.append_nil]
  | cons x xs ih =>
    have new : x ∉ ys := fun hx => (List.nodup_append.1 h).2.2 x hx x List.mem_cons_self rfl
    have inserted : insertLast ys x = ys ++ [x] := by simp [insertLast, new]
    rw [List.foldl_cons, inserted, ih (by simpa using h), List.append_assoc, List.singleton_append]

/-- No node stands in its own line, and none stands there twice. So the ancestors are the line. -/
theorem Resolved.isLine_ancestors (hs : outline.Separate) (hr : outline.Resolved) (he : (node, d) ∈ outline) :
    outline.IsLine d (outline.ancestors node d) := by
  have line := hr.isLine_lookedUp hs he
  have nodup : (outline.lookedUp d).Nodup := (List.rel_nodup hs.biUnique_stands line).1 (nodup_lineage d)
  have apart : ∀ n ∈ outline.lookedUp d, n ≠ node := by
    rintro n hn rfl
    obtain ⟨place, hplace, hfound⟩ := List.mem_filterMap.1 hn
    obtain ⟨h, hm, -, hchain, hl⟩ := hr.locate? hs he hplace
    rw [hl] at hfound
    obtain rfl : h = (n, d) := hs.eq h hm _ he (Option.some.inj hfound)
    -- The chain would be shorter than itself.
    obtain ⟨i, hi, htake⟩ := Descriptor.mem_lineage.1 hplace
    have short : d.chain.length = (d.chain.take i).length := congrArg List.length (hchain.trans htake)
    have := (List.getElem?_eq_some_iff.1 hi).1
    rw [List.length_take] at short
    omega
  have whole : outline.ancestors node d = outline.lookedUp d := by
    have kept : (outline.lookedUp d).filter (· != node) = outline.lookedUp d :=
      List.filter_eq_self.2 fun n hn => bne_iff_ne.2 (apart n hn)
    change ((outline.lookedUp d).filter (· != node)).foldl insertLast [] = _
    rw [kept]
    exact foldl_insertLast_of_nodup nodup
  rw [whole]
  exact line

/-- There is one line at most. -/
theorem IsLine.unique {line line' : List ShapeId} (hs : outline.Separate) (h : outline.IsLine d line)
    (h' : outline.IsLine d line') : line = line' :=
  hs.biUnique_stands.2.forall₂ h h'

theorem IsLine.mono {line : List ShapeId} (h : outline.IsLine d line) (hs : outline ⊆ other) :
    other.IsLine d line :=
  List.Forall₂.imp (fun _ _ ⟨e, he, hplace⟩ => ⟨e, hs he, hplace⟩) h

/-! ## In another order -/

theorem Resolved.perm (hr : outline.Resolved) (hp : outline.Perm other) : other.Resolved := by
  intro d hd i id hi
  obtain ⟨h, hm, hplace⟩ := hr d (hp.symm.subset hd) i id hi
  exact ⟨h, hp.subset hm, hplace⟩

section
variable (hs : outline.Separate) (hr : outline.Resolved) (hp : outline.Perm other) (he : (node, d) ∈ outline)
include hs hr hp he

theorem ancestors_perm : other.ancestors node d = outline.ancestors node d := by
  have line := hr.isLine_ancestors hs he
  have line' := (hr.perm hp).isLine_ancestors (hs.mono hp.symm.subset) (hp.subset he)
  exact (line'.mono hp.symm.subset).unique hs line

theorem locate?_perm {place : String × List String} (hplace : place ∈ d.lineage) :
    other.locate? place.1 place.2 = outline.locate? place.1 place.2 := by
  obtain ⟨h, hm, hc, hchain, hl⟩ := hr.locate? hs he hplace
  rw [hl, ← hc, ← hchain, (hs.mono hp.symm.subset).locate?_eq (hp.subset hm)]

theorem layout_perm : other.layout d = outline.layout d := by
  have parent : other.parent? d = outline.parent? d := by
    unfold parent?
    cases hid : d.parentId? with
    | none => rfl
    | some id => exact locate?_perm hs hr hp he (parent_mem_lineage hid)
  have inherited : other.inheritedLayout? d = outline.inheritedLayout? d := by
    unfold inheritedLayout?
    rw [← List.head?_filterMap, ← List.head?_filterMap]
    refine congrArg List.head? (List.filterMap_congr fun place hplace => ?_)
    change (other.locate? place.1 place.2).bind _ = (outline.locate? place.1 place.2).bind _
    rw [locate?_perm hs hr hp he (List.mem_reverse.1 hplace)]
  rw [layout, layout, prescribedLayout?, prescribedLayout?, parent, inherited]

end

/-! ## Relatives in another order -/

theorem firstThen_perm (hp : outline.Perm other) (node : ShapeId) (related : Descriptor → Bool) :
    (outline.firstThen node related).Perm (other.firstThen node related) :=
  ((hp.filter _).map _).cons node

theorem mem_family_perm (hp : outline.Perm other) :
    n ∈ outline.family node d ↔ n ∈ other.family node d := by
  have under {o o' : Outline} (hs : o ⊆ o') :
      (∃ e, e.1 = n ∧ o.Under d.current e) → ∃ e, e.1 = n ∧ o'.Under d.current e :=
    fun ⟨e, he, hu⟩ => ⟨e, he, hu.mono hs⟩
  rw [mem_family, mem_family]
  exact and_congr_right fun _ => ⟨under hp.subset, under hp.symm.subset⟩

end Outline

end FlowDeck
