import FlowDeck.Proofs.Deck.Orderly
import FlowDeck.Proofs.Hierarchy.Succession

/-!
# Going down and coming up

The family of a node is gathered downwards, by identifiers alone; the ancestors of a node are looked up
upwards, each by its whole chain. The two fit together exactly where every entry of every chain is on the
page and no identifier under which a node has children is used elsewhere.
-/

namespace FlowDeck

/-- An identifier stands at one depth only. -/
theorem IsIdAt.depth_eq {i j : Nat} {id : String} (hi : IsIdAt i id) (hj : IsIdAt j id) : i = j := by
  apply levelAt_injective
  rw [← hi.level, ← hj.level]

namespace Outline

variable {outline : Outline} {a d e f : ShapeId × Descriptor} {id : String} {n : ShapeId}

/-! ## Downwards -/

/-- The nodes below an identifier: their parent has it, or the identifier of a node below it. -/
inductive Under (outline : Outline) (id : String) : ShapeId × Descriptor → Prop
  | child {e : ShapeId × Descriptor} : e ∈ outline → e.2.parentId? = some id → Under outline id e
  | further {e f : ShapeId × Descriptor} :
    Under outline id e → f ∈ outline → f.2.parentId? = some e.2.current → Under outline id f

theorem Under.mem (h : outline.Under id e) : e ∈ outline := by
  cases h <;> assumption

theorem Under.mono {pool : Outline} (h : pool.Under id e) (hs : pool ⊆ outline) : outline.Under id e := by
  induction h with
  | child he hp => exact .child (hs he) hp
  | further _ hf hp ih => exact .further ih (hs hf) hp

/-- Every way down begins with a child. -/
theorem Under.head (h : outline.Under id f) :
    ∃ e ∈ outline, e.2.parentId? = some id ∧ (e = f ∨ outline.Under e.2.current f) := by
  induction h with
  | @child e he hp => exact ⟨e, he, hp, .inl rfl⟩
  | @further e f _ hf hp ih =>
    obtain ⟨first, hm, hp', rfl | hu⟩ := ih
    · exact ⟨first, hm, hp', .inr (.child hf hp)⟩
    · exact ⟨first, hm, hp', .inr (.further hu hf hp)⟩

def Reached (outline : Outline) (id : String) (other : String) : Prop :=
  other = id ∨ ∃ e, outline.Under id e ∧ e.2.current = other

theorem under_iff :
    outline.Under id e ↔ e ∈ outline ∧ ∃ other, outline.Reached id other ∧ e.2.parentId? = some other := by
  constructor
  · rintro (⟨he, hp⟩ | ⟨hu, he, hp⟩)
    · exact ⟨he, id, .inl rfl, hp⟩
    · exact ⟨he, _, .inr ⟨_, hu, rfl⟩, hp⟩
  · rintro ⟨he, other, rfl | ⟨f, hu, rfl⟩, hp⟩
    · exact .child he hp
    · exact .further hu he hp

theorem Reached.next {other : String} (h : outline.Reached id other) (he : e ∈ outline)
    (hp : e.2.parentId? = some other) : outline.Reached id e.2.current :=
  .inr ⟨e, under_iff.2 ⟨he, other, h, hp⟩, rfl⟩

theorem mem_directlyBelow : e ∈ outline.directlyBelow id ↔ e ∈ outline ∧ e.2.parentId? = some id := by
  simp [directlyBelow]

theorem mem_insertLast {xs : List ShapeId} {x : ShapeId} : n ∈ insertLast xs x ↔ n ∈ xs ∨ n = x := by
  unfold insertLast
  split
  · next h =>
    have h : x ∈ xs := by simpa using h
    exact ⟨.inl, fun hn => hn.elim id fun hx => hx ▸ h⟩
  · simp

theorem mem_foldl_insertLast (xs ys : List ShapeId) : n ∈ xs.foldl insertLast ys ↔ n ∈ ys ∨ n ∈ xs := by
  induction xs generalizing ys with
  | nil => simp
  | cons x xs ih => rw [List.foldl_cons, ih, mem_insertLast, List.mem_cons, or_assoc]

theorem nodup_foldl_insertLast (xs : List ShapeId) {ys : List ShapeId} (h : ys.Nodup) :
    (xs.foldl insertLast ys).Nodup := by
  induction xs generalizing ys with
  | nil => exact h
  | cons x xs ih =>
    refine ih ?_
    unfold insertLast
    split
    · exact h
    · next new =>
      have new : x ∉ ys := by simpa using new
      simpa [List.nodup_append, h] using fun a ha (same : a = x) => new (same ▸ ha)

/-- A search for the nodes below `start` on its way: what has been visited or is about to be can be reached,
what a visited identifier leads to has been seen, and what has been found are the nodes directly below
the visited identifiers. -/
structure Gathers (outline : Outline) (node : ShapeId) (start : String) (visited frontier : List String)
    (found : List ShapeId) : Prop where
  begun : start ∈ visited ∨ start ∈ frontier
  reached : ∀ id, id ∈ visited ∨ id ∈ frontier → outline.Reached start id
  closed : ∀ e ∈ outline, ∀ id ∈ visited, e.2.parentId? = some id →
    e.2.current ∈ visited ∨ e.2.current ∈ frontier
  mem_found : ∀ n, n ∈ found ↔ n ≠ node ∧ ∃ e ∈ outline, e.1 = n ∧ ∃ id ∈ visited, e.2.parentId? = some id
  nodup : found.Nodup

section
variable {node : ShapeId} {start : String} {visited frontier : List String} {found : List ShapeId}

theorem gathers_start : outline.Gathers node start [] [start] [] where
  begun := .inr (by simp)
  reached id h := .inl (by simpa using h)
  closed := by simp
  mem_found := by simp
  nodup := List.nodup_nil

/-- An identifier that comes up again is left out. -/
theorem Gathers.again (h : outline.Gathers node start visited (id :: frontier) found) (seen : id ∈ visited) :
    outline.Gathers node start visited frontier found := by
  have drop {other : String} (ho : other ∈ visited ∨ other ∈ id :: frontier) :
      other ∈ visited ∨ other ∈ frontier := by
    rcases ho with ho | ho
    · exact .inl ho
    · rcases List.mem_cons.1 ho with rfl | ho
      · exact .inl seen
      · exact .inr ho
  exact {
    begun := drop h.begun
    reached := fun other ho => h.reached other (ho.imp_right (List.mem_cons_of_mem _))
    closed := fun e he other ho hp => drop (h.closed e he other ho hp)
    mem_found := h.mem_found
    nodup := h.nodup }

/-- An identifier is visited: the nodes directly below it have been found, and their identifiers are to be
visited. -/
theorem Gathers.visit (h : outline.Gathers node start visited (id :: frontier) found) :
    outline.Gathers node start (id :: visited) (frontier ++ (outline.directlyBelow id).map (·.2.current))
      ((((outline.directlyBelow id).map (·.1)).filter (· != node)).foldl insertLast found) := by
  have keep {other : String} (ho : other ∈ visited ∨ other ∈ id :: frontier) :
      other ∈ id :: visited ∨ other ∈ frontier ++ (outline.directlyBelow id).map (·.2.current) := by
    simp only [List.mem_cons, List.mem_append] at ho ⊢
    tauto
  refine ⟨keep h.begun, fun other ho => ?_, fun e he other ho hp => ?_, fun n => ?_,
    nodup_foldl_insertLast _ h.nodup⟩
  · simp only [List.mem_cons, List.mem_append, List.mem_map] at ho
    rcases ho with (rfl | ho) | ho | ⟨e, he, rfl⟩
    · exact h.reached _ (.inr List.mem_cons_self)
    · exact h.reached _ (.inl ho)
    · exact h.reached _ (.inr (List.mem_cons_of_mem _ ho))
    · obtain ⟨he, hp⟩ := mem_directlyBelow.1 he
      exact (h.reached id (.inr List.mem_cons_self)).next he hp
  · rcases List.mem_cons.1 ho with rfl | ho
    · exact .inr (List.mem_append_right _ (List.mem_map.2 ⟨e, mem_directlyBelow.2 ⟨he, hp⟩, rfl⟩))
    · exact keep (h.closed e he other ho hp)
  · rw [mem_foldl_insertLast, h.mem_found n]
    simp only [List.mem_filter, List.mem_map, mem_directlyBelow, bne_iff_ne, List.mem_cons]
    constructor
    · rintro (⟨hn, e, he, rfl, other, ho, hp⟩ | ⟨⟨e, ⟨he, hp⟩, rfl⟩, hn⟩)
      · exact ⟨hn, e, he, rfl, other, .inr ho, hp⟩
      · exact ⟨hn, e, he, rfl, id, .inl rfl, hp⟩
    · rintro ⟨hn, e, he, rfl, other, rfl | ho, hp⟩
      · exact .inr ⟨⟨e, ⟨he, hp⟩, rfl⟩, hn⟩
      · exact .inl ⟨hn, e, he, rfl, other, ho, hp⟩

theorem Gathers.run (h : outline.Gathers node start visited frontier found) :
    ∃ all, outline.Gathers node start all [] (outline.gather node visited frontier found) := by
  induction visited, frontier, found using gather.induct outline node with
  | case1 visited found =>
    rw [gather]
    exact ⟨visited, h⟩
  | case2 visited found id frontier seen ih =>
    rw [gather, if_pos seen]
    exact ih (h.again seen)
  | case3 visited found id frontier new reached ih =>
    rw [gather, if_neg new]
    exact ih h.visit

/-- When nothing is left to be visited, all that can be reached has been. -/
theorem Gathers.reached_iff (h : outline.Gathers node start visited [] found) {other : String} :
    other ∈ visited ↔ outline.Reached start other := by
  have done {x : String} (hx : x ∈ visited ∨ x ∈ []) : x ∈ visited := hx.resolve_right List.not_mem_nil
  refine ⟨fun ho => h.reached other (.inl ho), ?_⟩
  rintro (rfl | ⟨e, hu, rfl⟩)
  · exact done h.begun
  · induction hu with
    | child he hp => exact done (h.closed _ he _ (done h.begun) hp)
    | further _ hf hp ih => exact done (h.closed _ hf _ ih hp)

theorem gathers_family (outline : Outline) (node : ShapeId) (d : Descriptor) :
    ∃ visited, outline.Gathers node d.current visited [] (outline.family node d) :=
  gathers_start.run

end

theorem nodup_family {node : ShapeId} {d : Descriptor} : (outline.family node d).Nodup :=
  have ⟨_, h⟩ := gathers_family outline node d
  h.nodup

theorem mem_family {node : ShapeId} {d : Descriptor} :
    n ∈ outline.family node d ↔ n ≠ node ∧ ∃ e, e.1 = n ∧ outline.Under d.current e := by
  obtain ⟨visited, h⟩ := gathers_family outline node d
  rw [h.mem_found]
  simp only [h.reached_iff, under_iff]
  refine and_congr_right fun _ => exists_congr fun e => ?_
  exact ⟨fun ⟨he, hn, hr⟩ => ⟨hn, he, hr⟩, fun ⟨hn, he, hr⟩ => ⟨he, hn, hr⟩⟩

/-! ## Upwards -/

theorem mem_ancestors {node : ShapeId} {d : Descriptor} : n ∈ outline.ancestors node d ↔
    n ≠ node ∧ ∃ i id e, d.chain[i]? = some id ∧ outline.locate? id (d.chain.take i) = some e ∧ e.1 = n := by
  rw [ancestors, mem_foldl_insertLast]
  simp only [List.not_mem_nil, false_or, List.mem_filter, List.mem_filterMap, Descriptor.lineage, List.mem_mapIdx,
    bne_iff_ne, ne_eq, Option.map_eq_some_iff]
  constructor
  · rintro ⟨⟨_, ⟨i, hi, rfl⟩, e, he, rfl⟩, hn⟩
    exact ⟨hn, i, _, e, List.getElem?_eq_getElem hi, he, rfl⟩
  · rintro ⟨hn, i, id, e, hi, he, rfl⟩
    obtain ⟨hlt, rfl⟩ := List.getElem?_eq_some_iff.1 hi
    exact ⟨⟨_, ⟨i, hlt, rfl⟩, e, he, rfl⟩, hn⟩

/-- What is looked up is a node with the identifier, and with the chain as well if there is one. -/
theorem locate?_spec {chain : List String} (h : outline.locate? id chain = some e) :
    e ∈ outline ∧ e.2.current = id ∧
      ((∃ f ∈ outline, f.2.current = id ∧ f.2.chain = chain) → e.2.chain = chain) := by
  have named {f} (hf : f ∈ outline.named id) : f ∈ outline ∧ f.2.current = id := by
    simpa [Outline.named] using hf
  rcases Option.or_eq_some_iff.1 h with h | ⟨hnone, h⟩
  · obtain ⟨hm, hc⟩ := named (List.mem_of_find?_eq_some h)
    exact ⟨hm, hc, fun _ => by simpa using List.find?_some h⟩
  · obtain ⟨hm, hc⟩ := named (List.mem_of_head? h)
    refine ⟨hm, hc, fun ⟨f, hf, hfc, hchain⟩ => ?_⟩
    have : f ∈ outline.named id := by simpa [Outline.named] using ⟨hf, hfc⟩
    exact absurd hchain (by simpa using List.find?_eq_none.1 hnone f this)

theorem exists_locate? (he : e ∈ outline) : ∃ f, outline.locate? e.2.current e.2.chain = some f := by
  have named : e ∈ outline.named e.2.current := by simpa [Outline.named] using he
  obtain ⟨first, rest, hl⟩ := List.exists_cons_of_ne_nil (List.ne_nil_of_mem named)
  rw [locate?, hl]
  cases (first :: rest).find? fun entry => entry.2.chain == e.2.chain with
  | some f => exact ⟨f, rfl⟩
  | none => exact ⟨first, rfl⟩

/-! ## Both ways -/

/-- A node is in the family of another exactly if the other is among its ancestors. -/
def Dual (outline : Outline) : Prop :=
  ∀ a ∈ outline, ∀ d ∈ outline, a.1 ≠ d.1 →
    (d.1 ∈ outline.family a.1 a.2 ↔ a.1 ∈ outline.ancestors d.1 d.2)

/-- Every entry of a chain stands for a node at the end of the chain in front of it. -/
def Resolved (outline : Outline) : Prop :=
  ∀ d ∈ outline, ∀ (i : Nat) id, d.2.chain[i]? = some id →
    ∃ h ∈ outline, h.2.current = id ∧ h.2.chain = d.2.chain.take i

def Rooted (outline : Outline) : Prop :=
  ∀ d ∈ outline, ∀ id, d.2.chain[0]? = some id → ∃ h ∈ outline, h.2.current = id ∧ h.2.chain = []

def Apart (outline : Outline) : Prop :=
  ∀ p ∈ outline, ∀ c ∈ outline, c.2.chain = p.2.chainBelow → ∀ q ∈ outline, q.2.current = p.2.current → q.1 = p.1

/-- No number stands for two nodes, no two nodes are the same to the hierarchy, and every identifier says
how deep it stands. -/
structure Clear (outline : Outline) : Prop where
  eq : ∀ e ∈ outline, ∀ f ∈ outline, e.1 = f.1 → e = f
  distinct : outline.Distinct
  placed : ∀ e ∈ outline, e.2.Placed

theorem Clear.eq_of_identity (h : outline.Clear) (he : e ∈ outline) (hf : f ∈ outline)
    (hc : e.2.current = f.2.current) (hchain : e.2.chain = f.2.chain) : e = f :=
  h.eq e he f hf (h.distinct.eq e he f hf (Prod.ext hchain hc))

theorem getElem?_of_parentId? {d : Descriptor} (h : d.parentId? = some id) :
    d.chain[d.chain.length - 1]? = some id ∧ d.chain = d.chain.take (d.chain.length - 1) ++ [id] := by
  obtain ⟨rest, hr⟩ := List.getLast?_eq_some_iff.1 h
  simp [hr]

theorem Resolved.parent (h : outline.Resolved) (hf : f ∈ outline) (hp : f.2.parentId? = some id) :
    ∃ p ∈ outline, p.2.current = id ∧ p.2.chainBelow = f.2.chain := by
  obtain ⟨hlast, hchain⟩ := getElem?_of_parentId? hp
  obtain ⟨p, hm, hc, hpc⟩ := h f hf _ id hlast
  refine ⟨p, hm, hc, ?_⟩
  rw [Descriptor.chainBelow, hc, hpc, ← hchain]

/-- Where chains are resolved and identifiers apart, a way down follows the chain. -/
theorem chainBelow_prefix_of_under (hc : outline.Clear) (hr : outline.Resolved) (hs : outline.Apart)
    (ha : a ∈ outline) (h : outline.Under a.2.current f) : a.2.chainBelow <+: f.2.chain := by
  have parent {e g : ShapeId × Descriptor} (he : e ∈ outline) (hg : g ∈ outline)
      (hp : g.2.parentId? = some e.2.current) : e.2.chainBelow = g.2.chain := by
    obtain ⟨p, hm, hcur, hchain⟩ := hr.parent hg hp
    have same := hs p hm g hg hchain.symm e he hcur.symm
    rw [hc.eq e he p hm same]
    exact hchain
  induction h with
  | child hf hp => exact parent ha hf hp ▸ List.prefix_rfl
  | @further e g he hg hp ih =>
    have step : e.2.chain ++ [e.2.current] = g.2.chain := parent he.mem hg hp
    rw [← step]
    exact ih.trans (List.prefix_append _ _)

theorem under_of_chainBelow_prefix (hr : outline.Resolved) (hf : f ∈ outline)
    (h : a.2.chainBelow <+: f.2.chain) : outline.Under a.2.current f := by
  -- By the length of the chain: the parent is on the page, with a chain that is shorter by one.
  generalize hlen : f.2.chain.length = len
  induction len generalizing f with
  | zero =>
    have := h.length_le
    simp [Descriptor.chainBelow, hlen] at this
  | succ len ih =>
    obtain ⟨rest, id, hchain⟩ := List.eq_nil_or_concat f.2.chain |>.resolve_left (by rintro hn; simp [hn] at hlen)
    have hp : f.2.parentId? = some id := by simp [Descriptor.parentId?, hchain]
    rw [hchain, List.concat_eq_append] at h hlen
    rcases List.prefix_concat_iff.1 h with he | hpre
    · obtain ⟨rfl, rfl⟩ : a.2.chain = rest ∧ a.2.current = id := by simpa [Descriptor.chainBelow] using he
      exact .child hf hp
    · obtain ⟨p, hm, rfl, hpc⟩ := hr.parent hf hp
      have hrest : p.2.chain = rest := by
        have := hchain ▸ hpc
        simpa [Descriptor.chainBelow] using this
      exact .further (ih hm (hrest ▸ hpre) (by simpa [hrest] using hlen)) hf hp

theorem dual_of_resolved (hc : outline.Clear) (hr : outline.Resolved) (hs : outline.Apart) : outline.Dual := by
  intro a ha d hd hne
  rw [mem_family, mem_ancestors]
  constructor
  · rintro ⟨-, f, hfd, hu⟩
    obtain rfl := hc.eq f hu.mem d hd hfd
    obtain ⟨rest, hrest⟩ := chainBelow_prefix_of_under hc hr hs ha hu
    have hchain : f.2.chain = a.2.chain ++ a.2.current :: rest := by
      rw [← hrest, Descriptor.chainBelow, List.append_assoc]; rfl
    obtain ⟨e, he⟩ := exists_locate? ha
    obtain ⟨hem, hec, hechain⟩ := locate?_spec he
    have same := hc.eq_of_identity hem ha hec (hechain ⟨a, ha, rfl, rfl⟩)
    refine ⟨hne, a.2.chain.length, a.2.current, e, by simp [hchain], ?_, congrArg Prod.fst same⟩
    rw [hchain, List.take_left]
    exact he
  · rintro ⟨-, i, id, e, hi, he, hea⟩
    obtain ⟨hem, rfl, hechain⟩ := locate?_spec he
    have exact := hechain (hr d hd i _ hi)
    obtain rfl := hc.eq e hem a ha hea
    refine ⟨hne.symm, d, rfl, under_of_chainBelow_prefix hr hd ?_⟩
    have next : e.2.chainBelow = d.2.chain.take (i + 1) := by
      rw [Descriptor.chainBelow, exact, List.take_add_one, hi]; rfl
    exact next ▸ List.take_prefix _ _

theorem Clear.depth (h : outline.Clear) (he : e ∈ outline) {i : Nat} (hi : IsIdAt i e.2.current) :
    e.2.chain.length = i :=
  (h.placed e he).current.depth_eq hi

/-- A node that is among the ancestors stands in the chain at its own depth, if the nodes up to there
can be looked up. -/
theorem chain_of_mem_ancestors (hc : outline.Clear) (ha : a ∈ outline) (hd : d ∈ outline)
    (h : a.1 ∈ outline.ancestors d.1 d.2) :
    d.2.chain[a.2.chain.length]? = some a.2.current ∧
      ((∃ f ∈ outline, f.2.current = a.2.current ∧ f.2.chain = d.2.chain.take a.2.chain.length) →
        a.2.chain = d.2.chain.take a.2.chain.length) := by
  obtain ⟨-, i, id, e, hi, he, hea⟩ := mem_ancestors.1 h
  obtain ⟨hem, rfl, hechain⟩ := locate?_spec he
  obtain rfl := hc.eq e hem a ha hea
  obtain rfl := hc.depth hem ((hc.placed d hd).chain i _ hi)
  exact ⟨hi, hechain⟩

/-- Where the two ways fit together, all entries of chains are there: the entry after one that is there
is the first node on a way down from it. -/
theorem resolved_of_dual (hc : outline.Clear) (hroot : outline.Rooted) (hdual : outline.Dual) :
    outline.Resolved := by
  intro d hd i
  induction i generalizing d with
  | zero => exact fun id hi => hroot d hd id hi
  | succ i ih =>
    intro id hi
    obtain ⟨hlt, rfl⟩ := List.getElem?_eq_some_iff.1 hi
    have hpre : d.2.chain[i]? = some d.2.chain[i] := List.getElem?_eq_getElem (by omega)
    obtain ⟨h, hm, hcur, hchain⟩ := ih d hd _ hpre
    have hlen : h.2.chain.length = i := by rw [hchain, List.length_take]; omega
    -- `h` is an ancestor of `d`, so there is a way down from it, which begins with a child `c`.
    have ne_of_depth {x y : ShapeId × Descriptor} (hx : x ∈ outline) (hy : y ∈ outline)
        (hne : x.2.chain.length ≠ y.2.chain.length) : x.1 ≠ y.1 := fun he => hne (by rw [hc.eq x hx y hy he])
    have up : h.1 ∈ outline.ancestors d.1 d.2 := by
      obtain ⟨f, hf⟩ := exists_locate? hm
      obtain ⟨hfm, hfc, hfchain⟩ := locate?_spec hf
      obtain rfl := hc.eq_of_identity hfm hm hfc (hfchain ⟨h, hm, rfl, rfl⟩)
      refine mem_ancestors.2 ⟨ne_of_depth hm hd (by omega), i, _, f, hpre, ?_, rfl⟩
      rw [← hcur, ← hchain]
      exact hf
    obtain ⟨-, f, hfd, down⟩ := mem_family.1 ((hdual h hm d hd (ne_of_depth hm hd (by omega))).2 up)
    obtain rfl := hc.eq f down.mem d hd hfd
    obtain ⟨c, hcm, hcp, hway⟩ := down.head
    have clen : c.2.chain.length = i + 1 := by
      have atEnd := (hc.placed c hcm).chain _ _ (getElem?_of_parentId? hcp).1
      have := hc.depth hm atEnd
      have pos : c.2.chain ≠ [] := by rintro hn; simp [Descriptor.parentId?, hn] at hcp
      have := List.length_pos_iff.2 pos
      omega
    -- `c` is below `h` by its chain, and stands in the chain of `d`.
    have belowH : h.2.chain = c.2.chain.take i ∧ c.2.chain = c.2.chain.take i ++ [h.2.current] := by
      have fam : c.1 ∈ outline.family h.1 h.2 :=
        mem_family.2 ⟨ne_of_depth hcm hm (by omega), c, rfl, .child hcm hcp⟩
      have anc := (hdual h hm c hcm (ne_of_depth hm hcm (by omega))).1 fam
      obtain ⟨hat, hexact⟩ := chain_of_mem_ancestors hc hm hcm anc
      rw [hlen] at hat hexact
      have split := (getElem?_of_parentId? hcp).2
      rw [clen, Nat.add_sub_cancel] at split
      exact ⟨hexact (ih c hcm _ hat), split⟩
    have inD : f.2.chain[i + 1]? = some c.2.current := by
      rcases hway with rfl | hu
      · omega
      · have fam : f.1 ∈ outline.family c.1 c.2 := mem_family.2 ⟨ne_of_depth hd hcm (by omega), f, rfl, hu⟩
        have anc := (hdual c hcm f hd (ne_of_depth hcm hd (by omega))).1 fam
        have := (chain_of_mem_ancestors hc hcm hd anc).1
        rwa [clen] at this
    refine ⟨c, hcm, ?_, ?_⟩
    · simpa [List.getElem?_eq_getElem hlt] using inD.symm
    · rw [belowH.2, ← belowH.1, hchain, hcur, List.take_add_one, hpre]; rfl

theorem apart_of_dual (hc : outline.Clear) (hdual : outline.Dual) : outline.Apart := by
  intro p hp c hcm hchain q hq hcur
  have sameDepth : q.2.chain.length = p.2.chain.length :=
    hc.depth hq (hcur ▸ (hc.placed p hp).current)
  have clen : c.2.chain.length = p.2.chain.length + 1 := by simp [hchain, Descriptor.chainBelow]
  have hcp : c.2.parentId? = some q.2.current := by simp [Descriptor.parentId?, hchain, Descriptor.chainBelow, hcur]
  have hne : c.1 ≠ q.1 := by
    intro he
    have := hc.eq c hcm q hq he
    subst this
    omega
  have fam : c.1 ∈ outline.family q.1 q.2 := mem_family.2 ⟨hne, c, rfl, .child hcm hcp⟩
  obtain ⟨-, hexact⟩ := chain_of_mem_ancestors hc hq hcm ((hdual q hq c hcm hne.symm).1 fam)
  have chainP : c.2.chain.take q.2.chain.length = p.2.chain := by
    rw [hchain, Descriptor.chainBelow, sameDepth, List.take_left]
  have same := hexact ⟨p, hp, hcur.symm, chainP.symm⟩
  exact congrArg Prod.fst (hc.eq_of_identity hq hp hcur (same.trans chainP))

/-- On a clear page on which chains begin with roots, going down and coming up fit together, exactly if all
entries of chains are there and the identifiers of nodes with children are used once. -/
theorem dual_iff (hc : outline.Clear) (hroot : outline.Rooted) :
    outline.Dual ↔ outline.Resolved ∧ outline.Apart := by
  constructor
  · intro hdual
    exact ⟨resolved_of_dual hc hroot hdual, apart_of_dual hc hdual⟩
  · rintro ⟨hr, hs⟩
    exact dual_of_resolved hc hr hs

end Outline

end FlowDeck
