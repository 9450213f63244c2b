import FlowDeck.Proofs.Command.Asking
import FlowDeck.Proofs.Hierarchy.Codec
import Mathlib.Data.List.Nodup

/-!
# Classes of nodes

Siblings are nodes below the same chain, and peers are nodes at the same level. Both are told by a key: the text
of the chain, and the level. So asking for them sorts the nodes of a page into classes. That the text of the
chain will do in place of the chain itself is because chains are read from texts: their identifiers hold no bar.
-/

namespace FlowDeck

open Edit

namespace Descriptor

variable {d e : Descriptor}

theorem toList_chainKey (d : Descriptor) : d.chainKey.toList = Record.chainText d.chain := by
  rw [chainKey, String.toList_intercalate]
  rfl

/-- A chain is read back from its key. -/
theorem chainKey_eq_iff (hd : d.WellFormed) (he : e.WellFormed) : e.chainKey = d.chainKey ↔ e.chain = d.chain := by
  constructor
  · intro same
    have texts : Record.chainText e.chain = Record.chainText d.chain := by
      rw [← toList_chainKey, ← toList_chainKey, same]
    rw [← Record.readChain_chainText he.chain, ← Record.readChain_chainText hd.chain, texts]
  · intro same
    rw [chainKey, chainKey, same]

end Descriptor

namespace Slide

variable {sl : Slide}

theorem map_fst_outline (sl : Slide) :
    sl.outline.map (·.1) = sl.nodes.filter fun id => (sl.descriptorOf? id).isSome := by
  rw [outline]
  induction sl.nodes with
  | nil => rfl
  | cons id nodes ih =>
    cases typed : sl.descriptorOf? id with
    | none => simp [typed, ih]
    | some d => simp [typed, ih]

theorem nodup_outline (hn : (sl.map (·.id)).Nodup) : (sl.outline.map (·.1)).Nodup := by
  have nodes : sl.nodes.Nodup := hn.sublist (List.filter_sublist.map _)
  rw [map_fst_outline]
  exact nodes.sublist List.filter_sublist

end Slide

namespace Outline

variable {outline : Outline} {node n : ShapeId} {related : Descriptor → Bool}

theorem mem_firstThen :
    n ∈ outline.firstThen node related ↔ n = node ∨ ∃ e, (n, e) ∈ outline ∧ related e := by
  simp only [firstThen, List.mem_cons, List.mem_map, List.mem_filter, Bool.and_eq_true, bne_iff_ne, Prod.exists,
    exists_and_right, exists_eq_right]
  constructor
  · rintro (same | ⟨e, he, -, hr⟩)
    · exact .inl same
    · exact .inr ⟨e, he, hr⟩
  · rintro (same | ⟨e, he, hr⟩)
    · exact .inl same
    · by_cases same : n = node
      · exact .inl same
      · exact .inr ⟨e, he, same, hr⟩

theorem nodup_firstThen (hn : (outline.map (·.1)).Nodup) : (outline.firstThen node related).Nodup := by
  refine List.nodup_cons.2 ⟨fun hm => ?_, hn.sublist (List.filter_sublist.map _)⟩
  obtain ⟨e, he, same⟩ := List.mem_map.1 hm
  simp [same] at he

end Outline

namespace Command

open Slide

variable {sl : Slide} {scope : Scope} {a b n : ShapeId} {d e : Descriptor}

def Relates (scope : Scope) (sl : Slide) (a b : ShapeId) : Prop :=
  ∃ found, Gives (relatives scope a) sl found ∧ b ∈ found

/-- Asking for these relatives sorts some of the nodes into classes: each is answered with itself and then the others
of its class, each of them once, and all of a class with the same ones. -/
structure Classifies (scope : Scope) (sl : Slide) (among : ShapeId → Prop) : Prop where
  equivalence : Equivalence fun a b : {n // among n} => Relates scope sl a b
  answers : ∀ a, among a → ∃ others, Gives (relatives scope a) sl (a :: others) ∧ (a :: others).Nodup ∧
    ∀ n ∈ others, among n
  same : ∀ a b, among a → Relates scope sl a b → ∀ n, Relates scope sl a n ↔ Relates scope sl b n

theorem gives_unique {α : Type} {m : Edit α} {x y : α} (h : Gives m sl x) (h' : Gives m sl y) : x = y := by
  have same : ((.ok x : Except Fault α), ({ slide := sl } : Page)) = (.ok y, { slide := sl }) :=
    (h _ rfl).symm.trans (h' _ rfl)
  exact Except.ok.inj (congrArg Prod.fst same)

theorem gives_relatives_of_mem (scope : Scope) (h : (n, d) ∈ sl.outline) :
    Gives (relatives scope n) sl (scope.relatives sl.outline n d) := by
  have given := gives_relatives scope (exists_of_mem_outline h)
  rw [(mem_outline.1 h).2] at given
  exact given

section
variable {κ : Type} [BEq κ] [LawfulBEq κ] (key : Descriptor → κ) {P : Descriptor → Prop}

/-- Relatives that are told by a key are those with the same key. -/
theorem relates_iff (h : (a, d) ∈ sl.outline)
    (told : scope.relatives sl.outline a d = sl.outline.firstThen a fun e => key e == key d) :
    Relates scope sl a b ↔ ∃ e, (b, e) ∈ sl.outline ∧ key e = key d := by
  have given := told ▸ gives_relatives_of_mem scope h
  have members : Relates scope sl a b ↔ b ∈ sl.outline.firstThen a fun e => key e == key d :=
    ⟨fun ⟨_, hf, hb⟩ => gives_unique hf given ▸ hb, fun hb => ⟨_, given, hb⟩⟩
  rw [members, Outline.mem_firstThen]
  simp only [beq_iff_eq]
  constructor
  · rintro (rfl | related)
    · exact ⟨d, h, rfl⟩
    · exact related
  · exact .inr

theorem relates_iff_of_mem (ha : (a, d) ∈ sl.outline) (hb : (b, e) ∈ sl.outline)
    (told : scope.relatives sl.outline a d = sl.outline.firstThen a fun e => key e == key d) :
    Relates scope sl a b ↔ key e = key d := by
  rw [relates_iff key ha told]
  constructor
  · rintro ⟨e', he', same⟩
    rw [eq_of_mem_outline hb he', same]
  · exact fun same => ⟨e, hb, same⟩

/-- Relatives that are told by a key come in classes. -/
theorem classifies_of_key (hn : (sl.map (·.id)).Nodup)
    (told : ∀ n d, P d → scope.relatives sl.outline n d = sl.outline.firstThen n fun e => key e == key d)
    (closed : ∀ d e, P d → key e = key d → P e) :
    Classifies scope sl fun n => ∃ d, (n, d) ∈ sl.outline ∧ P d := by
  have related {a b : ShapeId} {d : Descriptor} (h : (a, d) ∈ sl.outline) (hd : P d) :
      Relates scope sl a b ↔ ∃ e, (b, e) ∈ sl.outline ∧ key e = key d := relates_iff key h (told a d hd)
  have same {a b : ShapeId} (ha : ∃ d, (a, d) ∈ sl.outline ∧ P d) (hab : Relates scope sl a b) (n : ShapeId) :
      Relates scope sl a n ↔ Relates scope sl b n := by
    obtain ⟨d, h, hd⟩ := ha
    obtain ⟨e, he, hkey⟩ := (related h hd).1 hab
    rw [related h hd, related he (closed d e hd hkey), hkey]
  have refl {a : ShapeId} (ha : ∃ d, (a, d) ∈ sl.outline ∧ P d) : Relates scope sl a a := by
    obtain ⟨d, h, hd⟩ := ha
    exact (related h hd).2 ⟨d, h, rfl⟩
  refine ⟨⟨fun a => refl a.2, fun {a b} hab => ?_, fun {a b c} hab hbc => ?_⟩, fun a ha => ?_, fun _ _ ha => same ha⟩
  · exact (same a.2 hab a).1 (refl a.2)
  · exact (same a.2 hab c).2 hbc
  · obtain ⟨d, h, hd⟩ := ha
    have given := told a d hd ▸ gives_relatives_of_mem scope h
    have once : (sl.outline.firstThen a fun e => key e == key d).Nodup := Outline.nodup_firstThen (nodup_outline hn)
    refine ⟨_, given, once, fun n hm => ?_⟩
    obtain ⟨e, he, hkey⟩ := (related h hd).1 ⟨_, given, List.mem_cons_of_mem _ hm⟩
    exact ⟨e, he, closed d e hd hkey⟩

end

/-- Where numbers are not shared, the siblings of a node with a descriptor are the nodes below the same chain, and the
peers of a node with a level are the nodes at that level. So the nodes with descriptors come in classes of
siblings, and those with a level in classes of peers. -/
theorem siblings_peers_classify (hn : (sl.map (·.id)).Nodup) :
    (∀ a d b e, (a, d) ∈ sl.outline → (b, e) ∈ sl.outline → (Relates .siblings sl a b ↔ e.chain = d.chain)) ∧
      Classifies .siblings sl (fun n => ∃ d, (n, d) ∈ sl.outline) ∧
      (∀ a d b e, (a, d) ∈ sl.outline → (b, e) ∈ sl.outline → d.level ≠ "" →
        (Relates .level sl a b ↔ e.level = d.level)) ∧
      Classifies .level sl (fun n => ∃ d, (n, d) ∈ sl.outline ∧ d.level ≠ "") := by
  refine ⟨fun a d b e ha hb => ?_, ?_, fun a d b e ha hb hd => ?_, ?_⟩
  · rw [relates_iff_of_mem Descriptor.chainKey ha hb rfl]
    exact Descriptor.chainKey_eq_iff (wellFormed_of_mem ha) (wellFormed_of_mem hb)
  · have all : Classifies .siblings sl fun n => ∃ d, (n, d) ∈ sl.outline ∧ True :=
      classifies_of_key Descriptor.chainKey hn (fun _ _ _ => rfl) fun _ _ _ _ => trivial
    simpa only [and_true] using all
  · exact relates_iff_of_mem Descriptor.level ha hb (if_neg hd)
  · exact classifies_of_key Descriptor.level hn (fun _ _ hd => if_neg hd) fun _ _ hd same => same ▸ hd

/-- Chains that are written in different ways, and one that is a single identifier. -/
def kin : Slide :=
  described [(2, "graph[A1|B1](LR)[C1][]"), (3, "graph[ A1 || B1:TD |]()[C2][]"), (4, "graph[A1B1][C1][]"),
    (5, "graph[](LR)[1][]")]

theorem siblings_peers_classify_kin :
    Relates .siblings kin 3 2 ∧ ¬ Relates .siblings kin 2 4 ∧ Relates .level kin 2 4 ∧
      ∃ others, Gives (relatives .level 4) kin (4 :: others) ∧ (4 :: others).Nodup := by
  have outline : kin.outline = [(2, ⟨"C1", ["A1", "B1"], "LR", []⟩), (3, ⟨"C2", ["A1", "B1"], "", []⟩),
      (4, ⟨"C1", ["A1B1"], "LR", []⟩), (5, ⟨"1", [], "LR", []⟩)] := by decide +kernel
  have first : (2, ⟨"C1", ["A1", "B1"], "LR", []⟩) ∈ kin.outline := by simp [outline]
  have second : (3, ⟨"C2", ["A1", "B1"], "", []⟩) ∈ kin.outline := by simp [outline]
  have third : (4, ⟨"C1", ["A1B1"], "LR", []⟩) ∈ kin.outline := by simp [outline]
  obtain ⟨siblings, -, peers, classes⟩ :=
    siblings_peers_classify (show (kin.map (·.id)).Nodup by decide)
  refine ⟨(siblings _ _ _ _ second first).2 rfl, fun h => ?_, (peers _ _ _ _ first third (by decide)).2 (by decide), ?_⟩
  · exact absurd ((siblings _ _ _ _ first third).1 h) (by decide)
  · obtain ⟨others, given, once, -⟩ := classes.answers 4 ⟨_, third, by decide⟩
    exact ⟨others, given, once⟩

end Command

end FlowDeck
