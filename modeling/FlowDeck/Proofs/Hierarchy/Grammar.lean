import FlowDeck.Proofs.Hierarchy.Codec
import Mathlib.Data.List.Forall2

/-!
# The grammar of descriptors

What a text says is told here without reading it: by the parts it is put together from, by the
pieces a part is put together from, and by the two sides of a colon. Each of these can be met in
one way only, and the reader finds it. So the texts that are read are those of the grammar, and
what is read is what the grammar says.
-/

namespace FlowDeck

/-! ## Pieces and sides -/

namespace Text

/-- The pieces that a text is put together from, with the mark between them. -/
structure Pieces (mark : Char) (s : List Char) (pieces : List (List Char)) : Prop where
  ne_nil : pieces ≠ []
  free : ∀ piece ∈ pieces, mark ∉ piece
  joined : [mark].intercalate pieces = s

theorem pieces_iff {mark : Char} {s : List Char} {pieces : List (List Char)} :
    Pieces mark s pieces ↔ pieces = s.splitOn mark := by
  constructor
  · intro h
    rw [← h.joined, List.splitOn_intercalate mark h.free h.ne_nil]
  · rintro rfl
    exact ⟨List.splitOn_ne_nil mark s, fun _ hp => (mem_splitOn hp).1, List.intercalate_splitOn mark⟩

end Text

namespace Record

open FlowDeck.Text (Pieces pieces_iff)

structure Sides (s before after : List Char) : Prop where
  free : ':' ∉ before
  whole : s = before ++ ':' :: after ∨ (s = before ∧ after = [])

theorem beforeColon_afterColon_cases (s : List Char) :
    s = beforeColon s ++ ':' :: afterColon s ∨ (s = beforeColon s ∧ afterColon s = []) := by
  by_cases h : ':' ∈ s
  · obtain ⟨before, after, rfl, free⟩ := List.eq_append_cons_of_mem h
    exact .inl (by rw [beforeColon_append free, afterColon_append free])
  · exact .inr ⟨(beforeColon_eq_self h).symm, afterColon_of_not_mem h⟩

theorem sides_iff {s before after : List Char} :
    Sides s before after ↔ before = beforeColon s ∧ after = afterColon s := by
  constructor
  · rintro ⟨free, rfl | ⟨rfl, rfl⟩⟩
    · exact ⟨(beforeColon_append free).symm, (afterColon_append free).symm⟩
    · exact ⟨(beforeColon_eq_self free).symm, (afterColon_of_not_mem free).symm⟩
  · rintro ⟨rfl, rfl⟩
    exact ⟨colon_not_mem_beforeColon s, beforeColon_afterColon_cases s⟩

/-! ## Entries -/

def Names (entry : List Char) (id : String) : Prop :=
  ∃ before after, Sides entry before after ∧ id = plain before

/-- The child that an entry lists: a layout only where it is a layout token. -/
def Lists (entry : List Char) (ref : ChildRef) : Prop :=
  ∃ before after, Sides entry before after ∧ ref.id = plain before ∧
    (plain after ∈ Layout.tokens → ref.layout = plain after) ∧
    (plain after ∉ Layout.tokens → ref.layout = "")

theorem names_iff (entry : List Char) (id : String) :
    Names entry id ↔ id = plain (beforeColon entry) := by
  simp only [Names, sides_iff]
  exact ⟨fun ⟨_, _, ⟨rfl, rfl⟩, h⟩ => h, fun h => ⟨_, _, ⟨rfl, rfl⟩, h⟩⟩

theorem readToken_eq_iff {s : List Char} {layout : String} :
    layout = readToken s ↔
      (plain s ∈ Layout.tokens → layout = plain s) ∧ (plain s ∉ Layout.tokens → layout = "") := by
  unfold readToken
  split <;> simp [*]

theorem lists_iff (entry : List Char) (ref : ChildRef) :
    Lists entry ref ↔ ref = ⟨plain (beforeColon entry), readToken (afterColon entry)⟩ := by
  obtain ⟨id, layout⟩ := ref
  rw [ChildRef.mk.injEq, readToken_eq_iff]
  simp only [Lists, sides_iff]
  exact ⟨fun ⟨_, _, ⟨rfl, rfl⟩, h⟩ => h, fun h => ⟨_, _, ⟨rfl, rfl⟩, h⟩⟩

theorem forall₂_iff_eq_map {α β : Type} {R : α → β → Prop} {f : α → β} (h : ∀ x y, R x y ↔ y = f x)
    {xs : List α} {ys : List β} : List.Forall₂ R xs ys ↔ ys = xs.map f := by
  obtain rfl : R = fun x y => y = f x := funext₂ fun x y => propext (h x y)
  rw [eq_comm, ← List.forall₂_eq_eq_eq, List.forall₂_map_left_iff]
  simp only [eq_comm]

/-- The identifiers of a chain: those that the pieces between the bars name, the empty ones left
out. -/
def ChainSays (s : List Char) (chain : List String) : Prop :=
  ∃ pieces ids, Pieces '|' s pieces ∧ List.Forall₂ Names pieces ids ∧ chain = ids.filter (· ≠ "")

def ChildrenSay (s : List Char) (children : List ChildRef) : Prop :=
  ∃ pieces refs, Pieces ',' s pieces ∧ List.Forall₂ Lists pieces refs ∧
    children = refs.filter (·.id ≠ "")

theorem chainSays_iff {s : List Char} {chain : List String} :
    ChainSays s chain ↔ chain = readChain s := by
  constructor
  · rintro ⟨pieces, ids, hpieces, hids, rfl⟩
    obtain rfl := pieces_iff.1 hpieces
    obtain rfl := (forall₂_iff_eq_map names_iff).1 hids
    rfl
  · rintro rfl
    exact ⟨_, _, pieces_iff.2 rfl, (forall₂_iff_eq_map names_iff).2 rfl, rfl⟩

theorem readChildren_eq_filter (s : List Char) :
    readChildren s = ((s.splitOn ',').map fun entry =>
      (⟨plain (beforeColon entry), readToken (afterColon entry)⟩ : ChildRef)).filter (·.id ≠ "") := by
  rw [readChildren]
  induction s.splitOn ',' with
  | nil => rfl
  | cons entry entries ih =>
    rw [List.filterMap_cons, List.map_cons, List.filter_cons, ih, readChild?]
    by_cases h : plain (beforeColon entry) = "" <;> simp [h]

theorem childrenSay_iff {s : List Char} {children : List ChildRef} :
    ChildrenSay s children ↔ children = readChildren s := by
  rw [readChildren_eq_filter]
  constructor
  · rintro ⟨pieces, refs, hpieces, hrefs, rfl⟩
    obtain rfl := pieces_iff.1 hpieces
    obtain rfl := (forall₂_iff_eq_map lists_iff).1 hrefs
    rfl
  · rintro rfl
    exact ⟨_, _, pieces_iff.2 rfl, (forall₂_iff_eq_map lists_iff).2 rfl, rfl⟩

/-! ## Parts -/

namespace Parts

/-- A text of the grammar, stripped, with the parts it is put together from: the layout is missing,
empty or a token, and the identifier is not empty. -/
structure Written (p : Parts) (text : String) : Prop where
  separable : p.Separable
  whole : Text.strip text.toList = p.text
  layout : ∀ l ∈ p.layout, plain l = "" ∨ plain l ∈ Layout.tokens
  current : plain p.current ≠ ""

structure Says (p : Parts) (d : Descriptor) : Prop where
  current : d.current = plain p.current
  layout : d.layout = p.layout.elim "LR" plain
  chain : ChainSays p.chain d.chain
  children : ChildrenSay p.children d.children

theorem text_injective {p q : Parts} (hp : p.Separable) (hq : q.Separable) (h : p.text = q.text) :
    p = q := by
  have hp' : parts? p.text = some p := parts?_eq_some_iff.2 ⟨hp, rfl⟩
  have hq' : parts? p.text = some q := parts?_eq_some_iff.2 ⟨hq, h⟩
  exact Option.some.inj (hp'.symm.trans hq')

theorem readLayout?_eq_some_iff {part : Option (List Char)} {layout : String} :
    readLayout? part = some layout ↔
      (∀ l ∈ part, plain l = "" ∨ plain l ∈ Layout.tokens) ∧ layout = part.elim "LR" plain := by
  cases part with
  | none =>
    have default : defaultLayout.token = "LR" := rfl
    simp [readLayout?, default, eq_comm (a := layout)]
  | some l =>
    simp only [readLayout?, Option.ite_none_right_eq_some, Option.some.injEq, Option.mem_def,
      forall_eq', Option.elim_some]
    exact and_congr_right fun _ => eq_comm

theorem read?_eq_some_iff {p : Parts} {d : Descriptor} :
    p.read? = some d ↔
      (∀ l ∈ p.layout, plain l = "" ∨ plain l ∈ Layout.tokens) ∧ plain p.current ≠ "" ∧ p.Says d := by
  obtain ⟨current, chain, layout, children⟩ := d
  simp only [read?, Option.bind_eq_bind, Option.bind_eq_some_iff, Option.ite_none_left_eq_some,
    readLayout?_eq_some_iff]
  constructor
  · rintro ⟨_, ⟨declared, rfl⟩, named, h⟩
    obtain ⟨rfl, rfl, rfl, rfl⟩ := Descriptor.mk.inj (Option.some.inj h)
    exact ⟨declared, named, rfl, rfl, chainSays_iff.2 rfl, childrenSay_iff.2 rfl⟩
  · rintro ⟨declared, named, rfl, rfl, hchain, hchildren⟩
    obtain rfl := chainSays_iff.1 hchain
    obtain rfl := childrenSay_iff.1 hchildren
    exact ⟨_, ⟨declared, rfl⟩, named, rfl⟩

end Parts

end Record

namespace Descriptor

open Record

theorem read?_eq_some_iff {text : String} {d : Descriptor} :
    read? text = some d ↔ ∃ p : Parts, p.Written text ∧ p.Says d := by
  simp only [read?, Option.bind_eq_some_iff, parts?_eq_some_iff, Parts.read?_eq_some_iff]
  constructor
  · rintro ⟨p, ⟨separable, whole⟩, declared, named, told⟩
    exact ⟨p, ⟨separable, whole, declared, named⟩, told⟩
  · rintro ⟨p, ⟨separable, whole, declared, named⟩, told⟩
    exact ⟨p, ⟨separable, whole⟩, declared, named, told⟩

/-- The texts that are read are those of the grammar. Such a text is put together in one way only,
and what is read from it is what its parts say. -/
theorem read?_accepts_grammar (text : String) :
    ((read? text).isSome ↔ ∃ p : Parts, p.Written text) ∧
      (∀ p q : Parts, p.Written text → q.Written text → p = q) ∧
      ∀ p : Parts, p.Written text → ∀ d, read? text = some d ↔ p.Says d := by
  have unique : ∀ p q : Parts, p.Written text → q.Written text → p = q := fun p q hp hq =>
    Parts.text_injective hp.separable hq.separable (hp.whole.symm.trans hq.whole)
  have accepted : ∀ p : Parts, p.Written text → ∃ d, p.Says d := fun p _ =>
    ⟨⟨_, _, _, _⟩, rfl, rfl, chainSays_iff.2 rfl, childrenSay_iff.2 rfl⟩
  refine ⟨?_, unique, fun p hp d => ?_⟩
  · rw [Option.isSome_iff_exists]
    constructor
    · rintro ⟨d, hd⟩
      obtain ⟨p, hp, -⟩ := read?_eq_some_iff.1 hd
      exact ⟨p, hp⟩
    · rintro ⟨p, hp⟩
      obtain ⟨d, hd⟩ := accepted p hp
      exact ⟨d, read?_eq_some_iff.2 ⟨p, hp, hd⟩⟩
  · rw [read?_eq_some_iff]
    constructor
    · rintro ⟨q, hq, hd⟩
      exact unique p q hp hq ▸ hd
    · exact fun hd => ⟨p, hp, hd⟩

theorem read?_accepts_grammar_marks :
    let p : Parts := ⟨"A1:x||B 2|:".toList, some ['\n'], " C[1 ".toList, "D1 : TD,:LR,D(2):up,".toList⟩
    p.Written " graph[A1:x||B 2|:](\n)[ C[1 ][D1 : TD,:LR,D(2):up,] " ∧
      p.Says ⟨"C[1", ["A1", "B 2"], "", [⟨"D1", "TD"⟩, ⟨"D(2)", ""⟩]⟩ := by
  intro p
  have written : p.Written " graph[A1:x||B 2|:](\n)[ C[1 ][D1 : TD,:LR,D(2):up,] " :=
    ⟨⟨by decide, by decide, by decide, by decide⟩, by decide, by decide, by decide⟩
  exact ⟨written, ((read?_accepts_grammar _).2.2 p written _).1 (by decide)⟩

end Descriptor

end FlowDeck
