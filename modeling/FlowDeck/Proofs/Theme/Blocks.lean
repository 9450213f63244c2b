import FlowDeck.Theme.Variables
import Mathlib.Data.List.TakeWhile

/-!
# Where blocks and declarations begin

The block that counts is the one of the first opening that is not closed at once, up to the first brace that closes.
So what is put behind a text changes nothing of a block that ends in it, and a block that is found behind the text
does not depend on the text, as long as no opening begins in it.
-/

namespace FlowDeck.Theme

open Text

variable {s t w rest inside : List Char} {c : Char}

/-- The text begins with `:root`, blanks and a brace, and this is what follows. -/
def Opens (s rest : List Char) : Prop :=
  ∃ blanks, (∀ c ∈ blanks, isBlank c) ∧ s = ":root".toList ++ (blanks ++ '{' :: rest)

theorem opens_spaced (rest : List Char) : Opens (":root \x7b".toList ++ rest) rest := by
  refine ⟨[' '], fun c hc => ?_, rfl⟩
  obtain rfl := List.mem_singleton.1 hc
  decide

theorem Opens.append (h : Opens s rest) (w : List Char) : Opens (s ++ w) (rest ++ w) := by
  obtain ⟨blanks, hb, rfl⟩ := h
  exact ⟨blanks, hb, by simp⟩

theorem dropWhile_blanks {blanks : List Char} (hb : ∀ c ∈ blanks, isBlank c) :
    (blanks ++ '{' :: rest).dropWhile isBlank = '{' :: rest := by
  have brace : isBlank '{' = false := by decide
  rw [List.dropWhile_append_of_pos hb]
  simp [brace]

theorem Opens.unique {rest' : List Char} (h : Opens s rest) (h' : Opens s rest') : rest = rest' := by
  obtain ⟨blanks, hb, rfl⟩ := h
  obtain ⟨blanks', hb', e⟩ := h'
  have same := List.append_cancel_left e
  have : (blanks ++ '{' :: rest).dropWhile isBlank = '{' :: rest := dropWhile_blanks hb
  rw [same, dropWhile_blanks hb'] at this
  exact (List.cons.inj this).2.symm

/-- An opening in a text that goes on is one in the text, or it is cut by the end of the text. -/
theorem Opens.cut (h : Opens (s ++ w) rest) : (∃ inside, Opens s inside ∧ rest = inside ++ w) ∨
    ∃ blanks more, (∀ c ∈ blanks, isBlank c) ∧ more ≠ [] ∧ ":root".toList ++ (blanks ++ ['{']) = s ++ more ∧
      w = more ++ rest := by
  obtain ⟨blanks, hb, e⟩ := h
  have whole : s ++ w = (":root".toList ++ (blanks ++ ['{'])) ++ rest := by simp [e]
  rcases List.append_eq_append_iff.1 whole with ⟨more, lead, hw⟩ | ⟨inside, hs, hr⟩
  · by_cases last : more = []
    · subst last
      refine .inl ⟨[], ⟨blanks, hb, ?_⟩, by simpa using hw.symm⟩
      simpa using lead.symm
    · exact .inr ⟨blanks, more, hb, last, lead, hw⟩
  · exact .inl ⟨inside, ⟨blanks, hb, by simp [hs]⟩, hr⟩

theorem blockHere?_eq_some_iff : blockHere? s = some inside ↔
    inside ≠ [] ∧ '}' ∉ inside ∧ ∃ after, Opens s (inside ++ '}' :: after) := by
  unfold blockHere?
  simp only [Option.bind_eq_bind, Option.bind_eq_some_iff, after?_eq_some_iff, upTo?_eq_some_iff, Prod.exists]
  constructor
  · rintro ⟨t, rfl, rest, brace, inside', after, ⟨mark, rfl⟩, h⟩
    split at h
    · cases h
    · next some =>
      obtain rfl := Option.some.inj h
      refine ⟨by simpa using some, mark, after, t.takeWhile isBlank, fun c hc => List.mem_takeWhile_imp hc, ?_⟩
      rw [← List.singleton_append, ← brace, List.takeWhile_append_dropWhile]
  · rintro ⟨some, mark, after, blanks, hb, rfl⟩
    refine ⟨_, rfl, _, dropWhile_blanks hb, inside, after, ⟨mark, rfl⟩, ?_⟩
    simp [some]

/-- An opening that is closed at once is no block. -/
theorem Opens.vain (h : Opens s rest) (closed : rest.head? = some '}') : blockHere? s = none := by
  refine Option.eq_none_iff_forall_ne_some.2 fun inside found => ?_
  obtain ⟨some, mark, after, h'⟩ := blockHere?_eq_some_iff.1 found
  rw [h.unique h'] at closed
  cases inside with
  | nil => exact some rfl
  | cons c inside =>
    obtain rfl := Option.some.inj closed
    exact mark List.mem_cons_self

/-- An opening that is not closed at once, but later, is one. -/
theorem Opens.block (h : Opens s rest) (lasts : rest.head? ≠ some '}') (closes : '}' ∈ rest) :
    ∃ inside, blockHere? s = some inside := by
  obtain ⟨inside, after, rfl, mark⟩ := List.eq_append_cons_of_mem closes
  refine ⟨inside, blockHere?_eq_some_iff.2 ⟨?_, mark, after, h⟩⟩
  rintro rfl
  exact lasts rfl

theorem not_mem_lead {blanks : List Char} (hb : ∀ c ∈ blanks, isBlank c) :
    '}' ∉ ":root".toList ++ (blanks ++ ['{']) := by
  have brace : '}' ∉ blanks := fun h => absurd (hb _ h) (by decide)
  simp [brace]

theorem Opens.mem (h : Opens s rest) (closes : '}' ∈ s) : '}' ∈ rest := by
  obtain ⟨blanks, hb, rfl⟩ := h
  have split : ":root".toList ++ (blanks ++ '{' :: rest) = (":root".toList ++ (blanks ++ ['{'])) ++ rest := by simp
  rw [split] at closes
  exact (List.mem_append.1 closes).resolve_left (not_mem_lead hb)

theorem mem_of_blockHere? (h : blockHere? s = some inside) : '}' ∈ s := by
  obtain ⟨-, -, after, blanks, -, rfl⟩ := blockHere?_eq_some_iff.1 h
  simp

theorem mem_of_block? (h : block? s = some inside) : '}' ∈ s := by
  induction s with
  | nil => cases h
  | cons c s ih =>
    rw [block?, Option.or_eq_some_iff] at h
    rcases h with here | ⟨-, later⟩
    · exact mem_of_blockHere? here
    · exact List.mem_cons_of_mem _ (ih later)

/-- What is put behind a text with a closing brace makes no difference to a block that begins in front. -/
theorem blockHere?_append (h : '}' ∈ s) (w : List Char) : blockHere? (s ++ w) = blockHere? s := by
  refine Option.ext fun inside => ?_
  rw [blockHere?_eq_some_iff, blockHere?_eq_some_iff]
  refine and_congr_right fun _ => and_congr_right fun mark => ?_
  constructor
  · rintro ⟨after, opens⟩
    rcases opens.cut with ⟨rest, whole, e⟩ | ⟨blanks, more, hb, -, lead, -⟩
    · obtain ⟨inside', after', rfl, mark'⟩ := List.eq_append_cons_of_mem (whole.mem h)
      have split := upTo?_eq_some_iff.2 ⟨mark, e.symm⟩
      have split' : upTo? '}' (inside' ++ '}' :: after' ++ w) = some (inside', after' ++ w) :=
        upTo?_eq_some_iff.2 ⟨mark', by simp⟩
      cases split.symm.trans split'
      exact ⟨after', whole⟩
    · exact absurd (lead ▸ List.mem_append_left more h) (not_mem_lead hb)
  · rintro ⟨after, opens⟩
    refine ⟨after ++ w, ?_⟩
    simpa using opens.append w

theorem block?_here (h : blockHere? s = some inside) : block? s = some inside := by
  cases s with
  | nil => cases h
  | cons c s => rw [block?, h, Option.some_or]

theorem block?_append (h : block? s = some inside) (w : List Char) : block? (s ++ w) = some inside := by
  induction s with
  | nil => cases h
  | cons c s ih =>
    rw [block?, Option.or_eq_some_iff] at h
    rw [List.cons_append, block?, ← List.cons_append, Option.or_eq_some_iff]
    rcases h with here | ⟨here, later⟩
    · exact .inl ((blockHere?_append (mem_of_blockHere? here) w).trans here)
    · exact .inr ⟨(blockHere?_append (List.mem_cons_of_mem _ (mem_of_block? later)) w).trans here, ih later⟩

theorem block?_drop {before : List Char} (h : ∀ u v, before = u ++ v → v ≠ [] → blockHere? (v ++ w) = none) :
    block? (before ++ w) = block? w := by
  induction before with
  | nil => rfl
  | cons c before ih =>
    have none := h [] (c :: before) rfl (List.cons_ne_nil c before)
    rw [List.cons_append, block?, ← List.cons_append, none, Option.none_or]
    exact ih fun u v e hv => h (c :: u) v (congrArg (c :: ·) e) hv

/-! ## What is in front of the block -/

/-- Wherever a block is opened in the text, it is closed at once. -/
def Quiet (s : List Char) : Prop :=
  ∀ before t rest, s = before ++ t → Opens t rest → rest.head? = some '}'

def Awaits (s : List Char) : Prop :=
  ∃ before blanks, s = before ++ (":root".toList ++ blanks) ∧ ∀ c ∈ blanks, isBlank c

/-- In a quiet text no block begins, unless what follows completes an opening at its end. -/
theorem Quiet.block?_append (h : Quiet s) (apart : ∀ before t blanks more, s = before ++ t →
    (∀ c ∈ blanks, isBlank c) → ":root".toList ++ (blanks ++ ['{']) = t ++ more → t ≠ [] → more ≠ [] →
    more.head? ≠ w.head?) : block? (s ++ w) = block? w := by
  refine block?_drop fun u v e hv => ?_
  by_contra found
  obtain ⟨inside, found⟩ := Option.ne_none_iff_exists'.1 found
  obtain ⟨-, -, after, opens⟩ := blockHere?_eq_some_iff.1 found
  rcases opens.cut with ⟨rest, whole, split⟩ | ⟨blanks, more, hb, some, lead, split⟩
  · have vain : (inside ++ '}' :: after).head? = some '}' := by
      rw [split, List.head?_append, h u v rest e whole, Option.some_or]
    rw [opens.vain vain] at found
    cases found
  · refine apart u v blanks more e hb lead hv some ?_
    rw [split, List.head?_append, Option.or_of_isSome (by simpa using some)]

theorem Quiet.block?_cons (h : Quiet s) (hc : c ∉ ":root\x7b".toList) (dark : isBlank c = false) :
    block? (s ++ c :: w) = block? (c :: w) := by
  refine h.block?_append fun before t blanks more e hb lead _ some head => ?_
  obtain ⟨more, rfl⟩ := List.head?_eq_some_iff.1 head
  have mem : c ∈ ":root".toList ++ (blanks ++ ['{']) := by rw [lead]; simp
  have clear : c ∉ blanks := fun h => by simp [hb c h] at dark
  simp at hc
  simp [clear, hc] at mem

theorem Quiet.block?_blank (h : Quiet s) (he : ¬Awaits s) (hc : isBlank c) :
    block? (s ++ c :: w) = block? (c :: w) := by
  refine h.block?_append fun before t blanks more e hb lead _ some head => he ?_
  obtain ⟨more, rfl⟩ := List.head?_eq_some_iff.1 head
  rcases List.append_eq_append_iff.1 lead with ⟨bs, ht, hbs⟩ | ⟨cs, root, hcs⟩
  · have short : bs.length ≤ blanks.length := by
      have := congrArg List.length hbs
      simp only [List.length_append, List.length_cons, List.length_nil] at this
      omega
    have early : bs <+: blanks := List.prefix_of_prefix_length_le ⟨_, hbs.symm⟩ (List.prefix_append _ _) short
    exact ⟨before, bs, by rw [e, ht], fun x hx => hb x (early.subset hx)⟩
  · cases cs with
    | nil => exact ⟨before, [], by rw [e, List.append_nil, root, List.append_nil], nofun⟩
    | cons d cs =>
      obtain ⟨rfl, -⟩ := List.cons.inj hcs
      have dark : ∀ c ∈ ":root".toList, isBlank c = false := by simp [isBlank]
      simp [dark c (by rw [root]; simp)] at hc

theorem block?_skip (hc : c ≠ ':') : block? (c :: w) = block? w := by
  rw [block?]
  cases found : blockHere? (c :: w) with
  | none => rfl
  | some inside =>
    obtain ⟨-, -, after, blanks, -, e⟩ := blockHere?_eq_some_iff.1 found
    exact absurd (List.cons.inj e).1 hc

/-! ## Inside the block -/

def EndsInside (s inside : List Char) : Prop :=
  ∃ before t, s = before ++ t ∧ Opens t inside ∧ '}' ∉ inside ∧
    ∀ u v rest, before = u ++ v → v ≠ [] → Opens (v ++ t) rest → rest.head? = some '}'

def EndsBehind (s : List Char) : Prop :=
  ∃ before t rest, s = before ++ t ∧ Opens t rest ∧ rest.head? ≠ some '}' ∧ '}' ∈ rest

theorem EndsBehind.exists_block? (h : EndsBehind s) : ∃ inside, block? s = some inside := by
  obtain ⟨before, t, rest, rfl, opens, lasts, closes⟩ := h
  induction before with
  | nil =>
    obtain ⟨inside, here⟩ := opens.block lasts closes
    exact ⟨inside, block?_here here⟩
  | cons c before ih =>
    obtain ⟨inside, later⟩ := ih
    rw [List.cons_append, block?, later]
    cases blockHere? (c :: (before ++ t)) with
    | none => exact ⟨inside, rfl⟩
    | some here => exact ⟨here, rfl⟩

theorem colon_not_mem_lead {blanks : List Char} (hb : ∀ c ∈ blanks, isBlank c) :
    ':' ∉ "root".toList ++ (blanks ++ ['{']) := by
  have colon : ':' ∉ blanks := fun h => absurd (hb _ h) (by decide)
  simp [colon]

theorem block?_eq_none (h : '}' ∉ s) : block? s = none :=
  Option.eq_none_iff_forall_ne_some.2 fun _ found => h (mem_of_block? found)

/-- The first opening that is not closed at once is the one that counts. -/
theorem block?_first {before : List Char} (opens : Opens t inside)
    (first : ∀ u v rest, before = u ++ v → v ≠ [] → Opens (v ++ t) rest → rest.head? = some '}') :
    block? (before ++ (t ++ w)) = block? (t ++ w) := by
  refine block?_drop fun u v e hv => ?_
  by_contra found
  obtain ⟨inside, found⟩ := Option.ne_none_iff_exists'.1 found
  obtain ⟨-, -, after, opens'⟩ := blockHere?_eq_some_iff.1 found
  rw [← List.append_assoc] at opens' found
  rcases opens'.cut with ⟨rest, whole, split⟩ | ⟨blanks, more, hb, some, lead, split⟩
  · have vain : (inside ++ '}' :: after).head? = some '}' := by
      rw [split, List.head?_append, first u v rest e hv whole, Option.some_or]
    rw [opens'.vain vain] at found
    cases found
  · cases v with
    | nil => exact hv rfl
    | cons c v =>
      obtain ⟨_, -, rfl⟩ := opens
      have tail : "root".toList ++ (blanks ++ ['{']) = v ++ _ ++ more := (List.cons.inj lead).2
      exact colon_not_mem_lead hb (by rw [tail]; simp)

/-- Where a text ends inside the block, the block goes on to the next closing brace. -/
theorem EndsInside.block?_append {q : List Char} (h : EndsInside s inside) (some : q ≠ []) (mark : '}' ∉ q) :
    block? (s ++ (q ++ w)) = (upTo? '}' w).map fun p => inside ++ q ++ p.1 := by
  obtain ⟨before, t, rfl, opens, unclosed, first⟩ := h
  rw [List.append_assoc, block?_first opens first]
  cases found : upTo? '}' w with
  | none =>
    have : '}' ∉ w := by
      intro h
      obtain ⟨x, y, rfl, hx⟩ := List.eq_append_cons_of_mem h
      cases found.symm.trans (upTo?_eq_some_iff.2 ⟨hx, rfl⟩)
    refine block?_eq_none fun h => ?_
    have closes := (opens.append (q ++ w)).mem h
    simp_all
  | some p =>
    obtain ⟨hx, rfl⟩ := upTo?_eq_some_iff.1 found
    refine block?_here (blockHere?_eq_some_iff.2 ⟨by simp [some], by simp [unclosed, mark, hx], p.2, ?_⟩)
    simpa using opens.append (q ++ (p.1 ++ '}' :: p.2))

theorem endsInside_opening {before : List Char} (colonless : ':' ∉ before) (unclosed : '}' ∉ inside) :
    EndsInside (before ++ (":root \x7b".toList ++ inside)) inside := by
  refine ⟨before, _, rfl, opens_spaced inside, unclosed, ?_⟩
  rintro u v rest rfl hv ⟨blanks, -, opens⟩
  cases v with
  | nil => exact absurd rfl hv
  | cons c v =>
    obtain rfl : c = ':' := (List.cons.inj opens).1
    exact absurd (by simp) colonless

/-- Where the text goes on inside the block, the block is closed by the next brace. -/
theorem EndsInside.block?_upTo {x y : List Char} (h : EndsInside s inside) (hc : c ≠ '}')
    (found : upTo? '}' (c :: w) = some (x, y)) : block? (s ++ c :: w) = some (inside ++ x) := by
  obtain ⟨mark, split⟩ := upTo?_eq_some_iff.1 found
  have some : x ≠ [] := by
    rintro rfl
    exact hc (List.cons.inj split).1
  have closed : upTo? '}' ('}' :: y) = Option.some ([], y) := upTo?_eq_some_iff.2 ⟨List.not_mem_nil, rfl⟩
  rw [split, h.block?_append some mark, closed, Option.map_some, List.append_nil]

/-! ## Declarations -/

variable {d : List Char × List Char}

theorem declarations_nil : declarations [] = [] := by
  rw [declarations]
  rfl

theorem declarations_take (h : declarationHere? s = some (d, rest)) : declarations s = d :: declarations rest := by
  rw [declarations]
  split
  · next h' =>
    cases h.symm.trans h'
    rfl
  · next h' => cases h.symm.trans h'

theorem declarations_skip (h : declarationHere? (c :: s) = none) : declarations (c :: s) = declarations s := by
  rw [declarations]
  split
  · next h' => cases h.symm.trans h'
  · rfl

theorem upTo?_append {mark : Char} (h : upTo? mark s = some (inside, rest)) (w : List Char) :
    upTo? mark (s ++ w) = some (inside, rest ++ w) := by
  obtain ⟨hm, rfl⟩ := upTo?_eq_some_iff.1 h
  exact upTo?_eq_some_iff.2 ⟨hm, by simp⟩

theorem value?_append {value : List Char} (h : value? s = some (value, rest)) (w : List Char) :
    value? (s ++ w) = some (value, rest ++ w) := by
  unfold value? at h ⊢
  simp only [Option.bind_eq_bind, Option.bind_eq_some_iff] at h
  obtain ⟨⟨v, r⟩, found, h⟩ := h
  have some : s.dropWhile isBlank ≠ [] := by
    intro none
    rw [none] at found
    cases found
  have front : (s ++ w).takeWhile isBlank = s.takeWhile isBlank := by
    rw [List.takeWhile_append, if_neg]
    intro full
    have := congrArg List.length (List.takeWhile_append_dropWhile (p := isBlank) (l := s))
    rw [List.length_append, full] at this
    exact some (List.length_eq_zero_iff.1 (by omega))
  rw [List.dropWhile_append, if_neg (by simpa using some), front, upTo?_append found]
  dsimp only [Option.bind_eq_bind, Option.bind_some] at h ⊢
  split at h
  · cases h
    simp_all
  · obtain ⟨blank, last, h⟩ := Option.map_eq_some_iff.1 h
    cases h
    simp_all

theorem declarationHere?_eq_none (h : ¬"--".toList <+: s) : declarationHere? s = none := by
  unfold declarationHere? after?
  rw [if_neg (by simpa using h)]
  rfl

theorem declarationHere?_append (h : declarationHere? s = some (d, rest)) (w : List Char) :
    declarationHere? (s ++ w) = some (d, rest ++ w) := by
  unfold declarationHere? at h ⊢
  simp only [Option.bind_eq_bind, Option.bind_eq_some_iff, after?_eq_some_iff] at h
  obtain ⟨t, rfl, ⟨name, u⟩, hname, ⟨value, r⟩, hvalue, h⟩ := h
  have lead : after? "--".toList ("--".toList ++ t ++ w) = some (t ++ w) :=
    after?_eq_some_iff.2 (List.append_assoc ..)
  rw [lead]
  dsimp only [Option.bind_eq_bind, Option.bind_some]
  rw [upTo?_append hname]
  dsimp only [Option.bind_eq_bind, Option.bind_some]
  rw [value?_append hvalue]
  dsimp only [Option.bind_eq_bind, Option.bind_some] at h ⊢
  split at h
  · cases h
  · next named =>
    cases h
    rw [if_neg named]

/-- The text ends between declarations: it is made of whole ones and of characters where none begins, whatever
follows the text but another dash. -/
inductive Between : List Char → Prop
  | nil : Between []
  | skip {c : Char} {s : List Char} (none : ∀ w, w.head? ≠ some '-' → declarationHere? (c :: s ++ w) = none)
    (h : Between s) : Between (c :: s)
  | take {s rest : List Char} {d : List Char × List Char} (here : declarationHere? s = some (d, rest))
    (h : Between rest) : Between s

theorem Between.declarations_append (h : Between s) (hw : w.head? ≠ some '-') :
    declarations (s ++ w) = declarations s ++ declarations w := by
  induction h with
  | nil => rw [declarations_nil]; rfl
  | @skip c s none h ih =>
    have alone : declarationHere? (c :: s) = Option.none := by simpa using none [] nofun
    rw [declarations_skip alone, ← ih]
    exact declarations_skip (none w hw)
  | take here h ih =>
    rw [declarations_take here, declarations_take (declarationHere?_append here w), ih, List.cons_append]

/-- Text without two dashes holds no declarations. -/
theorem declarations_dashless (h : ¬['-', '-'] <:+: s) (last : s.getLast? ≠ some '-') :
    declarations (s ++ w) = declarations w := by
  induction s with
  | nil => rfl
  | cons c s ih =>
    have none : declarationHere? (c :: (s ++ w)) = none := by
      refine declarationHere?_eq_none fun lead => ?_
      replace lead : ['-', '-'] <+: c :: (s ++ w) := lead
      cases s with
      | nil =>
        obtain ⟨rfl, -⟩ := List.cons_prefix_cons.1 lead
        exact last rfl
      | cons d s =>
        obtain ⟨rfl, second⟩ := List.cons_prefix_cons.1 lead
        obtain ⟨rfl, -⟩ := List.cons_prefix_cons.1 second
        exact h ⟨[], s, rfl⟩
    rw [List.cons_append, declarations_skip none]
    refine ih (fun inner => h (inner.trans (List.suffix_cons c s).isInfix)) fun e => last ?_
    rw [List.getLast?_cons, e, Option.getD_some]

def assigned (found : List (List Char × List Char)) : Variables :=
  found.foldl (fun vars d => vars.assign (String.ofList (strip d.1)) (String.ofList (strip d.2))) []

theorem variables?_ofList (s : List Char) :
    variables? (String.ofList s) = ((block? s).map declarations).map assigned := by
  rw [variables?, String.toList_ofList, Option.map_map]
  rfl

end FlowDeck.Theme
