import FlowDeck.Hierarchy.Record
import FlowDeck.Proofs.Text.Pieces

/-!
# Descriptors as text, and back

The text of a descriptor is cut at brackets, bars, commas and colons and stripped piece by piece.
So a reader only ever sees identifiers that are stripped and free of the marks around them
(`Descriptor.WellFormed`), and those come back from the text as they were written.
-/

namespace FlowDeck

open FlowDeck.Text (strip upTo? after?)

/-! ## Identifiers between marks -/

namespace Record

/-- An identifier that can stand between `marks`: not empty, without white space at its ends, and
none of the marks is in it. -/
structure Fits (marks : List Char) (id : String) : Prop where
  ne_empty : id ≠ ""
  stripped : strip id.toList = id.toList
  free : ∀ c ∈ marks, c ∉ id.toList

instance (marks : List Char) (id : String) : Decidable (Fits marks id) :=
  decidable_of_iff (id ≠ "" ∧ strip id.toList = id.toList ∧ marks.all (· ∉ id.toList) = true)
    ⟨fun ⟨h, hs, hf⟩ => ⟨h, hs, by simpa using hf⟩, fun h => ⟨h.ne_empty, h.stripped, by simpa using h.free⟩⟩

theorem toList_plain (s : List Char) : (plain s).toList = strip s := String.toList_ofList

theorem plain_toList {id : String} (h : strip id.toList = id.toList) : plain id.toList = id := by
  rw [plain, h, String.ofList_toList]

theorem plain_of_empty : plain "".toList = "" := by decide

theorem fits_plain {marks s : List Char} (h : plain s ≠ "") (hf : ∀ c ∈ marks, c ∉ s) :
    Fits marks (plain s) where
  ne_empty := h
  stripped := by rw [toList_plain, Text.strip_strip]
  free c hc := by
    rw [toList_plain]
    exact fun hm => hf c hc (Text.mem_of_mem_strip hm)

/-- A token is stripped, and holds no mark. -/
theorem fits_token {token : String} (h : token ∈ Layout.tokens) :
    Fits ['|', ',', ':', ')', ']'] token := by
  have all : ∀ token ∈ Layout.tokens, Fits ['|', ',', ':', ')', ']'] token := by decide
  exact all token h

theorem plain_token {token : String} (h : token = "" ∨ token ∈ Layout.tokens) :
    plain token.toList = token := by
  rcases h with rfl | h
  · exact plain_of_empty
  · exact plain_toList (fits_token h).stripped

/-! ## The part before a colon and the part after it -/

theorem colon_not_mem_beforeColon (s : List Char) : ':' ∉ beforeColon s := fun h => by
  simpa using List.mem_takeWhile_imp h

theorem mem_of_mem_beforeColon {s : List Char} {c : Char} (h : c ∈ beforeColon s) : c ∈ s :=
  (List.takeWhile_sublist _).subset h

theorem beforeColon_eq_self {s : List Char} (h : ':' ∉ s) : beforeColon s = s := by
  rw [beforeColon, List.takeWhile_eq_self_iff]
  exact fun c hc => by simpa using fun e : c = ':' => h (e ▸ hc)

theorem afterColon_of_not_mem {s : List Char} (h : ':' ∉ s) : afterColon s = [] := by
  have : s.dropWhile (· != ':') = [] := by
    rw [List.dropWhile_eq_nil_iff]
    exact fun c hc => by simpa using fun e : c = ':' => h (e ▸ hc)
  rw [afterColon, this, List.drop_nil]

theorem beforeColon_append {s t : List Char} (h : ':' ∉ s) : beforeColon (s ++ ':' :: t) = s := by
  rw [beforeColon, List.takeWhile_append_of_pos]
  · simp
  · exact fun c hc => by simpa using fun e : c = ':' => h (e ▸ hc)

theorem afterColon_append {s t : List Char} (h : ':' ∉ s) : afterColon (s ++ ':' :: t) = t := by
  rw [afterColon, List.dropWhile_append_of_pos]
  · simp
  · exact fun c hc => by simpa using fun e : c = ':' => h (e ▸ hc)

/-! ## Chains -/

theorem readChain_fits {s : List Char} (hs : ']' ∉ s) :
    ∀ id ∈ readChain s, Fits ['|', ':', ']'] id := by
  intro id hid
  simp only [readChain, List.mem_filter, List.mem_map, decide_eq_true_eq] at hid
  obtain ⟨⟨piece, hp, rfl⟩, hne⟩ := hid
  obtain ⟨hbar, hsub⟩ := Text.mem_splitOn hp
  refine fits_plain hne fun c hc => ?_
  simp only [List.mem_cons, List.not_mem_nil, or_false] at hc
  rcases hc with rfl | rfl | rfl
  · exact fun h => hbar (mem_of_mem_beforeColon h)
  · exact colon_not_mem_beforeColon piece
  · exact fun h => hs (hsub _ (mem_of_mem_beforeColon h))

theorem readChain_chainText {chain : List String} (h : ∀ id ∈ chain, Fits ['|', ':', ']'] id) :
    readChain (chainText chain) = chain := by
  cases chain with
  | nil => decide
  | cons first others =>
    have bars : ∀ piece ∈ (first :: others).map (·.toList), '|' ∉ piece := by
      intro piece hp
      obtain ⟨id, hid, rfl⟩ := List.mem_map.1 hp
      exact (h id hid).free _ (by simp)
    rw [readChain, chainText, List.splitOn_intercalate _ bars (by simp), List.map_map]
    have same : ∀ id ∈ first :: others,
        ((fun piece => plain (beforeColon piece)) ∘ String.toList) id = id := fun id hid => by
      rw [Function.comp_apply, beforeColon_eq_self ((h id hid).free _ (by simp)),
        plain_toList (h id hid).stripped]
    rw [List.map_congr_left (g := id) same, List.map_id, List.filter_eq_self]
    exact fun id hid => by simpa using (h id hid).ne_empty

theorem bracket_not_mem_chainText {chain : List String}
    (h : ∀ id ∈ chain, Fits ['|', ':', ']'] id) : ']' ∉ chainText chain := fun hm => by
  rcases Text.mem_intercalate hm with hb | ⟨piece, hp, hc⟩
  · simp at hb
  · obtain ⟨id, hid, rfl⟩ := List.mem_map.1 hp
    exact (h id hid).free _ (by simp) hc

/-! ## Children -/

structure FitsChild (c : ChildRef) : Prop where
  id : Fits [',', ':', ']'] c.id
  layout : c.layout = "" ∨ c.layout ∈ Layout.tokens

theorem readToken_cases (s : List Char) : readToken s = "" ∨ readToken s ∈ Layout.tokens := by
  unfold readToken
  split
  · next h => exact .inr h
  · exact .inl rfl

theorem readToken_token {token : String} (h : token = "" ∨ token ∈ Layout.tokens) :
    readToken token.toList = token := by
  rw [readToken, plain_token h]
  rcases h with rfl | h
  · exact if_neg (by decide)
  · exact if_pos h

theorem readChildren_fits {s : List Char} (hs : ']' ∉ s) : ∀ c ∈ readChildren s, FitsChild c := by
  intro c hc
  obtain ⟨piece, hp, hr⟩ := List.mem_filterMap.1 hc
  obtain ⟨hcomma, hsub⟩ := Text.mem_splitOn hp
  simp only [readChild?] at hr
  split at hr
  · cases hr
  · next hne =>
    obtain rfl := Option.some.inj hr
    refine ⟨fits_plain hne fun c hc => ?_, readToken_cases _⟩
    simp only [List.mem_cons, List.not_mem_nil, or_false] at hc
    rcases hc with rfl | rfl | rfl
    · exact fun h => hcomma (mem_of_mem_beforeColon h)
    · exact colon_not_mem_beforeColon piece
    · exact fun h => hs (hsub _ (mem_of_mem_beforeColon h))

theorem readChild?_childText {c : ChildRef} (h : FitsChild c) : readChild? (childText c) = some c := by
  have hcolon : ':' ∉ c.id.toList := h.id.free _ (by simp)
  have parts : beforeColon (childText c) = c.id.toList ∧ afterColon (childText c) = c.layout.toList := by
    unfold childText
    split
    · next hl =>
      rw [beforeColon_eq_self hcolon, afterColon_of_not_mem hcolon, hl]
      exact ⟨rfl, rfl⟩
    · exact ⟨beforeColon_append hcolon, afterColon_append hcolon⟩
  rw [readChild?, parts.1, parts.2, plain_toList h.id.stripped, readToken_token h.layout]
  exact if_neg h.id.ne_empty

/-- A mark that no identifier has, and that is not the colon, is not in the entry of a child. -/
theorem not_mem_childText {c : ChildRef} (h : FitsChild c) {m : Char} (hm : m = ',' ∨ m = ']') :
    m ∉ childText c := by
  have hid : m ∉ c.id.toList := h.id.free m (by rcases hm with rfl | rfl <;> simp)
  unfold childText
  split
  · exact hid
  · next hne =>
    have hlayout := (fits_token (h.layout.resolve_left hne)).free m (by rcases hm with rfl | rfl <;> simp)
    have hcolon : m ≠ ':' := by rcases hm with rfl | rfl <;> decide
    simp [hid, hlayout, hcolon]

theorem readChildren_childrenText {children : List ChildRef} (h : ∀ c ∈ children, FitsChild c) :
    readChildren (childrenText children) = children := by
  cases children with
  | nil => decide
  | cons first others =>
    have commas : ∀ piece ∈ (first :: others).map childText, ',' ∉ piece := by
      intro piece hp
      obtain ⟨c, hc, rfl⟩ := List.mem_map.1 hp
      exact not_mem_childText (h c hc) (.inl rfl)
    rw [readChildren, childrenText, List.splitOn_intercalate _ commas (by simp), List.filterMap_map]
    have same : ∀ c ∈ first :: others, (readChild? ∘ childText) c = some c :=
      fun c hc => readChild?_childText (h c hc)
    rw [List.filterMap_congr same, List.filterMap_some]

theorem bracket_not_mem_childrenText {children : List ChildRef} (h : ∀ c ∈ children, FitsChild c) :
    ']' ∉ childrenText children := fun hm => by
  rcases Text.mem_intercalate hm with hb | ⟨piece, hp, hc⟩
  · simp at hb
  · obtain ⟨c, hcm, rfl⟩ := List.mem_map.1 hp
    exact not_mem_childText (h c hcm) (.inr rfl) hc

theorem readLayout?_cases {part : Option (List Char)} {layout : String}
    (h : readLayout? part = some layout) : layout = "" ∨ layout ∈ Layout.tokens := by
  cases part with
  | none =>
    obtain rfl : defaultLayout.token = layout := Option.some.inj h
    exact .inr (by decide)
  | some s =>
    simp only [readLayout?] at h
    split at h
    · next hs =>
      obtain rfl := Option.some.inj h
      exact hs
    · cases h

/-! ## Parts -/

namespace Parts

def text (p : Parts) : List Char :=
  opening ++ p.chain ++ ']' :: p.layout.elim [] (fun l => '(' :: l ++ [')'])
    ++ '[' :: p.current ++ ']' :: '[' :: p.children ++ [']']

structure Separable (p : Parts) : Prop where
  chain : ']' ∉ p.chain
  layout : ∀ l ∈ p.layout, ')' ∉ l
  current : ']' ∉ p.current
  children : ']' ∉ p.children

end Parts

theorem bracketed?_eq_some_iff {s inside rest : List Char} :
    bracketed? s = some (inside, rest) ↔ ']' ∉ inside ∧ s = '[' :: inside ++ ']' :: rest := by
  simp only [bracketed?, Option.bind_eq_some_iff, Text.after?_eq_some_iff, Text.upTo?_eq_some_iff]
  constructor
  · rintro ⟨_, rfl, h, rfl⟩
    exact ⟨h, rfl⟩
  · rintro ⟨h, rfl⟩
    exact ⟨_, rfl, h, rfl⟩

/-- The layout part of a text that goes on with a bracket. -/
theorem layoutPart?_eq_some_iff {s rest : List Char} {layout : Option (List Char)} :
    layoutPart? s = some (layout, '[' :: rest) ↔
      (∀ l ∈ layout, ')' ∉ l) ∧ s = layout.elim [] (fun l => '(' :: l ++ [')']) ++ '[' :: rest := by
  unfold layoutPart?
  split
  · next s' =>
    simp only [Option.map_eq_some_iff, Prod.exists, Prod.mk.injEq, Text.upTo?_eq_some_iff]
    constructor
    · rintro ⟨l, _, ⟨hl, rfl⟩, rfl, rfl⟩
      simpa using hl
    · rintro ⟨hl, hs⟩
      cases layout with
      | none => simp at hs
      | some l => exact ⟨l, _, ⟨hl l rfl, by simpa using hs⟩, rfl, rfl⟩
  · next hs =>
    cases layout with
    | none => simp
    | some l =>
      have : s ≠ '(' :: (l ++ ')' :: '[' :: rest) := fun h => hs _ h
      simp [this]

/-- A text is cut into parts in one way only, and all texts that have parts are. -/
theorem parts?_eq_some_iff {s : List Char} {p : Parts} :
    parts? s = some p ↔ p.Separable ∧ s = p.text := by
  obtain ⟨chain, layout, current, children⟩ := p
  constructor
  · intro h
    simp only [parts?, Option.bind_eq_bind, Option.bind_eq_some_iff, Prod.exists] at h
    obtain ⟨ch, s₁, ⟨t, ht, hch⟩, lay, s₂, hlay, cur, s₃, hcur, chi, s₄, hchi, hend⟩ := h
    rw [Text.after?_eq_some_iff] at ht
    obtain ⟨hchain, rfl⟩ := Text.upTo?_eq_some_iff.1 hch
    obtain ⟨hcurrent, rfl⟩ := bracketed?_eq_some_iff.1 hcur
    obtain ⟨hchildren, rfl⟩ := bracketed?_eq_some_iff.1 hchi
    obtain ⟨hlayout, rfl⟩ := layoutPart?_eq_some_iff.1 hlay
    split at hend
    · next hempty =>
      obtain rfl := List.isEmpty_iff.1 hempty
      obtain ⟨rfl, rfl, rfl, rfl⟩ : ch = chain ∧ lay = layout ∧ cur = current ∧ chi = children := by
        simpa using hend
      exact ⟨⟨hchain, hlayout, hcurrent, hchildren⟩, by simp [Parts.text, ht]⟩
    · cases hend
  · rintro ⟨⟨hchain, hlayout, hcurrent, hchildren⟩, rfl⟩
    simp only [parts?, Option.bind_eq_bind, Option.bind_eq_some_iff, Prod.exists]
    refine ⟨chain, _, ⟨_, Text.after?_eq_some_iff.2 ?_, Text.upTo?_eq_some_iff.2 ⟨hchain, rfl⟩⟩,
      layout, _, layoutPart?_eq_some_iff.2 ⟨hlayout, rfl⟩,
      current, _, bracketed?_eq_some_iff.2 ⟨hcurrent, rfl⟩,
      children, [], bracketed?_eq_some_iff.2 ⟨hchildren, rfl⟩, rfl⟩
    simp [Parts.text]

end Record

/-! ## Whole descriptors -/

namespace Descriptor

open Record

structure WellFormed (d : Descriptor) : Prop where
  current : Fits [']'] d.current
  chain : ∀ id ∈ d.chain, Fits ['|', ':', ']'] id
  layout : d.layout = "" ∨ d.layout ∈ Layout.tokens
  childIds : ∀ c ∈ d.children, Fits [',', ':', ']'] c.id
  childLayouts : ∀ c ∈ d.children, c.layout = "" ∨ c.layout ∈ Layout.tokens

theorem WellFormed.children {d : Descriptor} (h : d.WellFormed) : ∀ c ∈ d.children, FitsChild c :=
  fun c hc => ⟨h.childIds c hc, h.childLayouts c hc⟩

/-- The descriptor as it is stored: a root without a layout is written in the short form, which
stands for the default layout. -/
def stored (d : Descriptor) : Descriptor :=
  if d.isRoot ∧ d.layout = "" then { d with layout := defaultLayout.token } else d

def parts (d : Descriptor) : Parts where
  chain := chainText d.chain
  layout := if d.isRoot ∧ d.layout = "" then none else some d.layout.toList
  current := d.current.toList
  children := childrenText d.children

theorem toList_render (d : Descriptor) : d.render.toList = d.parts.text := by
  rw [render, String.toList_ofList, Parts.text, parts, layoutText]
  split <;> rfl

theorem strip_render (d : Descriptor) : strip d.render.toList = d.render.toList := by
  have ends : d.render.toList = 'g' :: d.render.toList.tail.dropLast ++ [']'] := by
    rw [toList_render, Parts.text, opening]
    simp [List.dropLast_append_of_ne_nil, List.dropLast_cons_of_ne_nil]
  rw [ends]
  exact Text.trim_bracketed (by decide) (by decide)

theorem parts_separable {d : Descriptor} (h : d.WellFormed) : d.parts.Separable where
  chain := bracket_not_mem_chainText h.chain
  layout l hl := by
    obtain rfl : d.layout.toList = l := by
      unfold parts at hl
      split at hl
      · cases hl
      · simpa using hl
    rcases h.layout with hl | hl
    · simp [hl]
    · exact (fits_token hl).free _ (by simp)
  current := h.current.free _ (by simp)
  children := bracket_not_mem_childrenText h.children

theorem read?_parts {d : Descriptor} (h : d.WellFormed) : d.parts.read? = some d.stored := by
  have hlayout : readLayout? d.parts.layout = some d.stored.layout := by
    unfold parts stored
    split
    · rfl
    · simp only [readLayout?, plain_token h.layout]
      exact if_pos h.layout
  have hcurrent : plain d.parts.current = d.current := plain_toList h.current.stripped
  have hchain : readChain d.parts.chain = d.chain := readChain_chainText h.chain
  have hchildren : readChildren d.parts.children = d.children := readChildren_childrenText h.children
  simp only [Parts.read?, hlayout, hcurrent, hchain, hchildren, Option.bind_eq_bind, Option.bind_some,
    if_neg h.current.ne_empty]
  unfold stored
  split <;> rfl

theorem read?_render {d : Descriptor} (h : d.WellFormed) : read? d.render = some d.stored := by
  rw [read?, strip_render, parts?_eq_some_iff.2 ⟨parts_separable h, toList_render d⟩, Option.bind_some,
    read?_parts h]

theorem wellFormed_of_read? {text : String} {d : Descriptor} (h : read? text = some d) : d.WellFormed := by
  obtain ⟨p, hp, hd⟩ := Option.bind_eq_some_iff.1 h
  obtain ⟨sep, -⟩ := parts?_eq_some_iff.1 hp
  simp only [Parts.read?, Option.bind_eq_bind, Option.bind_eq_some_iff] at hd
  obtain ⟨layout, hlayout, hd⟩ := hd
  split at hd
  · cases hd
  · next hne =>
    obtain rfl := Option.some.inj hd
    exact {
      current := fits_plain hne fun c hc => by
        obtain rfl : c = ']' := by simpa using hc
        exact sep.current
      chain := readChain_fits sep.chain
      layout := readLayout?_cases hlayout
      childIds := fun c hc => (readChildren_fits sep.children c hc).id
      childLayouts := fun c hc => (readChildren_fits sep.children c hc).layout }

/-- Every descriptor that is read from a text is well-formed, and every well-formed descriptor is
read back from its text as it is stored. -/
theorem read?_inverts_render :
    (∀ (text : String) (d : Descriptor), read? text = some d → d.WellFormed) ∧
      ∀ d : Descriptor, d.WellFormed → read? d.render = some d.stored :=
  ⟨fun _ _ h => wellFormed_of_read? h, fun _ h => read?_render h⟩

theorem read?_inverts_render_root :
    read? " graph[ ](\t)[ A1 ][B1 :TD,, C 1:x] " = some ⟨"A1", [], "", [⟨"B1", "TD"⟩, ⟨"C 1", ""⟩]⟩ ∧
      read? (render ⟨"A1", [], "", [⟨"B1", "TD"⟩, ⟨"C 1", ""⟩]⟩) =
        some ⟨"A1", [], "LR", [⟨"B1", "TD"⟩, ⟨"C 1", ""⟩]⟩ := by
  have h : read? " graph[ ](\t)[ A1 ][B1 :TD,, C 1:x] " =
      some ⟨"A1", [], "", [⟨"B1", "TD"⟩, ⟨"C 1", ""⟩]⟩ := by decide
  exact ⟨h, read?_inverts_render.2 _ (read?_inverts_render.1 _ _ h)⟩

end Descriptor

end FlowDeck
