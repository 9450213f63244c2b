import FlowDeck.Proofs.Theme.Blocks
import FlowDeck.Theme.Style

/-!
# Comments in themes

Nothing in the reading of a theme knows of comments: their text is searched for blocks and declarations like any
other. A comment still makes no difference where nothing in it is taken for either. Comments are taken away one after
the other from the front, so that what is in front of a comment has none.
-/

namespace FlowDeck.Theme

open Text

variable {seen s body raw plain after w : List Char}

def commentOf (body : List Char) : List Char :=
  '/' :: '*' :: (body ++ ['*', '/'])

/-- Every comment of a text is closed, and each becomes a blank; `seen` is what is in front of the text. Of each
comment, what is in front of it without comments, what is in it and what is behind it must fit. -/
inductive Clears (Fits : List Char → List Char → List Char → Prop) : List Char → List Char → List Char → Prop
  | plain {seen s : List Char} (hs : ¬['/', '*'] <:+: s) : Clears Fits seen s s
  | comment {seen s body raw plain : List Char} (hs : ¬['/', '*'] <:+: s) (hb : ¬['*', '/'] <:+: body)
    (fits : Fits (seen ++ s) body raw) (rest : Clears Fits (seen ++ s ++ [' ']) raw plain) :
    Clears Fits seen (s ++ (commentOf body ++ raw)) (s ++ ' ' :: plain)

inductive Stands (s : List Char) : Prop
  | front (h : Quiet s)
  | inside {inside : List Char} (h : EndsInside s inside) (between : Between inside)
  | behind (h : EndsBehind s)

/-- A comment that is behind the block, or has nothing in it that is taken for a part of the block: in front of the
block that is an opening, and inside it two dashes or a closing brace. In front, the comment must not keep the brace
from its `:root` either. Behind the last declaration the comment may hold both, as long as nothing is declared up to
the next brace, neither with the comment nor without it. -/
inductive Harmless (s body after : List Char) : Prop
  | front (h : Quiet s) (apart : ¬Awaits s) (quiet : Quiet body)
  | inside {inside : List Char} (h : EndsInside s inside) (between : Between inside) (unclosed : '}' ∉ body)
    (dashless : ¬['-', '-'] <:+: body)
  | last {inside x y x' y' : List Char} (h : EndsInside s inside) (between : Between inside)
    (found : upTo? '}' (commentOf body ++ after) = some (x, y)) (silent : declarations x = [])
    (found' : upTo? '}' after = some (x', y')) (silent' : declarations x' = [])
  | behind (h : EndsBehind s)

/-- A comment is harmless only where comments may stand. -/
theorem Harmless.stands (h : Harmless s body after) : Stands s := by
  cases h with
  | front h => exact .front h
  | inside h between => exact .inside h between
  | last h between => exact .inside h between
  | behind h => exact .behind h

theorem dashless_concat {c : Char} (h : ¬['-', '-'] <:+: s) (hc : c ≠ '-') : ¬['-', '-'] <:+: s ++ [c] := by
  rw [List.infix_concat_iff]
  rintro (⟨t, e⟩ | found)
  · have := congrArg List.getLast? e
    simp only [List.getLast?_append, List.getLast?_singleton, Option.some_or] at this
    exact hc (Option.some.inj this).symm
  · exact h found

theorem dashless_commentOf (h : ¬['-', '-'] <:+: body) : ¬['-', '-'] <:+: commentOf body := by
  have split : commentOf body = '/' :: '*' :: (body ++ ['*'] ++ ['/']) := by simp [commentOf]
  have closed := dashless_concat (dashless_concat (c := '*') h (by decide)) (c := '/') (by decide)
  rw [split]
  simpa [List.infix_cons_iff] using closed

theorem declarations_commentOf (h : ¬['-', '-'] <:+: body) : declarations (commentOf body ++ w) = declarations w := by
  refine declarations_dashless (dashless_commentOf h) ?_
  simp [commentOf, List.getLast?_cons, List.getLast?_append]

theorem block?_commentOf (h : Quiet body) : block? (commentOf body ++ w) = block? w := by
  have split : commentOf body ++ w = '/' :: '*' :: (body ++ '*' :: '/' :: w) := by simp [commentOf]
  rw [split, block?_skip (by decide), block?_skip (by decide), h.block?_cons (by decide) (by decide),
    block?_skip (by decide), block?_skip (by decide)]

/-- A harmless comment is as good as a blank. -/
theorem Harmless.declarations (h : Harmless s body w) :
    (block? (s ++ (commentOf body ++ w))).map Theme.declarations =
      (block? (s ++ ' ' :: w)).map Theme.declarations := by
  cases h with
  | front h apart quiet =>
    have left : block? (s ++ (commentOf body ++ w)) = block? (commentOf body ++ w) :=
      h.block?_cons (by decide) (by decide)
    rw [left, block?_commentOf quiet, h.block?_blank apart (by decide), block?_skip (by decide)]
  | @inside inside h between unclosed dashless =>
    have some : commentOf body ≠ [] := List.cons_ne_nil _ _
    have mark : '}' ∉ commentOf body := by simp [commentOf, unclosed]
    have blank : s ++ ' ' :: w = s ++ ([' '] ++ w) := rfl
    rw [h.block?_append some mark, blank, h.block?_append (List.cons_ne_nil _ _) (by decide),
      Option.map_map, Option.map_map]
    congr 1
    funext p
    show Theme.declarations (inside ++ commentOf body ++ p.1) = Theme.declarations (inside ++ [' '] ++ p.1)
    rw [List.append_assoc, List.append_assoc, between.declarations_append (by simp [commentOf]),
      between.declarations_append (by simp), declarations_commentOf dashless,
      declarations_dashless (by decide) (by decide)]
  | @last inside x y x' y' h between found silent found' silent' =>
    obtain ⟨mark, split⟩ := upTo?_eq_some_iff.1 found'
    have spaced : upTo? '}' (' ' :: w) = some (' ' :: x', y') :=
      upTo?_eq_some_iff.2 ⟨by simp [mark], congrArg (' ' :: ·) split⟩
    have blank : Theme.declarations (' ' :: x') = [] :=
      (declarations_skip (declarationHere?_eq_none (by simp))).trans silent'
    have first : x.head? ≠ some '-' := by
      intro dash
      obtain ⟨x, rfl⟩ := List.head?_eq_some_iff.1 dash
      have := (upTo?_eq_some_iff.1 found).2
      exact absurd (List.cons.inj this).1 (by decide)
    rw [show commentOf body ++ w = '/' :: '*' :: (body ++ ['*', '/'] ++ w) from rfl] at found ⊢
    rw [h.block?_upTo (by decide) found, h.block?_upTo (by decide) spaced, Option.map_some, Option.map_some,
      between.declarations_append first, between.declarations_append (by simp), silent, blank]
  | behind h =>
    obtain ⟨inside, found⟩ := h.exists_block?
    rw [block?_append found, block?_append found]

theorem Clears.declarations (h : Clears Harmless seen raw plain) :
    (block? (seen ++ raw)).map Theme.declarations = (block? (seen ++ plain)).map Theme.declarations := by
  -- By induction on the comments: what has been seen has none any more when the next one is reached.
  induction h with
  | plain hs => rfl
  | @comment seen s body raw plain hs hb fits rest ih =>
    rw [← List.append_assoc, fits.declarations, ← List.append_assoc]
    simpa using ih

/-- A theme declares the same variables without its comments, as long as these are closed and stand outside the block
that counts or between its declarations or behind the last of them, and none of them is taken for a part of the
block. -/
theorem declared_uncommented (name : String) (raw plain : List Char) (h : Clears Harmless [] raw plain) :
    declared ⟨name, String.ofList raw⟩ = declared ⟨name, String.ofList plain⟩ := by
  have same : (block? raw).map Theme.declarations = (block? plain).map Theme.declarations := h.declarations
  unfold declared
  rw [variables?_ofList, variables?_ofList, same]

theorem quiet_of_braceless (h : '{' ∉ s) : Quiet s := by
  rintro before t rest rfl ⟨blanks, -, rfl⟩
  simp at h

/-- A comment in front of the block, one inside it, one behind the only declaration and one behind the block. -/
theorem declared_uncommented_everywhere :
    declared ⟨"plain", String.ofList (commentOf " old ".toList ++ (":root \x7b".toList ++ (commentOf " gap ".toList ++
      ("--a: 1px;".toList ++ (commentOf " --b\x7d ".toList ++ ("\x7d".toList ++
        (commentOf ":root \x7b--a: 2px;\x7d".toList ++ [])))))))⟩ = .ok [("a", "1px")] := by
  have first (after : List Char) : Harmless [] " old ".toList after := by
    refine .front (quiet_of_braceless (by decide)) ?_ (quiet_of_braceless (by decide))
    rintro ⟨before, blanks, e, -⟩
    simp at e
  have second (after : List Char) : Harmless " :root \x7b".toList " gap ".toList after := by
    have ends : EndsInside ([' '] ++ (":root \x7b".toList ++ [])) [] := endsInside_opening (by decide) (by decide)
    exact .inside ends .nil (by decide) (by decide)
  have third (after : List Char) : Harmless " :root \x7b --a: 1px;".toList " --b\x7d ".toList ("\x7d".toList ++ after) := by
    have ends : EndsInside ([' '] ++ (":root \x7b".toList ++ " --a: 1px;".toList)) " --a: 1px;".toList :=
      endsInside_opening (by decide) (by decide)
    have one : declarationHere? "--a: 1px;".toList = some (("a".toList, "1px".toList), []) := by decide +kernel
    have between : Between " --a: 1px;".toList :=
      .skip (c := ' ') (fun w _ => declarationHere?_eq_none (by simp)) (.take one .nil)
    have silent : declarations "/* --b".toList = [] := by decide +kernel
    exact .last ends between rfl silent rfl declarations_nil
  have fourth (after : List Char) :
      Harmless " :root \x7b --a: 1px; \x7d".toList ":root \x7b--a: 2px;\x7d".toList after :=
    .behind ⟨[' '], ":root \x7b --a: 1px; \x7d".toList, " --a: 1px; \x7d".toList, rfl, opens_spaced _, by decide,
      by decide⟩
  have read : declared ⟨"plain", String.ofList (' ' :: (":root \x7b".toList ++ ' ' ::
      ("--a: 1px;".toList ++ ' ' :: ("\x7d".toList ++ [' ']))))⟩ = .ok [("a", "1px")] := by decide +kernel
  refine (declared_uncommented "plain" _ _ ?_).trans read
  refine .comment (s := []) (by decide) (by decide +kernel) (first _) ?_
  refine .comment (by decide +kernel) (by decide +kernel) (second _) ?_
  refine .comment (by decide +kernel) (by decide +kernel) (third _) ?_
  refine .comment (by decide +kernel) (by decide +kernel) (fourth _) ?_
  exact .plain (by decide)

/-- Comments may stand where this one stands, and the variables are not those without it. -/
def Counts (before body after : String) : Prop :=
  Clears (fun seen _ _ => Stands seen) [] (before.toList ++ (commentOf body.toList ++ after.toList))
      (before.toList ++ ' ' :: after.toList) ∧
    declared ⟨"old", String.ofList (before.toList ++ (commentOf body.toList ++ after.toList))⟩ ≠
      declared ⟨"old", String.ofList (before.toList ++ ' ' :: after.toList)⟩

/-- A comment counts if it holds an old declaration or a closing brace inside the block, if it holds an old block in
front of the block, and if it keeps the brace from its `:root`. -/
theorem comments_count :
    Counts ":root \x7b" "--a: 1px;" "--b: 2px;\x7d" ∧ Counts ":root \x7b" "\x7d" "--b: 2px;\x7d" ∧
      Counts "" ":root \x7b--a: 1px;\x7d" ":root \x7b--b: 2px;\x7d" ∧ Counts ":root " "" "\x7b--b: 2px;\x7d" := by
  have opened : Stands ":root \x7b".toList := by
    have ends : EndsInside ([] ++ (":root \x7b".toList ++ [])) [] := endsInside_opening (by decide) (by decide)
    exact .inside ends .nil
  have front : Stands "".toList := .front (quiet_of_braceless (by decide))
  have awaited : Stands ":root ".toList := .front (quiet_of_braceless (by decide))
  refine ⟨⟨?_, by decide +kernel⟩, ⟨?_, by decide +kernel⟩, ⟨?_, by decide +kernel⟩, ⟨?_, by decide +kernel⟩⟩
  · exact .comment (by decide +kernel) (by decide +kernel) opened (.plain (by decide +kernel))
  · exact .comment (by decide +kernel) (by decide +kernel) opened (.plain (by decide +kernel))
  · exact .comment (by decide +kernel) (by decide +kernel) front (.plain (by decide +kernel))
  · exact .comment (by decide +kernel) (by decide +kernel) awaited (.plain (by decide +kernel))

end FlowDeck.Theme
