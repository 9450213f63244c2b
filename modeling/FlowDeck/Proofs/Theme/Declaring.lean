import FlowDeck.Proofs.Hierarchy.Codec
import FlowDeck.Proofs.Theme.Blocks
import FlowDeck.Theme.Style
import Mathlib.Data.List.Nodup

/-!
# Blocks with a declaration on each line

What such a block declares is read back, whatever the names and the values are made of otherwise: a name goes from its
dashes to the colon, a value from the blank behind the colon to the semicolon, and there are only blanks between two
declarations. The variables are the names that have been declared, each with the value it was given last.
-/

namespace FlowDeck.Theme

open Text

/-! ## The last value counts -/

section
variable (vars : Variables) (name value other : String)

theorem get?_cons (v : String × String) :
    Variables.get? (v :: vars) other = if other = v.1 then some v.2 else vars.get? other := by
  unfold Variables.get?
  rw [List.lookup_cons]
  by_cases h : other = v.1
  · simp [h]
  · have differs : (other == v.1) = false := by simpa using h
    rw [differs, if_neg h]

theorem isSome_get? : (vars.get? name).isSome = vars.any fun v => v.1 == name := by
  induction vars with
  | nil => rfl
  | cons v vars ih =>
    rw [get?_cons, List.any_cons, ← ih]
    by_cases here : v.1 = name
    · simp [here]
    · simp [here, Ne.symm here]

theorem get?_replace : Variables.get? (vars.map fun v => if v.1 = name then (name, value) else v) other =
    (vars.get? other).map fun v => if other = name then value else v := by
  induction vars with
  | nil => rfl
  | cons v vars ih =>
    rw [List.map_cons, get?_cons, get?_cons, ih]
    by_cases here : v.1 = name
    · by_cases found : other = name
      · simp [here, found]
      · simp [here, found]
    · by_cases found : other = v.1
      · simp [here, found]
      · simp [here, found]

theorem get?_assign : (vars.assign name value).get? other = if other = name then some value else vars.get? other := by
  unfold Variables.assign
  rw [← isSome_get?]
  cases listed : vars.get? name with
  | some old =>
    rw [Option.isSome_some, if_pos rfl, get?_replace]
    by_cases h : other = name
    · simp [h, listed]
    · simp [h]
  | none =>
    have behind : Variables.get? (vars ++ [(name, value)]) other =
        (vars.get? other).or (Variables.get? [(name, value)] other) := List.lookup_append
    rw [Option.isSome_none, if_neg Bool.false_ne_true, behind, get?_cons]
    by_cases h : other = name
    · simp [h, listed]
    · simp [h, Variables.get?]

theorem names_replace :
    (vars.map fun v => if v.1 = name then (name, value) else v).map (·.1) = vars.map (·.1) := by
  rw [List.map_map]
  apply List.map_congr_left
  intro v _
  by_cases h : v.1 = name
  · simp [h]
  · simp [h]

theorem nodup_assign (h : (vars.map (·.1)).Nodup) : ((vars.assign name value).map (·.1)).Nodup := by
  unfold Variables.assign
  split
  · rw [names_replace]
    exact h
  · next absent =>
    rw [List.map_append, List.map_singleton, ← List.concat_eq_append]
    apply List.Nodup.concat _ h
    simpa using absent

end

def Variables.assignAll (vars : Variables) (pairs : List (String × String)) : Variables :=
  pairs.foldl (fun vars d => vars.assign d.1 d.2) vars

theorem get?_assignAll (vars : Variables) (pairs : List (String × String)) (name : String) :
    (vars.assignAll pairs).get? name = (pairs.reverse.lookup name).or (vars.get? name) := by
  unfold Variables.assignAll
  induction pairs generalizing vars with
  | nil => rfl
  | cons d pairs ih =>
    rw [List.foldl_cons, ih, get?_assign, List.reverse_cons, List.lookup_append, List.lookup_singleton]
    by_cases h : name = d.1
    · simp [h]
    · simp [h]

theorem nodup_assignAll (vars : Variables) (pairs : List (String × String)) (h : (vars.map (·.1)).Nodup) :
    ((vars.assignAll pairs).map (·.1)).Nodup := by
  unfold Variables.assignAll
  induction pairs generalizing vars with
  | nil => exact h
  | cons d pairs ih =>
    rw [List.foldl_cons]
    apply ih
    exact nodup_assign vars d.1 d.2 h

/-! ## Reading the declarations -/

structure Declarable (d : String × String) : Prop where
  name : Record.Fits [':', '}'] d.1
  value : Record.Fits [';', '}'] d.2

instance (d : String × String) : Decidable (Declarable d) :=
  decidable_of_iff (Record.Fits [':', '}'] d.1 ∧ Record.Fits [';', '}'] d.2)
    ⟨fun ⟨name, value⟩ => ⟨name, value⟩, fun h => ⟨h.name, h.value⟩⟩

def plainLine (d : String × String) : String :=
  "  --" ++ d.1 ++ ": " ++ d.2 ++ ";\n"

def plainBlock (pairs : List (String × String)) : String :=
  "\n" ++ String.join (pairs.map plainLine)

def plainSheet (before : String) (pairs : List (String × String)) (after : String) : String :=
  before ++ ":root \x7b" ++ plainBlock pairs ++ "\x7d" ++ after

section
variable {name value rest s w inside : List Char} {pairs : List (String × String)}

theorem dropWhile_stripped (hv : value ≠ []) (stripped : strip value = value) :
    (' ' :: (value ++ w)).dropWhile isBlank = value ++ w := by
  cases value with
  | nil => exact absurd rfl hv
  | cons c value =>
    have first : (strip (c :: value)).head? = some c := by rw [stripped, List.head?_cons]
    have dark : isBlank c = false := head?_trim first
    have blank : isBlank ' ' = true := by decide
    simp [dark, blank]

theorem value?_plain (hv : value ≠ []) (stripped : strip value = value) (mark : ';' ∉ value) :
    value? (' ' :: (value ++ ';' :: rest)) = some (value, rest) := by
  have found : upTo? ';' (value ++ ';' :: rest) = some (value, rest) := upTo?_eq_some_iff.2 ⟨mark, rfl⟩
  unfold value?
  rw [dropWhile_stripped hv stripped, found]
  simp [hv]

theorem declarationHere?_plain (hn : name ≠ []) (colon : ':' ∉ name) (read : value? s = some (value, rest)) :
    declarationHere? ("--".toList ++ (name ++ ':' :: s)) = some ((name, value), rest) := by
  have lead : after? "--".toList ("--".toList ++ (name ++ ':' :: s)) = some (name ++ ':' :: s) :=
    after?_eq_some_iff.2 rfl
  have named : upTo? ':' (name ++ ':' :: s) = some (name, s) := upTo?_eq_some_iff.2 ⟨colon, rfl⟩
  unfold declarationHere?
  rw [lead]
  simp [named, read, hn]

theorem Declarable.read {d : String × String} (h : Declarable d) :
    declarationHere? ("--".toList ++ (d.1.toList ++ ':' :: ' ' :: (d.2.toList ++ ';' :: rest))) =
      some ((d.1.toList, d.2.toList), rest) := by
  have named : d.1.toList ≠ [] := by simpa using h.name.ne_empty
  have valued : d.2.toList ≠ [] := by simpa using h.value.ne_empty
  apply declarationHere?_plain named (h.name.free ':' (by simp))
  exact value?_plain valued h.value.stripped (h.value.free ';' (by simp))

theorem toList_plainBlock_cons (d : String × String) (pairs : List (String × String)) :
    (plainBlock (d :: pairs)).toList = "\n  ".toList ++
      ("--".toList ++ (d.1.toList ++ ':' :: ' ' :: (d.2.toList ++ ';' :: (plainBlock pairs).toList))) := by
  simp [plainBlock, plainLine]

theorem plainBlock_ne_nil : (plainBlock pairs).toList ≠ [] := by
  simp [plainBlock]

theorem closing_not_mem_plainBlock (h : ∀ d ∈ pairs, Declarable d) : '}' ∉ (plainBlock pairs).toList := by
  induction pairs with
  | nil => decide
  | cons d pairs ih =>
    obtain ⟨named, valued⟩ := h d List.mem_cons_self
    have name := named.free '}' (by simp)
    have value := valued.free '}' (by simp)
    have others := ih fun d hd => h d (List.mem_cons_of_mem _ hd)
    simp [toList_plainBlock_cons, name, value, others]

theorem declarations_plainBlock (h : ∀ d ∈ pairs, Declarable d) :
    declarations (plainBlock pairs).toList = pairs.map fun d => (d.1.toList, d.2.toList) := by
  -- The end of each line is in front of the next one, where it is passed with the blanks.
  induction pairs with
  | nil =>
    have skip : declarations (['\n'] ++ []) = declarations [] := declarations_dashless (by decide) (by decide)
    exact skip.trans declarations_nil
  | cons d pairs ih =>
    have others := ih fun d hd => h d (List.mem_cons_of_mem _ hd)
    have here : Declarable d := h d List.mem_cons_self
    rw [toList_plainBlock_cons, declarations_dashless (by decide) (by decide), declarations_take here.read, others,
      List.map_cons]

theorem assigned_plain (h : ∀ d ∈ pairs, Declarable d) :
    assigned (pairs.map fun d => (d.1.toList, d.2.toList)) = Variables.assignAll [] pairs := by
  rw [assigned, Variables.assignAll, List.foldl_map]
  apply List.foldl_ext
  intro vars d hd
  rw [(h d hd).name.stripped, (h d hd).value.stripped, String.ofList_toList, String.ofList_toList]

/-! ## Finding the block -/

theorem quiet_of_rootless (h : ¬":root".toList <:+: s) : Quiet s := by
  rintro before t rest rfl ⟨blanks, -, rfl⟩
  exact absurd ⟨before, blanks ++ '{' :: rest, by simp⟩ h

theorem Quiet.block?_colon (h : Quiet s) : block? (s ++ ':' :: w) = block? (':' :: w) := by
  refine h.block?_append fun before t blanks more e hb lead some _ head => ?_
  obtain ⟨more, rfl⟩ := List.head?_eq_some_iff.1 head
  cases t with
  | nil => exact some rfl
  | cons c t =>
    have tail : "root".toList ++ (blanks ++ ['{']) = t ++ ':' :: more := (List.cons.inj lead).2
    apply colon_not_mem_lead hb
    rw [tail]
    simp

theorem block?_plain (before : List Char) (hb : ¬":root".toList <:+: before) (hi : inside ≠ []) (mark : '}' ∉ inside) :
    block? (before ++ (":root \x7b".toList ++ (inside ++ '}' :: rest))) = some inside := by
  have found : blockHere? (":root \x7b".toList ++ (inside ++ '}' :: rest)) = some inside :=
    blockHere?_eq_some_iff.2 ⟨hi, mark, rest, opens_spaced _⟩
  exact (quiet_of_rootless hb).block?_colon.trans (block?_here found)

theorem toList_plainSheet (before : String) (pairs : List (String × String)) (after : String) :
    (plainSheet before pairs after).toList =
      before.toList ++ (":root \x7b".toList ++ ((plainBlock pairs).toList ++ '}' :: after.toList)) := by
  simp [plainSheet]

/-- The variables of a sheet are those that its first block declares on its lines, whatever is in front of the block
as long as it holds no `:root`, and whatever is behind it. Each name has the last of its values. -/
theorem declared_plainSheet (theme before after : String) (pairs : List (String × String))
    (hb : ¬":root".toList <:+: before.toList) (h : ∀ d ∈ pairs, Declarable d) :
    ∃ vars, declared ⟨theme, plainSheet before pairs after⟩ = .ok vars ∧ (vars.map (·.1)).Nodup ∧
      ∀ name, vars.get? name = pairs.reverse.lookup name := by
  refine ⟨Variables.assignAll [] pairs, ?_, ?_, ?_⟩
  · have block : block? (plainSheet before pairs after).toList = some (plainBlock pairs).toList := by
      rw [toList_plainSheet]
      exact block?_plain before.toList hb plainBlock_ne_nil (closing_not_mem_plainBlock h)
    have read := variables?_ofList (plainSheet before pairs after).toList
    rw [String.ofList_toList, block, Option.map_some, declarations_plainBlock h, Option.map_some,
      assigned_plain h] at read
    unfold declared
    rw [read]
  · exact nodup_assignAll [] pairs List.nodup_nil
  · intro name
    rw [get?_assignAll]
    exact Option.or_none

/-- A name that is declared twice, one that begins with a dash, and a value with dashes, a colon and a line end. Behind
the block there is another one. -/
theorem declared_plainSheet_brand :
    ∃ vars, declared ⟨"brand", plainSheet "/* \x7b brand */\n"
        [("accent", "#0af"), ("-note of; it", "\"a: b\" --\n\x7bc"), ("accent", "none")]
        "\n:root \x7b --accent: red; \x7d"⟩ = .ok vars ∧
      vars.get? "accent" = some "none" ∧ vars.get? "-note of; it" = some "\"a: b\" --\n\x7bc" ∧
      vars.get? "note" = none := by
  obtain ⟨vars, read, -, last⟩ := declared_plainSheet "brand" "/* \x7b brand */\n" "\n:root \x7b --accent: red; \x7d"
    [("accent", "#0af"), ("-note of; it", "\"a: b\" --\n\x7bc"), ("accent", "none")] (by decide +kernel)
    (by decide +kernel)
  exact ⟨vars, read, (last _).trans (by decide), (last _).trans (by decide), (last _).trans (by decide)⟩

end

end FlowDeck.Theme
