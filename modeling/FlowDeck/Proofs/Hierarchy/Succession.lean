import FlowDeck.Proofs.Hierarchy.Levels
import Mathlib.Data.Set.Function

/-!
# Levels one below the other

Going down by a level adds one to the depth, whatever letters the level has. Going down from the root level, every
depth gets a level of its own, and the depth alone says which: a `Z` for every 26 levels that have been passed, and
one letter more. So among these levels the depths tell how far one of them is below another.
-/

namespace FlowDeck

variable {level : String}

/-! ## Depths -/

theorem levelDepth_nextLevel (h : IsLevel level) : levelDepth (nextLevel level) = levelDepth level + 1 := by
  have step : ∀ n < 90, 65 ≤ n → (Char.ofNat (n + 1)).toNat = n + 1 := by decide
  cases hl : level.toList.getLast? with
  | none => exact absurd (String.toList_inj.1 (List.getLast?_eq_none_iff.1 hl)) h.ne_empty
  | some last =>
    have letter := h.letters last (List.mem_of_getLast? hl)
    simp only [isLevelLetter, Bool.and_eq_true, decide_eq_true_eq] at letter
    have low : 65 ≤ last.toNat := letter.1
    have high : last.toNat ≤ 90 := letter.2
    have len : 0 < level.toList.length := List.length_pos_of_mem (List.mem_of_getLast? hl)
    rw [nextLevel, levelDepth, levelDepth, hl]
    dsimp only
    have a : 'A'.toNat = 65 := rfl
    have z : 'Z'.toNat = 90 := rfl
    by_cases hz : last.toNat < 90
    · have below : last < 'Z' := hz
      simp only [letter.1, below, decide_true, Bool.and_self, if_true, String.toList_ofList,
        List.getLast?_append, List.getLast?_singleton, Option.some_or, step _ hz low, List.length_append,
        List.length_dropLast, List.length_singleton]
      omega
    · have notBelow : ¬last < 'Z' := hz
      simp [notBelow]
      omega

/-- What has no level is one above the root level. -/
theorem levelDepth_nextLevel_of_letters (h : ∀ c ∈ level.toList, isLevelLetter c) :
    levelDepth (nextLevel level) = levelDepth level + 1 := by
  by_cases empty : level = ""
  · subst empty
    decide
  · exact levelDepth_nextLevel ⟨empty, h⟩

theorem levelDepth_levelAt (depth : Nat) : levelDepth (levelAt depth) = depth := by
  induction depth with
  | zero => decide
  | succ depth ih =>
    rw [levelAt, levelDepth_nextLevel (isLevel_levelAt depth), ih]
    rfl

theorem levelAt_injective : Function.Injective levelAt := by
  intro i j same
  have depths := congrArg levelDepth same
  rw [levelDepth_levelAt, levelDepth_levelAt] at depths
  exact Int.ofNat_inj.1 depths

/-! ## The letters of a level -/

def capital (n : Nat) : Char := Char.ofNat ('A'.toNat + n)

theorem nextLevel_capital {n : Nat} (s : List Char) (hn : n < 25) :
    nextLevel (String.ofList (s ++ [capital n])) = String.ofList (s ++ [capital (n + 1)]) := by
  have moves : ∀ n < 25, ('A' ≤ capital n && capital n < 'Z') = true ∧
      Char.ofNat ((capital n).toNat + 1) = capital (n + 1) := by decide
  obtain ⟨inside, next⟩ := moves n hn
  simp [nextLevel, inside, next]

theorem nextLevel_last (s : List Char) :
    nextLevel (String.ofList (s ++ ['Z'])) = String.ofList (s ++ ['Z'] ++ ['A']) := by
  apply String.toList_inj.1
  simp [nextLevel]

theorem levelAt_eq (depth : Nat) :
    levelAt depth = String.ofList (List.replicate (depth / 26) 'Z' ++ [capital (depth % 26)]) := by
  induction depth with
  | zero => rfl
  | succ depth ih =>
    rw [levelAt, ih]
    by_cases last : depth % 26 = 25
    · have passed : (depth + 1) / 26 = depth / 26 + 1 := by omega
      have first : (depth + 1) % 26 = 0 := by omega
      rw [last, passed, first, List.replicate_succ']
      exact nextLevel_last _
    · have passed : (depth + 1) / 26 = depth / 26 := by omega
      have further : (depth + 1) % 26 = depth % 26 + 1 := by omega
      rw [passed, further]
      apply nextLevel_capital
      omega

/-! ## The levels of nodes -/

def levels : Set String := Set.range fun n : ℕ => nextLevel^[n] rootLevel

theorem iterate_nextLevel (n : Nat) : nextLevel^[n] rootLevel = levelAt n := by
  induction n with
  | zero => rfl
  | succ n ih => rw [Function.iterate_succ_apply', ih, levelAt]

theorem mem_levels : level ∈ levels ↔ ∃ depth, levelAt depth = level := by
  simp [levels, iterate_nextLevel]

theorem bijOn_levelDepth : Set.BijOn levelDepth levels (Set.range fun n : ℕ => (n : ℤ)) := by
  refine ⟨?_, ?_, ?_⟩
  · intro level h
    obtain ⟨depth, rfl⟩ := mem_levels.1 h
    exact ⟨depth, (levelDepth_levelAt depth).symm⟩
  · intro first h second h' same
    obtain ⟨i, rfl⟩ := mem_levels.1 h
    obtain ⟨j, rfl⟩ := mem_levels.1 h'
    rw [levelDepth_levelAt, levelDepth_levelAt] at same
    rw [Int.ofNat_inj.1 same]
  · rintro - ⟨depth, rfl⟩
    exact ⟨levelAt depth, mem_levels.2 ⟨depth, rfl⟩, levelDepth_levelAt depth⟩

/-- Other texts of capitals share their depth with a level. -/
example : levelDepth "BA" = levelDepth "ZA" := by decide

theorem iterate_nextLevel_eq_iff {first second : String} (h : first ∈ levels) (h' : second ∈ levels) (k : ℕ) :
    nextLevel^[k] first = second ↔ levelDepth second = levelDepth first + k := by
  obtain ⟨i, rfl⟩ := mem_levels.1 h
  obtain ⟨j, rfl⟩ := mem_levels.1 h'
  rw [← iterate_nextLevel i, ← Function.iterate_add_apply, iterate_nextLevel, iterate_nextLevel, levelDepth_levelAt,
    levelDepth_levelAt, levelAt_injective.eq_iff]
  omega

/-- The level below a level is one deeper. From the root level down no level comes twice, the depth says which letters
a level has, every depth is the depth of one of them, and one is so many levels below another as it is deeper. -/
theorem levels_count_depth :
    (∀ level : String, (∀ c ∈ level.toList, isLevelLetter c) → levelDepth (nextLevel level) = levelDepth level + 1) ∧
    Function.Injective (fun n : ℕ => nextLevel^[n] rootLevel) ∧
    (∀ n : ℕ, nextLevel^[n] rootLevel = String.ofList (List.replicate (n / 26) 'Z' ++ [capital (n % 26)])) ∧
    Set.BijOn levelDepth levels (Set.range fun n : ℕ => (n : ℤ)) ∧
    ∀ first ∈ levels, ∀ second ∈ levels, ∀ k : ℕ,
      nextLevel^[k] first = second ↔ levelDepth second = levelDepth first + k := by
  refine ⟨fun level h => levelDepth_nextLevel_of_letters h, ?_, ?_, bijOn_levelDepth, ?_⟩
  · simp only [iterate_nextLevel]
    exact levelAt_injective
  · intro n
    rw [iterate_nextLevel, levelAt_eq]
  · intro first h second h' k
    exact iterate_nextLevel_eq_iff h h' k

/-- A level whose letters no node has, what has no level, and the levels on both sides of the first `Z`. -/
theorem levels_count_depth_ofZ :
    levelDepth (nextLevel "BZ") = levelDepth "BZ" + 1 ∧ levelDepth (nextLevel "") = levelDepth "" + 1 ∧
      nextLevel^[26] rootLevel = "ZA" ∧ nextLevel^[3] "Y" = "ZB" := by
  obtain ⟨next, -, letters, -, below⟩ := levels_count_depth
  have y : "Y" ∈ levels := ⟨24, (letters 24).trans (by decide)⟩
  have zb : "ZB" ∈ levels := ⟨27, (letters 27).trans (by decide)⟩
  exact ⟨next "BZ" (List.all_eq_true.1 (by decide)), next "" (List.all_eq_true.1 (by decide)),
    (letters 26).trans (by decide), (below "Y" y "ZB" zb 3).2 (by decide)⟩

end FlowDeck
