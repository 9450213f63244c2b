import FlowDeck.Hierarchy.Level
import FlowDeck.Proofs.Hierarchy.Codec
import Mathlib.Data.List.Nodup
import Mathlib.Data.List.Perm.Subperm
import Mathlib.Order.Lattice

/-!
# Identifiers at their level

Letters and digits never run together, so an identifier falls apart into the level and the number
it was made of. What is numbered on from identifiers, or by the least number that none of them
has, is none of them.
-/

namespace FlowDeck

structure IsLevel (level : String) : Prop where
  ne_empty : level ≠ ""
  letters : ∀ c ∈ level.toList, isLevelLetter c = true

def levelAt : Nat → String
  | 0 => rootLevel
  | depth + 1 => nextLevel (levelAt depth)

theorem isLevel_rootLevel : IsLevel rootLevel where
  ne_empty := by decide
  letters := List.all_eq_true.1 (by decide)

theorem IsLevel.next {level : String} (h : IsLevel level) : IsLevel (nextLevel level) := by
  have following : ∀ n < 90, 65 ≤ n → isLevelLetter (Char.ofNat (n + 1)) = true := by decide
  unfold nextLevel
  split
  · exact isLevel_rootLevel
  · next last hlast =>
    split
    · next hc =>
      simp only [Bool.and_eq_true, decide_eq_true_eq] at hc
      have hlt : last.toNat < 90 := hc.2
      refine ⟨fun he => ?_, fun c hm => ?_⟩
      · simpa using congrArg String.toList he
      · rw [String.toList_ofList, List.mem_append, List.mem_singleton] at hm
        rcases hm with hm | rfl
        · exact h.letters c ((List.dropLast_sublist _).subset hm)
        · exact following _ hlt hc.1
    · refine ⟨fun he => ?_, fun c hm => ?_⟩
      · simpa using congrArg String.toList he
      · rw [String.toList_append, List.mem_append] at hm
        rcases hm with hm | hm
        · exact h.letters c hm
        · obtain rfl : c = 'A' := by simpa using hm
          decide

theorem isLevel_levelAt (depth : Nat) : IsLevel (levelAt depth) := by
  induction depth with
  | zero => exact isLevel_rootLevel
  | succ depth ih => exact ih.next

/-! ## Reading an identifier -/

section
variable {level : String} {n m : Nat}

theorem toList_siblingId : (siblingId level (n : Int)).toList = level.toList ++ Nat.toDigits 10 n := by
  rw [siblingId, String.toList_append, Int.toString_eq_repr, Int.repr_eq_if, if_pos (Int.natCast_nonneg n),
    Int.toNat_natCast, Nat.toList_repr]

theorem digit?_of_isDigit {c : Char} (h : c.isDigit = true) : Text.digit? c = some (c.toNat - 48) := by
  rw [Text.digit?, Text.zeros, List.find?_cons_of_pos]
  · rfl
  · simp only [Char.isDigit, Bool.and_eq_true, decide_eq_true_eq] at h
    obtain ⟨low, high⟩ := h
    have low : 48 ≤ c.toNat := low
    have high : c.toNat ≤ 57 := high
    simp only [Bool.and_eq_true, decide_eq_true_eq]
    omega

theorem isDigit_of_mem_toDigits {c : Char} (h : c ∈ Nat.toDigits 10 n) : c.isDigit = true :=
  Nat.isDigit_of_mem_toDigits (by decide) (by decide) h

theorem not_isLevelLetter_of_isDigit {c : Char} (h : c.isDigit = true) : isLevelLetter c = false := by
  simp only [Char.isDigit, Bool.and_eq_true, decide_eq_true_eq] at h
  have high : c.toNat ≤ 57 := h.2
  simp only [isLevelLetter, Bool.and_eq_false_iff, decide_eq_false_iff_not]
  exact .inl fun low => by have : 65 ≤ c.toNat := low; omega

theorem foldl_digit?_eq (digits : List Char) (start : Nat) (h : ∀ c ∈ digits, c.isDigit = true) :
    digits.foldl (fun n c => 10 * n + (Text.digit? c).getD 0) start = Nat.ofDigitChars 10 digits start := by
  induction digits generalizing start with
  | nil => simp
  | cons c digits ih =>
    have rest : ∀ c ∈ digits, c.isDigit = true := fun c hc => h c (List.mem_cons_of_mem _ hc)
    rw [List.foldl_cons, ih _ rest, Nat.ofDigitChars_cons, digit?_of_isDigit (h c List.mem_cons_self)]
    rfl

theorem number_toDigits : Text.number (Nat.toDigits 10 n) = n := by
  rw [Text.number, foldl_digit?_eq _ _ fun c => isDigit_of_mem_toDigits, Nat.ofDigitChars_ten_toDigits]

theorem takeWhile_siblingId (h : IsLevel level) :
    (siblingId level (n : Int)).toList.takeWhile isLevelLetter = level.toList ∧
      (siblingId level (n : Int)).toList.dropWhile isLevelLetter = Nat.toDigits 10 n := by
  obtain ⟨c, digits, hd⟩ := List.exists_cons_of_ne_nil (Nat.toDigits_ne_nil (n := n) (b := 10))
  have hc : isLevelLetter c = false :=
    not_isLevelLetter_of_isDigit (isDigit_of_mem_toDigits (n := n) (hd ▸ List.mem_cons_self))
  rw [toList_siblingId, List.takeWhile_append_of_pos h.letters, List.dropWhile_append_of_pos h.letters, hd]
  simp [hc]

theorem levelOf_siblingId (h : IsLevel level) : levelOf (siblingId level (n : Int)) = level := by
  rw [levelOf, (takeWhile_siblingId h).1, String.ofList_toList]

theorem splitId?_siblingId (h : IsLevel level) : splitId? (siblingId level (n : Int)) = some (level, n) := by
  have digits : ∀ c ∈ Nat.toDigits 10 n, c.isDigit = true := fun c => isDigit_of_mem_toDigits
  have ends : dropLineEnd (Nat.toDigits 10 n) = Nat.toDigits 10 n := by
    refine if_neg fun hl => ?_
    have := digits _ (List.mem_of_getLast? hl)
    revert this
    decide
  have all : (Nat.toDigits 10 n).all Text.isDigit = true :=
    List.all_eq_true.2 fun c hc => by rw [Text.isDigit, digit?_of_isDigit (digits c hc)]; rfl
  have hne : level.toList ≠ [] := fun he => h.ne_empty (String.toList_inj.1 he)
  rw [splitId?, idParts?, (takeWhile_siblingId h).1, (takeWhile_siblingId h).2, ends, all]
  simp [hne, number_toDigits]

theorem numberAt?_siblingId (h : IsLevel level) : numberAt? level (siblingId level (n : Int)) = some n := by
  rw [numberAt?, splitId?_siblingId h, Option.bind_some]
  exact if_pos rfl

theorem siblingId_inj (h : IsLevel level) (he : siblingId level (n : Int) = siblingId level (m : Int)) :
    n = m := by
  have := numberAt?_siblingId (n := n) h
  rw [he, numberAt?_siblingId h] at this
  exact (Option.some.inj this).symm

/-- An identifier fits between any marks that are neither letters nor digits. -/
theorem fits_siblingId {marks : List Char} (h : ∀ c ∈ level.toList, isLevelLetter c = true)
    (hm : marks.all (fun c => !isLevelLetter c && !c.isDigit) = true) :
    Record.Fits marks (siblingId level (n : Int)) := by
  have parts : ∀ c ∈ (siblingId level (n : Int)).toList, isLevelLetter c = true ∨ c.isDigit = true := by
    rw [toList_siblingId]
    exact fun c hc => (List.mem_append.1 hc).imp (h c) isDigit_of_mem_toDigits
  have dark : ∀ c, isLevelLetter c = true ∨ c.isDigit = true → Text.isBlank c = false := by
    intro c hc
    have range : 48 ≤ c.toNat ∧ c.toNat ≤ 90 := by
      rcases hc with hc | hc
      · simp only [isLevelLetter, Bool.and_eq_true, decide_eq_true_eq] at hc
        exact ⟨Nat.le_trans (by decide) (show 65 ≤ c.toNat from hc.1), hc.2⟩
      · simp only [Char.isDigit, Bool.and_eq_true, decide_eq_true_eq] at hc
        exact ⟨hc.1, Nat.le_trans (show c.toNat ≤ 57 from hc.2) (by decide)⟩
    simp only [Text.isBlank, Bool.or_eq_false_iff, Bool.and_eq_false_iff, decide_eq_false_iff_not,
      beq_eq_false_iff_ne]
    omega
  refine ⟨fun he => ?_, ?_, fun c hc hi => ?_⟩
  · have := congrArg String.toList he
    rw [toList_siblingId] at this
    simp at this
  · exact Text.trim_eq_self (fun c hc => dark c (parts c (List.mem_of_head? hc)))
      fun c hc => dark c (parts c (List.mem_of_getLast? hc))
  · have hm := List.all_eq_true.1 hm c hc
    rcases parts c hi with h | h <;> simp [h] at hm

end

/-! ## New identifiers -/

/-- Of more candidates than there are members, one is not a member. -/
theorem find?_not_mem {α : Type} [DecidableEq α] (candidates used : List α) (hn : candidates.Nodup)
    (hl : used.length < candidates.length) :
    ∃ n, candidates.find? (fun n => !used.contains n) = some n ∧ n ∈ candidates ∧ n ∉ used := by
  cases h : candidates.find? (fun n => !used.contains n) with
  | some n => exact ⟨n, rfl, List.mem_of_find?_eq_some h, by simpa using List.find?_some h⟩
  | none =>
    have sub : candidates ⊆ used := fun n hn => by simpa using List.find?_eq_none.1 h n hn
    exact absurd (List.subperm_of_subset hn sub).length_le (by omega)

theorem le_foldl_max {α : Type} [LinearOrder α] (ns : List α) (start : α) :
    start ≤ ns.foldl max start ∧ ∀ n ∈ ns, n ≤ ns.foldl max start := by
  induction ns generalizing start with
  | nil => simp
  | cons k ns ih =>
    obtain ⟨hs, hall⟩ := ih (max start k)
    refine ⟨(le_max_left start k).trans hs, fun n hn => ?_⟩
    rcases List.mem_cons.1 hn with rfl | hn
    · exact (le_max_right start n).trans hs
    · exact hall n hn

theorem foldl_max_le {α : Type} [LinearOrder α] {ns : List α} {start bound : α} (hs : start ≤ bound)
    (h : ∀ n ∈ ns, n ≤ bound) : ns.foldl max start ≤ bound := by
  induction ns generalizing start with
  | nil => exact hs
  | cons n ns ih =>
    rw [List.foldl_cons]
    apply ih
    · exact max_le hs (h n List.mem_cons_self)
    · exact fun m hm => h m (List.mem_cons_of_mem _ hm)

section
variable {level : String} {ids : List String}

theorem lt_nextNumber {id : String} {n : Nat} (hid : id ∈ ids) (hn : numberAt? level id = some n) :
    n < nextNumber level ids :=
  Nat.lt_succ_of_le ((le_foldl_max _ 0).2 n (List.mem_filterMap.2 ⟨id, hid, hn⟩))

/-- Identifiers that are numbered on are new. -/
theorem siblingId_not_mem (h : IsLevel level) {n : Nat} (hn : nextNumber level ids ≤ n) :
    siblingId level (n : Int) ∉ ids := fun hm =>
  absurd (lt_nextNumber hm (numberAt?_siblingId h)) (by omega)

/-- The search for a free number passes those in use, one after the other. -/
theorem freeRootNumber_passes (ids : List String) :
    ∃ i ≤ ids.length, freeRootNumber ids = i + 1 ∧ (∀ id ∈ ids, numberAt? rootLevel id ≠ some (i + 1)) ∧
      ∀ j < i, ∃ id ∈ ids, numberAt? rootLevel id = some (j + 1) := by
  let used := ids.filterMap (numberAt? rootLevel)
  let candidates := (List.range (used.length + 1)).map (· + 1)
  obtain ⟨n, found, -, free⟩ := find?_not_mem candidates used
    (List.nodup_range.map fun i j (h : i + 1 = j + 1) => by omega) (by simp [candidates])
  obtain ⟨-, i, hi, rfl, passed⟩ := List.find?_eq_some_iff_getElem.1 found
  have number : freeRootNumber ids = candidates[i] := by
    unfold freeRootNumber
    exact congrArg (·.getD 1) found
  have entry (j : Nat) (hj : j < candidates.length) : candidates[j] = j + 1 := by simp [candidates]
  have bound : used.length ≤ ids.length := List.length_filterMap_le _ _
  have short : candidates.length = used.length + 1 := by simp [candidates]
  refine ⟨i, by omega, number.trans (entry i hi), fun id hid taken => free ?_, fun j hj => ?_⟩
  · rw [entry i hi]
    exact List.mem_filterMap.2 ⟨id, hid, taken⟩
  · have before : j < candidates.length := by omega
    have taken : candidates[j] ∈ used := by simpa using passed j hj
    rw [entry j before] at taken
    exact List.mem_filterMap.1 taken

theorem freeRootNumber_spec (ids : List String) :
    0 < freeRootNumber ids ∧ freeRootId ids ∉ ids := by
  obtain ⟨i, -, found, free, -⟩ := freeRootNumber_passes ids
  refine ⟨found ▸ i.succ_pos, fun taken => free _ taken ?_⟩
  rw [freeRootId, found]
  exact numberAt?_siblingId isLevel_rootLevel

theorem siblingIds_nodup (h : IsLevel level) (count : Int) (start : Nat) :
    (siblingIds level count start).Nodup :=
  List.nodup_range.map fun i j he => by
    have : start + i = start + j := siblingId_inj h (by exact_mod_cast he)
    omega

theorem siblingIds_add {m n : Int} (hm : 0 ≤ m) (hn : 0 ≤ n) (start : Int) :
    siblingIds level (m + n) start = siblingIds level m start ++ siblingIds level n (start + m) := by
  unfold siblingIds
  rw [Int.toNat_add hm hn, List.range_add, List.map_append, List.map_map]
  congr 1
  refine List.map_congr_left fun i _ => ?_
  rw [Function.comp_apply, Int.natCast_add, Int.toNat_of_nonneg hm, Int.add_assoc]

/-- When identifiers have been numbered on and are in use, the next number comes after theirs. -/
theorem nextNumber_further (h : IsLevel level) {count : Int} (hc : 0 < count) {used : List String}
    (hsub : used ⊆ ids ++ siblingIds level count (nextNumber level ids))
    (hall : siblingIds level count (nextNumber level ids) ⊆ used) :
    (nextNumber level used : Int) = nextNumber level ids + count := by
  obtain ⟨k, rfl⟩ : ∃ k : Nat, count = k + 1 := ⟨count.toNat - 1, by omega⟩
  have last : siblingId level ((nextNumber level ids + k : Nat) : Int) ∈ used := by
    apply hall
    refine List.mem_map.2 ⟨k, List.mem_range.2 (by omega), ?_⟩
    rw [Int.natCast_add]
  have above := lt_nextNumber last (numberAt?_siblingId h)
  have below : (used.filterMap (numberAt? level)).foldl max 0 ≤ nextNumber level ids + k := by
    refine foldl_max_le (Nat.zero_le _) fun n hn => ?_
    obtain ⟨id, hid, hnumber⟩ := List.mem_filterMap.1 hn
    rcases List.mem_append.1 (hsub hid) with hid | hid
    · exact Nat.le_trans (Nat.le_of_lt (lt_nextNumber hid hnumber)) (Nat.le_add_right _ _)
    · obtain ⟨i, hi, rfl⟩ := List.mem_map.1 hid
      rw [← Int.natCast_add, numberAt?_siblingId h] at hnumber
      have := List.mem_range.1 hi
      have := Option.some.inj hnumber
      omega
  have same : nextNumber level used = nextNumber level ids + k + 1 := by
    refine Nat.le_antisymm (Nat.succ_le_succ below) above
  rw [same]
  omega

/-! Reading and writing only add faults to these. -/

theorem furtherIds_eq {count : Int} {used new : List String} (h : furtherIds level count used = .ok new) :
    new = siblingIds level count (nextNumber level used) := by
  simp only [furtherIds, readNextNumber, writeSiblingIds, bind, Except.bind] at h
  split at h
  · cases h
  · next hn =>
    split at hn
    · cases hn
    · cases hn
      repeat' split at h
      all_goals cases h
      all_goals rfl

theorem furtherId_eq {used : List String} {new : String} (h : furtherId level used = .ok new) :
    new = siblingId level (nextNumber level used) := by
  simp only [furtherId, readNextNumber, bind, Except.bind] at h
  split at h
  · cases h
  · next hn =>
    split at hn
    · cases hn
    · cases hn
      split at h
      all_goals cases h
      rfl

/-- Numbered on, identifiers are none of those in use. -/
theorem not_mem_of_furtherIds (h : IsLevel level) {count : Int} {used new : List String} {id : String}
    (hn : furtherIds level count used = .ok new) (hid : id ∈ used) : id ∉ new := by
  rw [furtherIds_eq hn, siblingIds, List.mem_map]
  rintro ⟨i, -, rfl⟩
  rw [← Int.natCast_add] at hid
  exact siblingId_not_mem h (Nat.le_add_right _ i) hid

theorem not_mem_of_furtherId (h : IsLevel level) {used : List String} {new : String}
    (hn : furtherId level used = .ok new) : new ∉ used :=
  furtherId_eq hn ▸ siblingId_not_mem h le_rfl

theorem readFreeRootId_eq {id : String} (h : readFreeRootId ids = .ok id) : id = freeRootId ids := by
  simp only [readFreeRootId, bind, Except.bind] at h
  split at h
  · cases h
  · cases h; rfl

end

end FlowDeck
