/-!
# Scanning

The two steps that all readers of marked-up text are made of.
-/

namespace FlowDeck.Text

def upTo? (mark : Char) : List Char → Option (List Char × List Char)
  | [] => none
  | c :: rest =>
    if c = mark then some ([], rest)
    else (upTo? mark rest).map fun (inside, rest) => (c :: inside, rest)

def after? (lead s : List Char) : Option (List Char) :=
  if lead.isPrefixOf s then some (s.drop lead.length) else none

theorem upTo?_eq_some_iff {mark : Char} {s inside rest : List Char} :
    upTo? mark s = some (inside, rest) ↔ mark ∉ inside ∧ s = inside ++ mark :: rest := by
  induction s generalizing inside with
  | nil => simp [upTo?]
  | cons c s ih =>
    by_cases hc : c = mark
    · cases inside with
      | nil => simp [upTo?, hc]
      | cons d inside =>
        simp only [upTo?, hc, if_true, List.mem_cons, List.cons_append]
        grind
    · cases inside with
      | nil => simp [upTo?, hc]
      | cons d inside =>
        simp only [upTo?, hc, if_false, Option.map_eq_some_iff, Prod.exists, Prod.mk.injEq,
          List.mem_cons, List.cons_append, List.cons.injEq]
        grind

theorem length_of_upTo? {mark : Char} {s inside rest : List Char}
    (h : upTo? mark s = some (inside, rest)) : rest.length < s.length := by
  obtain ⟨-, rfl⟩ := upTo?_eq_some_iff.1 h
  rw [List.length_append, List.length_cons]
  omega

theorem after?_eq_some_iff {lead s rest : List Char} :
    after? lead s = some rest ↔ s = lead ++ rest := by
  unfold after?
  constructor
  · intro h
    split at h
    · next hp =>
      obtain ⟨t, rfl⟩ := List.isPrefixOf_iff_prefix.1 hp
      simpa using h
    · simp at h
  · rintro rfl
    simp

theorem length_of_after? {lead s rest : List Char} (h : after? lead s = some rest) :
    rest.length ≤ s.length := by
  obtain rfl := after?_eq_some_iff.1 h
  simp

end FlowDeck.Text
