import Mathlib.Data.List.Nodup

/-!
# Walking over a list that shrinks

A loop goes over a list by position. Where the member at its position satisfies `P` it takes that
member out, and it goes on to the next position either way. The member behind the one that was
taken out has by then moved up into the position the loop has just left, so it is passed over:
`visited` is what such a walk takes out, and `Walk` is its loop invariant.
-/

namespace Shrinking

variable {α : Type*}

/-- What a walk takes out of a list. -/
def visited (P : α → Bool) : List α → List α
  | [] => []
  | [a] => if P a then [a] else []
  | a :: b :: rest => if P a then a :: visited P rest else visited P (b :: rest)

theorem visited_cons (P : α → Bool) (a : α) (rest : List α) :
    visited P (a :: rest) = if P a then a :: visited P rest.tail else visited P rest := by
  cases rest <;> rfl

theorem visited_eq_nil {P : α → Bool} {l : List α} (h : ∀ a ∈ l, P a = false) : visited P l = [] := by
  induction l with
  | nil => rfl
  | cons a rest ih =>
    rw [visited_cons, h a List.mem_cons_self, if_neg Bool.false_ne_true]
    exact ih fun b hb => h b (List.mem_cons_of_mem a hb)

theorem drop_eraseIdx (l : List α) (i : Nat) : (l.eraseIdx i).drop (i + 1) = l.drop (i + 2) := by
  induction l generalizing i with
  | nil => simp
  | cons a rest ih =>
    cases i with
    | zero => rfl
    | succ i => exact ih i

variable [DecidableEq α]

/-- A walk over `start` that has come to the position `i`: `taken` is what it has taken out, and
    `now` is what is left. -/
structure Walk (P : α → Bool) (start now : List α) (i : Nat) (taken : List α) : Prop where
  left : now = start.filter (· ∉ taken)
  ahead : visited P start = taken ++ visited P (now.drop i)
  nodup : taken.Nodup
  fit : ∀ a ∈ taken, a ∈ start ∧ P a = true

namespace Walk

variable {P : α → Bool} {start now taken : List α} {i : Nat}

theorem begin (P : α → Bool) (start : List α) : Walk P start start 0 [] where
  left := by simp
  ahead := rfl
  nodup := .nil
  fit _ h := by cases h

theorem pass (h : Walk P start now i taken) (hi : i < now.length) (hP : P now[i] = false) :
    Walk P start now (i + 1) taken where
  left := h.left
  ahead := by
    rw [h.ahead, List.drop_eq_getElem_cons hi, visited_cons, hP, if_neg Bool.false_ne_true]
  nodup := h.nodup
  fit := h.fit

theorem take (h : Walk P start now i taken) (hstart : start.Nodup) (hi : i < now.length)
    (hP : P now[i] = true) : Walk P start (now.erase now[i]) (i + 1) (taken ++ [now[i]]) := by
  have hnow : now.Nodup := h.left ▸ hstart.filter _
  have hmem : now[i] ∈ start ∧ now[i] ∉ taken := by
    have hget : now[i] ∈ start.filter (· ∉ taken) := h.left ▸ List.getElem_mem hi
    simpa using hget
  refine ⟨?_, ?_, ?_, ?_⟩
  · rw [hnow.erase_eq_filter]
    generalize now[i] = a
    rw [h.left, List.filter_filter]
    refine List.filter_congr ?_
    intro b _
    by_cases hb : b = a
    · simp [hb]
    · simp [hb]
  · rw [hnow.erase_getElem i hi, drop_eraseIdx, h.ahead, List.drop_eq_getElem_cons hi, visited_cons,
      if_pos hP, List.tail_drop, List.append_assoc]
    rfl
  · rw [List.nodup_append]
    refine ⟨h.nodup, List.nodup_singleton _, ?_⟩
    intro a ha b hb
    cases List.mem_singleton.mp hb
    exact fun heq => hmem.2 (heq ▸ ha)
  · intro a ha
    rcases List.mem_append.mp ha with ha | ha
    · exact h.fit a ha
    · cases List.mem_singleton.mp ha
      exact ⟨hmem.1, hP⟩

/-- A walk with nothing to take out ahead of it is over. -/
theorem ended (h : Walk P start now i taken) (hahead : ∀ a ∈ now.drop i, P a = false) :
    taken = visited P start ∧ now = start.filter (· ∉ visited P start) := by
  have htaken : visited P start = taken := by
    rw [h.ahead, visited_eq_nil hahead, List.append_nil]
  rw [htaken]
  exact ⟨rfl, h.left⟩

end Walk

end Shrinking
