import ExprCalc.Text.Basic

/-!
# How alike two texts are

The characters of one text pair up, from left to right, with equal characters of the other text
that stand at about the same place. `Text.similarity` is the mean of three shares: the part of
either text that has found a partner, and the part of the pairs that keep the order of the pair
before them. It is an exact fraction, so two similarities may be compared without rounding.

`similarity_self` says that a text is wholly like itself.
-/

set_option autoImplicit false

namespace ExprCalc

namespace Text

/-- How far from each other two paired characters may stand. -/
def reach (s t : Text) : Nat := max s.length t.length / 2 - 1

/-- The first place of `t` that pairs up with the character `c` at the place `i`: it holds the
same character, is within reach, and has not been taken. -/
def partner? (t : Text) (reach : Nat) (taken : List Nat) (i : Nat) (c : Char) : Option Nat :=
  (List.range t.length).find? fun j =>
    t[j]? = some c ∧ i ≤ j + reach ∧ j ≤ i + reach ∧ j ∉ taken

/-- The taken places of `t` after the characters of a text have looked for a partner, of which
the first one stands at the place `i`. -/
def partnersFrom (t : Text) (reach : Nat) : Text → Nat → List Nat → List Nat
  | [], _, taken => taken
  | c :: s, i, taken =>
      partnersFrom t reach s (i + 1) (taken ++ (partner? t reach taken i c).toList)

/-- The places of `t` that the characters of `s` pair up with, in the order of `s`. -/
def partners (s t : Text) : List Nat := partnersFrom t (reach s t) s 0 []

/-- How often a place comes right after a greater one. -/
def descents : List Nat → Nat
  | i :: j :: places => (if j < i then 1 else 0) + descents (j :: places)
  | _ => 0

/-- How alike two texts are: one if they are the same, and zero if no character of one pairs up
with a character of the other. -/
def similarity (s t : Text) : Rat :=
  let places := partners s t
  let pairs : Rat := places.length
  (pairs / s.length + pairs / t.length + (pairs - descents places) / pairs) / 3

/-- In a text that is compared with itself, a character pairs up with itself as soon as those
before it have. -/
theorem partner?_self (s : Text) (reach i : Nat) (c : Char) (h : s[i]? = some c) :
    partner? s reach (List.range i) i c = some i := by
  obtain ⟨hi, -⟩ := List.getElem?_eq_some_iff.mp h
  rw [partner?, List.find?_range_eq_some]
  refine ⟨?_, by simpa using hi, ?_⟩
  · simp [h]
  · intro j hj
    simp [hj]

/-- A text that is compared with itself pairs up place by place. -/
theorem partnersFrom_self (s : Text) (reach : Nat) :
    ∀ (rest : Text) (i : Nat), s.drop i = rest →
      partnersFrom s reach rest i (List.range i) = List.range (i + rest.length)
  | [], i, _ => by simp [partnersFrom]
  | c :: rest, i, h => by
      have hc : s[i]? = some c := by
        rw [← List.head?_drop, h, List.head?_cons]
      have hrest : s.drop (i + 1) = rest := by
        rw [← List.drop_drop, h, List.drop_one, List.tail_cons]
      rw [partnersFrom, partner?_self s reach i c hc, Option.toList_some, ← List.range_succ,
        partnersFrom_self s reach rest (i + 1) hrest, List.length_cons, Nat.add_right_comm,
        Nat.add_assoc]

/-- A text pairs up with itself place by place. -/
theorem partners_self (s : Text) : partners s s = List.range s.length := by
  simpa [partners] using partnersFrom_self s (reach s s) s 0 rfl

/-- Places in their order have no descent. -/
theorem descents_eq_zero : ∀ {places : List Nat}, places.Pairwise (· < ·) → descents places = 0
  | [], _ => rfl
  | [_], _ => rfl
  | i :: j :: places, h => by
      obtain ⟨hi, hj⟩ := List.pairwise_cons.mp h
      have hij : i < j := hi j List.mem_cons_self
      rw [descents, if_neg (Nat.not_lt.mpr (Nat.le_of_lt hij)), descents_eq_zero hj]

/-- A text is wholly like itself. -/
theorem similarity_self {s : Text} (h : s ≠ []) : similarity s s = 1 := by
  have hs : (s.length : Rat) ≠ 0 := by simpa using h
  have hd : descents (List.range s.length) = 0 := descents_eq_zero List.pairwise_lt_range
  simp only [similarity, partners_self, List.length_range, hd]
  grind

end Text

end ExprCalc
