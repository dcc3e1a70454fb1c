import ExprCalc.Parser.Basic

/-!
# Repetition

Repetition is greedy and commits itself: at each step it follows the first reading of the repeated
parser and no other. A step counts only if its remainder has fewer bytes than the text it started
from. So the repetition ends for every parser whatsoever, also for one that reads the empty text,
and the number of bytes is the measure of its recursion.
-/

set_option autoImplicit false

namespace ExprCalc

universe u

variable {α : Type u}

namespace Parser

/-- The chain of first readings of `p` from `s`, as long as the remainder gets shorter: the values
in order, and the text where the chain stops. -/
def greedy (p : Parser α) (s : Text) : Reading (List α) :=
  match (p s).head? with
  | none => ⟨[], s⟩
  | some r =>
      if r.rest.byteCount < s.byteCount then
        let tail := greedy p r.rest
        ⟨r.value :: tail.value, tail.rest⟩
      else ⟨[], s⟩
termination_by s.byteCount

/-- Any number of `p` in a row, as many as there are. There is always exactly one reading. -/
def many (p : Parser α) : Parser (List α) := fun s => [greedy p s]

/-- At least one `p` in a row, as many as there are. -/
def many1 (p : Parser α) : Parser (List α) := (many p).filter fun values => !values.isEmpty

/-! ## One step of the chain -/

variable {p : Parser α} {s : Text}

/-- The chain ends where there is no reading. -/
theorem greedy_of_eq_nil (h : p s = []) : greedy p s = ⟨[], s⟩ := by
  rw [greedy, h]
  rfl

/-- The chain goes on where the first reading leaves a shorter remainder. -/
theorem greedy_of_lt {r : Reading α} (h : (p s).head? = some r)
    (hlt : r.rest.byteCount < s.byteCount) :
    greedy p s = ⟨r.value :: (greedy p r.rest).value, (greedy p r.rest).rest⟩ := by
  rw [greedy, h]
  exact if_pos hlt

/-- The chain ends where the first reading leaves no shorter remainder. -/
theorem greedy_of_not_lt {r : Reading α} (h : (p s).head? = some r)
    (hlt : ¬ r.rest.byteCount < s.byteCount) : greedy p s = ⟨[], s⟩ := by
  rw [greedy, h]
  exact if_neg hlt

theorem many1_eq (p : Parser α) (s : Text) :
    many1 p s = if (greedy p s).value = [] then [] else [greedy p s] := by
  by_cases h : (greedy p s).value = []
  · simp [many1, many, filter, h]
  · simp [many1, many, filter, h]

end Parser

end ExprCalc
