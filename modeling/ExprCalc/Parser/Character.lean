import ExprCalc.Parser.Basic
import ExprCalc.Text.Alphabetic

/-!
# Parsers for one character

Each of these parsers reads exactly one character or fails, so it has at most one reading and its
remainder is the rest of the text.
-/

set_option autoImplicit false

namespace ExprCalc

namespace Parser

/-- Any one character. -/
def any : Parser Char
  | [] => []
  | c :: s => [⟨c, s⟩]

/-- The given character. -/
def char (expected : Char) : Parser Char := any.filter (· == expected)

/-- One character of the given set. -/
def oneOf (set : Text) : Parser Char := any.filter fun c => set.contains c

/-- One letter, of any script. -/
def letter : Parser Char := any.filter isAlphabetic

/-! ## Their readings -/

@[simp] theorem any_nil : any [] = [] := rfl

@[simp] theorem any_cons (c : Char) (s : Text) : any (c :: s) = [⟨c, s⟩] := rfl

@[simp] theorem char_nil (expected : Char) : char expected [] = [] := rfl

@[simp] theorem char_cons (expected c : Char) (s : Text) :
    char expected (c :: s) = if c = expected then [⟨c, s⟩] else [] := by
  by_cases h : c = expected
  · simp [char, filter, h]
  · simp [char, filter, h]

@[simp] theorem oneOf_nil (set : Text) : oneOf set [] = [] := rfl

@[simp] theorem oneOf_cons (set : Text) (c : Char) (s : Text) :
    oneOf set (c :: s) = if c ∈ set then [⟨c, s⟩] else [] := by
  by_cases h : c ∈ set
  · simp [oneOf, filter, h]
  · simp [oneOf, filter, h]

/-- A reading of one character takes off the first character. -/
theorem eq_cons_of_mem_any {s : Text} {r : Reading Char} (h : r ∈ any s) :
    s = r.value :: r.rest := by
  cases s with
  | nil => simp at h
  | cons c s =>
      rw [any_cons, List.mem_singleton] at h
      rw [h]

theorem eq_cons_of_mem_char {expected : Char} {s : Text} {r : Reading Char}
    (h : r ∈ char expected s) : s = expected :: r.rest := by
  obtain ⟨hany, heq⟩ := mem_filter.1 h
  rw [eq_cons_of_mem_any hany, eq_of_beq heq]

theorem eq_cons_of_mem_oneOf {set s : Text} {r : Reading Char} (h : r ∈ oneOf set s) :
    r.value ∈ set ∧ s = r.value :: r.rest := by
  obtain ⟨hany, hset⟩ := mem_filter.1 h
  exact ⟨by simpa using hset, eq_cons_of_mem_any hany⟩

end Parser

end ExprCalc
