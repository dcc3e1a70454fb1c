import ExprCalc.Text.Basic

/-!
# Nesting of parentheses

How deep the parentheses of a text nest, told by one scan that keeps a count of the open ones. A
closing parenthesis with no open one before it is passed over, and so is every other character. The
scan looks at the whole text, also at what no expression reaches.
-/

set_option autoImplicit false

namespace ExprCalc

/-- What the scan keeps: how many parentheses are open, and the most that have been open
at once. -/
structure Nesting where
  level : Nat := 0
  deepest : Nat := 0

namespace Nesting

/-- The scan past one more character. -/
def step (n : Nesting) (c : Char) : Nesting :=
  if c = '(' then ⟨n.level + 1, max n.deepest (n.level + 1)⟩
  else if c = ')' then ⟨n.level - 1, n.deepest⟩
  else n

/-- The scan past a text. -/
def scan (n : Nesting) (s : Text) : Nesting := s.foldl step n

/-- The deepest nesting of parentheses in a text. -/
def depth (s : Text) : Nat := (scan {} s).deepest

@[simp] theorem scan_nil (n : Nesting) : n.scan [] = n := rfl

@[simp] theorem scan_cons (n : Nesting) (c : Char) (s : Text) :
    n.scan (c :: s) = (n.step c).scan s := rfl

/-- A text is scanned part by part. -/
theorem scan_append (n : Nesting) (s t : Text) : n.scan (s ++ t) = (n.scan s).scan t :=
  List.foldl_append

end Nesting

end ExprCalc
