/-!
# Text

A text is the list of its characters. Positions in a text are counted in bytes of its UTF-8 form:
`Text.byteCount` is the length of that form, and `Text.takeBytes` cuts a text at such a position.
The count is additive (`Text.byteCount_append`), and a cut at the end of a first part gives this
part back (`Text.takeBytes_append`).
-/

set_option autoImplicit false

namespace ExprCalc

/-- A text is the list of its characters. -/
abbrev Text := List Char

namespace Text

/-- The number of bytes in the UTF-8 form of a text. -/
def byteCount (s : Text) : Nat := s.foldl (fun n c => n + c.utf8Size) 0

/-- The longest part at the start of a text that has at most `n` bytes. -/
def takeBytes : Nat → Text → Text
  | _, [] => []
  | n, c :: s => if c.utf8Size ≤ n then c :: takeBytes (n - c.utf8Size) s else []

/-! ## Byte counts -/

theorem foldl_utf8Size (s : Text) (n : Nat) :
    s.foldl (fun n c => n + c.utf8Size) n = n + byteCount s := by
  unfold byteCount
  induction s generalizing n with
  | nil => rfl
  | cons c s ih =>
      rw [List.foldl_cons, List.foldl_cons, ih (n + c.utf8Size), ih (0 + c.utf8Size)]
      omega

@[simp] theorem byteCount_nil : byteCount [] = 0 := rfl

@[simp] theorem byteCount_cons (c : Char) (s : Text) :
    byteCount (c :: s) = c.utf8Size + byteCount s := by
  conv => lhs; unfold byteCount
  rw [List.foldl_cons, foldl_utf8Size, Nat.zero_add]

@[simp] theorem byteCount_append (s t : Text) :
    byteCount (s ++ t) = byteCount s + byteCount t := by
  induction s with
  | nil => simp
  | cons c s ih => simp [ih, Nat.add_assoc]

/-- Every character takes a byte at least, so only the empty text has none. -/
theorem byteCount_eq_zero_iff (s : Text) : byteCount s = 0 ↔ s = [] := by
  cases s with
  | nil => simp
  | cons c s =>
      have h := c.utf8Size_pos
      simp only [byteCount_cons, reduceCtorEq, iff_false]
      omega

/-- What is left of a text after its first character is shorter. -/
theorem byteCount_lt_cons_append (c : Char) (s t : Text) :
    byteCount t < byteCount (c :: (s ++ t)) := by
  have h := c.utf8Size_pos
  simp only [byteCount_cons, byteCount_append]
  omega

/-! ## Cuts -/

/-- A cut where a first part ends gives this part. -/
@[simp] theorem takeBytes_append (s t : Text) : takeBytes (byteCount s) (s ++ t) = s := by
  induction s with
  | nil =>
      cases t with
      | nil => rfl
      | cons c t =>
          have h := c.utf8Size_pos
          rw [List.nil_append, byteCount_nil, takeBytes, if_neg (by omega)]
  | cons c s ih =>
      rw [List.cons_append, byteCount_cons, takeBytes, if_pos (by omega), Nat.add_sub_cancel_left,
        ih]

end Text

end ExprCalc
