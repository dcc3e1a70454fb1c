/-!
# Machine words

The values of the calculator are signed 64-bit words, and its literals are read through unsigned
ones. All arithmetic is done on exact integers, and only its result is put into a word.
`Word.unsigned?` and `Word.signed?` are that last step; they fail exactly where no word holds the
number (`Word.unsigned?_eq_some_iff`, `Word.signed?_eq_some_iff`), so nothing ever wraps around.
-/

set_option autoImplicit false

namespace ExprCalc

namespace Word

/-- The unsigned word that holds `n`, if there is one. -/
def unsigned? (n : Nat) : Option UInt64 :=
  if h : n < UInt64.size then some (UInt64.ofNatLT n h) else none

/-- The signed word that holds `n`, if there is one. -/
def signed? (n : Int) : Option Int64 :=
  if h : Int64.minValue.toInt ≤ n ∧ n ≤ Int64.maxValue.toInt then
    some (Int64.ofIntLE n h.1 h.2)
  else none

theorem unsigned?_eq_some_iff {n : Nat} {w : UInt64} : unsigned? n = some w ↔ w.toNat = n := by
  unfold unsigned?
  split
  · next h =>
      rw [Option.some.injEq]
      constructor
      · rintro rfl
        exact UInt64.toNat_ofNatLT
      · rintro rfl
        exact UInt64.ofNatLT_toNat w
  · next h =>
      simp only [reduceCtorEq, false_iff]
      rintro rfl
      exact h w.toNat_lt_size

theorem unsigned?_eq_none_iff {n : Nat} : unsigned? n = none ↔ UInt64.size ≤ n := by
  unfold unsigned?
  split
  · next h => simpa using h
  · next h => simpa using h

theorem signed?_eq_some_iff {n : Int} {w : Int64} : signed? n = some w ↔ w.toInt = n := by
  unfold signed?
  split
  · next h =>
      rw [Option.some.injEq]
      constructor
      · rintro rfl
        exact Int64.toInt_ofIntLE
      · rintro rfl
        exact Int64.ofIntLE_toInt w
  · next h =>
      simp only [reduceCtorEq, false_iff]
      rintro rfl
      exact h ⟨Int64.minValue_le_toInt w, Int64.toInt_le w⟩

theorem signed?_eq_none_iff {n : Int} :
    signed? n = none ↔ n < Int64.minValue.toInt ∨ Int64.maxValue.toInt < n := by
  unfold signed?
  split
  · next h =>
      simp only [reduceCtorEq, false_iff]
      omega
  · next h =>
      simp only [true_iff]
      omega

end Word

end ExprCalc
