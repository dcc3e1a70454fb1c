import ExprCalc.Proofs.Recognition

/-!
# The exact value of a derivation

`Tree.exact` evaluates a derivation tree over the integers: a literal is its signed number, a chain
folds its operands from left to right, and there is no value where a number or a result lies
outside the signed 64-bit range or a divisor is zero. It knows neither words nor texts.

The words that the parsers compute are this value (`Tree.value_toInt`), so a level without failed
arithmetic answers with the exact value of the longest derivation, and it has no reading at all
where this value is missing (`parser_exact_value`): it never falls back on a shorter start of the
text whose arithmetic succeeds.
-/

set_option autoImplicit false

namespace ExprCalc

/-- The integer itself, if it lies in the signed 64-bit range. -/
def within? (n : Int) : Option Int := if -2 ^ 63 ≤ n ∧ n ≤ 2 ^ 63 - 1 then some n else none

/-- The exact result of an operation on integers, if there is one in range. Division rounds toward
zero. -/
def Operator.exact : Operator → Int → Int → Option Int
  | .add, l, r => within? (l + r)
  | .subtract, l, r => within? (l - r)
  | .multiply, l, r => within? (l * r)
  | .divide, l, r => if r = 0 then none else within? (l.tdiv r)

theorem signed?_map_toInt (n : Int) : (Word.signed? n).map Int64.toInt = within? n := by
  simp only [within?]
  cases hw : Word.signed? n with
  | none =>
      rw [Word.signed?_eq_none_iff_lt_or_lt] at hw
      rw [if_neg (by omega)]
      rfl
  | some w =>
      rw [if_pos (Word.bounds_of_signed? hw), Option.map_some, Word.signed?_eq_some_iff.1 hw]

/-- An operation on words has the exact result. -/
theorem Operator.apply_map_toInt (op : Operator) (l r : Int64) :
    (op.apply l r).map Int64.toInt = op.exact l.toInt r.toInt := by
  cases op with
  | add => exact signed?_map_toInt _
  | subtract => exact signed?_map_toInt _
  | multiply => exact signed?_map_toInt _
  | divide =>
      have hzero : r.toInt = 0 ↔ r = 0 := by
        rw [← Int64.toInt_zero, Int64.toInt_inj]
      show (if r = 0 then none else Word.signed? (l.toInt.tdiv r.toInt)).map Int64.toInt =
        if r.toInt = 0 then none else within? (l.toInt.tdiv r.toInt)
      by_cases hr : r = 0
      · rw [if_pos hr, if_pos (hzero.2 hr)]
        rfl
      · rw [if_neg hr, if_neg (mt hzero.1 hr)]
        exact signed?_map_toInt _

namespace Arithmetic

open ExprCalc.Parser

mutual
/-- The exact value of a tree, if its arithmetic succeeds. -/
def Tree.exact : {l : Level} → Tree l → Option Int
  | _, .literal n => within? n.number
  | _, .parens inner => inner.exact
  | _, .chain _ first rest => rest.exactFrom first.exact
/-- The exact value of a chain whose operands before these steps have the value `left`. -/
def Steps.exactFrom : {l : Level} → Steps l → Option Int → Option Int
  | _, .nil, left => left
  | _, .cons op _ operand rest, left =>
      rest.exactFrom (left.bind fun a => operand.exact.bind fun b => op.exact a b)
end

/-! ## Words and exact values -/

theorem foldChain_nil (first : Option Int64) : foldChain first [] = first := by
  cases first with
  | none => rfl
  | some v => rfl

/-- The first step of a chain joins its operand to the one before it. -/
theorem foldChain_cons (first operand : Option Int64) (op : Operator)
    (rest : List (Operator × Option Int64)) :
    foldChain first ((op, operand) :: rest) =
      foldChain (first.bind fun a => operand.bind fun b => op.apply a b) rest := by
  cases first with
  | none => rfl
  | some a => rfl

theorem bind_apply_map_toInt (op : Operator) (left operand : Option Int64) :
    (left.bind fun a => operand.bind fun b => op.apply a b).map Int64.toInt =
      (left.map Int64.toInt).bind fun a =>
        (operand.map Int64.toInt).bind fun b => op.exact a b := by
  cases left with
  | none => rfl
  | some a =>
      cases operand with
      | none => rfl
      | some b => exact op.apply_map_toInt a b

mutual
/-- The word that the parsers give to a tree is its exact value. -/
theorem Tree.value_toInt : ∀ {l : Level} (t : Tree l), t.value.map Int64.toInt = t.exact
  | _, .literal n => by
      show n.word?.map Int64.toInt = within? n.number
      rw [n.word?_eq, signed?_map_toInt]
  | _, .parens inner => inner.value_toInt
  | _, .chain _ first rest => by
      show (foldChain first.value rest.values).map Int64.toInt = rest.exactFrom first.exact
      rw [rest.foldChain_toInt, first.value_toInt]
/-- The word that the parsers give to a chain is its exact value. -/
theorem Steps.foldChain_toInt : ∀ {l : Level} (rest : Steps l) (left : Option Int64),
    (foldChain left rest.values).map Int64.toInt = rest.exactFrom (left.map Int64.toInt)
  | _, .nil, left => by
      show (foldChain left []).map Int64.toInt = left.map Int64.toInt
      rw [foldChain_nil]
  | _, .cons op _ operand rest, left => by
      show (foldChain left ((op, operand.value) :: rest.values)).map Int64.toInt = rest.exactFrom _
      rw [foldChain_cons, rest.foldChain_toInt, bind_apply_map_toInt, operand.value_toInt]
end

/-! ## The levels without failed arithmetic -/

/-- The parser of a level answers with the exact value of the longest derivation at the start of
the text, and with what this derivation leaves of the text. It has no reading where the derivation
has no value, or where there is none. So no reading ever stops before the end of a derivable start
of the text. -/
theorem parser_exact_value (l : Level) (s : Text) :
    ((∀ t : Tree l, ¬ t.text <+: s) ∧ l.parser s = [] ∨
      ∃ (t : Tree l) (rest : Text), t.text ++ rest = s ∧ t.IsLongest s ∧
        (∀ t' : Tree l, t'.text = t.text → t' = t) ∧
          ((∃ v : Int64, t.exact = some v.toInt ∧ l.parser s = [⟨v, rest⟩]) ∨
            (t.exact = none ∧ l.parser s = []))) ∧
      ∀ r ∈ l.parser s, ∀ t : Tree l, t.text <+: s →
        t.text.length + r.rest.length ≤ s.length := by
  by_cases h : ∃ t : Tree l, t.text <+: s
  · obtain ⟨t, ht⟩ := exists_isLongest h
    obtain ⟨rest, htext, hread⟩ := ht.checked_eq
    have hparser := parser_of_checked hread
    have hexact := t.value_toInt
    constructor
    · refine Or.inr ⟨t, rest, htext, ht, fun t' => Tree.text_injective, ?_⟩
      cases hv : t.value with
      | none =>
          rw [hv] at hparser hexact
          exact Or.inr ⟨hexact.symm, hparser⟩
      | some v =>
          rw [hv] at hparser hexact
          exact Or.inl ⟨v, hexact.symm, hparser⟩
    · intro r hr t' ht'
      rw [hparser] at hr
      obtain ⟨w, -, rfl⟩ := List.mem_map.1 hr
      have hmax := ht.2 t' ht'
      have hlen : (t.text ++ rest).length = s.length := congrArg List.length htext
      rw [List.length_append] at hlen
      show t'.text.length + rest.length ≤ s.length
      omega
  · have hnone : ∀ t : Tree l, ¬ t.text <+: s := fun t ht => h ⟨t, ht⟩
    have hnil : l.parser s = [] := filterMap_of_eq_nil (checked_eq_nil hnone) id
    refine ⟨Or.inl ⟨hnone, hnil⟩, fun r _ t ht => absurd ht (hnone t)⟩

end Arithmetic

end ExprCalc
