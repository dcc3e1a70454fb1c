import ExprCalc.Proofs.Literal

/-!
# Numerals of any length

A numeral is read to the end of its digits, and its value is the exact number that the digits write
if a word holds this number, however many leading zeros there are. Otherwise the text is read all
the same, and only the value is missing (`numerals_exact`).

The digits are accumulated on exact numbers, and a word is made of every intermediate result. A
machine that multiplies and adds words, and takes a result only if it is the exact one, comes to the
same words at every digit (`wordOfDigits?_eq_accumulate`); so does one that negates words
(`wordOfSign?_minus`). Nothing ever wraps around, and where a result is refused, the number of all
digits is too large as well.
-/

set_option autoImplicit false

namespace ExprCalc

/-! ## The arithmetic of the machine -/

namespace Word

/-- The product of two words as the machine has it, if this is their exact product. -/
def mul? (a b : UInt64) : Option UInt64 :=
  if (a * b).toNat = a.toNat * b.toNat then some (a * b) else none

/-- The sum of two words as the machine has it, if this is their exact sum. -/
def add? (a b : UInt64) : Option UInt64 :=
  if (a + b).toNat = a.toNat + b.toNat then some (a + b) else none

/-- The bits of an unsigned word as a signed one, if this is the same number. -/
def toSigned? (m : UInt64) : Option Int64 :=
  if m.toInt64.toInt = m.toNat then some m.toInt64 else none

/-- The signed word that the machine has for the negative of an unsigned word, if this is the exact
negative. -/
def neg? (m : UInt64) : Option Int64 :=
  if (-m.toInt64).toInt = -(m.toNat : Int) then some (-m.toInt64) else none

/-- A word that holds a number up to a multiple of `2 ^ 64` holds it exactly if any word does. -/
theorem ite_toNat_eq {w : UInt64} {n : Nat} (h : w.toNat = n % 2 ^ 64) :
    (if w.toNat = n then some w else none) = unsigned? n := by
  split
  · next heq => exact (unsigned?_eq_some_iff.2 heq).symm
  · next hne =>
      symm
      rw [unsigned?_eq_none_iff_le]
      omega

theorem ite_toInt_eq {w : Int64} {n : Int} (h : w.toInt = n.bmod (2 ^ 64)) :
    (if w.toInt = n then some w else none) = signed? n := by
  split
  · next heq => exact (signed?_eq_some_iff.2 heq).symm
  · next hne =>
      symm
      rw [signed?_eq_none_iff_lt_or_lt]
      -- In the range of the words there is no multiple to leave out.
      have hbmod : -2 ^ 63 ≤ n → n < 2 ^ 63 → n.bmod (2 ^ 64) = n := by
        intro hlow hhigh
        exact Int.bmod_eq_of_le (by omega) (by omega)
      omega

theorem mul?_eq (a b : UInt64) : mul? a b = unsigned? (a.toNat * b.toNat) :=
  ite_toNat_eq (UInt64.toNat_mul a b)

theorem add?_eq (a b : UInt64) : add? a b = unsigned? (a.toNat + b.toNat) :=
  ite_toNat_eq (UInt64.toNat_add a b)

theorem toInt_toInt64 (m : UInt64) : m.toInt64.toInt = (m.toNat : Int).bmod (2 ^ 64) :=
  BitVec.toInt_eq_toNat_bmod m.toBitVec

theorem toSigned?_eq (m : UInt64) : toSigned? m = signed? m.toNat :=
  ite_toInt_eq (toInt_toInt64 m)

theorem neg?_eq (m : UInt64) : neg? m = signed? (-(m.toNat : Int)) := by
  apply ite_toInt_eq
  rw [Int64.toInt_neg, toInt_toInt64, Int.bmod_neg_bmod]

/-- One more digit behind the digits whose number a word holds: ten times the word, and then the
digit is added. -/
def accumulate? (value : UInt64) (d : Nat) : Option UInt64 :=
  (mul? value 10).bind fun tens => add? tens (UInt64.ofNat d)

theorem accumulate?_eq (value : UInt64) {d : Nat} (hd : d < 10) :
    accumulate? value d = unsigned? (value.toNat * 10 + d) := by
  have hten : (10 : UInt64).toNat = 10 := rfl
  have hdigit : (UInt64.ofNat d).toNat = d := by
    rw [UInt64.toNat_ofNat']
    omega
  rw [accumulate?, mul?_eq, hten]
  cases hmul : unsigned? (value.toNat * 10) with
  | none =>
      -- The digit does not make the number smaller.
      rw [unsigned?_eq_none_iff_le] at hmul
      symm
      show unsigned? _ = none
      rw [unsigned?_eq_none_iff_le]
      omega
  | some tens =>
      rw [unsigned?_eq_some_iff] at hmul
      show add? tens (UInt64.ofNat d) = _
      rw [add?_eq, hmul, hdigit]

end Word

/-! ## Accumulation -/

/-- At every digit the machine comes to the same word. -/
theorem wordOfDigits?_eq_accumulate {ds : List Nat} (hds : ∀ d ∈ ds, d < 10) :
    wordOfDigits? ds = ds.foldlM Word.accumulate? 0 := by
  unfold wordOfDigits?
  generalize (0 : UInt64) = value
  induction ds generalizing value with
  | nil => rfl
  | cons d ds ih =>
      obtain ⟨hd, hds⟩ := List.forall_mem_cons.1 hds
      rw [List.foldlM_cons, List.foldlM_cons, Word.accumulate?_eq value hd]
      cases Word.unsigned? (value.toNat * 10 + d) with
      | none => rfl
      | some next => exact ih hds next

/-- The word of a run of digits comes from the words of all its starts, and each of these is the
exact number of its digits. -/
theorem exists_wordOfDigits?_of_append {ds es : List Nat} {w : UInt64}
    (h : wordOfDigits? (ds ++ es) = some w) :
    ∃ v, wordOfDigits? ds = some v ∧ v.toNat = decimal ds := by
  rw [wordOfDigits?, List.foldlM_append] at h
  obtain ⟨v, hv, -⟩ := Option.bind_eq_some_iff.1 h
  refine ⟨v, hv, ?_⟩
  rw [← Word.unsigned?_eq_some_iff, ← wordOfDigits?_eq]
  exact hv

theorem wordOfSign?_minus (m : UInt64) : wordOfSign? '-' m = Word.neg? m := by
  rw [Word.neg?_eq, wordOfSign?, if_pos rfl]

theorem wordOfSign?_plus (m : UInt64) : wordOfSign? '+' m = Word.toSigned? m := by
  rw [Word.toSigned?_eq, wordOfSign?, if_neg (by decide)]

/-! ## Numerals -/

namespace Parser

/-- A run of digits is read to its end, if an unsigned word holds its number. -/
theorem natural_digitText_append (ds : List (Fin 10)) {r : Text} (hr : NoDigit r) :
    if ds ≠ [] ∧ decimal (ds.map Fin.val) ≤ 2 ^ 64 - 1 then
      ∃ w : UInt64, w.toNat = decimal (ds.map Fin.val) ∧ natural (digitText ds ++ r) = [⟨w, r⟩]
    else natural (digitText ds ++ r) = [] := by
  by_cases hds : ds = []
  · rw [if_neg (fun h => h.1 hds), hds]
    exact filterMap_of_eq_nil (unsignedNumeral_eq_nil hr) id
  · have hread := filterMap_of_eq_singleton (unsignedNumeral_append hds hr) id
    rw [wordOfDigits?_eq] at hread
    change natural (digitText ds ++ r) = _ at hread
    cases hw : Word.unsigned? (decimal (ds.map Fin.val)) with
    | none =>
        rw [hw] at hread
        rw [Word.unsigned?_eq_none_iff_le] at hw
        rw [if_neg (by omega)]
        exact hread
    | some w =>
        rw [hw] at hread
        rw [Word.unsigned?_eq_some_iff] at hw
        have hlt := w.toNat_lt
        rw [if_pos ⟨hds, by omega⟩]
        exact ⟨w, hw, hread⟩

/-- A literal is read to its end, and has a value if a signed word holds its number. -/
theorem integer_literal_append (n : Literal) {r : Text} (hr : NoDigit r) :
    if -2 ^ 63 ≤ n.number ∧ n.number ≤ 2 ^ 63 - 1 then
      ∃ v : Int64, v.toInt = n.number ∧ integer (n.text ++ r) = [⟨v, r⟩] ∧
        signedNumeral (n.text ++ r) = [⟨some v, r⟩]
    else integer (n.text ++ r) = [] ∧ signedNumeral (n.text ++ r) = [⟨none, r⟩] := by
  have hnumeral := signedNumeral_literal_append n hr
  have hread := filterMap_of_eq_singleton hnumeral id
  change integer (n.text ++ r) = _ at hread
  rw [n.word?_eq] at hnumeral hread
  cases hv : Word.signed? n.number with
  | none =>
      rw [hv] at hnumeral hread
      rw [Word.signed?_eq_none_iff_lt_or_lt] at hv
      rw [if_neg (by omega)]
      exact ⟨hread, hnumeral⟩
  | some v =>
      rw [hv] at hnumeral hread
      rw [if_pos (Word.bounds_of_signed? hv)]
      exact ⟨v, Word.signed?_eq_some_iff.1 hv, hread, hnumeral⟩

/-- Without a literal at the start of the text there is nothing to read. -/
theorem signedNumeral_eq_nil {s : Text}
    (h : ∀ (n : Literal) (r : Text), NoDigit r → n.text ++ r ≠ s) : signedNumeral s = [] := by
  rw [List.eq_nil_iff_forall_not_mem]
  intro r hr
  obtain ⟨n, htext, hno⟩ := exists_literal_of_mem hr
  exact h n r.rest hno htext

end Parser

open ExprCalc.Parser

/-- Numerals are read exactly. A run of digits up to where no digit follows has its exact number as
the one value, if an unsigned word holds it, and none otherwise; every text starts with such a run,
if only the empty one. A literal up to where no digit follows has its exact number, if a signed word
holds it; and if not, `signedNumeral` reads it without a value. Other texts are no literals. The
words of the machine are the same at every digit and sign, and each intermediate one is the exact
number of the digits so far. -/
theorem numerals_exact :
    (∀ (ds : List (Fin 10)) (r : Text), NoDigit r →
      if ds ≠ [] ∧ decimal (ds.map Fin.val) ≤ 2 ^ 64 - 1 then
        ∃ w : UInt64, w.toNat = decimal (ds.map Fin.val) ∧ natural (digitText ds ++ r) = [⟨w, r⟩]
      else natural (digitText ds ++ r) = []) ∧
    (∀ s : Text, ∃ (ds : List (Fin 10)) (r : Text), NoDigit r ∧ s = digitText ds ++ r) ∧
    (∀ (n : Literal) (r : Text), NoDigit r →
      if -2 ^ 63 ≤ n.number ∧ n.number ≤ 2 ^ 63 - 1 then
        ∃ v : Int64, v.toInt = n.number ∧ integer (n.text ++ r) = [⟨v, r⟩] ∧
          signedNumeral (n.text ++ r) = [⟨some v, r⟩]
      else integer (n.text ++ r) = [] ∧ signedNumeral (n.text ++ r) = [⟨none, r⟩]) ∧
    (∀ s : Text, (∀ (n : Literal) (r : Text), NoDigit r → n.text ++ r ≠ s) →
      integer s = [] ∧ signedNumeral s = []) ∧
    (∀ ds : List Nat, (∀ d ∈ ds, d < 10) →
      wordOfDigits? ds = ds.foldlM Word.accumulate? 0 ∧
        ∀ before after w, ds = before ++ after → wordOfDigits? ds = some w →
          ∃ v, wordOfDigits? before = some v ∧ v.toNat = decimal before) ∧
    ∀ m : UInt64, wordOfSign? '-' m = Word.neg? m ∧ wordOfSign? '+' m = Word.toSigned? m := by
  refine ⟨?_, ?_, ?_, ?_, ?_, ?_⟩
  · intro ds r hr
    exact natural_digitText_append ds hr
  · intro s
    obtain ⟨ds, htext, -, hno⟩ := exists_digitText_of_greedy s
    exact ⟨ds, _, hno, htext⟩
  · intro n r hr
    exact integer_literal_append n hr
  · intro s hs
    have hnil := signedNumeral_eq_nil hs
    exact ⟨filterMap_of_eq_nil hnil id, hnil⟩
  · intro ds hds
    refine ⟨wordOfDigits?_eq_accumulate hds, ?_⟩
    rintro before after w rfl hw
    exact exists_wordOfDigits?_of_append hw
  · intro m
    exact ⟨wordOfSign?_minus m, wordOfSign?_plus m⟩

/-- The greatest unsigned word behind more zeros than such a word has digits. -/
example : natural "000000000000000000000018446744073709551615.".toList =
    [⟨18446744073709551615, ['.']⟩] := by
  decide +kernel

/-- One below the least signed word, read to its end and without a value. -/
example : signedNumeral "-9223372036854775809+1".toList = [⟨none, "+1".toList⟩] := by
  decide +kernel

end ExprCalc
