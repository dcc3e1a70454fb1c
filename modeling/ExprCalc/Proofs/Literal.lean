import ExprCalc.Numeral
import Mathlib.Data.Nat.Digits.Defs

/-!
# Literals

A literal is an optional sign and a run of decimal digits, here as a piece of data with its text
and its exact number. `signedNumeral` reads such texts and no others (`exists_literal_of_mem`), it
reads a literal to the end of its digits (`signedNumeral_literal_append`), and the text determines
the literal (`Literal.text_append_inj`). The word that it reads is the exact number if one holds it
(`Literal.word?_eq`): the digits are accumulated in unsigned words, and an accumulation that fails
once stands for a number too large for a signed word, whatever digits follow.
-/

set_option autoImplicit false

namespace ExprCalc

/-- A sign in front of digits. -/
inductive Sign where
  | plus
  | minus
  deriving DecidableEq

/-- The character that writes a sign. -/
def Sign.symbol : Sign → Char
  | plus => '+'
  | minus => '-'

/-- The character that writes a decimal digit. -/
def digitSymbol (d : Fin 10) : Char := Nat.digitChar d

/-- The characters that write a run of digits. -/
def digitText (ds : List (Fin 10)) : Text := ds.map digitSymbol

theorem digitText_cons (d : Fin 10) (ds : List (Fin 10)) :
    digitText (d :: ds) = digitSymbol d :: digitText ds :=
  rfl

/-- The number that a run of decimal digits writes, most significant digit first. -/
def decimal (ds : List Nat) : Nat := Nat.ofDigits 10 ds.reverse

/-- An optional sign and digits. -/
structure Literal where
  sign : Option Sign
  digits : List (Fin 10)
  digits_ne_nil : digits ≠ []

namespace Literal

/-- The written form of a literal. -/
def text (n : Literal) : Text := (n.sign.map Sign.symbol).toList ++ digitText n.digits

/-- The exact number that a literal stands for. -/
def number (n : Literal) : Int :=
  if n.sign = some .minus then -(decimal (n.digits.map Fin.val) : Int)
  else decimal (n.digits.map Fin.val)

/-- The signed word that a literal is read as, if there is one. -/
def word? (n : Literal) : Option Int64 :=
  (wordOfDigits? (n.digits.map Fin.val)).bind (wordOfSign? (n.sign.elim '+' Sign.symbol))

end Literal

/-- The text does not start with a digit. -/
def NoDigit (s : Text) : Prop := ∀ (d : Fin 10) (t : Text), s ≠ digitSymbol d :: t

/-! ## Digits and their symbols -/

theorem digitValue?_digitSymbol : ∀ d : Fin 10, digitValue? 10 (digitSymbol d) = some d.val := by
  decide

theorem digitSymbol_eq_ofNat : ∀ d : Fin 10, digitSymbol d = Char.ofNat (48 + d.val) := by decide

theorem digitSymbol_ne_paren : ∀ d : Fin 10, digitSymbol d ≠ '(' := by decide

theorem digitSymbol_notMem_signs : ∀ d : Fin 10, digitSymbol d ∉ ['+', '-'] := by decide

theorem digitSymbol_injective : Function.Injective digitSymbol := by
  intro d e h
  have hv := digitValue?_digitSymbol d
  rw [h, digitValue?_digitSymbol e, Option.some.injEq] at hv
  exact Fin.ext hv.symm

/-- A character with a value below ten is the symbol of a digit. -/
theorem exists_digitSymbol_of_digitValue? {c : Char} {n : Nat} (h : digitValue? 10 c = some n) :
    ∃ d : Fin 10, c = digitSymbol d ∧ d.val = n := by
  have hle : ∀ a b : Char, a ≤ b ↔ a.toNat ≤ b.toNat := fun _ _ => Iff.rfl
  unfold digitValue? at h
  simp only [hle] at h
  split at h
  · next hc =>
      obtain ⟨hn, hlt⟩ := Option.filter_eq_some_iff.1 h
      rw [Option.some.injEq] at hn
      have hlt10 : n < 10 := of_decide_eq_true hlt
      have hcn : c.toNat = 48 + n := by
        have h0 : ('0' : Char).toNat = 48 := rfl
        omega
      refine ⟨⟨n, hlt10⟩, ?_, rfl⟩
      rw [digitSymbol_eq_ofNat, ← hcn, Char.ofNat_toNat]
  · -- Letters have values from ten on.
    have hten : ∀ m, 10 ≤ m → (some m).filter (· < 10) = (none : Option Nat) := by
      intro m hm
      rw [Option.filter_some, if_neg]
      simpa using hm
    split at h
    · rw [hten _ (by omega)] at h
      cases h
    · split at h
      · rw [hten _ (by omega)] at h
        cases h
      · cases h

theorem Sign.symbol_injective : Function.Injective Sign.symbol := by
  intro sign sign' h
  cases sign <;> cases sign'
  · rfl
  · cases h
  · cases h
  · rfl

theorem noDigit_nil : NoDigit [] := by
  intro d t h
  cases h

theorem noDigit_cons {c : Char} (hc : ∀ d : Fin 10, c ≠ digitSymbol d) (s : Text) :
    NoDigit (c :: s) := by
  intro d t h
  exact hc d (List.cons.inj h).1

/-- Two runs of digits with the same text up to where no digit follows are the same run. -/
theorem digitText_append_inj {ds es : List (Fin 10)} {r r' : Text} (hr : NoDigit r)
    (hr' : NoDigit r') (h : digitText ds ++ r = digitText es ++ r') : ds = es ∧ r = r' := by
  induction ds generalizing es with
  | nil =>
      cases es with
      | nil => exact ⟨rfl, h⟩
      | cons e es =>
          -- The longer run puts a digit where the other one has ended.
          exact absurd h (hr e _)
  | cons d ds ih =>
      cases es with
      | nil => exact absurd h.symm (hr' d _)
      | cons e es =>
          obtain ⟨hde, htail⟩ := List.cons.inj h
          obtain ⟨rfl, rfl⟩ := ih htail
          exact ⟨congrArg (· :: ds) (digitSymbol_injective hde), rfl⟩

/-! ## Runs of digits -/

namespace Parser

theorem digit_cons (d : Fin 10) (s : Text) : digit (digitSymbol d :: s) = [⟨d.val, s⟩] := by
  unfold digit
  rw [filterMap_of_eq_singleton (any_cons _ s), digitValue?_digitSymbol]
  rfl

theorem exists_of_mem_digit {s : Text} {r : Reading Nat} (h : r ∈ digit s) :
    ∃ d : Fin 10, s = digitSymbol d :: r.rest ∧ r.value = d.val := by
  obtain ⟨a, ha, hv, hr⟩ := mem_filterMap.1 h
  obtain ⟨d, hd, hn⟩ := exists_digitSymbol_of_digitValue? hv
  refine ⟨d, ?_, hn.symm⟩
  rw [eq_cons_of_mem_any ha, hd, hr]

theorem digit_eq_nil {s : Text} (h : NoDigit s) : digit s = [] := by
  rw [List.eq_nil_iff_forall_not_mem]
  intro r hr
  obtain ⟨d, hd, -⟩ := exists_of_mem_digit hr
  exact h d r.rest hd

/-- The repetition of `digit` reads a run of digits to its end. -/
theorem greedy_digit_append (ds : List (Fin 10)) {r : Text} (hr : NoDigit r) :
    greedy digit (digitText ds ++ r) = ⟨ds.map Fin.val, r⟩ := by
  induction ds with
  | nil => exact greedy_of_eq_nil (digit_eq_nil hr)
  | cons d ds ih =>
      have hhead : (digit (digitText (d :: ds) ++ r)).head? = some ⟨d.val, digitText ds ++ r⟩ := by
        show (digit (digitSymbol d :: (digitText ds ++ r))).head? = _
        rw [digit_cons]
        rfl
      have hlt : (digitText ds ++ r).byteCount < (digitText (d :: ds) ++ r).byteCount :=
        Text.byteCount_lt_cons_append (digitSymbol d) [] (digitText ds ++ r)
      rw [greedy_of_lt hhead hlt, ih]
      rfl

/-- What the repetition of `digit` reads is a run of digits, and no digit is left after it. -/
theorem exists_digitText_of_greedy (s : Text) :
    ∃ ds : List (Fin 10), s = digitText ds ++ (greedy digit s).rest ∧
      (greedy digit s).value = ds.map Fin.val ∧ NoDigit (greedy digit s).rest := by
  fun_induction Parser.greedy digit s with
  | case1 s hs =>
      refine ⟨[], rfl, rfl, ?_⟩
      rintro d t rfl
      rw [digit_cons] at hs
      cases hs
  | case2 s r hs hlt tail ih =>
      obtain ⟨ds, htext, hvalue, hno⟩ := ih
      obtain ⟨d, hd, hv⟩ := exists_of_mem_digit (List.mem_of_head? hs)
      refine ⟨d :: ds, ?_, ?_, hno⟩
      · rw [hd]
        exact congrArg (digitSymbol d :: ·) htext
      · show r.value :: tail.value = d.val :: ds.map Fin.val
        rw [hv, hvalue]
  | case3 s r hs hlt =>
      -- A reading of a digit is always shorter than the text.
      obtain ⟨d, hd, -⟩ := exists_of_mem_digit (List.mem_of_head? hs)
      rw [hd] at hlt
      exact absurd (Text.byteCount_lt_cons_append (digitSymbol d) [] r.rest) hlt

theorem unsignedNumeral_append {ds : List (Fin 10)} (hds : ds ≠ []) {r : Text} (hr : NoDigit r) :
    unsignedNumeral (digitText ds ++ r) = [⟨wordOfDigits? (ds.map Fin.val), r⟩] := by
  have hread : many1 digit (digitText ds ++ r) = [⟨ds.map Fin.val, r⟩] := by
    rw [many1_eq, greedy_digit_append ds hr, if_neg]
    simpa using hds
  exact map_of_eq_singleton hread wordOfDigits?

theorem exists_of_mem_unsignedNumeral {s : Text} {r : Reading (Option UInt64)}
    (h : r ∈ unsignedNumeral s) :
    ∃ ds : List (Fin 10), ds ≠ [] ∧ s = digitText ds ++ r.rest ∧ NoDigit r.rest := by
  obtain ⟨a, ha, rfl⟩ := mem_map.1 h
  rw [many1_eq] at ha
  split at ha
  · cases ha
  · next hne =>
      obtain rfl := List.mem_singleton.1 ha
      obtain ⟨ds, htext, hvalue, hno⟩ := exists_digitText_of_greedy s
      refine ⟨ds, ?_, htext, hno⟩
      rintro rfl
      exact hne hvalue

theorem unsignedNumeral_eq_nil {s : Text} (h : NoDigit s) : unsignedNumeral s = [] := by
  rw [List.eq_nil_iff_forall_not_mem]
  intro r hr
  obtain ⟨ds, hds, htext, -⟩ := exists_of_mem_unsignedNumeral hr
  cases ds with
  | nil => exact hds rfl
  | cons d ds => exact h d _ htext

/-! ## Literals -/

theorem oneOf_signs (sign : Sign) (s : Text) :
    oneOf ['+', '-'] (sign.symbol :: s) = [⟨sign.symbol, s⟩] := by
  cases sign with
  | plus => rfl
  | minus => rfl

theorem oneOf_signs_digitText {ds : List (Fin 10)} (hds : ds ≠ []) (r : Text) :
    oneOf ['+', '-'] (digitText ds ++ r) = [] := by
  cases ds with
  | nil => exact absurd rfl hds
  | cons d ds =>
      show oneOf ['+', '-'] (digitSymbol d :: (digitText ds ++ r)) = []
      rw [oneOf_cons, if_neg (digitSymbol_notMem_signs d)]

/-- A literal is read to the end of its digits. -/
theorem signedNumeral_literal_append (n : Literal) {r : Text} (hr : NoDigit r) :
    signedNumeral (n.text ++ r) = [⟨n.word?, r⟩] := by
  obtain ⟨sign, ds, hds⟩ := n
  have hnumeral := unsignedNumeral_append hds hr
  cases sign with
  | none =>
      have htext : (Literal.mk none ds hds).text ++ r = digitText ds ++ r := rfl
      -- Without a sign the first way to read the text fails at its first character.
      have hnone := andThen_of_eq_nil (oneOf_signs_digitText hds r) unsignedNumeral
      rw [htext, signedNumeral, orElse_of_eq_nil (map_of_eq_nil hnone _)]
      exact map_of_eq_singleton hnumeral _
  | some sign =>
      have htext : (Literal.mk (some sign) ds hds).text ++ r =
          sign.symbol :: (digitText ds ++ r) := rfl
      have hread := andThen_of_eq_singleton (oneOf_signs sign (digitText ds ++ r)) hnumeral
      rw [htext]
      exact orElse_of_eq_singleton (map_of_eq_singleton hread _)

/-- What `signedNumeral` reads is a literal, and no digit is left after it. -/
theorem exists_literal_of_mem {s : Text} {r : Reading (Option Int64)} (h : r ∈ signedNumeral s) :
    ∃ n : Literal, n.text ++ r.rest = s ∧ NoDigit r.rest := by
  rcases mem_of_mem_orElse h with h | h
  · -- A sign, and digits after it.
    obtain ⟨a, ha, rfl⟩ := mem_map.1 h
    obtain ⟨b, hb, c, hc, rfl⟩ := mem_andThen.1 ha
    obtain ⟨hset, hcons⟩ := eq_cons_of_mem_oneOf hb
    obtain ⟨ds, hds, htext, hno⟩ := exists_of_mem_unsignedNumeral hc
    have hsign : ∃ sign : Sign, b.value = sign.symbol := by
      have hval : b.value = '+' ∨ b.value = '-' := by simpa using hset
      rcases hval with hval | hval
      · exact ⟨.plus, hval⟩
      · exact ⟨.minus, hval⟩
    obtain ⟨sign, hsign⟩ := hsign
    refine ⟨⟨some sign, ds, hds⟩, ?_, hno⟩
    rw [hcons, htext, hsign]
    rfl
  · -- Digits only.
    obtain ⟨a, ha, rfl⟩ := mem_map.1 h
    obtain ⟨ds, hds, htext, hno⟩ := exists_of_mem_unsignedNumeral ha
    exact ⟨⟨none, ds, hds⟩, htext.symm, hno⟩

/-- No literal starts with a parenthesis. -/
theorem signedNumeral_paren (s : Text) : signedNumeral ('(' :: s) = [] := by
  have hno : NoDigit ('(' :: s) := noDigit_cons (fun d => (digitSymbol_ne_paren d).symm) s
  rw [signedNumeral, orElse_of_eq_nil rfl]
  exact map_of_eq_nil (unsignedNumeral_eq_nil hno) _

end Parser

namespace Literal

/-- The text of a literal up to where no digit follows determines the literal. -/
theorem text_append_inj {n m : Literal} {r r' : Text} (hr : NoDigit r) (hr' : NoDigit r')
    (h : n.text ++ r = m.text ++ r') : n = m ∧ r = r' := by
  obtain ⟨sign, ds, hds⟩ := n
  obtain ⟨sign', es, hes⟩ := m
  -- Digits do not start with a sign, so either both texts have one or neither has.
  have hstart : ∀ (ds : List (Fin 10)) (hds : ds ≠ []) (sign : Sign) (r r' : Text),
      digitText ds ++ r ≠ sign.symbol :: r' := by
    intro ds hds sign r r' heq
    have hsign := Parser.oneOf_signs sign r'
    rw [← heq, Parser.oneOf_signs_digitText hds] at hsign
    cases hsign
  cases sign with
  | none =>
      cases sign' with
      | none =>
          obtain ⟨rfl, rfl⟩ := digitText_append_inj hr hr' h
          exact ⟨rfl, rfl⟩
      | some sign' => exact absurd h (hstart ds hds sign' r _)
  | some sign =>
      cases sign' with
      | none => exact absurd h.symm (hstart es hes sign r' _)
      | some sign' =>
          obtain ⟨hhead, htail⟩ := List.cons.inj h
          obtain ⟨rfl, rfl⟩ := digitText_append_inj hr hr' htail
          obtain rfl := Sign.symbol_injective hhead
          exact ⟨rfl, rfl⟩

/-- The text of a literal does not start with a parenthesis. -/
theorem text_append_ne_paren (n : Literal) (r s : Text) : n.text ++ r ≠ '(' :: s := by
  obtain ⟨sign, ds, hds⟩ := n
  intro h
  cases sign with
  | none =>
      cases ds with
      | nil => exact hds rfl
      | cons d ds => exact digitSymbol_ne_paren d (List.cons.inj h).1
  | some sign =>
      cases sign with
      | plus => cases h
      | minus => cases h

/-- What holds of signs and digits holds of all characters in the text of a literal. -/
theorem forall_mem_text {P : Char → Prop} (hsign : ∀ sign : Sign, P sign.symbol)
    (hdigit : ∀ d : Fin 10, P (digitSymbol d)) (n : Literal) : ∀ c ∈ n.text, P c := by
  intro c hc
  rcases List.mem_append.1 hc with hc | hc
  · rw [Option.mem_toList, Option.map_eq_some_iff] at hc
    obtain ⟨sign, -, rfl⟩ := hc
    exact hsign sign
  · obtain ⟨d, -, rfl⟩ := List.mem_map.1 hc
    exact hdigit d

/-- A literal with one more digit at its end. -/
def snoc (n : Literal) (d : Fin 10) : Literal where
  sign := n.sign
  digits := n.digits ++ [d]
  digits_ne_nil := List.append_ne_nil_of_right_ne_nil _ (List.cons_ne_nil d [])

theorem text_snoc (n : Literal) (d : Fin 10) : (n.snoc d).text = n.text ++ [digitSymbol d] := by
  simp [text, digitText, snoc]

end Literal

/-! ## The range of words -/

namespace Word

theorem unsigned?_eq_none_iff_le {n : Nat} : unsigned? n = none ↔ 2 ^ 64 ≤ n :=
  unsigned?_eq_none_iff

theorem signed?_eq_none_iff_lt_or_lt {n : Int} :
    signed? n = none ↔ n < -2 ^ 63 ∨ 2 ^ 63 - 1 < n :=
  signed?_eq_none_iff

theorem bounds_of_signed? {n : Int} {w : Int64} (h : signed? n = some w) :
    -2 ^ 63 ≤ n ∧ n ≤ 2 ^ 63 - 1 := by
  have hrange : ¬ (n < -2 ^ 63 ∨ 2 ^ 63 - 1 < n) := by
    rw [← signed?_eq_none_iff_lt_or_lt, h]
    exact Option.some_ne_none w
  omega

end Word

/-! ## The exact number -/

theorem decimal_cons (d : Nat) (ds : List Nat) :
    decimal (d :: ds) = d * 10 ^ ds.length + decimal ds := by
  simp only [decimal, List.reverse_cons, Nat.ofDigits_append, Nat.ofDigits_singleton,
    List.length_reverse]
  ring

/-- Digits that follow a word are accumulated to the word of the whole number, if there is one. -/
theorem foldlM_unsigned? (ds : List Nat) (w : UInt64) :
    ds.foldlM (fun value d => Word.unsigned? (value.toNat * 10 + d)) w =
      Word.unsigned? (w.toNat * 10 ^ ds.length + decimal ds) := by
  induction ds generalizing w with
  | nil =>
      symm
      show Word.unsigned? (w.toNat * 1 + 0) = some w
      rw [Word.unsigned?_eq_some_iff]
      omega
  | cons d ds ih =>
      have htotal : w.toNat * 10 ^ (d :: ds).length + decimal (d :: ds) =
          (w.toNat * 10 + d) * 10 ^ ds.length + decimal ds := by
        rw [decimal_cons, List.length_cons]
        ring
      rw [List.foldlM_cons, htotal]
      cases hw : Word.unsigned? (w.toNat * 10 + d) with
      | none =>
          -- The digits that follow only make the number larger.
          rw [Word.unsigned?_eq_none_iff] at hw
          symm
          show Word.unsigned? _ = none
          rw [Word.unsigned?_eq_none_iff]
          have hpow : 0 < 10 ^ ds.length := Nat.pow_pos (by omega)
          have hmul := Nat.le_mul_of_pos_right (w.toNat * 10 + d) hpow
          omega
      | some v =>
          rw [Word.unsigned?_eq_some_iff] at hw
          rw [← hw]
          exact ih v

theorem wordOfDigits?_eq (ds : List Nat) : wordOfDigits? ds = Word.unsigned? (decimal ds) := by
  rw [wordOfDigits?, foldlM_unsigned?]
  show Word.unsigned? (0 * 10 ^ ds.length + decimal ds) = _
  rw [Nat.zero_mul, Nat.zero_add]

/-- A literal is read as the word that holds its exact number, if there is one. -/
theorem Literal.word?_eq (n : Literal) : n.word? = Word.signed? n.number := by
  simp only [word?, number, wordOfDigits?_eq]
  cases hw : Word.unsigned? (decimal (n.digits.map Fin.val)) with
  | none =>
      -- A magnitude beyond the unsigned words is beyond the signed ones with either sign.
      rw [Word.unsigned?_eq_none_iff_le] at hw
      symm
      show Word.signed? _ = none
      rw [Word.signed?_eq_none_iff_lt_or_lt]
      split
      · omega
      · omega
  | some m =>
      rw [Word.unsigned?_eq_some_iff] at hw
      show wordOfSign? _ m = _
      rw [wordOfSign?, hw]
      cases hsign : n.sign with
      | none => rfl
      | some sign =>
          cases sign with
          | plus => rfl
          | minus => rfl

end ExprCalc
