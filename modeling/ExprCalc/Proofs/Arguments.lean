import ExprCalc.CommandLine.Settings
import ExprCalc.Proofs.Literal
import ExprCalc.Proofs.TextLines
import Mathlib.Data.List.Basic
import Mathlib.Data.List.TakeWhile

/-!
# Arguments as they are written

The forms in which the arguments of a command line are written, and what the scan makes of each. A
limit is written in decimal digits, with or without a plus sign (`readDepth_of_writesLimit`). An
expression may be any text of arithmetic characters but the terminator: no option has such
characters in its name or its letter, so a scan that still waits for the expression takes the text
as a value, whatever hyphens it starts with (`Scan.step_arithmetic`).
-/

set_option autoImplicit false

namespace ExprCalc

namespace CommandLine

/-! ## Bytes of an argument -/

/-- The byte of a character that has only one. -/
theorem encode_cons_of_lt {c : Char} (hc : c.toNat < 128) (s : Text) :
    Utf8.encode (c :: s) = UInt8.ofNat c.toNat :: Utf8.encode s := by
  rw [Utf8.encode_cons, Utf8.utf8EncodeChar_of_lt hc]
  rfl

/-- An argument that starts with no hyphen has no special shape. -/
theorem Shape.of_cons_of_ne {b : UInt8} (hb : b ≠ hyphen) (rest : Bytes) :
    Shape.of (b :: rest) = .plain := by
  cases rest with
  | nil => rfl
  | cons c rest => exact if_pos hb

/-! ## Limits -/

/-- The text writes the limit in decimal digits, with or without a plus sign before them. -/
def WritesLimit (n : UInt64) (s : Text) : Prop :=
  ∃ ds : List (Fin 10), ds ≠ [] ∧ decimal (ds.map Fin.val) = n.toNat ∧
    (s = digitText ds ∨ s = '+' :: digitText ds)

/-- Digits that follow a number are read to the number of all digits, if this one is in range. -/
theorem foldlM_readDepthDigit (ds : List (Fin 10)) (n : Nat)
    (h : n * 10 ^ ds.length + decimal (ds.map Fin.val) < UInt64.size) :
    (digitText ds).foldlM readDepthDigit n =
      .ok (n * 10 ^ ds.length + decimal (ds.map Fin.val)) := by
  induction ds generalizing n with
  | nil => exact congrArg Except.ok (Nat.mul_one n).symm
  | cons d ds ih =>
      have htotal : n * 10 ^ (d :: ds).length + decimal ((d :: ds).map Fin.val) =
          (n * 10 + d) * 10 ^ ds.length + decimal (ds.map Fin.val) := by
        rw [List.map_cons, decimal_cons, List.length_cons, List.length_map]
        ring
      rw [htotal] at h ⊢
      -- The digits read so far are in range, since those that follow only make the number larger.
      have hstep : readDepthDigit n (digitSymbol d) = .ok (n * 10 + d) := by
        have hpow : 0 < 10 ^ ds.length := Nat.pow_pos (by omega)
        have hle := Nat.le_mul_of_pos_right (n * 10 + d) hpow
        rw [readDepthDigit, digitValue?_digitSymbol]
        exact if_pos (by omega)
      rw [digitText_cons, List.foldlM_cons, hstep]
      exact ih _ h

theorem readDepthDigits_digitText {ds : List (Fin 10)} (hds : ds ≠ []) {n : UInt64}
    (hn : decimal (ds.map Fin.val) = n.toNat) :
    readDepthDigits (digitText ds) = .ok n.toNat := by
  have hread := foldlM_readDepthDigit ds 0 (by rw [hn]; simpa using n.toNat_lt_size)
  rw [Nat.zero_mul, Nat.zero_add, hn] at hread
  obtain ⟨d, ds, rfl⟩ := List.exists_cons_of_ne_nil hds
  exact hread

/-- A limit is read as it is written. -/
theorem readDepth_of_writesLimit {n : UInt64} {s : Text} (h : WritesLimit n s) :
    readDepth s = .ok n.toNat := by
  obtain ⟨ds, hds, hn, rfl | rfl⟩ := h
  · have hread := readDepthDigits_digitText hds hn
    obtain ⟨d, ds, rfl⟩ := List.exists_cons_of_ne_nil hds
    rw [digitText_cons] at hread ⊢
    -- The first digit is no plus sign, so the text is read as a whole.
    have hplus : digitSymbol d ≠ '+' := fun hd =>
      digitSymbol_notMem_signs d (hd ▸ List.mem_cons_self)
    rw [readDepth.eq_def]
    split
    · next hnil => cases hnil
    · next rest heq => exact absurd (List.cons.inj heq).1 hplus
    · exact hread
  · exact readDepthDigits_digitText hds hn

/-- A limit looks like a value, not like an option. -/
theorem shape_of_writesLimit {n : UInt64} {s : Text} (h : WritesLimit n s) :
    Shape.of (Utf8.encode s) = .plain := by
  have hdigit : ∀ d : Fin 10,
      (digitSymbol d).toNat < 128 ∧ UInt8.ofNat (digitSymbol d).toNat ≠ hyphen := by
    decide
  obtain ⟨ds, hds, -, rfl | rfl⟩ := h
  · obtain ⟨d, ds, rfl⟩ := List.exists_cons_of_ne_nil hds
    rw [digitText_cons, encode_cons_of_lt (hdigit d).1]
    exact Shape.of_cons_of_ne (hdigit d).2 _
  · rw [encode_cons_of_lt (by decide)]
    exact Shape.of_cons_of_ne (by decide) _

/-! ## Expressions -/

/-- The characters of arithmetic. -/
def arithmeticSymbols : Text := "0123456789+-*/()".toList

/-- A text of arithmetic characters, not empty and not the terminator. -/
structure ArithmeticText where
  text : Text
  ne_nil : text ≠ []
  arithmetic : ∀ c ∈ text, c ∈ arithmeticSymbols
  ne_terminator : text ≠ ['-', '-']

theorem toNat_lt_of_mem : ∀ c ∈ arithmeticSymbols, c.toNat < 128 :=
  List.forall_iff_forall_mem.mp (by decide)

theorem byte_ne_hyphen : ∀ c ∈ arithmeticSymbols, c ≠ '-' → UInt8.ofNat c.toNat ≠ hyphen :=
  List.forall_iff_forall_mem.mp (by decide)

theorem byte_ne_equals : ∀ c ∈ arithmeticSymbols, UInt8.ofNat c.toNat ≠ equals :=
  List.forall_iff_forall_mem.mp (by decide)

/-- No arithmetic character is the letter of an option. -/
theorem ofLetter?_byte :
    ∀ c ∈ arithmeticSymbols, Switch.ofLetter? (UInt8.ofNat c.toNat) = none :=
  List.forall_iff_forall_mem.mp (by decide)

/-- No option has a name of arithmetic characters. -/
theorem ofName?_arithmetic {s : Text} (hs : ∀ c ∈ s, c ∈ arithmeticSymbols) :
    Switch.ofName? s = none := by
  rw [Switch.ofName?, List.find?_eq_none]
  intro o _ hname
  have hletters : ¬ ∀ c ∈ o.name, c ∈ arithmeticSymbols := by
    rw [← List.forall_iff_forall_mem]
    cases o <;> decide
  rw [of_decide_eq_true hname] at hletters
  exact hletters hs

/-- A name of arithmetic characters after two hyphens has no value attached. -/
theorem Shape.ofLong_arithmetic {s : Text} (hs : ∀ c ∈ s, c ∈ arithmeticSymbols) :
    Shape.ofLong (Utf8.encode s) = .long (Utf8.encode s) none := by
  have hbytes : ∀ b ∈ Utf8.encode s, decide (b ≠ equals) = true := by
    intro b hb
    obtain ⟨c, hc, hbc⟩ := List.mem_flatMap.mp hb
    rw [Utf8.utf8EncodeChar_of_lt (toNat_lt_of_mem c (hs c hc)), List.mem_singleton] at hbc
    subst hbc
    exact decide_eq_true (byte_ne_equals c (hs c hc))
  simp only [ofLong, List.takeWhile_eq_self_iff.mpr hbytes, List.dropWhile_eq_nil_iff.mpr hbytes]

/-- A text of arithmetic characters looks like a value, like a cluster with an unknown letter in it,
or like an unknown long option. -/
theorem Shape.of_arithmetic (t : ArithmeticText) :
    Shape.of (Utf8.encode t.text) = .plain ∨
      (∃ letters, Shape.of (Utf8.encode t.text) = .cluster letters ∧
        (letters.any fun b => (Switch.ofLetter? b).isNone) = true) ∨
      ∃ name : Text, Shape.of (Utf8.encode t.text) = .long (Utf8.encode name) none ∧
        Switch.ofName? name = none := by
  obtain ⟨text, hne, harith, hterm⟩ := t
  have hascii : ∀ c ∈ text, c.toNat < 128 := fun c hc => toNat_lt_of_mem c (harith c hc)
  match text with
  | [] => exact absurd rfl hne
  | [c] =>
      left
      rw [encode_cons_of_lt (hascii c List.mem_cons_self)]
      rfl
  | c :: d :: rest =>
      have hc := harith c List.mem_cons_self
      have hd := harith d (List.mem_cons_of_mem c List.mem_cons_self)
      have hrest : ∀ c ∈ rest, c ∈ arithmeticSymbols := fun x hx =>
        harith x (List.mem_cons_of_mem c (List.mem_cons_of_mem d hx))
      rw [encode_cons_of_lt (toNat_lt_of_mem c hc), encode_cons_of_lt (toNat_lt_of_mem d hd)]
      by_cases hfirst : c = '-'
      · subst hfirst
        right
        by_cases hsecond : d = '-'
        · -- Two hyphens, and something after them since the text is not the terminator.
          subst hsecond
          right
          have hnonempty : ¬ (Utf8.encode rest).isEmpty := by
            rw [List.isEmpty_iff, Utf8.encode_eq_nil_iff]
            rintro rfl
            exact hterm rfl
          refine ⟨rest, ?_, ofName?_arithmetic hrest⟩
          rw [← Shape.ofLong_arithmetic hrest]
          exact if_neg hnonempty
        · -- One hyphen: the character after it is the letter that is unknown.
          left
          refine ⟨_, if_pos (byte_ne_hyphen d hd hsecond), ?_⟩
          rw [List.any_cons, ofLetter?_byte d hd]
          rfl
      · left
        exact Shape.of_cons_of_ne (byte_ne_hyphen c hc hfirst) _

namespace Scan

/-- While the scan waits for the expression, a text of arithmetic characters is a value. -/
theorem step_arithmetic {s : Scan} (hopen : s.positionalOnly = false)
    (hwaits : s.hasExpression = false) (t : ArithmeticText) :
    s.step (Utf8.encode t.text) = s.takeValue (Utf8.encode t.text) := by
  have hoption : ¬ s.positionalOnly = true := by
    rw [hopen]
    exact Bool.false_ne_true
  rw [step, if_neg hoption]
  rcases Shape.of_arithmetic t with hplain | ⟨letters, hcluster, hletters⟩ | ⟨name, hlong, hname⟩
  · rw [hplain]
  · rw [hcluster]
    refine if_pos ?_
    rw [hwaits, hletters]
    rfl
  · rw [hlong]
    simp only [Utf8.decode?_encode, hname, hwaits, Bool.false_eq_true, if_false]

end Scan

end CommandLine

end ExprCalc
