import ExprCalc.Proofs.Printing

/-!
# Texts that tell their own end

A way to write things is *self-delimiting* if the text of a thing tells which thing it is and where
it ends, whatever stands after it. Things that are written one after another are then told apart,
up to a text that does not start with one more of them (`SelfDelimiting.flatMap_append_inj`).

The three kinds of text in a message are of this sort, or nearly so. A character between quotes has
one of three forms (`Text.QuotedAs`), and none of them starts with the quote that ends the text; so
a quoted text tells its own end, whatever characters are in it (`Text.selfDelimiting_quoted`). A
number tells its end where no digit stands after it (`Text.ofInt_append_inj`).
-/

set_option autoImplicit false

namespace ExprCalc

universe u

variable {α : Type u}

/-- The text of a thing tells the thing, and where the text ends, whatever stands after it. -/
def SelfDelimiting (write : α → Text) : Prop :=
  ∀ (a b : α) (r r' : Text), write a ++ r = write b ++ r' → a = b ∧ r = r'

namespace SelfDelimiting

theorem injective {write : α → Text} (h : SelfDelimiting write) : Function.Injective write := by
  intro a b hab
  exact (h a b [] [] (by rw [hab])).1

/-- One character tells its own end. -/
theorem singleton {symbol : α → Char} (h : Function.Injective symbol) :
    SelfDelimiting fun a => [symbol a] := by
  intro a b r r' heq
  obtain ⟨hhead, htail⟩ := List.cons.inj heq
  exact ⟨h hhead, htail⟩

/-- Things that are written in a row are told apart, if what stands after them does not start with
one more of them. -/
theorem flatMap_append_inj {write : α → Text} (h : SelfDelimiting write) {r r' : Text}
    (hr : ∀ a t, r ≠ write a ++ t) (hr' : ∀ a t, r' ≠ write a ++ t) {as bs : List α}
    (heq : as.flatMap write ++ r = bs.flatMap write ++ r') : as = bs ∧ r = r' := by
  induction as generalizing bs with
  | nil =>
      cases bs with
      | nil => exact ⟨rfl, heq⟩
      | cons b bs =>
          -- The longer row puts one more thing where the other one has ended.
          rw [List.flatMap_cons, List.append_assoc] at heq
          exact absurd heq (hr b _)
  | cons a as ih =>
      rw [List.flatMap_cons, List.append_assoc] at heq
      cases bs with
      | nil => exact absurd heq.symm (hr' a _)
      | cons b bs =>
          rw [List.flatMap_cons, List.append_assoc] at heq
          obtain ⟨rfl, htail⟩ := h a b _ _ heq
          obtain ⟨rfl, hrest⟩ := ih htail
          exact ⟨rfl, hrest⟩

end SelfDelimiting

namespace Text

/-! ## Numbers -/

/-- The text of an integer, up to where no digit stands, tells the integer. -/
theorem ofInt_append_inj {n m : Int} {r r' : Text} (hr : NoDigit r) (hr' : NoDigit r')
    (h : ofInt n ++ r = ofInt m ++ r') : n = m ∧ r = r' := by
  obtain ⟨l, htext, hnumber⟩ := exists_literal_ofInt n
  obtain ⟨l', htext', hnumber'⟩ := exists_literal_ofInt m
  rw [← htext, ← htext'] at h
  obtain ⟨rfl, hrest⟩ := Literal.text_append_inj hr hr' h
  exact ⟨hnumber.symm.trans hnumber', hrest⟩

/-- A natural number is written like the integer that it is. -/
theorem ofInt_natCast (n : Nat) : ofInt n = ofNat n := by
  rw [ofInt, if_neg (by omega), Int.natAbs_natCast]

theorem ofNat_append_inj {n m : Nat} {r r' : Text} (hr : NoDigit r) (hr' : NoDigit r')
    (h : ofNat n ++ r = ofNat m ++ r') : n = m ∧ r = r' := by
  rw [← ofInt_natCast, ← ofInt_natCast] at h
  obtain ⟨hnm, hrest⟩ := ofInt_append_inj hr hr' h
  exact ⟨Int.ofNat_inj.1 hnm, hrest⟩

/-- The character that writes a hexadecimal digit. -/
def hexSymbol (d : Fin 16) : Char := Nat.digitChar d

theorem hexSymbol_injective : Function.Injective hexSymbol := by
  have h : ∀ d e : Fin 16, hexSymbol d = hexSymbol e → d = e := by decide
  intro d e
  exact h d e

theorem hexSymbol_ne_brace : ∀ d : Fin 16, hexSymbol d ≠ '\x7d' := by decide

/-- The hexadecimal text of a natural number is a row of digits that writes this number. -/
theorem exists_digits_hexOfNat (n : Nat) :
    ∃ ds : List (Fin 16), ds.map hexSymbol = hexOfNat n ∧
      Nat.ofDigits 16 (ds.map Fin.val).reverse = n := by
  induction n using Nat.strongRecOn with
  | ind n ih =>
      by_cases h : n < 16
      · refine ⟨[⟨n, h⟩], ?_, Nat.ofDigits_singleton⟩
        rw [hexOfNat, Nat.toDigits_of_lt_base h]
        rfl
      · -- The last digit is the remainder by sixteen, and those before it write the quotient.
        obtain ⟨ds, htext, hvalue⟩ := ih (n / 16) (by omega)
        refine ⟨ds ++ [⟨n % 16, Nat.mod_lt n (by omega)⟩], ?_, ?_⟩
        · rw [hexOfNat, Nat.toDigits_of_base_le (by omega) (Nat.not_lt.mp h), ← hexOfNat,
            ← htext]
          exact List.map_append
        · rw [List.map_append, List.reverse_append, List.map_singleton, List.reverse_singleton,
            List.singleton_append, Nat.ofDigits_cons, hvalue]
          exact Nat.mod_add_div n 16

/-- A hexadecimal number before a closing brace tells the number. -/
theorem hexOfNat_append_inj {n m : Nat} {r r' : Text}
    (h : hexOfNat n ++ '\x7d' :: r = hexOfNat m ++ '\x7d' :: r') : n = m ∧ r = r' := by
  obtain ⟨ds, htext, hvalue⟩ := exists_digits_hexOfNat n
  obtain ⟨es, htext', hvalue'⟩ := exists_digits_hexOfNat m
  rw [← htext, ← htext', List.map_eq_flatMap, List.map_eq_flatMap] at h
  have hbrace : ∀ (r : Text) (d : Fin 16) (t : Text), '\x7d' :: r ≠ [hexSymbol d] ++ t := by
    intro r d t heq
    exact hexSymbol_ne_brace d (List.cons.inj heq).1.symm
  obtain ⟨rfl, hrest⟩ :=
    (SelfDelimiting.singleton hexSymbol_injective).flatMap_append_inj (hbrace r) (hbrace r') h
  exact ⟨hvalue.symm.trans hvalue', (List.cons.inj hrest).2⟩

/-! ## Characters between quotes -/

/-- The character that is written as a backslash and the given character, if there is one. -/
def escaped? : Char → Option Char
  | '0' => some '\x00'
  | 't' => some '\t'
  | 'r' => some '\r'
  | 'n' => some '\n'
  | '\\' => some '\\'
  | '"' => some '"'
  | _ => none

/-- The three forms of a character between quotes: as it is, after a backslash, or by its code
point. -/
inductive QuotedAs : Char → Text → Prop
  | plain {c : Char} (hprint : isPrintable c = true) (hslash : c ≠ '\\') (hquote : c ≠ '"') :
      QuotedAs c [c]
  | escape {c e : Char} (he : escaped? e = some c) : QuotedAs c ['\\', e]
  | code (c : Char) : QuotedAs c ('\\' :: 'u' :: '\x7b' :: (hexOfNat c.toNat ++ ['\x7d']))

theorem quotedAs_quoteChar (c : Char) : QuotedAs c (quoteChar c) := by
  unfold quoteChar
  -- Six characters have a letter each.
  iterate 6
    split
    · next h =>
        subst h
        exact .escape rfl
  split
  · next hslash hquote hprint => exact .plain hprint hslash hquote
  · exact .code c

/-- No form of a character starts with a quote. -/
theorem QuotedAs.append_ne_quote {c : Char} {t : Text} (h : QuotedAs c t) (r r' : Text) :
    '"' :: r ≠ t ++ r' := by
  intro heq
  cases h with
  | plain _ _ hquote => exact hquote (List.cons.inj heq).1.symm
  | escape _ => cases heq
  | code => cases heq

/-- The form of a character tells the character, and where it ends. -/
theorem QuotedAs.append_inj {c d : Char} {t u r r' : Text} (h : QuotedAs c t) (h' : QuotedAs d u)
    (heq : t ++ r = u ++ r') : c = d ∧ r = r' := by
  cases h with
  | plain _ hslash _ =>
      cases h' with
      | plain _ _ _ =>
          obtain ⟨hhead, htail⟩ := List.cons.inj heq
          exact ⟨hhead, htail⟩
      | escape _ => exact absurd (List.cons.inj heq).1 hslash
      | code => exact absurd (List.cons.inj heq).1 hslash
  | escape he =>
      cases h' with
      | plain _ hslash _ => exact absurd (List.cons.inj heq).1.symm hslash
      | escape he' =>
          obtain ⟨-, htail⟩ := List.cons.inj heq
          obtain ⟨rfl, hrest⟩ := List.cons.inj htail
          rw [he, Option.some.injEq] at he'
          exact ⟨he', hrest⟩
      | code =>
          -- The letter of a code point stands for no character by itself.
          obtain ⟨rfl, -⟩ := List.cons.inj (List.cons.inj heq).2
          cases he
  | code =>
      cases h' with
      | plain _ hslash _ => exact absurd (List.cons.inj heq).1.symm hslash
      | escape he' =>
          obtain ⟨rfl, -⟩ := List.cons.inj (List.cons.inj heq).2
          cases he'
      | code =>
          simp only [List.cons_append, List.append_assoc, List.nil_append, List.cons.injEq,
            true_and] at heq
          obtain ⟨hnat, hrest⟩ := hexOfNat_append_inj heq
          exact ⟨Char.toNat_inj.1 hnat, hrest⟩

theorem selfDelimiting_quoteChar : SelfDelimiting quoteChar := by
  intro c d r r' heq
  exact (quotedAs_quoteChar c).append_inj (quotedAs_quoteChar d) heq

/-- A quoted text tells the text and its own end, whatever characters are in the text. -/
theorem selfDelimiting_quoted : SelfDelimiting quoted := by
  intro s t r r' heq
  simp only [quoted, List.cons_append, List.append_assoc, List.nil_append, List.cons.injEq,
    true_and] at heq
  have hend : ∀ (r : Text) (c : Char) (t : Text), '"' :: r ≠ quoteChar c ++ t :=
    fun r c t => (quotedAs_quoteChar c).append_ne_quote r t
  obtain ⟨rfl, hrest⟩ := selfDelimiting_quoteChar.flatMap_append_inj (hend r) (hend r') heq
  exact ⟨rfl, (List.cons.inj hrest).2⟩

end Text

end ExprCalc
