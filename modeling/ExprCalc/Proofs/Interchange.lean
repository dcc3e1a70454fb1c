import ExprCalc.Proofs.Nesting
import ExprCalc.Proofs.Recognition

/-!
# Exchange of what stands between parentheses

Two expressions with the same outcome, a value or failed arithmetic, may stand for each other
between a pair of parentheses, whatever text is around the pair (`parens_interchange`). The text
around need not be a part of an expression: it may have unmatched parentheses of its own, break off
after an operator, or never be read.

The pair is found again in the tree that a parser reads. Where the text of a tree reaches beyond
the opening parenthesis, this character starts a factor of the tree, and the factor is the whole
pair, since a closing parenthesis ends every tree (`Tree.exists_exchange`). So a tree that is read
past the pair turns into one of the same value around the other pair, and back. Longest trees turn
into longest trees (`Tree.IsLongest.exchange`), and no run of a parser has to be followed.
-/

set_option autoImplicit false

namespace ExprCalc

namespace Arithmetic

open ExprCalc.Parser

/-- The text between a pair of parentheses. -/
def parenthesized (c : Text) : Text := '(' :: (c ++ [')'])

theorem parenthesized_append (c post : Text) :
    parenthesized c ++ post = '(' :: (c ++ ')' :: post) :=
  congrArg ('(' :: ·) (List.append_assoc c [')'] post)

/-! ## Texts with a common start -/

/-- A text that reaches beyond the start of another one goes on with the rest of it. -/
theorem exists_eq_append_of_length_lt {a r pre x : Text} (h : a ++ r = pre ++ x)
    (hlt : pre.length < a.length) : ∃ c b, a = pre ++ c :: b ∧ c :: (b ++ r) = x := by
  rcases List.append_eq_append_iff.1 h with ⟨b, rfl, -⟩ | ⟨b, rfl, hx⟩
  · rw [List.length_append] at hlt
    omega
  · cases b with
    | nil =>
        rw [List.append_nil] at hlt
        omega
    | cons c b => exact ⟨c, b, rfl, hx.symm⟩

/-- A text that ends within the start of another one leaves the rest of this start. -/
theorem exists_eq_append_of_length_le {a r pre x : Text} (h : a ++ r = pre ++ x)
    (hle : a.length ≤ pre.length) : ∃ b, pre = a ++ b ∧ r = b ++ x := by
  rcases List.append_eq_append_iff.1 h with ⟨b, hpre, hr⟩ | ⟨b, rfl, hx⟩
  · exact ⟨b, hpre, hr⟩
  · cases b with
    | nil => exact ⟨[], by simp, hx.symm⟩
    | cons c b =>
        rw [List.length_append, List.length_cons] at hle
        omega

/-! ## The pair in a tree -/

section Exchange

variable {u u' : Tree .expression}

mutual
/-- A tree whose text reaches beyond the opening parenthesis of a pair reaches beyond the closing
one, and some tree of the same value has the other pair in its place. -/
theorem Tree.exists_exchange (hu : u.value = u'.value) : ∀ {l : Level} (t : Tree l)
    {pre post r : Text}, t.text ++ r = pre ++ (parenthesized u.text ++ post) →
    pre.length < t.text.length →
    ∃ (t' : Tree l) (q : Text), q ++ r = post ∧ t'.value = t.value ∧
      t'.text = pre ++ (parenthesized u'.text ++ q)
  | _, .literal n, pre, post, r, h, hlt => by
      -- No character of a literal is a parenthesis.
      obtain ⟨c, b, htext, hx⟩ := exists_eq_append_of_length_lt h hlt
      rw [parenthesized_append] at hx
      have hmem : c ∈ n.text := by
        change n.text = pre ++ c :: b at htext
        rw [htext]
        exact List.mem_append_right pre List.mem_cons_self
      exact absurd (List.cons.inj hx).1 (literal_ne_parens n c hmem).1
  | _, .parens inner, [], post, r, h, _ => by
      -- The pair is the factor itself, and both texts between end at its closing parenthesis.
      rw [Tree.parens_text_append, List.nil_append, parenthesized_append] at h
      obtain ⟨rfl, hpost⟩ := inner.text_append_inj u
        (inner.closed_of_boundary (boundary_paren _ r))
        (u.closed_of_boundary (boundary_paren _ post)) (List.cons.inj h).2
      exact ⟨.parens u', [], (List.cons.inj hpost).2, hu.symm, (List.append_nil _).symm⟩
  | _, .parens inner, c :: pre, post, r, h, hlt => by
      rw [Tree.parens_text_append, List.cons_append] at h
      obtain ⟨rfl, htail⟩ := List.cons.inj h
      have hinner : pre.length < inner.text.length := by
        refine Nat.lt_of_not_le fun hle => ?_
        -- The opening parenthesis of the pair would be the closing one of the factor.
        obtain ⟨b, rfl, hb⟩ := exists_eq_append_of_length_le htail hle
        rw [parenthesized_append] at hb
        cases b with
        | nil => exact absurd (List.cons.inj hb).1 (by decide)
        | cons d b =>
            have hlen : (Tree.parens inner).text.length = inner.text.length + 2 := by
              simp [Tree.text]
            rw [hlen, List.length_cons, List.length_append, List.length_cons] at hlt
            omega
      obtain ⟨inner', q, hq, hvalue, htext⟩ := inner.exists_exchange hu htail hinner
      refine ⟨.parens inner', q ++ [')'], ?_, hvalue, ?_⟩
      · rw [List.append_assoc]
        exact hq
      · show '(' :: (inner'.text ++ [')']) = _
        rw [htext, List.append_assoc, List.append_assoc]
        rfl
  | _, .chain hl first rest, pre, post, r, h, hlt => by
      rw [Tree.chain_text_append] at h
      by_cases hfirst : pre.length < first.text.length
      · obtain ⟨first', q, hq, hvalue, htext⟩ := first.exists_exchange hu h hfirst
        refine ⟨.chain hl first' rest, q ++ rest.text, ?_, ?_, ?_⟩
        · rw [List.append_assoc, hq]
        · show foldChain first'.value rest.values = foldChain first.value rest.values
          rw [hvalue]
        · show first'.text ++ rest.text = _
          rw [htext, List.append_assoc, List.append_assoc]
      · obtain ⟨b, rfl, hb⟩ := exists_eq_append_of_length_le h (Nat.le_of_not_lt hfirst)
        have hrest : b.length < rest.text.length := by
          change _ < (first.text ++ rest.text).length at hlt
          rw [List.length_append, List.length_append] at hlt
          omega
        obtain ⟨rest', q, hq, hvalues, htext⟩ := rest.exists_exchange hu hb hrest
        refine ⟨.chain hl first rest', q, hq, ?_, ?_⟩
        · show foldChain first.value rest'.values = foldChain first.value rest.values
          rw [hvalues]
        · show first.text ++ rest'.text = _
          rw [htext, List.append_assoc]
/-- The same for the steps of a chain. -/
theorem Steps.exists_exchange (hu : u.value = u'.value) : ∀ {l : Level} (rest : Steps l)
    {pre post r : Text}, rest.text ++ r = pre ++ (parenthesized u.text ++ post) →
    pre.length < rest.text.length →
    ∃ (rest' : Steps l) (q : Text), q ++ r = post ∧ rest'.values = rest.values ∧
      rest'.text = pre ++ (parenthesized u'.text ++ q)
  | _, .nil, _, _, _, _, hlt => absurd hlt (Nat.not_lt_zero _)
  | _, .cons op hop operand rest, [], post, r, h, _ => by
      rw [Steps.cons_text_append, List.nil_append, parenthesized_append] at h
      exact absurd (List.cons.inj h).1 (symbol_ne_parens op).1
  | _, .cons op hop operand rest, c :: pre, post, r, h, hlt => by
      rw [Steps.cons_text_append, List.cons_append] at h
      obtain ⟨rfl, htail⟩ := List.cons.inj h
      by_cases hoperand : pre.length < operand.text.length
      · obtain ⟨operand', q, hq, hvalue, htext⟩ := operand.exists_exchange hu htail hoperand
        refine ⟨.cons op hop operand' rest, q ++ rest.text, ?_, ?_, ?_⟩
        · rw [List.append_assoc, hq]
        · show (op, operand'.value) :: rest.values = (op, operand.value) :: rest.values
          rw [hvalue]
        · show op.symbol :: (operand'.text ++ rest.text) = _
          rw [htext, List.append_assoc, List.append_assoc]
          rfl
      · obtain ⟨b, rfl, hb⟩ := exists_eq_append_of_length_le htail (Nat.le_of_not_lt hoperand)
        have hrest : b.length < rest.text.length := by
          change _ < (operand.text ++ rest.text).length + 1 at hlt
          rw [List.length_cons, List.length_append, List.length_append] at hlt
          omega
        obtain ⟨rest', q, hq, hvalues, htext⟩ := rest.exists_exchange hu hb hrest
        refine ⟨.cons op hop operand rest', q, hq, ?_, ?_⟩
        · show (op, operand.value) :: rest'.values = (op, operand.value) :: rest.values
          rw [hvalues]
        · show op.symbol :: (operand.text ++ rest'.text) = _
          rw [htext, List.cons_append, List.append_assoc]
end

variable {l : Level} {pre post : Text}

/-- What is read of a text with the pair ends where the text after the pair is cut. -/
theorem eq_append_of_append_eq {a pre x post q r : Text} (h : a ++ r = pre ++ (x ++ post))
    (hq : q ++ r = post) : a = pre ++ (x ++ q) := by
  subst hq
  rw [← List.append_assoc, ← List.append_assoc] at h
  rw [← List.append_assoc]
  exact List.append_cancel_right h

/-- A tree that reaches beyond the start of the text with the other pair is carried back to the text
with the pair, where it is no longer than the longest tree. -/
theorem Tree.IsLongest.carried_back (hu : u.value = u'.value) {t t₁ : Tree l}
    (ht : t.IsLongest (pre ++ (parenthesized u.text ++ post)))
    (ht₁ : t₁.text <+: pre ++ (parenthesized u'.text ++ post)) (hlt₁ : pre.length < t₁.text.length) :
    ∃ q₁, t₁.text = pre ++ (parenthesized u'.text ++ q₁) ∧
      (pre ++ (parenthesized u.text ++ q₁)).length ≤ t.text.length := by
  obtain ⟨r₁, hr₁⟩ := ht₁
  obtain ⟨t₀, q₁, hq₁, -, htext₀⟩ := Tree.exists_exchange hu.symm t₁ hr₁ hlt₁
  refine ⟨q₁, eq_append_of_append_eq hr₁ hq₁, ?_⟩
  rw [← htext₀]
  refine ht.2 t₀ ⟨r₁, ?_⟩
  rw [htext₀, ← hq₁, List.append_assoc, List.append_assoc]

/-- The longest tree at the start of a text with the pair turns into the longest one with the other
pair. It is the same tree if it ends before the pair. -/
theorem Tree.IsLongest.exchange (hu : u.value = u'.value) {t : Tree l}
    (ht : t.IsLongest (pre ++ (parenthesized u.text ++ post))) :
    (t.text <+: pre ∧ t.IsLongest (pre ++ (parenthesized u'.text ++ post))) ∨
      ∃ (t' : Tree l) (q r : Text), q ++ r = post ∧ t'.value = t.value ∧
        t.text = pre ++ (parenthesized u.text ++ q) ∧
        t'.text = pre ++ (parenthesized u'.text ++ q) ∧
        t'.IsLongest (pre ++ (parenthesized u'.text ++ post)) := by
  obtain ⟨r, hr⟩ := ht.1
  by_cases hlt : pre.length < t.text.length
  · right
    obtain ⟨t', q, hq, hvalue, htext'⟩ := Tree.exists_exchange hu t hr hlt
    have htext := eq_append_of_append_eq hr hq
    refine ⟨t', q, r, hq, hvalue, htext, htext', ⟨r, ?_⟩, fun t₁ ht₁ => ?_⟩
    · rw [htext', ← hq, List.append_assoc, List.append_assoc]
    · by_cases hlt₁ : pre.length < t₁.text.length
      · obtain ⟨q₁, htext₁, hle⟩ := ht.carried_back hu ht₁ hlt₁
        rw [htext] at hle
        rw [htext', htext₁]
        simp only [List.length_append] at hle ⊢
        omega
      · rw [htext', List.length_append]
        omega
  · left
    have hle := Nat.le_of_not_lt hlt
    obtain ⟨b, hb, -⟩ := exists_eq_append_of_length_le hr hle
    have hpre : t.text <+: pre := ⟨b, hb.symm⟩
    refine ⟨hpre, hpre.trans (List.prefix_append _ _), fun t₁ ht₁ => ?_⟩
    by_cases hlt₁ : pre.length < t₁.text.length
    · -- Carried back, the tree would be longer than the longest one.
      obtain ⟨q₁, -, hle₁⟩ := ht.carried_back hu ht₁ hlt₁
      rw [List.length_append] at hle₁
      simp only [parenthesized, List.length_append, List.length_cons] at hle₁
      omega
    · have hle₁ := Nat.le_of_not_lt hlt₁
      have hstart := List.prefix_of_prefix_length_le ht₁ (List.prefix_append _ _) hle₁
      exact ht.2 t₁ (hstart.trans (List.prefix_append _ _))

/-- Two remainders of one text with either pair in it: the same end of what follows the pair, or
from the same place before the pair on. -/
def SameRemainder (pre post c c' rest rest' : Text) : Prop :=
  (rest = rest' ∧ rest <:+ post) ∨
    ∃ tail, tail <:+ pre ∧ rest = tail ++ (parenthesized c ++ post) ∧
      rest' = tail ++ (parenthesized c' ++ post)

/-- With either pair in the text, the parser of a level fails, or it has a reading with the same
outcome of the arithmetic. -/
theorem checked_exchange (hu : u.value = u'.value) (l : Level) (pre post : Text) :
    (l.checked (pre ++ (parenthesized u.text ++ post)) = [] ∧
        l.checked (pre ++ (parenthesized u'.text ++ post)) = []) ∨
      ∃ v rest rest', l.checked (pre ++ (parenthesized u.text ++ post)) = [⟨v, rest⟩] ∧
        l.checked (pre ++ (parenthesized u'.text ++ post)) = [⟨v, rest'⟩] ∧
          SameRemainder pre post u.text u'.text rest rest' := by
  by_cases h : ∃ t : Tree l, t.text <+: pre ++ (parenthesized u.text ++ post)
  · right
    obtain ⟨t, ht⟩ := exists_isLongest h
    obtain ⟨rest, htext, hread⟩ := ht.checked_eq
    rcases ht.exchange hu with ⟨⟨tail, rfl⟩, ht'⟩ | ⟨t', q, r, rfl, hvalue, hq, hq', ht'⟩
    · obtain ⟨rest', htext', hread'⟩ := ht'.checked_eq
      rw [List.append_assoc] at htext htext'
      exact ⟨t.value, rest, rest', hread, hread', Or.inr ⟨tail, List.suffix_append _ _,
        List.append_cancel_left htext, List.append_cancel_left htext'⟩⟩
    · obtain ⟨rest', htext', hread'⟩ := ht'.checked_eq
      have hrest : rest = r := by
        rw [hq, List.append_assoc, List.append_assoc] at htext
        exact List.append_cancel_left (List.append_cancel_left (List.append_cancel_left htext))
      have hrest' : rest' = r := by
        rw [hq', List.append_assoc, List.append_assoc] at htext'
        exact List.append_cancel_left (List.append_cancel_left (List.append_cancel_left htext'))
      subst hrest hrest'
      rw [hvalue] at hread'
      exact ⟨t.value, _, _, hread, hread', Or.inl ⟨rfl, List.suffix_append _ _⟩⟩
  · left
    refine ⟨checked_eq_nil fun t ht => h ⟨t, ht⟩, checked_eq_nil fun t' ht' => h ?_⟩
    obtain ⟨t₁, ht₁⟩ := exists_isLongest ⟨t', ht'⟩
    rcases ht₁.exchange hu.symm with ⟨-, ht⟩ | ⟨t, -, -, -, -, -, -, ht⟩
    · exact ⟨t₁, ht.1⟩
    · exact ⟨t, ht.1⟩

end Exchange

/-- A text that is read to its end is the text of a tree. -/
theorem exists_text_eq_of_checked {l : Level} {c : Text} {x : Option Int64}
    (h : l.checked c = [⟨x, []⟩]) : ∃ t : Tree l, t.text = c ∧ t.value = x := by
  obtain ⟨t, ht⟩ := l.derives_checked c ⟨x, []⟩ (by rw [h]; exact List.mem_singleton_self _)
  rw [List.append_nil] at ht
  subst ht
  rw [t.checked_text, List.singleton_inj, Reading.mk.injEq] at h
  exact ⟨t, rfl, h.1⟩

/-- With either pair in the text the parser of a level has no reading, or it has one with the same
value and the same remainder. -/
def Level.ReadsAlike (l : Level) (pre post c c' : Text) : Prop :=
  (l.parser (pre ++ (parenthesized c ++ post)) = [] ∧
      l.parser (pre ++ (parenthesized c' ++ post)) = []) ∨
    ∃ v rest rest', l.parser (pre ++ (parenthesized c ++ post)) = [⟨v, rest⟩] ∧
      l.parser (pre ++ (parenthesized c' ++ post)) = [⟨v, rest'⟩] ∧
        SameRemainder pre post c c' rest rest'

/-- Between parentheses, two expressions with the same outcome, a value or failed arithmetic, make
no difference to what a level reads. The text around the parentheses may be any text. -/
theorem parens_interchange (l : Level) (pre post : Text) {c c' : Text} {x : Option Int64}
    (hc : Level.expression.checked c = [⟨x, []⟩]) (hc' : Level.expression.checked c' = [⟨x, []⟩]) :
    l.ReadsAlike pre post c c' := by
  obtain ⟨u, rfl, hx⟩ := exists_text_eq_of_checked hc
  obtain ⟨u', rfl, hx'⟩ := exists_text_eq_of_checked hc'
  rcases checked_exchange (hx.trans hx'.symm) l pre post with
    ⟨hnil, hnil'⟩ | ⟨v, rest, rest', hread, hread', hrest⟩
  · exact Or.inl ⟨filterMap_of_eq_nil hnil id, filterMap_of_eq_nil hnil' id⟩
  · have hparser := parser_of_checked hread
    have hparser' := parser_of_checked hread'
    cases v with
    | none => exact Or.inl ⟨hparser, hparser'⟩
    | some v => exact Or.inr ⟨v, rest, rest', hparser, hparser', hrest⟩

/-- The product and the literal may stand for each other, also where a parenthesis before the pair
is never closed and an operator after it has no operand. -/
theorem parens_interchange_unclosed :
    Level.expression.checked "2*3".toList = [⟨some 6, []⟩] ∧
      Level.expression.checked "+06".toList = [⟨some 6, []⟩] ∧
        Level.expression.ReadsAlike "7-((".toList ")*2/é".toList "2*3".toList "+06".toList := by
  have hc : Level.expression.checked "2*3".toList = [⟨some 6, []⟩] := by decide +kernel
  have hc' : Level.expression.checked "+06".toList = [⟨some 6, []⟩] := by decide +kernel
  exact ⟨hc, hc', parens_interchange .expression _ _ hc hc'⟩

end Arithmetic

end ExprCalc
