import ExprCalc.Arithmetic
import ExprCalc.Proofs.Literal

/-!
# Derivation trees of the arithmetic grammar

    expression := term (('+' | '-') term)*
    term       := factor (('*' | '/') factor)*
    factor     := literal | '(' expression ')'

A `Tree l` is a derivation from the level `l` of this grammar, and `Tree.text` is the text that it
derives. The two levels above the factors have one shape, an operand of the level below and then
steps of an operator and an operand (`Steps l`), so they share one constructor.

A tree says nothing about how a text is read. What the grammar needs for that is when the text of a
tree ends: `Tree.Closed t r` says that the text `r` after it continues no part of `t`. Closed trees
are determined by the text that they start (`Tree.text_append_inj`), so the grammar is unambiguous
(`Tree.text_injective`), and the longest tree at the start of a text is closed
(`Tree.IsLongest.closed`).
-/

set_option autoImplicit false

namespace ExprCalc

namespace Arithmetic

/-! ## Levels -/

namespace Level

/-- The level of the operands in a chain of this level. -/
def operand : Level → Level
  | expression => term
  | term => factor
  | factor => factor

/-- The operators between the operands of a chain. A factor is no chain and has none. -/
def operators : Level → List Operator
  | expression => [.add, .subtract]
  | term => [.multiply, .divide]
  | factor => []

/-- The symbols of the operators of a level. -/
def symbols (l : Level) : Text := l.operators.map Operator.symbol

end Level

/-! ## Trees -/

mutual
/-- A derivation from a level of the grammar. -/
inductive Tree : Level → Type
  | literal (n : Literal) : Tree .factor
  | parens (inner : Tree .expression) : Tree .factor
  | chain {l : Level} (hl : l ≠ .factor) (first : Tree l.operand) (rest : Steps l) : Tree l
/-- The part of a chain after its first operand: pairs of an operator and an operand. -/
inductive Steps : Level → Type
  | nil {l : Level} : Steps l
  | cons {l : Level} (op : Operator) (hop : op ∈ l.operators) (operand : Tree l.operand)
      (rest : Steps l) : Steps l
end

mutual
/-- The text that a tree derives. -/
def Tree.text : {l : Level} → Tree l → Text
  | _, .literal n => n.text
  | _, .parens inner => '(' :: (inner.text ++ [')'])
  | _, .chain _ first rest => first.text ++ rest.text
/-- The text that the steps of a chain derive. -/
def Steps.text : {l : Level} → Steps l → Text
  | _, .nil => []
  | _, .cons op _ operand rest => op.symbol :: (operand.text ++ rest.text)
end

/-- The text starts with an operator of the level and an operand. -/
def StartsStep (l : Level) (r : Text) : Prop :=
  ∃ op ∈ l.operators, ∃ (operand : Tree l.operand) (r' : Text),
    r = op.symbol :: (operand.text ++ r')

mutual
/-- The text `r` after the text of a tree continues no part of the tree: no digit follows a
literal, and no operator with an operand follows a chain. -/
def Tree.Closed : {l : Level} → Tree l → Text → Prop
  | _, .literal _, r => NoDigit r
  | _, .parens _, _ => True
  | _, .chain _ first rest, r => first.Closed (rest.text ++ r) ∧ rest.Closed r
/-- The text `r` after the text of the steps continues no operand in them and adds no step. -/
def Steps.Closed : {l : Level} → Steps l → Text → Prop
  | l, .nil, r => ¬ StartsStep l r
  | _, .cons _ _ operand rest, r => operand.Closed (rest.text ++ r) ∧ rest.Closed r
end

/-- The tree derives a start of the text, and none of its level derives a longer one. -/
def Tree.IsLongest {l : Level} (t : Tree l) (s : Text) : Prop :=
  t.text <+: s ∧ ∀ t' : Tree l, t'.text <+: s → t'.text.length ≤ t.text.length

/-! ## Texts of trees in front of a text -/

theorem Tree.parens_text_append (inner : Tree .expression) (r : Text) :
    (Tree.parens inner).text ++ r = '(' :: (inner.text ++ ')' :: r) :=
  congrArg ('(' :: ·) (List.append_assoc inner.text [')'] r)

theorem Tree.chain_text_append {l : Level} (hl : l ≠ .factor) (first : Tree l.operand)
    (rest : Steps l) (r : Text) :
    (Tree.chain hl first rest).text ++ r = first.text ++ (rest.text ++ r) :=
  List.append_assoc first.text rest.text r

theorem Steps.cons_text_append {l : Level} {op : Operator} (hop : op ∈ l.operators)
    (operand : Tree l.operand) (rest : Steps l) (r : Text) :
    (Steps.cons op hop operand rest).text ++ r =
      op.symbol :: (operand.text ++ (rest.text ++ r)) :=
  congrArg (op.symbol :: ·) (List.append_assoc operand.text rest.text r)

/-- No tree derives the empty text. -/
theorem Tree.text_ne_nil : ∀ {l : Level} (t : Tree l), t.text ≠ []
  | _, .literal n => by
      refine List.append_ne_nil_of_right_ne_nil _ ?_
      exact mt List.map_eq_nil_iff.1 n.digits_ne_nil
  | _, .parens _ => List.cons_ne_nil _ _
  | _, .chain _ first _ => List.append_ne_nil_of_left_ne_nil first.text_ne_nil _

/-! ## Symbols -/

theorem symbol_injective : Function.Injective Operator.symbol := by
  intro op op' h
  have hop := Operator.ofSymbol?_symbol op
  rw [h, Operator.ofSymbol?_symbol, Option.some.injEq] at hop
  exact hop.symm

theorem symbol_ne_digitSymbol (op : Operator) : ∀ d : Fin 10, op.symbol ≠ digitSymbol d := by
  cases op with
  | add => decide
  | subtract => decide
  | multiply => decide
  | divide => decide

/-! ## Boundaries

A character that is neither a digit nor an operator ends every tree, and so does an operator of a
level for the trees of the level below. -/

/-- The operators of a level and of the levels below it. -/
def Level.innerOperators : Level → List Operator
  | .expression => [.add, .subtract, .multiply, .divide]
  | .term => [.multiply, .divide]
  | .factor => []

/-- The text starts with no digit and with no operator of the level or of a level below it. -/
def Boundary (l : Level) (r : Text) : Prop :=
  NoDigit r ∧ ∀ op ∈ l.innerOperators, ∀ r', r ≠ op.symbol :: r'

theorem boundary_nil (l : Level) : Boundary l [] := by
  refine ⟨noDigit_nil, ?_⟩
  intro op _ r' h
  cases h

theorem boundary_paren (l : Level) (r : Text) : Boundary l (')' :: r) := by
  constructor
  · exact noDigit_cons (by decide) r
  · intro op _ r' h
    cases op <;> exact absurd (List.cons.inj h).1 (by decide)

/-- An operator ends the operand before it. -/
theorem boundary_operator {l : Level} {op : Operator} (hop : op ∈ l.operators) (r : Text) :
    Boundary l.operand (op.symbol :: r) := by
  constructor
  · exact noDigit_cons (symbol_ne_digitSymbol op) r
  · intro op' hop' r' h
    have heq : op = op' := symbol_injective (List.cons.inj h).1
    subst heq
    have hdisjoint : ∀ l : Level, ∀ op ∈ l.operators, op ∉ l.operand.innerOperators := by
      intro l
      cases l <;> decide
    exact hdisjoint l op hop hop'

theorem Boundary.operand {l : Level} {r : Text} (h : Boundary l r) : Boundary l.operand r := by
  refine ⟨h.1, fun op hop => h.2 op ?_⟩
  cases l with
  | expression =>
      have hsub : ∀ op ∈ Level.term.innerOperators, op ∈ Level.expression.innerOperators := by
        decide
      exact hsub op hop
  | term => cases hop
  | factor => exact hop

theorem Boundary.not_startsStep {l : Level} {r : Text} (h : Boundary l r) : ¬ StartsStep l r := by
  rintro ⟨op, hop, operand, r', hr⟩
  have hsub : ∀ l : Level, ∀ op ∈ l.operators, op ∈ l.innerOperators := by
    intro l
    cases l <;> decide
  exact h.2 op (hsub l op hop) _ hr

/-- What follows an operand in a chain ends it: the next operator, or else the end of the chain. -/
theorem Boundary.steps_append {l : Level} {r : Text} (h : Boundary l.operand r) (rest : Steps l) :
    Boundary l.operand (rest.text ++ r) := by
  cases rest with
  | nil => exact h
  | cons op hop operand rest => exact boundary_operator hop _

mutual
/-- A tree is closed at a boundary. -/
theorem Tree.closed_of_boundary : ∀ {l : Level} (t : Tree l) {r : Text}, Boundary l r → t.Closed r
  | _, .literal _, _, h => h.1
  | _, .parens _, _, _ => trivial
  | _, .chain _ first rest, _, h =>
      ⟨first.closed_of_boundary (h.operand.steps_append rest), rest.closed_of_boundary h⟩
/-- The steps of a chain are closed at a boundary. -/
theorem Steps.closed_of_boundary :
    ∀ {l : Level} (rest : Steps l) {r : Text}, Boundary l r → rest.Closed r
  | _, .nil, _, h => h.not_startsStep
  | _, .cons _ _ operand rest, _, h =>
      ⟨operand.closed_of_boundary (h.operand.steps_append rest), rest.closed_of_boundary h⟩
end

/-- An operand in a chain is closed if steps follow it, whatever comes after them. -/
theorem Tree.closed_before {l : Level} (t : Tree l.operand) (rest : Steps l) {r : Text}
    (h : rest = .nil → t.Closed r) : t.Closed (rest.text ++ r) := by
  cases rest with
  | nil => exact h rfl
  | cons op hop operand rest => exact t.closed_of_boundary (boundary_operator hop _)

/-! ## The longest tree -/

/-- The steps derive a start of the text, and no steps of the level derive a longer one. -/
def Steps.IsLongest {l : Level} (rest : Steps l) (s : Text) : Prop :=
  rest.text <+: s ∧ ∀ rest' : Steps l, rest'.text <+: s → rest'.text.length ≤ rest.text.length

/-- Some tree at the start of a text is the longest, if there is one at all. -/
theorem exists_isLongest {l : Level} {s : Text} (h : ∃ t : Tree l, t.text <+: s) :
    ∃ t : Tree l, t.IsLongest s := by
  -- Of all trees at the start of the text, one leaves the least of it.
  obtain ⟨t, ht, hmin⟩ := (measure fun t : Tree l => s.length - t.text.length).wf.has_min
    { t | t.text <+: s } h
  refine ⟨t, ht, fun t' ht' => ?_⟩
  have hle : ¬ s.length - t'.text.length < s.length - t.text.length := hmin t' ht'
  have hlen := ht'.length_le
  omega

mutual
/-- The longest tree is closed: what follows it would make it longer if it continued it. -/
theorem Tree.IsLongest.closed :
    ∀ {l : Level} (t : Tree l) {r : Text}, t.IsLongest (t.text ++ r) → t.Closed r
  | _, .literal n, r, h => by
      rintro d r' rfl
      -- With the digit after it, the literal would be longer.
      have hlonger := h.2 (.literal (n.snoc d)) (by
        show (n.snoc d).text <+: n.text ++ digitSymbol d :: r'
        rw [Literal.text_snoc, List.prefix_append_right_inj]
        exact List.prefix_append [digitSymbol d] r')
      change (n.snoc d).text.length ≤ n.text.length at hlonger
      rw [Literal.text_snoc, List.length_append, List.length_singleton] at hlonger
      omega
  | _, .parens _, _, _ => trivial
  | _, .chain hl first rest, r, h => by
      rw [Tree.chain_text_append] at h
      -- Longer steps behind the same operand would make a longer chain.
      have hrest : rest.IsLongest (rest.text ++ r) := by
        refine ⟨List.prefix_append _ _, fun rest' hrest' => ?_⟩
        have hle := h.2 (.chain hl first rest') ((List.prefix_append_right_inj _).2 hrest')
        change (first.text ++ rest'.text).length ≤ (first.text ++ rest.text).length at hle
        rw [List.length_append, List.length_append] at hle
        omega
      refine ⟨first.closed_before rest fun hnil => ?_, Steps.IsLongest.closed rest hrest⟩
      subst hnil
      -- Without steps, a longer operand would make a longer chain.
      refine Tree.IsLongest.closed first ⟨List.prefix_append _ _, fun first' hfirst' => ?_⟩
      have hle := h.2 (.chain hl first' .nil) (by
        show first'.text ++ [] <+: first.text ++ r
        rwa [List.append_nil])
      change (first'.text ++ []).length ≤ (first.text ++ []).length at hle
      rwa [List.append_nil, List.append_nil] at hle
/-- The longest steps of a chain are closed. -/
theorem Steps.IsLongest.closed :
    ∀ {l : Level} (rest : Steps l) {r : Text}, rest.IsLongest (rest.text ++ r) → rest.Closed r
  | _, .nil, r, h => by
      rintro ⟨op, hop, operand, r', rfl⟩
      -- The step that follows would make longer steps.
      have hle := h.2 (.cons op hop operand .nil) (by
        show op.symbol :: (operand.text ++ []) <+: op.symbol :: (operand.text ++ r')
        rw [List.append_nil, List.cons_prefix_cons]
        exact ⟨rfl, List.prefix_append _ _⟩)
      exact absurd hle (Nat.not_succ_le_zero _)
  | l, .cons op hop operand rest, r, h => by
      rw [Steps.cons_text_append] at h
      have hlonger : ∀ (operand' : Tree l.operand) (rest' : Steps l),
          operand'.text ++ rest'.text <+: operand.text ++ (rest.text ++ r) →
            (operand'.text ++ rest'.text).length ≤ (operand.text ++ rest.text).length := by
        intro operand' rest' hpre
        have hle := h.2 (.cons op hop operand' rest') (List.cons_prefix_cons.2 ⟨rfl, hpre⟩)
        exact Nat.le_of_succ_le_succ hle
      have hrest : rest.IsLongest (rest.text ++ r) := by
        refine ⟨List.prefix_append _ _, fun rest' hrest' => ?_⟩
        have hle := hlonger operand rest' ((List.prefix_append_right_inj _).2 hrest')
        rw [List.length_append, List.length_append] at hle
        omega
      refine ⟨operand.closed_before rest fun hnil => ?_, Steps.IsLongest.closed rest hrest⟩
      subst hnil
      refine Tree.IsLongest.closed operand ⟨List.prefix_append _ _, fun operand' hoperand' => ?_⟩
      have hle := hlonger operand' .nil (by
        show operand'.text ++ [] <+: operand.text ++ r
        rwa [List.append_nil])
      change (operand'.text ++ []).length ≤ (operand.text ++ []).length at hle
      rwa [List.append_nil, List.append_nil] at hle
end

/-! ## Unambiguity -/

mutual
/-- Two closed trees of one level that start the same text are the same tree. -/
theorem Tree.text_append_inj : ∀ {l : Level} (t t' : Tree l) {r r' : Text}, t.Closed r →
    t'.Closed r' → t.text ++ r = t'.text ++ r' → t = t' ∧ r = r'
  | _, .literal n, .literal m, _, _, hr, hr', h => by
      obtain ⟨rfl, rfl⟩ := Literal.text_append_inj hr hr' h
      exact ⟨rfl, rfl⟩
  -- A literal does not start with a parenthesis.
  | _, .literal n, .parens _, _, _, _, _, h => absurd h (n.text_append_ne_paren _ _)
  | _, .parens _, .literal m, _, _, _, _, h => absurd h.symm (m.text_append_ne_paren _ _)
  | _, .parens inner, .parens inner', r, r', _, _, h => by
      rw [Tree.parens_text_append, Tree.parens_text_append] at h
      obtain ⟨rfl, hrest⟩ := inner.text_append_inj inner'
        (inner.closed_of_boundary (boundary_paren _ r))
        (inner'.closed_of_boundary (boundary_paren _ r')) (List.cons.inj h).2
      exact ⟨rfl, (List.cons.inj hrest).2⟩
  | _, .chain hl first rest, .chain _ first' rest', r, r', hr, hr', h => by
      rw [Tree.chain_text_append, Tree.chain_text_append] at h
      obtain ⟨rfl, hsteps⟩ := first.text_append_inj first' hr.1 hr'.1 h
      obtain ⟨rfl, rfl⟩ := rest.text_append_inj rest' hr.2 hr'.2 hsteps
      exact ⟨rfl, rfl⟩
  -- A chain is no factor, so no other two shapes are of one level.
  | _, .chain hl _ _, .literal _, _, _, _, _, _ => absurd rfl hl
  | _, .chain hl _ _, .parens _, _, _, _, _, _ => absurd rfl hl
  | _, .literal _, .chain hl _ _, _, _, _, _, _ => absurd rfl hl
  | _, .parens _, .chain hl _ _, _, _, _, _, _ => absurd rfl hl
/-- Closed steps of one level that start the same text are the same steps. -/
theorem Steps.text_append_inj : ∀ {l : Level} (rest rest' : Steps l) {r r' : Text},
    rest.Closed r → rest'.Closed r' → rest.text ++ r = rest'.text ++ r' → rest = rest' ∧ r = r'
  | _, .nil, .nil, _, _, _, _, h => ⟨rfl, h⟩
  -- Where the steps of one chain end, the other chain goes on with a step.
  | _, .nil, .cons op hop operand rest', _, r', hr, _, h => by
      rw [Steps.cons_text_append] at h
      exact absurd ⟨op, hop, operand, rest'.text ++ r', h⟩ hr
  | _, .cons op hop operand rest, .nil, r, _, _, hr', h => by
      rw [Steps.cons_text_append] at h
      exact absurd ⟨op, hop, operand, rest.text ++ r, h.symm⟩ hr'
  | _, .cons op hop operand rest, .cons op' hop' operand' rest', r, r', hr, hr', h => by
      rw [Steps.cons_text_append, Steps.cons_text_append] at h
      obtain ⟨hsymbol, htail⟩ := List.cons.inj h
      obtain rfl := symbol_injective hsymbol
      obtain ⟨rfl, hsteps⟩ := operand.text_append_inj operand' hr.1 hr'.1 htail
      obtain ⟨rfl, rfl⟩ := rest.text_append_inj rest' hr.2 hr'.2 hsteps
      exact ⟨rfl, rfl⟩
end

/-- The grammar is unambiguous: a text has at most one derivation from a level. -/
theorem Tree.text_injective {l : Level} {t t' : Tree l} (h : t.text = t'.text) : t = t' := by
  have hclosed : ∀ t : Tree l, t.Closed [] := fun t => t.closed_of_boundary (boundary_nil l)
  exact (t.text_append_inj t' (hclosed t) (hclosed t') (by rw [h])).1

end Arithmetic

end ExprCalc
