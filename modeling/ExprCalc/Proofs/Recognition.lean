import ExprCalc.Arithmetic.Unfolding
import ExprCalc.Proofs.Derivation

/-!
# What the arithmetic parsers read

The parser of a level reads the longest derivation of the level at the start of the text, and
fails only where there is none (`checked_longest_derivation`).

Two facts carry this. Every reading consumes the text of a tree (`Level.derives_checked`), which
follows the structure of the parsers. And a tree that is closed by what follows it is read as it
stands, and nothing more (`Tree.checked_append`), which follows the structure of the tree. The
longest tree is closed, so no comparison of readings is needed. Whether the arithmetic in the text
has a value plays no part: `Tree.value` is what the parser makes of the numbers in a tree, and it
is `none` where the arithmetic fails.
-/

set_option autoImplicit false

namespace ExprCalc

namespace Arithmetic

open ExprCalc.Parser

mutual
/-- The value that the parsers give to a tree. -/
def Tree.value : {l : Level} → Tree l → Option Int64
  | _, .literal n => n.word?
  | _, .parens inner => inner.value
  | _, .chain _ first rest => foldChain first.value rest.values
/-- The operators and the values of the operands in the steps of a chain. -/
def Steps.values : {l : Level} → Steps l → List (Operator × Option Int64)
  | _, .nil => []
  | _, .cons op _ operand rest => (op, operand.value) :: rest.values
end

/-! ## Rules by level -/

/-- The parser for one step of a chain: an operator of the level and an operand. -/
def Level.stepParser (l : Level) : Parser (Operator × Option Int64) :=
  (operator l.symbols).andThen l.operand.checked

theorem checked_chain {l : Level} (hl : l ≠ .factor) :
    l.checked = (l.operand.checked.andThen (many l.stepParser)).map fun (first, rest) =>
      foldChain first rest := by
  cases l with
  | expression => exact Level.checked_eq.1
  | term => exact Level.checked_eq.2.1
  | factor => exact absurd rfl hl

theorem checked_factor : Level.factor.checked =
    signedNumeral.orElse (between (char '(') (Level.checked .expression) (char ')')) :=
  Level.checked_eq.2.2

theorem operator_cons {l : Level} {op : Operator} (hop : op ∈ l.operators) (s : Text) :
    operator l.symbols (op.symbol :: s) = [⟨op, s⟩] := by
  have hmem : op.symbol ∈ l.symbols := List.mem_map_of_mem hop
  have hread : oneOf l.symbols (op.symbol :: s) = [⟨op.symbol, s⟩] := by simp [hmem]
  rw [operator, filterMap_of_eq_singleton hread, Operator.ofSymbol?_symbol]
  rfl

/-- An operator that is read is one of the level, and stands at the start of the text. -/
theorem exists_of_mem_operator {l : Level} {s : Text} {r : Reading Operator}
    (h : r ∈ operator l.symbols s) : r.value ∈ l.operators ∧ s = r.value.symbol :: r.rest := by
  obtain ⟨a, ha, hvalue, hrest⟩ := mem_filterMap.1 h
  obtain ⟨hset, hcons⟩ := eq_cons_of_mem_oneOf ha
  obtain ⟨op, hop, hsymbol⟩ := List.mem_map.1 hset
  rw [← hsymbol, Operator.ofSymbol?_symbol, Option.some.injEq] at hvalue
  rw [← hvalue, hsymbol, ← hrest]
  exact ⟨hop, hcons⟩

/-- A step is read where its operator stands, as far as its operand is. -/
theorem stepParser_cons {l : Level} {op : Operator} (hop : op ∈ l.operators) {s r : Text}
    {v : Option Int64} (h : l.operand.checked s = [⟨v, r⟩]) :
    l.stepParser (op.symbol :: s) = [⟨(op, v), r⟩] :=
  andThen_of_eq_singleton (operator_cons hop s) h

/-! ## Readings are derivations -/

/-- Every reading consumes the text of a tree of the level. -/
def Level.Derives (l : Level) (p : Parser (Option Int64)) : Prop :=
  ∀ s, ∀ r ∈ p s, ∃ t : Tree l, t.text ++ r.rest = s

theorem derives_factorWith {inner : Parser (Option Int64)} (h : Level.expression.Derives inner) :
    Level.factor.Derives (factorWith inner) := by
  intro s r hr
  rcases mem_of_mem_orElse hr with hr | hr
  · obtain ⟨n, hn, -⟩ := exists_literal_of_mem hr
    exact ⟨.literal n, hn⟩
  · obtain ⟨o, ho, c, hc, e, he, rfl⟩ := mem_between.1 hr
    obtain ⟨t, ht⟩ := h o.rest c hc
    refine ⟨.parens t, ?_⟩
    rw [Tree.parens_text_append, eq_cons_of_mem_char ho, ← ht, eq_cons_of_mem_char he]

/-- Repeated steps consume the text of the steps of a chain. -/
theorem exists_steps_of_greedy {l : Level} {p : Parser (Option Int64)} (h : l.operand.Derives p)
    (s : Text) :
    ∃ rest : Steps l, rest.text ++ (greedy ((operator l.symbols).andThen p) s).rest = s := by
  fun_induction Parser.greedy ((operator l.symbols).andThen p) s with
  | case1 s hs => exact ⟨.nil, rfl⟩
  | case2 s r hs hlt tail ih =>
      obtain ⟨rest, hrest⟩ := ih
      obtain ⟨a, ha, b, hb, rfl⟩ := mem_andThen.1 (List.mem_of_head? hs)
      obtain ⟨hop, hcons⟩ := exists_of_mem_operator ha
      obtain ⟨operand, hoperand⟩ := h a.rest b hb
      refine ⟨.cons a.value hop operand rest, ?_⟩
      show (Steps.cons a.value hop operand rest).text ++ tail.rest = s
      rw [Steps.cons_text_append, hrest, hoperand, ← hcons]
  | case3 s r hs hlt =>
      -- The chain ends here as well: a step that does not shorten the text is not taken.
      exact ⟨.nil, rfl⟩

theorem derives_chain {l : Level} (hl : l ≠ .factor) {p : Parser (Option Int64)}
    (h : l.operand.Derives p) : l.Derives (chain p l.symbols) := by
  intro s r hr
  obtain ⟨a, ha, rfl⟩ := mem_map.1 hr
  obtain ⟨b, hb, c, hc, rfl⟩ := mem_andThen.1 ha
  obtain ⟨first, hfirst⟩ := h s b hb
  obtain ⟨rest, hrest⟩ := exists_steps_of_greedy h b.rest
  obtain rfl := List.mem_singleton.1 hc
  refine ⟨.chain hl first rest, ?_⟩
  rw [Tree.chain_text_append, ← hfirst]
  exact congrArg (first.text ++ ·) hrest

theorem derives_termWith {inner : Parser (Option Int64)} (h : Level.expression.Derives inner) :
    Level.term.Derives (termWith inner) :=
  derives_chain (by decide) (derives_factorWith h)

theorem derives_expressionWith {inner : Parser (Option Int64)}
    (h : Level.expression.Derives inner) : Level.expression.Derives (expressionWith inner) :=
  derives_chain (by decide) (derives_termWith h)

theorem derives_expressionWithin (n : Nat) : Level.expression.Derives (expressionWithin n) := by
  -- The parser within a nesting runs the parser within one less between its parentheses.
  induction n with
  | zero =>
      intro s r hr
      cases hr
  | succ n ih => exact derives_expressionWith ih

/-- Every reading of a level consumes the text of a tree of this level. -/
theorem Level.derives_checked (l : Level) : l.Derives l.checked := by
  have hnested : Level.expression.Derives nested :=
    fun s => derives_expressionWithin (s.length + 1) s
  cases l with
  | expression => exact derives_expressionWith hnested
  | term => exact derives_termWith hnested
  | factor => exact derives_factorWith hnested

/-- The parser of a level fails where no tree of the level starts the text. -/
theorem checked_eq_nil {l : Level} {s : Text} (h : ∀ t : Tree l, ¬ t.text <+: s) :
    l.checked s = [] := by
  rw [List.eq_nil_iff_forall_not_mem]
  intro r hr
  obtain ⟨t, ht⟩ := l.derives_checked s r hr
  exact h t ⟨r.rest, ht⟩

/-! ## Closed derivations are read -/

/-- No step is read where no step starts the text. -/
theorem stepParser_eq_nil {l : Level} {r : Text} (h : ¬ StartsStep l r) : l.stepParser r = [] := by
  rw [List.eq_nil_iff_forall_not_mem]
  intro x hx
  obtain ⟨a, ha, b, hb, -⟩ := mem_andThen.1 hx
  obtain ⟨hop, hcons⟩ := exists_of_mem_operator ha
  obtain ⟨operand, hoperand⟩ := l.operand.derives_checked a.rest b hb
  exact h ⟨a.value, hop, operand, b.rest, by rw [hcons, hoperand]⟩

mutual
/-- A closed tree is read as it stands, and nothing of what follows it. -/
theorem Tree.checked_append : ∀ {l : Level} (t : Tree l) {r : Text}, t.Closed r →
    l.checked (t.text ++ r) = [⟨t.value, r⟩]
  | _, .literal n, r, h => by
      have hread : signedNumeral ((Tree.literal n).text ++ r) = [⟨n.word?, r⟩] :=
        signedNumeral_literal_append n h
      rw [checked_factor]
      exact orElse_of_eq_singleton hread
  | _, .parens inner, r, _ => by
      -- What follows the tree inside is a closing parenthesis, and that closes every tree.
      have hinner := inner.checked_append (inner.closed_of_boundary (boundary_paren _ r))
      have hparen : ∀ (c : Char) (s : Text), char c (c :: s) = [⟨c, s⟩] := by simp
      rw [checked_factor, Tree.parens_text_append, orElse_of_eq_nil (signedNumeral_paren _)]
      exact between_of_eq_singleton (hparen _ _) hinner (hparen _ _)
  | l, .chain hl first rest, r, h => by
      have hfirst := first.checked_append h.1
      have hrest : many l.stepParser (rest.text ++ r) = [⟨rest.values, r⟩] := by
        rw [many, rest.greedy_append h.2]
      rw [checked_chain hl, Tree.chain_text_append]
      exact map_of_eq_singleton (andThen_of_eq_singleton hfirst hrest) _
/-- The steps of a chain that are closed are read as they stand, and no step after them. -/
theorem Steps.greedy_append : ∀ {l : Level} (rest : Steps l) {r : Text}, rest.Closed r →
    greedy l.stepParser (rest.text ++ r) = ⟨rest.values, r⟩
  | _, .nil, r, h => greedy_of_eq_nil (stepParser_eq_nil h)
  | l, .cons op hop operand rest, r, h => by
      have hoperand := operand.checked_append h.1
      have hrest := rest.greedy_append h.2
      have hstep : l.stepParser ((Steps.cons op hop operand rest).text ++ r) =
          [⟨(op, operand.value), rest.text ++ r⟩] := by
        rw [Steps.cons_text_append]
        exact stepParser_cons hop hoperand
      have hlt : (rest.text ++ r).byteCount <
          ((Steps.cons op hop operand rest).text ++ r).byteCount := by
        rw [Steps.cons_text_append]
        exact Text.byteCount_lt_cons_append _ _ _
      rw [greedy_of_lt (by rw [hstep]; rfl) hlt, hrest]
      rfl
end

/-- A whole text that a tree derives is read to its end. -/
theorem Tree.checked_text {l : Level} (t : Tree l) : l.checked t.text = [⟨t.value, []⟩] := by
  have h := t.checked_append (t.closed_of_boundary (boundary_nil l))
  rwa [List.append_nil] at h

/-- The longest tree at the start of a text is what is read. -/
theorem Tree.IsLongest.checked_eq {l : Level} {t : Tree l} {s : Text} (h : t.IsLongest s) :
    ∃ r, t.text ++ r = s ∧ l.checked s = [⟨t.value, r⟩] := by
  obtain ⟨⟨r, rfl⟩, hmax⟩ := h
  have hclosed := Tree.IsLongest.closed t ⟨List.prefix_append _ _, hmax⟩
  exact ⟨r, rfl, t.checked_append hclosed⟩

/-! ## The levels without failed arithmetic -/

/-- A reading whose arithmetic failed is dropped. -/
theorem parser_of_checked {l : Level} {s rest : Text} {v : Option Int64}
    (h : l.checked s = [⟨v, rest⟩]) : l.parser s = v.toList.map fun w => ⟨w, rest⟩ :=
  filterMap_of_eq_singleton h id

/-- The levels without failed arithmetic read the longest tree first, if the tree has a value. -/
theorem head?_parser_eq_some_iff {l : Level} {s rest : Text} {v : Int64} :
    (l.parser s).head? = some ⟨v, rest⟩ ↔
      ∃ t : Tree l, t.IsLongest s ∧ t.text ++ rest = s ∧ t.value = some v := by
  constructor
  · intro h
    obtain ⟨a, ha, hvalue, hrest⟩ := mem_filterMap.1 (List.mem_of_head? h)
    obtain ⟨t₀, ht₀⟩ := l.derives_checked s a ha
    obtain ⟨t, ht⟩ := exists_isLongest ⟨t₀, a.rest, ht₀⟩
    obtain ⟨r, htext, hread⟩ := ht.checked_eq
    rw [hread] at ha
    obtain rfl := List.mem_singleton.1 ha
    subst hrest
    exact ⟨t, ht, htext, hvalue⟩
  · rintro ⟨t, ht, htext, hvalue⟩
    obtain ⟨r, hr, hread⟩ := ht.checked_eq
    obtain rfl : r = rest := List.append_cancel_left (hr.trans htext.symm)
    rw [parser_of_checked hread, hvalue]
    rfl

/-! ## Maximal munch -/

/-- The parser of a level fails where no tree of the level derives a start of the text, and only
there. Otherwise it has one reading, whose remainder is what the longest derivable start leaves of
the text, and this start has one tree only. The value of the reading is free, so it makes no
difference to the text that is read whether the arithmetic in it succeeds. -/
theorem checked_longest_derivation (l : Level) (s : Text) :
    (l.checked s = [] ↔ ∀ t : Tree l, ¬ t.text <+: s) ∧
      (l.checked s = [] ∨
        ∃ (v : Option Int64) (rest : Text) (t : Tree l),
          l.checked s = [⟨v, rest⟩] ∧ t.text ++ rest = s ∧ t.IsLongest s ∧
            ∀ t' : Tree l, t'.text = t.text → t' = t) := by
  by_cases h : ∃ t : Tree l, t.text <+: s
  · obtain ⟨t, ht⟩ := exists_isLongest h
    obtain ⟨rest, htext, hread⟩ := ht.checked_eq
    refine ⟨?_, Or.inr ⟨t.value, rest, t, hread, htext, ht, fun t' => Tree.text_injective⟩⟩
    constructor
    · intro hnil
      rw [hread] at hnil
      cases hnil
    · intro hnone
      exact absurd ht.1 (hnone t)
  · have hnone : ∀ t : Tree l, ¬ t.text <+: s := fun t ht => h ⟨t, ht⟩
    exact ⟨⟨fun _ => hnone, checked_eq_nil⟩, Or.inl (checked_eq_nil hnone)⟩

end Arithmetic

end ExprCalc
