import ExprCalc.Proofs.Attempt
import ExprCalc.Proofs.Evaluation
import Mathlib.Data.Nat.Find

/-!
# How deep the expression parser recurses

The parser for expressions runs itself between parentheses, also where no closing parenthesis
follows and the reading comes to nothing. `bounded n` is this parser with a budget of `n`
expressions that may be open one inside another; it is called off when one more is opened. The
recursion depth of a text (`recursionDepth`) is the least budget that suffices, that is, the
largest number of expressions open one inside another at any moment.

The scan of the parentheses bounds this number (`bounded_of_deepest_lt`). The invariant is that the
parser opens an expression only where the count of the scan is the number of expressions that are
open around it: between an opening parenthesis and any text that the parser has got to, it has
consumed derivations and operators, and these leave the count as it was (`Outside`). On a
derivation the bound is met, for the parser has to enter every pair of parentheses in it
(`Tree.nesting_le_of_attempt`).
-/

set_option autoImplicit false

namespace ExprCalc

namespace Arithmetic

open ExprCalc.Attempt

/-! ## The parsers of the levels as attempts -/

/-- One operand, then as many pairs of an operator and an operand as there are. -/
def chainAttempt (operand : Attempt (Option Int64)) (symbols : Text) : Attempt (Option Int64) :=
  (operand.andThen (many ((ofParser (Parser.operator symbols)).andThen operand))).map
    fun (first, rest) => foldChain first rest

/-- An integer, or else what `inner` reads between parentheses. -/
def factorAttempt (inner : Attempt (Option Int64)) : Attempt (Option Int64) :=
  (ofParser Parser.signedNumeral).orElse
    (between (ofParser (Parser.char '(')) inner (ofParser (Parser.char ')')))

/-- The parser of a level, with the attempt `inner` between parentheses. -/
def Level.attempt (inner : Attempt (Option Int64)) : Level → Attempt (Option Int64)
  | factor => factorAttempt inner
  | term => chainAttempt (factorAttempt inner) Level.term.symbols
  | expression =>
      chainAttempt (chainAttempt (factorAttempt inner) Level.term.symbols) Level.expression.symbols

/-- The parser for expressions, called off when more than `n` expressions are open one inside
another. -/
def bounded : Nat → Attempt (Option Int64)
  | 0, _ => none
  | n + 1, s => Level.expression.attempt (bounded n) s

theorem attempt_chain {l : Level} (hl : l ≠ .factor) (inner : Attempt (Option Int64)) :
    l.attempt inner = chainAttempt (l.operand.attempt inner) l.symbols := by
  cases l with
  | expression => rfl
  | term => rfl
  | factor => exact absurd rfl hl

theorem chainAttempt_ofParser (p : Parser (Option Int64)) (symbols : Text) :
    chainAttempt (ofParser p) symbols = ofParser (chain p symbols) := by
  rw [chainAttempt, ofParser_andThen, ofParser_many, ofParser_andThen, ofParser_map, chain]

/-- Without a budget, the attempt of a level is the parser of the level. -/
theorem attempt_ofParser (l : Level) :
    l.attempt (ofParser (Level.checked .expression)) = ofParser l.checked := by
  have hfactor : factorAttempt (ofParser (Level.checked .expression)) =
      ofParser (Level.checked .factor) := by
    rw [factorAttempt, ofParser_between, ofParser_orElse, checked_factor]
  obtain ⟨hexpression, hterm, -⟩ := Level.checked_eq
  cases l with
  | factor => exact hfactor
  | term =>
      rw [Level.attempt, hfactor, chainAttempt_ofParser, hterm]
      rfl
  | expression =>
      rw [Level.attempt, hfactor, chainAttempt_ofParser, chainAttempt_ofParser, hexpression, hterm]
      rfl

/-! ## Exchange of the attempt between parentheses -/

section Exchange

variable {P : Text → Prop}

theorem follows_chainAttempt {p q : Attempt (Option Int64)} (h : Follows P q p) (hstay : Stays P p)
    {symbols : Text} (hop : Stays P (ofParser (Parser.operator symbols))) :
    Follows P (chainAttempt q symbols) (chainAttempt p symbols) := by
  have hstep := (Follows.refl (ofParser (Parser.operator symbols))).andThen hop h
  exact (h.andThen hstay (hstep.many (hop.andThen hstay))).map _

theorem follows_factorAttempt {inner inner' : Attempt (Option Int64)}
    (h : ∀ s, P ('(' :: s) → ∀ rs, inner s = some rs → inner' s = some rs) :
    Follows P (factorAttempt inner') (factorAttempt inner) := by
  refine (Follows.refl _).orElse (Follows.between fun s hs o ho => ?_)
  refine h o.rest ?_
  rwa [Parser.eq_cons_of_mem_char ho] at hs

/-- The attempt between parentheses matters only after an opening parenthesis. -/
theorem Level.follows_attempt {inner inner' : Attempt (Option Int64)}
    (h : ∀ s, P ('(' :: s) → ∀ rs, inner s = some rs → inner' s = some rs)
    (hstay : ∀ l : Level, Stays P (l.attempt inner))
    (hop : ∀ l : Level, Stays P (ofParser (Parser.operator l.symbols))) (l : Level) :
    Follows P (l.attempt inner') (l.attempt inner) := by
  have hfactor := follows_factorAttempt h
  have hterm := follows_chainAttempt hfactor (hstay .factor) (hop .term)
  cases l with
  | factor => exact hfactor
  | term => exact hterm
  | expression => exact follows_chainAttempt hterm (hstay .term) (hop .expression)

end Exchange

/-- Where an attempt between parentheses answers like another one wherever that answers, the levels
do so as well. -/
theorem Level.attempt_eq_some {inner inner' : Attempt (Option Int64)}
    (h : ∀ s rs, inner s = some rs → inner' s = some rs) (l : Level) {s : Text}
    {rs : List (Reading (Option Int64))} (hrs : l.attempt inner s = some rs) :
    l.attempt inner' s = some rs := by
  have hstay : ∀ p : Attempt (Option Int64), Stays (fun _ => True) p :=
    fun _ _ _ _ _ _ _ => trivial
  exact Level.follows_attempt (P := fun _ => True) (fun s _ => h s) (fun l => hstay _)
    (fun _ _ _ _ _ _ _ => trivial) l s trivial rs hrs

/-! ## Budgets -/

/-- A larger budget changes no answer. -/
theorem bounded_succ {n : Nat} {s : Text} {rs : List (Reading (Option Int64))}
    (h : bounded n s = some rs) : bounded (n + 1) s = some rs := by
  induction n generalizing s rs with
  | zero => cases h
  | succ n ih => exact Level.attempt_eq_some (fun _ _ => ih) .expression h

theorem bounded_mono {m n : Nat} (hmn : m ≤ n) {s : Text} {rs : List (Reading (Option Int64))}
    (h : bounded m s = some rs) : bounded n s = some rs := by
  induction hmn with
  | refl => exact h
  | step _ ih => exact bounded_succ ih

/-- A run within its budget has the readings of the parser. -/
theorem bounded_eq_checked {n : Nat} {s : Text} {rs : List (Reading (Option Int64))}
    (h : bounded n s = some rs) : rs = Level.checked .expression s := by
  induction n generalizing s rs with
  | zero => cases h
  | succ n ih =>
      have hparser : Level.expression.attempt (ofParser (Level.checked .expression)) s = some rs :=
        Level.attempt_eq_some (fun t ts ht => by rw [ih ht]; rfl) .expression h
      rw [attempt_ofParser] at hparser
      exact (Option.some.inj hparser).symm

theorem attempt_bounded_eq_checked {n : Nat} {l : Level} {s : Text}
    {rs : List (Reading (Option Int64))} (h : l.attempt (bounded n) s = some rs) :
    rs = l.checked s := by
  have hparser : l.attempt (ofParser (Level.checked .expression)) s = some rs :=
    Level.attempt_eq_some (fun t ts ht => by rw [bounded_eq_checked ht]; rfl) l h
  rw [attempt_ofParser] at hparser
  exact (Option.some.inj hparser).symm

/-! ## The scan bounds the budget -/

/-- The end `t` of the text `s`, where the scan that starts with the count `k` has this count
again: what stands before `t` has closed the parentheses that it has opened. -/
def Outside (k : Nat) (s t : Text) : Prop :=
  ∃ c, c ++ t = s ∧ ((Nesting.mk k k).scan c).level = k

theorem Outside.stays_checked (k : Nat) (s : Text) (l : Level) :
    Stays (Outside k s) (ofParser l.checked) := by
  refine Stays.ofParser ?_
  rintro t ⟨c, rfl, hc⟩ r hr
  -- A reading consumes a derivation, and past a derivation the count is what it was.
  obtain ⟨tree, rfl⟩ := l.derives_checked t r hr
  refine ⟨c ++ tree.text, List.append_assoc _ _ _, ?_⟩
  have hlevel := Nesting.level_le_deepest_scan (n := ⟨k, k⟩) (Nat.le_refl k) c
  rw [Nesting.scan_append, tree.scan_text hlevel]
  exact hc

theorem Outside.stays_operator (k : Nat) (s : Text) (l : Level) :
    Stays (Outside k s) (ofParser (Parser.operator l.symbols)) := by
  refine Stays.ofParser ?_
  rintro t ⟨c, rfl, hc⟩ r hr
  obtain ⟨-, hcons⟩ := exists_of_mem_operator hr
  obtain ⟨hopen, hclose⟩ := symbol_ne_parens r.value
  refine ⟨c ++ [r.value.symbol], ?_, ?_⟩
  · rw [hcons, List.append_assoc]
    rfl
  · rw [Nesting.scan_append, Nesting.scan_cons, Nesting.step_of_ne _ hopen hclose,
      Nesting.scan_nil]
    exact hc

/-- After an opening parenthesis the scan meets no more with the count one higher. -/
theorem Outside.deepest_le {k : Nat} {s t : Text} (h : Outside k s ('(' :: t)) :
    ((Nesting.mk (k + 1) (k + 1)).scan t).deepest ≤ ((Nesting.mk k k).scan s).deepest := by
  obtain ⟨c, rfl, hc⟩ := h
  rw [Nesting.scan_append, Nesting.scan_cons, Nesting.step_open, hc]
  refine Nesting.scan_mono (m := ⟨k + 1, k + 1⟩) ?_ ?_ t
  · rfl
  · exact Nat.le_max_right _ _

/-- The scan bounds the recursion: a budget that covers the depth that the scan meets beyond its
first count is enough. -/
theorem bounded_of_deepest_lt {n k : Nat} {s : Text}
    (h : ((Nesting.mk k k).scan s).deepest < k + n) :
    bounded n s = some (Level.checked .expression s) := by
  induction n generalizing k s with
  | zero =>
      -- The scan starts with the depth `k`, so it has met this much.
      have hk := Nesting.deepest_le_scan ⟨k, k⟩ s
      change k ≤ _ at hk
      omega
  | succ n ih =>
      have hinner : ∀ t, Outside k s ('(' :: t) → ∀ rs,
          ofParser (Level.checked .expression) t = some rs → bounded n t = some rs := by
        intro t ht rs hrs
        -- Behind the parenthesis the count is `k + 1`, and one expression less may be opened.
        have hle := ht.deepest_le
        rw [ih (k := k + 1) (by omega)]
        exact hrs
      have hstay : ∀ l : Level,
          Stays (Outside k s) (l.attempt (ofParser (Level.checked .expression))) := by
        intro l
        rw [attempt_ofParser]
        exact Outside.stays_checked k s l
      have hfollows := Level.follows_attempt hinner hstay (Outside.stays_operator k s) .expression
      rw [attempt_ofParser] at hfollows
      exact hfollows s ⟨[], rfl, rfl⟩ _ rfl

/-- The scan of the whole text gives a budget that is enough for it. -/
theorem bounded_depth_succ (s : Text) :
    bounded (Nesting.depth s + 1) s = some (Level.checked .expression s) := by
  refine bounded_of_deepest_lt (k := 0) ?_
  show Nesting.depth s < 0 + (Nesting.depth s + 1)
  omega

theorem exists_budget (s : Text) : ∃ n, (bounded n s).isSome = true :=
  ⟨Nesting.depth s + 1, by rw [bounded_depth_succ]; rfl⟩

/-- The largest number of expressions open one inside another while the text is parsed as an
expression, the outermost one included: the least budget with which the parser is not called
off. -/
def recursionDepth (s : Text) : Nat := Nat.find (exists_budget s)

theorem recursionDepth_le (s : Text) : recursionDepth s ≤ Nesting.depth s + 1 :=
  Nat.find_min' (exists_budget s) (by rw [bounded_depth_succ]; rfl)

/-- The two expressions that are opened here come to nothing, and count. -/
example : recursionDepth "1+((".toList = 3 := by decide +kernel

/-- A budget is enough if and only if it covers the recursion depth. -/
theorem bounded_eq (n : Nat) (s : Text) :
    bounded n s =
      if recursionDepth s ≤ n then some (Level.checked .expression s) else none := by
  split
  · next hle =>
      obtain ⟨rs, hrs⟩ := Option.isSome_iff_exists.1 (Nat.find_spec (exists_budget s))
      have hn := bounded_mono hle hrs
      rw [hn, bounded_eq_checked hn]
  · next hlt =>
      rw [← Option.not_isSome_iff_eq_none]
      exact Nat.find_min (exists_budget s) (Nat.lt_of_not_le hlt)

/-! ## Derivations need the whole budget -/

theorem exists_of_factorAttempt_paren {inner : Attempt (Option Int64)} {s : Text}
    {rs : List (Reading (Option Int64))} (h : factorAttempt inner ('(' :: s) = some rs) :
    ∃ cs, inner s = some cs := by
  have hbetween : between (ofParser (Parser.char '(')) inner (ofParser (Parser.char ')'))
      ('(' :: s) = some rs := by
    simp only [factorAttempt, orElse, ofParser, Parser.signedNumeral_paren] at h
    exact h
  obtain ⟨os, hos, hcollect⟩ := Option.bind_eq_some_iff.1 hbetween
  obtain rfl := Option.some.inj hos
  rw [Parser.char_cons, if_pos rfl] at hcollect
  obtain ⟨bs, hbs⟩ := exists_of_collect hcollect _ List.mem_cons_self
  obtain ⟨cs, hcs, -⟩ := Option.bind_eq_some_iff.1 hbs
  exact ⟨cs, hcs⟩

theorem exists_of_chainAttempt {operand : Attempt (Option Int64)} {symbols s : Text}
    {rs : List (Reading (Option Int64))} (h : chainAttempt operand symbols s = some rs) :
    ∃ as, operand s = some as ∧ ∀ a ∈ as,
      ∃ b, greedy ((ofParser (Parser.operator symbols)).andThen operand) a.rest = some b := by
  obtain ⟨bs, hbs, -⟩ := Option.map_eq_some_iff.1 h
  obtain ⟨as, has, hcollect⟩ := Option.bind_eq_some_iff.1 hbs
  refine ⟨as, has, fun a ha => ?_⟩
  obtain ⟨cs, hcs⟩ := exists_of_collect hcollect a ha
  obtain ⟨ds, hds, -⟩ := Option.map_eq_some_iff.1 hcs
  obtain ⟨b, hb, -⟩ := Option.map_eq_some_iff.1 hds
  exact ⟨b, hb⟩

/-- The readings of a step, and an answer for its operand. -/
theorem exists_of_stepAttempt {l : Level} {op : Operator} (hop : op ∈ l.operators) {n : Nat}
    {s r : Text} {v : Option Int64} (hread : l.operand.checked s = [⟨v, r⟩])
    {rs : List (Reading (Operator × Option Int64))}
    (h : (ofParser (Parser.operator l.symbols)).andThen (l.operand.attempt (bounded n))
      (op.symbol :: s) = some rs) :
    (∃ bs, l.operand.attempt (bounded n) s = some bs) ∧ rs = [⟨(op, v), r⟩] := by
  obtain ⟨os, hos, hcollect⟩ := Option.bind_eq_some_iff.1 h
  obtain rfl := Option.some.inj hos
  rw [operator_cons hop] at hcollect
  obtain ⟨cs, hcs, hrest⟩ := Option.bind_eq_some_iff.1 hcollect
  obtain ⟨bs, hbs, rfl⟩ := Option.map_eq_some_iff.1 hcs
  obtain ⟨ds, hds, rfl⟩ := Option.map_eq_some_iff.1 hrest
  obtain rfl := Option.some.inj hds
  refine ⟨⟨bs, hbs⟩, ?_⟩
  rw [attempt_bounded_eq_checked hbs, hread]
  rfl

mutual
/-- A budget that is enough for a tree covers its nesting. -/
theorem Tree.nesting_le_of_attempt : ∀ {l : Level} (t : Tree l) {r : Text} {n : Nat}
    {rs : List (Reading (Option Int64))}, t.Closed r →
      l.attempt (bounded n) (t.text ++ r) = some rs → t.nesting ≤ n
  | _, .literal _, _, _, _, _, _ => Nat.zero_le _
  | _, .parens inner, r, n, _, _, h => by
      rw [Tree.parens_text_append] at h
      obtain ⟨cs, hcs⟩ := exists_of_factorAttempt_paren h
      cases n with
      | zero => cases hcs
      | succ n =>
          -- Opening the tree inside takes one from the budget.
          have hclosed := inner.closed_of_boundary (boundary_paren _ r)
          exact Nat.succ_le_succ (inner.nesting_le_of_attempt hclosed hcs)
  | _, .chain hl first rest, r, n, _, hclosed, h => by
      rw [attempt_chain hl, Tree.chain_text_append] at h
      obtain ⟨as, has, hsteps⟩ := exists_of_chainAttempt h
      have hfirst := first.nesting_le_of_attempt hclosed.1 has
      have hread := attempt_bounded_eq_checked has
      rw [first.checked_append hclosed.1] at hread
      obtain ⟨b, hb⟩ := hsteps ⟨first.value, rest.text ++ r⟩ (by
        rw [hread]
        exact List.mem_cons_self)
      exact Nat.max_le.2 ⟨hfirst, rest.nesting_le_of_greedy hclosed.2 hb⟩
/-- A budget that is enough for steps covers the nesting of their operands. -/
theorem Steps.nesting_le_of_greedy : ∀ {l : Level} (rest : Steps l) {r : Text} {n : Nat}
    {b : Reading (List (Operator × Option Int64))}, rest.Closed r →
      greedy ((ofParser (Parser.operator l.symbols)).andThen (l.operand.attempt (bounded n)))
        (rest.text ++ r) = some b → rest.nesting ≤ n
  | _, .nil, _, _, _, _, _ => Nat.zero_le _
  | _, .cons op hop operand rest, r, n, _, hclosed, h => by
      rw [Steps.cons_text_append] at h
      obtain ⟨rs, hrs, htail⟩ := exists_of_greedy h
      obtain ⟨⟨bs, hbs⟩, rfl⟩ := exists_of_stepAttempt hop (operand.checked_append hclosed.1) hrs
      have hoperand := operand.nesting_le_of_attempt hclosed.1 hbs
      have hlt : (rest.text ++ r).byteCount <
          Text.byteCount (op.symbol :: (operand.text ++ (rest.text ++ r))) :=
        Text.byteCount_lt_cons_append _ _ _
      obtain ⟨tail, htail⟩ := htail _ rfl hlt
      exact Nat.max_le.2 ⟨hoperand, rest.nesting_le_of_greedy hclosed.2 htail⟩
end

/-- On the whole text of a tree the recursion is as deep as the tree nests, and the outermost
expression comes on top. -/
theorem Tree.recursionDepth_text (t : Tree .expression) :
    recursionDepth t.text = t.nesting + 1 := by
  have hupper : recursionDepth t.text ≤ t.nesting + 1 := by
    rw [← t.depth_text]
    exact recursionDepth_le t.text
  have hrun := bounded_eq (recursionDepth t.text) t.text
  rw [if_pos (Nat.le_refl _)] at hrun
  cases hd : recursionDepth t.text with
  | zero =>
      rw [hd] at hrun
      cases hrun
  | succ n =>
      rw [hd] at hrun hupper
      have hattempt : Level.expression.attempt (bounded n) (t.text ++ []) =
          some (Level.checked .expression t.text) := by
        rw [List.append_nil]
        exact hrun
      have hlower := t.nesting_le_of_attempt (t.closed_of_boundary (boundary_nil _)) hattempt
      omega

/-! ## The scan before an evaluation -/

/-- The scan of the parentheses bounds the recursion of the parser. A budget changes no reading and
is enough if and only if it covers the recursion depth, which is at most one more than the depth
that the scan finds. So a text that is not turned away for its depth is parsed within one more than
the limit. On a text that is an expression to its end the scan is exact, and the text is turned
away if and only if its parentheses nest beyond the limit. -/
theorem scan_bounds_recursion (s : Text) :
    (∀ n, bounded n s =
        if recursionDepth s ≤ n then some (Level.checked .expression s) else none) ∧
      recursionDepth s ≤ Nesting.depth s + 1 ∧
      (∀ e : Evaluator, (∀ depth limit, e.evaluate s ≠ .error (.tooDeep depth limit)) →
        recursionDepth s ≤ e.maxDepth + 1 ∧
          bounded (e.maxDepth + 1) s = some (Level.checked .expression s)) ∧
      (∀ r ∈ Level.checked .expression s, r.rest = [] →
        recursionDepth s = Nesting.depth s + 1) ∧
      ∀ t : Tree .expression, t.text = s → ∀ e : Evaluator,
        (∃ depth limit, e.evaluate s = .error (.tooDeep depth limit)) ↔ e.maxDepth < t.nesting := by
  refine ⟨fun n => bounded_eq n s, recursionDepth_le s, ?_, ?_, ?_⟩
  · intro e he
    have hdepth := Evaluator.depth_le_of_ne_tooDeep he
    have hle : recursionDepth s ≤ e.maxDepth + 1 :=
      Nat.le_trans (recursionDepth_le s) (Nat.succ_le_succ hdepth)
    exact ⟨hle, by rw [bounded_eq, if_pos hle]⟩
  · intro r hr hnil
    obtain ⟨t, ht⟩ := Level.derives_checked .expression s r hr
    rw [hnil, List.append_nil] at ht
    rw [← ht, t.recursionDepth_text, t.depth_text]
  · rintro t rfl e
    rw [← t.depth_text]
    constructor
    · rintro ⟨depth, limit, h⟩
      exact (Evaluator.evaluate_eq_tooDeep_iff.1 h).1
    · intro h
      exact ⟨_, _, Evaluator.evaluate_eq_tooDeep_iff.2 ⟨h, rfl, rfl⟩⟩

end Arithmetic

end ExprCalc
