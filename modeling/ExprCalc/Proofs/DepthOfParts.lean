import ExprCalc.Proofs.Evaluation
import Mathlib.Order.Bounds.Basic

/-!
# The depth of a text and of its parts

The *surplus* of a text is the number of parentheses that it opens less the number of those that it
closes. The depth of a text is the greatest surplus of its parts, the empty one included
(`Nesting.depth_eq_greatest_surplus`). So a text nests at least as deep as each of its parts, and
what stands inside a text within the limit of an evaluator is within the limit too.

The scan finds the greatest surplus in one pass because it keeps two numbers
(`Nesting.Greatest`): the greatest surplus of the parts so far, and the greatest one of those that
end where the scan stands. A part that ends behind the next character is either empty or ends with
this character, so the step needs the second number only, and never less than zero of it.
-/

set_option autoImplicit false

namespace ExprCalc

/-! ## Surplus -/

namespace Text

/-- How many more parentheses a text opens than it closes. -/
def surplus (s : Text) : Int := (s.count '(' : Int) - s.count ')'

@[simp] theorem surplus_nil : surplus [] = 0 := rfl

theorem surplus_append (s t : Text) : surplus (s ++ t) = surplus s + surplus t := by
  simp only [surplus, List.count_append, Nat.cast_add]
  omega

theorem surplus_singleton (c : Char) :
    surplus [c] = if c = '(' then 1 else if c = ')' then -1 else 0 := by
  by_cases hopen : c = '('
  · subst hopen
    decide
  · by_cases hclose : c = ')'
    · subst hclose
      decide
    · simp [surplus, hopen, hclose]

/-- The surpluses of the parts of a text. -/
def surpluses (s : Text) : Set Int := { b | ∃ u, u <:+: s ∧ surplus u = b }

/-- The surpluses of the ends of a text. -/
def endSurpluses (s : Text) : Set Int := { b | ∃ u, u <:+ s ∧ surplus u = b }

/-- An end of a text with one more character is empty, or an end of the text and this character. -/
theorem mem_endSurpluses_concat {s : Text} {c : Char} {b : Int} :
    b ∈ endSurpluses (s ++ [c]) ↔ b = 0 ∨ ∃ b' ∈ endSurpluses s, b = b' + surplus [c] := by
  constructor
  · rintro ⟨u, hu, rfl⟩
    rcases List.suffix_concat_iff.1 hu with rfl | ⟨t, rfl, ht⟩
    · exact Or.inl surplus_nil
    · exact Or.inr ⟨surplus t, ⟨t, ht, rfl⟩, surplus_append t [c]⟩
  · rintro (rfl | ⟨b', ⟨t, ht, rfl⟩, rfl⟩)
    · exact ⟨[], List.nil_suffix, rfl⟩
    · exact ⟨t ++ [c], List.suffix_concat_iff.2 (Or.inr ⟨t, rfl, ht⟩), surplus_append t [c]⟩

/-- A part of a text with one more character is an end of it, or a part of the text. -/
theorem surpluses_concat (s : Text) (c : Char) :
    surpluses (s ++ [c]) = surpluses s ∪ endSurpluses (s ++ [c]) := by
  ext b
  constructor
  · rintro ⟨u, hu, rfl⟩
    rcases List.infix_concat_iff.1 hu with hu | hu
    · exact Or.inr ⟨u, hu, rfl⟩
    · exact Or.inl ⟨u, hu, rfl⟩
  · rintro (⟨u, hu, rfl⟩ | ⟨u, hu, rfl⟩)
    · exact ⟨u, List.infix_concat_iff.2 (Or.inr hu), rfl⟩
    · exact ⟨u, hu.isInfix, rfl⟩

end Text

namespace Nesting

open Text

/-! ## What the scan keeps -/

/-- The count moves by the surplus of the character, and not below zero. -/
theorem level_step (n : Nesting) (c : Char) :
    ((n.step c).level : Int) = max 0 (n.level + surplus [c]) := by
  rw [surplus_singleton, step]
  split
  · show ((n.level + 1 : Nat) : Int) = max 0 ((n.level : Int) + 1)
    omega
  · split
    · show ((n.level - 1 : Nat) : Int) = max 0 ((n.level : Int) + -1)
      omega
    · omega

/-- The depth met is raised to the new count. -/
theorem deepest_step {n : Nesting} (h : n.level ≤ n.deepest) (c : Char) :
    (n.step c).deepest = max n.deepest (n.step c).level := by
  rw [step]
  split
  · rfl
  · split
    · show n.deepest = max n.deepest (n.level - 1)
      omega
    · omega

/-- The scan stands behind the text `s`: it has counted the greatest surplus of the ends of `s`, and
met the greatest surplus of the parts of `s`. -/
structure Greatest (n : Nesting) (s : Text) : Prop where
  level : IsGreatest (endSurpluses s) n.level
  deepest : IsGreatest (surpluses s) n.deepest

/-- Before the first character there is only the empty part. -/
theorem greatest_nil : Greatest {} [] where
  level := by
    constructor
    · exact ⟨[], List.nil_suffix, rfl⟩
    · rintro b ⟨u, hu, rfl⟩
      rw [List.suffix_nil.1 hu]
      exact le_refl 0
  deepest := by
    constructor
    · exact ⟨[], List.nil_infix, rfl⟩
    · rintro b ⟨u, hu, rfl⟩
      rw [List.infix_nil.1 hu]
      exact le_refl 0

theorem Greatest.level_le_deepest {n : Nesting} {s : Text} (h : Greatest n s) :
    n.level ≤ n.deepest := by
  obtain ⟨u, hu, hlevel⟩ := h.level.1
  have hle := h.deepest.2 ⟨u, hu.isInfix, hlevel⟩
  exact Int.ofNat_le.1 hle

/-- The greatest surplus that ends behind one more character. -/
theorem Greatest.level_step {n : Nesting} {s : Text} (h : Greatest n s) (c : Char) :
    IsGreatest (endSurpluses (s ++ [c])) (n.step c).level := by
  rw [n.level_step c]
  constructor
  · apply mem_endSurpluses_concat.2
    rcases max_choice 0 ((n.level : Int) + surplus [c]) with hmax | hmax
    · exact Or.inl hmax
    · exact Or.inr ⟨n.level, h.level.1, hmax⟩
  · intro b hb
    rcases mem_endSurpluses_concat.1 hb with rfl | ⟨b', hb', rfl⟩
    · exact le_max_left _ _
    · have hle := h.level.2 hb'
      exact le_max_of_le_right (by omega)

/-- One step of the scan. -/
theorem Greatest.step {n : Nesting} {s : Text} (h : Greatest n s) (c : Char) :
    Greatest (n.step c) (s ++ [c]) where
  level := h.level_step c
  deepest := by
    rw [surpluses_concat, deepest_step h.level_le_deepest, Nat.cast_max]
    exact h.deepest.union (h.level_step c)

/-- A whole scan. -/
theorem Greatest.scan {n : Nesting} {s : Text} (h : Greatest n s) (t : Text) :
    Greatest (n.scan t) (s ++ t) := by
  induction t generalizing n s with
  | nil =>
      rw [List.append_nil]
      exact h
  | cons c t ih =>
      rw [List.append_cons]
      exact ih (h.step c)

/-! ## The depth of parts -/

theorem isGreatest_depth (s : Text) : IsGreatest (surpluses s) (depth s) :=
  (greatest_nil.scan s).deepest

/-- A text nests at least as deep as each of its parts. -/
theorem depth_le_of_infix {u s : Text} (h : u <:+: s) : depth u ≤ depth s := by
  obtain ⟨v, hv, hdepth⟩ := (isGreatest_depth u).1
  have hle := (isGreatest_depth s).2 ⟨v, hv.trans h, hdepth⟩
  exact Int.ofNat_le.1 hle

end Nesting

namespace Evaluator

/-- The evaluator turns a text away for the depth of its parentheses. -/
def TurnsAway (e : Evaluator) (s : Text) : Prop :=
  ∃ depth limit, e.evaluate s = .error (.tooDeep depth limit)

theorem turnsAway_iff {e : Evaluator} {s : Text} :
    e.TurnsAway s ↔ e.maxDepth < Nesting.depth s := by
  constructor
  · rintro ⟨depth, limit, h⟩
    exact (evaluate_eq_tooDeep_iff.1 h).1
  · intro h
    exact ⟨_, _, evaluate_eq_tooDeep_iff.2 ⟨h, rfl, rfl⟩⟩

end Evaluator

/-- The depth of a text is the greatest surplus of its parts. It gets no less when text is added on
either side, and no evaluator turns a part of a text away for its depth if not the text. -/
theorem Nesting.depth_eq_greatest_surplus (s : Text) :
    IsGreatest { b : Int | ∃ u, u <:+: s ∧ (u.count '(' : Int) - u.count ')' = b } (depth s) ∧
      (∀ before after : Text, depth s ≤ depth (before ++ s ++ after)) ∧
        ∀ (e : Evaluator) (u : Text), u <:+: s → ¬ e.TurnsAway s → ¬ e.TurnsAway u := by
  refine ⟨isGreatest_depth s, ?_, ?_⟩
  · intro before after
    exact depth_le_of_infix ⟨before, after, rfl⟩
  · intro e u hu hs
    rw [Evaluator.turnsAway_iff] at hs ⊢
    have hle := depth_le_of_infix hu
    omega

/-- A part that lacks the stray parenthesis in front and the closing one behind, under a limit that
the whole text just keeps. -/
theorem Nesting.depth_eq_greatest_surplus_stray :
    let s : Text := ")((1)+2".toList
    let u : Text := "((1".toList
    let e : Evaluator := ⟨2, false⟩
    IsGreatest { b : Int | ∃ u, u <:+: s ∧ (u.count '(' : Int) - u.count ')' = b } 2 ∧
      u <:+: s ∧ ¬ e.TurnsAway s ∧ ¬ e.TurnsAway u := by
  intro s u e
  obtain ⟨hgreatest, -, hparts⟩ := Nesting.depth_eq_greatest_surplus s
  have hdepth : Nesting.depth s = 2 := by decide
  have hu : u <:+: s := ⟨[')'], ")+2".toList, by decide⟩
  have hs : ¬ e.TurnsAway s := by
    rw [Evaluator.turnsAway_iff, hdepth]
    decide
  rw [hdepth] at hgreatest
  exact ⟨hgreatest, hu, hs, hparts e u hu hs⟩

end ExprCalc
