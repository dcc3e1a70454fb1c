import ExprCalc.Nesting
import ExprCalc.Proofs.Derivation

/-!
# Nesting of parentheses in derivations

The scan of a text counts open parentheses and knows no grammar. On the text of a derivation tree
it does what the tree says (`Tree.scan_text`): it comes back to the count it started from, and has
met the nesting of the tree on top of this count on its way. On other texts it is used through two
bounds only: the depth that it has met never shrinks (`Nesting.deepest_le_scan`), and it grows with
the depth met before (`Nesting.scan_mono`).
-/

set_option autoImplicit false

namespace ExprCalc

namespace Nesting

/-! ## The scan of any text -/

/-- A character that is no parenthesis leaves the scan as it is. -/
theorem step_of_ne (n : Nesting) {c : Char} (hopen : c ≠ '(') (hclose : c ≠ ')') :
    n.step c = n := by
  rw [step, if_neg hopen, if_neg hclose]

theorem step_open (n : Nesting) :
    n.step '(' = ⟨n.level + 1, max n.deepest (n.level + 1)⟩ := rfl

theorem step_close (n : Nesting) : n.step ')' = ⟨n.level - 1, n.deepest⟩ := rfl

/-- A text without parentheses leaves the scan as it is. -/
theorem scan_of_forall_ne (n : Nesting) {s : Text} (h : ∀ c ∈ s, c ≠ '(' ∧ c ≠ ')') :
    n.scan s = n := by
  induction s with
  | nil => rfl
  | cons c s ih =>
      obtain ⟨hopen, hclose⟩ := h c List.mem_cons_self
      rw [scan_cons, n.step_of_ne hopen hclose]
      exact ih fun d hd => h d (List.mem_cons_of_mem c hd)

theorem deepest_le_step (n : Nesting) (c : Char) : n.deepest ≤ (n.step c).deepest := by
  simp only [step]
  split
  · exact Nat.le_max_left _ _
  · split
    · exact Nat.le_refl _
    · exact Nat.le_refl _

/-- The depth that a scan has met never shrinks. -/
theorem deepest_le_scan (n : Nesting) (s : Text) : n.deepest ≤ (n.scan s).deepest := by
  induction s generalizing n with
  | nil => exact Nat.le_refl _
  | cons c s ih => exact Nat.le_trans (n.deepest_le_step c) (ih (n.step c))

theorem step_mono {m n : Nesting} (hlevel : m.level = n.level) (hdeepest : m.deepest ≤ n.deepest)
    (c : Char) :
    (m.step c).level = (n.step c).level ∧ (m.step c).deepest ≤ (n.step c).deepest := by
  simp only [step, hlevel]
  split
  · exact ⟨rfl, max_le_max hdeepest (Nat.le_refl _)⟩
  · split
    · exact ⟨rfl, hdeepest⟩
    · exact ⟨hlevel, hdeepest⟩

/-- From the same count, a scan that has met less before has met no more in the end. -/
theorem scan_mono {m n : Nesting} (hlevel : m.level = n.level) (hdeepest : m.deepest ≤ n.deepest)
    (s : Text) : (m.scan s).deepest ≤ (n.scan s).deepest := by
  induction s generalizing m n with
  | nil => exact hdeepest
  | cons c s ih =>
      obtain ⟨hl, hd⟩ := step_mono hlevel hdeepest c
      exact ih hl hd

/-- The count is at most the depth met: a property that every step keeps. -/
theorem level_le_deepest_scan {n : Nesting} (h : n.level ≤ n.deepest) (s : Text) :
    (n.scan s).level ≤ (n.scan s).deepest := by
  induction s generalizing n with
  | nil => exact h
  | cons c s ih =>
      refine ih ?_
      simp only [step]
      split
      · exact Nat.le_max_right _ _
      · split
        · exact Nat.le_trans (Nat.sub_le _ _) h
        · exact h

/-- A text nests no deeper than a text that starts with it. -/
theorem depth_le_depth_append (s t : Text) : depth s ≤ depth (s ++ t) := by
  simp only [depth, scan_append]
  exact deepest_le_scan _ t

end Nesting

namespace Arithmetic

/-! ## The scan of a derivation -/

mutual
/-- How deep the parentheses of a tree nest. -/
def Tree.nesting : {l : Level} → Tree l → Nat
  | _, .literal _ => 0
  | _, .parens inner => inner.nesting + 1
  | _, .chain _ first rest => max first.nesting rest.nesting
/-- How deep the parentheses in the operands of the steps nest. -/
def Steps.nesting : {l : Level} → Steps l → Nat
  | _, .nil => 0
  | _, .cons _ _ operand rest => max operand.nesting rest.nesting
end

theorem symbol_ne_parens (op : Operator) : op.symbol ≠ '(' ∧ op.symbol ≠ ')' := by
  cases op with
  | add => decide
  | subtract => decide
  | multiply => decide
  | divide => decide

theorem literal_ne_parens (n : Literal) : ∀ c ∈ n.text, c ≠ '(' ∧ c ≠ ')' := by
  refine n.forall_mem_text (fun sign => ?_) (by decide)
  cases sign with
  | plus => decide
  | minus => decide

mutual
/-- Past the text of a tree the count is what it was, and the scan has met the nesting of the tree
on top of it. -/
theorem Tree.scan_text : ∀ {l : Level} (t : Tree l) {n : Nesting}, n.level ≤ n.deepest →
    n.scan t.text = ⟨n.level, max n.deepest (n.level + t.nesting)⟩
  | _, .literal m, n, h => by
      have hscan : n.scan (Tree.literal m).text = n := n.scan_of_forall_ne (literal_ne_parens m)
      have hmax : max n.deepest (n.level + 0) = n.deepest := by omega
      rw [hscan, Tree.nesting, hmax]
  | _, .parens inner, n, _ => by
      -- Inside the count is one higher, and the closing parenthesis takes it back.
      have hinner := inner.scan_text (n := n.step '(') (Nat.le_max_right _ _)
      rw [Tree.text, Nesting.scan_cons, Nesting.scan_append, hinner, Nesting.scan_cons,
        Nesting.scan_nil, Nesting.step_close, Nesting.step_open, Tree.nesting]
      simp only [Nat.add_sub_cancel, Nesting.mk.injEq, true_and]
      omega
  | _, .chain hl first rest, n, h => by
      have hfirst := first.scan_text h
      -- The steps are scanned from the same count, with the depth of the first operand met.
      have hlevel : n.level ≤ max n.deepest (n.level + first.nesting) := by omega
      have hrest := rest.scan_text
        (n := ⟨n.level, max n.deepest (n.level + first.nesting)⟩) hlevel
      rw [Tree.text, Nesting.scan_append, hfirst, hrest, Tree.nesting]
      simp only [Nesting.mk.injEq, true_and]
      omega
/-- Past the text of steps the count is what it was, and the scan has met the nesting of the
operands on top of it. -/
theorem Steps.scan_text : ∀ {l : Level} (rest : Steps l) {n : Nesting}, n.level ≤ n.deepest →
    n.scan rest.text = ⟨n.level, max n.deepest (n.level + rest.nesting)⟩
  | _, .nil, n, h => by
      have hmax : max n.deepest (n.level + 0) = n.deepest := by omega
      rw [Steps.text, Nesting.scan_nil, Steps.nesting, hmax]
  | _, .cons op hop operand rest, n, h => by
      obtain ⟨hopen, hclose⟩ := symbol_ne_parens op
      have hoperand := operand.scan_text h
      have hlevel : n.level ≤ max n.deepest (n.level + operand.nesting) := by omega
      have hrest := rest.scan_text
        (n := ⟨n.level, max n.deepest (n.level + operand.nesting)⟩) hlevel
      rw [Steps.text, Nesting.scan_cons, n.step_of_ne hopen hclose, Nesting.scan_append, hoperand,
        hrest, Steps.nesting]
      simp only [Nesting.mk.injEq, true_and]
      omega
end

/-- The depth of the text of a tree is the nesting of the tree. -/
theorem Tree.depth_text {l : Level} (t : Tree l) : Nesting.depth t.text = t.nesting := by
  rw [Nesting.depth, t.scan_text (Nat.le_refl 0)]
  show max 0 (0 + t.nesting) = t.nesting
  omega

end Arithmetic

end ExprCalc
