import ExprCalc.CommandLine.Switch
import ExprCalc.Text.Similarity

/-!
# The option that was meant

A long option whose name is unknown may be a known one misspelt. The option whose name is most like
it is suggested, if it is like it enough. Of two names that are equally like it the one with fewer
characters out of order is suggested, and after that the later one.

So a suggestion is always like enough, and no option is more like the name
(`Switch.closest?_eq_some`); and there is one as soon as some option is like enough
(`Switch.exists_closest?`).
-/

set_option autoImplicit false

namespace ExprCalc

namespace CommandLine

namespace Switch

/-- Is the name of an option so much like a text that the option may have been meant? -/
def resembles (o : Switch) (name : Text) : Bool := 7 / 10 < Text.similarity name o.name

/-- Is the second of two options at least as good a suggestion for a text as the first one? -/
def yieldsTo (name : Text) (first second : Switch) : Bool :=
  let similarity (o : Switch) : Rat := Text.similarity name o.name
  let disorder (o : Switch) : Nat := Text.descents (Text.partners name o.name)
  similarity first < similarity second ||
    (similarity first = similarity second && disorder second ≤ disorder first)

/-- The better one of the best suggestion so far and another option. -/
def better (name : Text) : Option Switch → Switch → Option Switch
  | none, o => some o
  | some best, o => if yieldsTo name best o then some o else some best

/-- The option that was most likely meant by an unknown name. -/
def closest? (name : Text) : Option Switch :=
  (all.filter fun o => o.resembles name).foldl (better name) none

/-! ## What is suggested -/

theorem mem_all (o : Switch) : o ∈ all := by
  cases o <;> decide

/-- The better one of two options is one of them, and is no less like the name than either. -/
theorem exists_better (name : Text) (first second : Switch) :
    ∃ o, better name (some first) second = some o ∧ (o = first ∨ o = second) ∧
      Text.similarity name first.name ≤ Text.similarity name o.name ∧
      Text.similarity name second.name ≤ Text.similarity name o.name := by
  cases hyields : yieldsTo name first second with
  | true =>
      refine ⟨second, if_pos hyields, Or.inr rfl, ?_, Rat.le_refl⟩
      rcases Bool.or_eq_true_iff.mp hyields with hless | htie
      · exact Rat.le_of_lt (of_decide_eq_true hless)
      · have heq : Text.similarity name first.name = Text.similarity name second.name :=
          of_decide_eq_true (Bool.and_eq_true_iff.mp htie).1
        exact heq ▸ Rat.le_refl
  | false =>
      have hnot : ¬ Text.similarity name first.name < Text.similarity name second.name :=
        of_decide_eq_false (Bool.or_eq_false_iff.mp hyields).1
      refine ⟨first, if_neg (Bool.eq_false_iff.mp hyields), Or.inl rfl, Rat.le_refl, ?_⟩
      exact Rat.not_lt.mp hnot

/-- A choice among options ends with one of them, and none of them is more like the name. -/
theorem exists_foldl_better (name : Text) (os : List Switch) (first : Switch) :
    ∃ o, os.foldl (better name) (some first) = some o ∧ o ∈ first :: os ∧
      ∀ other ∈ first :: os, Text.similarity name other.name ≤ Text.similarity name o.name := by
  induction os generalizing first with
  | nil =>
      refine ⟨first, rfl, List.mem_cons_self, fun other hother => ?_⟩
      obtain rfl := List.mem_singleton.mp hother
      exact Rat.le_refl
  | cons second os ih =>
      obtain ⟨chosen, hbetter, hchosen, hfirst, hsecond⟩ := exists_better name first second
      obtain ⟨o, hfold, hmem, hmost⟩ := ih chosen
      have hle := hmost chosen List.mem_cons_self
      refine ⟨o, ?_, ?_, fun other hother => ?_⟩
      · rw [List.foldl_cons, hbetter, hfold]
      · rcases List.mem_cons.mp hmem with rfl | hmem
        · rcases hchosen with rfl | rfl
          · exact List.mem_cons_self
          · exact List.mem_cons_of_mem _ List.mem_cons_self
        · exact List.mem_cons_of_mem _ (List.mem_cons_of_mem _ hmem)
      · rcases List.mem_cons.mp hother with rfl | hother
        · exact Rat.le_trans hfirst hle
        · rcases List.mem_cons.mp hother with rfl | hother
          · exact Rat.le_trans hsecond hle
          · exact hmost other (List.mem_cons_of_mem _ hother)

/-- If some option is like the name, one is suggested. -/
theorem exists_closest? {name : Text} {first : Switch} (h : first.resembles name = true) :
    ∃ o, closest? name = some o := by
  have hfirst : first ∈ all.filter fun o => o.resembles name :=
    List.mem_filter.mpr ⟨first.mem_all, h⟩
  obtain ⟨best, os, hlike⟩ := List.exists_cons_of_ne_nil (List.ne_nil_of_mem hfirst)
  obtain ⟨o, hfold, -⟩ := exists_foldl_better name os best
  refine ⟨o, ?_⟩
  rw [closest?, hlike]
  exact hfold

/-- What is suggested is like the name, and no option is more like it. -/
theorem closest?_eq_some {name : Text} {o : Switch} (h : closest? name = some o) :
    o.resembles name = true ∧
      ∀ other : Switch, Text.similarity name other.name ≤ Text.similarity name o.name := by
  rw [closest?] at h
  cases hlike : all.filter fun o => o.resembles name with
  | nil =>
      rw [hlike] at h
      cases h
  | cons first os =>
      obtain ⟨best, hfold, hmem, hmost⟩ := exists_foldl_better name os first
      rw [hlike] at h
      obtain rfl := Option.some.inj (h.symm.trans hfold)
      rw [← hlike] at hmem hmost
      have hresembles : o.resembles name = true := (List.mem_filter.mp hmem).2
      refine ⟨hresembles, fun other => ?_⟩
      cases hother : other.resembles name with
      | true => exact hmost other (List.mem_filter.mpr ⟨other.mem_all, hother⟩)
      | false =>
          -- An option that is not like enough is less like the name than one that is.
          have hle := Rat.not_lt.mp (of_decide_eq_false hother)
          exact Rat.le_trans hle (Rat.le_of_lt (of_decide_eq_true hresembles))

/-- The name of an option stands for this option before all others, since it is wholly like itself and
less like every other name. -/
theorem closest?_name (o : Switch) : closest? o.name = some o := by
  have hname : ∀ o ∈ all, o.name ≠ [] := by decide
  have hself : Text.similarity o.name o.name = 1 := Text.similarity_self (hname o o.mem_all)
  have hless : ∀ o ∈ all, ∀ other ∈ all, 1 ≤ Text.similarity o.name other.name → other = o := by
    decide +kernel
  have hlike : o.resembles o.name = true := by
    unfold resembles
    rw [hself]
    decide +kernel
  obtain ⟨best, hbest⟩ := exists_closest? hlike
  have hone : 1 ≤ Text.similarity o.name best.name := by
    rw [← hself]
    exact (closest?_eq_some hbest).2 o
  rw [hbest, hless o o.mem_all best best.mem_all hone]

end Switch

end CommandLine

end ExprCalc
