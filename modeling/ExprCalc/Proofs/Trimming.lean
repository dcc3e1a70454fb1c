import ExprCalc.Text.Blank
import Mathlib.Data.List.TakeWhile

/-!
# Trimming

What `Text.trim` takes off a text is blank (`Text.exists_eq_append_trim`), and blanks that are put
at its ends are taken off again (`Text.trim_append`). From these two laws a text that is trimmed
stays as it is.
-/

set_option autoImplicit false

namespace ExprCalc

namespace Text

/-- All characters of the text are blank. -/
def IsBlank (s : Text) : Prop := ∀ c ∈ s, isBlank c = true

instance (s : Text) : Decidable s.IsBlank := List.decidableBAll _ s

theorem trimStart_append {u : Text} (hu : u.IsBlank) (s : Text) :
    (u ++ s).trimStart = s.trimStart :=
  List.dropWhile_append_of_pos hu

theorem trimEnd_append {v : Text} (hv : v.IsBlank) (s : Text) : (s ++ v).trimEnd = s.trimEnd := by
  have hreverse : ∀ c ∈ v.reverse, isBlank c = true := fun c hc => hv c (List.mem_reverse.mp hc)
  rw [trimEnd, List.reverse_append, List.dropWhile_append_of_pos hreverse, trimEnd]

/-- A text of blanks is trimmed to nothing. -/
theorem IsBlank.trim_eq_nil {s : Text} (hs : s.IsBlank) : s.trim = [] := by
  have hstart : s.trimStart = [] := List.dropWhile_eq_nil_iff.mpr hs
  rw [trim, hstart]
  rfl

/-- Blanks put at the ends of a text are trimmed off again. -/
theorem trim_append {u v : Text} (hu : u.IsBlank) (hv : v.IsBlank) (s : Text) :
    (u ++ s ++ v).trim = s.trim := by
  rw [List.append_assoc, trim, trimStart_append hu]
  by_cases hs : s.IsBlank
  · -- The start of the text reaches into the blanks behind it.
    rw [trimStart_append hs, hs.trim_eq_nil]
    exact hv.trim_eq_nil
  · have hstart : (s ++ v).trimStart = s.trimStart ++ v := by
      have hne : ¬ (s.dropWhile isBlank).isEmpty := by
        rw [List.isEmpty_iff, List.dropWhile_eq_nil_iff]
        exact hs
      rw [trimStart, List.dropWhile_append, if_neg hne]
      rfl
    rw [hstart, trimEnd_append hv, trim]

/-- What is trimmed off a text is blank. -/
theorem exists_eq_append_trim (s : Text) :
    ∃ u v : Text, u.IsBlank ∧ v.IsBlank ∧ u ++ s.trim ++ v = s := by
  have hpart (t : Text) : IsBlank (t.takeWhile isBlank) := fun c hc => List.mem_takeWhile_imp hc
  refine ⟨s.takeWhile isBlank, (s.trimStart.reverse.takeWhile isBlank).reverse, hpart s, ?_, ?_⟩
  · intro c hc
    exact hpart _ c (List.mem_reverse.mp hc)
  · have hend : s.trim ++ (s.trimStart.reverse.takeWhile isBlank).reverse = s.trimStart := by
      rw [trim, trimEnd, ← List.reverse_append, List.takeWhile_append_dropWhile,
        List.reverse_reverse]
    rw [List.append_assoc, hend, trimStart, List.takeWhile_append_dropWhile]

/-- A text that has been trimmed has no blanks at its ends. -/
@[simp] theorem trim_trim (s : Text) : s.trim.trim = s.trim := by
  obtain ⟨u, v, hu, hv, hs⟩ := s.exists_eq_append_trim
  have htrim := trim_append hu hv s.trim
  rw [hs] at htrim
  exact htrim.symm

/-- A text without blanks is trimmed already. -/
theorem trim_of_forall_not_blank {s : Text} (hs : ∀ c ∈ s, isBlank c = false) : s.trim = s := by
  have hdrop {t : Text} (ht : ∀ c ∈ t, isBlank c = false) : t.dropWhile isBlank = t := by
    cases t with
    | nil => rfl
    | cons c t => rw [List.dropWhile_cons, ht c List.mem_cons_self, if_neg Bool.false_ne_true]
  have hreverse : ∀ c ∈ s.reverse, isBlank c = false := fun c hc => hs c (List.mem_reverse.mp hc)
  rw [trim, trimStart, hdrop hs, trimEnd, hdrop hreverse, List.reverse_reverse]

end Text

end ExprCalc
