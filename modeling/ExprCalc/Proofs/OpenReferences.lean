import ExprCalc.Proofs.LeftRecursion
import Mathlib.Order.Monotone.Basic

/-!
# How many references a parse opens

A parse that ends opens no more references one inside another than there are names for each
remainder of the text (`Definitions.run_card_of_run`). So one number of references is good enough
for every parse of a text that ends at all.

With `k` open references some of the references on ends of a text are settled, that is, they have an
answer. Where one more open reference settles no other reference, two more do not either, since a
reference is settled by the answers of the references inside it. So the settled references grow until
nothing is added to them any more, and this can happen no more often than there are references.
-/

set_option autoImplicit false

namespace ExprCalc

variable {ι : Type} {τ : ι → Type} {α : Type}

namespace Construction

open ExprCalc.Parser ExprCalc.Attempt

/-- Where the parsers for the names answer alike on every end of a text, the constructions do. -/
theorem followsAt_of_suffix {call call' : (n : ι) → Attempt (τ n)}
    (hcall : ∀ n, LeavesSuffix (call n).toParser) {c : Construction τ α} (hc : c.BasesLeaveSuffix)
    {s t : Text} (h : ∀ u, u <:+ s → ∀ n, FollowsAt u (call' n) (call n)) (ht : t <:+ s) :
    FollowsAt t (c.attempt call') (c.attempt call) :=
  followsAt_of_heads hcall hc ⟨fun n _ => h t ht n, fun u hu _ n => h u (hu.trans ht) n⟩

end Construction

namespace Definitions

open ExprCalc.Parser ExprCalc.Attempt

variable {D : Definitions τ}

/-- The references on ends of a text, told by their names and their places in the text, that have an
answer with at most `k` open references. -/
def settled (D : Definitions τ) (s : Text) (k : Nat) : Set (ι × Fin (s.length + 1)) :=
  {p | (D.bounded k p.1 (s.drop p.2)).isSome}

theorem mem_settled_of_suffix {s t : Text} {k : Nat} {n : ι} {rs : List (Reading (τ n))}
    (ht : t <:+ s) (h : D.bounded k n t = some rs) :
    (n, ⟨s.length - t.length, by omega⟩) ∈ D.settled s k := by
  show (D.bounded k n (s.drop (s.length - t.length))).isSome
  rw [← List.suffix_iff_eq_drop.1 ht, h, Option.isSome_some]

theorem settled_subset (D : Definitions τ) (s : Text) {k m : Nat} (hkm : k ≤ m) :
    D.settled s k ⊆ D.settled s m := by
  rintro ⟨n, i⟩ h
  obtain ⟨rs, hrs⟩ := Option.isSome_iff_exists.1 h
  exact Option.isSome_iff_exists.2 ⟨rs, D.followsAt_bounded hkm n _ rs hrs⟩

/-- If the same references are settled, the parsers for the names answer alike. -/
theorem followsAt_of_settled {s : Text} {k m : Nat} (hkm : k ≤ m)
    (h : D.settled s m ⊆ D.settled s k) :
    ∀ t, t <:+ s → ∀ n, FollowsAt t (D.bounded k n) (D.bounded m n) := by
  intro t ht n rs hrs
  have hmem := h (mem_settled_of_suffix ht hrs)
  obtain ⟨rs', hrs'⟩ := Option.isSome_iff_exists.1 hmem
  rw [← List.suffix_iff_eq_drop.1 ht] at hrs'
  have heq : some rs' = some rs := (D.followsAt_bounded hkm n t rs' hrs').symm.trans hrs
  rw [hrs', heq]

/-- Where one more open reference settles nothing, two more do not either. -/
theorem settled_succ (hD : D.BasesLeaveSuffix) {s : Text} {k : Nat}
    (h : D.settled s k = D.settled s (k + 1)) :
    D.settled s (k + 1) = D.settled s (k + 2) := by
  refine Set.Subset.antisymm (D.settled_subset s (Nat.le_succ _)) ?_
  rintro ⟨n, i⟩ hp
  obtain ⟨rs, hrs⟩ := Option.isSome_iff_exists.1 hp
  -- What this answer needs of the references inside it is settled with one reference less.
  have hcalls := followsAt_of_settled (Nat.le_succ k) h.ge
  have hanswer := Construction.followsAt_of_suffix (toParser_bounded_leavesSuffix hD (k + 1)) (hD n)
    hcalls (List.drop_suffix i s)
  exact Option.isSome_iff_exists.2 ⟨rs, hanswer rs hrs⟩

/-- No reference is settled only with more open references than there are references. -/
theorem settled_eq_of_card_le [Finite ι] (hD : D.BasesLeaveSuffix) (s : Text) {k : Nat}
    (hk : Nat.card ι * (s.length + 1) ≤ k) :
    D.settled s (Nat.card ι * (s.length + 1)) = D.settled s k := by
  have hgrows : Monotone fun k => (D.settled s k).ncard :=
    fun k m hkm => Set.ncard_le_ncard (D.settled_subset s hkm)
  have hbound : ∀ k, (D.settled s k).ncard ≤ Nat.card ι * (s.length + 1) := by
    intro k
    have hle := Set.ncard_le_card (D.settled s k)
    rwa [Nat.card_prod, Nat.card_fin] at hle
  have heq : ∀ {k m}, k ≤ m → (D.settled s k).ncard = (D.settled s m).ncard →
      D.settled s k = D.settled s m :=
    fun hkm hcard => Set.eq_of_subset_of_ncard_le (D.settled_subset s hkm) hcard.ge
  have hstays : ∀ m, (D.settled s m).ncard = (D.settled s (m + 1)).ncard →
      (D.settled s (m + 1)).ncard = (D.settled s (m + 2)).ncard :=
    fun m hm => congrArg Set.ncard (settled_succ hD (heq (Nat.le_succ m) hm))
  -- A bounded sequence that stays where it is once it has not grown ends before its bound.
  exact heq hk (Nat.stabilises_of_monotone hgrows hbound hstays hk).symm

/-- A run that ends has the same answer with at most one open reference for each name and each
remainder of the text. -/
theorem run_card_of_run [Finite ι] (hD : D.BasesLeaveSuffix) {c : Construction τ α}
    (hc : c.BasesLeaveSuffix) {k : Nat} {s : Text} {rs : List (Reading α)}
    (h : D.run k c s = some rs) : D.run (Nat.card ι * (s.length + 1)) c s = some rs := by
  rcases Nat.le_total k (Nat.card ι * (s.length + 1)) with hle | hle
  · exact run_mono hle h
  · have hcalls := followsAt_of_settled hle (settled_eq_of_card_le hD s hle).ge
    exact Construction.followsAt_of_suffix (toParser_bounded_leavesSuffix hD k) hc hcalls
      (List.suffix_refl s) rs h

end Definitions

end ExprCalc
