import ExprCalc.Proofs.Construction
import Mathlib.Data.Set.Card

/-!
# Definitions without left recursion

A name is a *head* of a construction if the construction may refer to it before it has read
anything. Definitions are left recursive if some name can be reached from itself by heads.

If they are not, every run ends, and with at most one open reference for each name and each
remainder of the text, the whole text and the empty one included (`Definitions.Ends`). For
each name has a rank, the number of names reached from it by heads. A reference that is followed on
the text itself is a head and has a smaller rank; every other one is followed on a shorter end of
the text. The lemma behind it is `Construction.followsAt_of_heads`: the readings of a construction
depend on its heads at the text itself and on all names at shorter ends of the text, and on
nothing else.
-/

set_option autoImplicit false

namespace ExprCalc

variable {ι : Type} {τ : ι → Type} {α β : Type}

namespace Construction

open ExprCalc.Parser ExprCalc.Attempt

/-- The names that a construction may refer to before it has read anything: those at its start, and
after the parts of a sequence that may read nothing. -/
def heads : {α : Type} → Construction τ α → List ι
  | _, .primitive _ => []
  | _, .starts _ _ _ => []
  | _, .base _ => []
  | _, .many1 a => a.heads
  | _, .many a => a.heads
  | _, .choice a b => a.heads ++ b.heads
  | _, .seq a b => a.heads ++ if a.nullable then b.heads else []
  | _, .push a b => a.heads ++ if a.nullable then b.heads else []
  | _, .between a b c =>
      a.heads ++ if a.nullable then b.heads ++ if b.nullable then c.heads else [] else []
  | _, .map a _ => a.heads
  | _, .filter a _ => a.heads
  | _, .filterMap a _ => a.heads
  | _, .span a => a.heads
  | _, .group a => a.heads
  | _, .lazy n => [n]

/-! ## What a construction depends on -/

section Heads

variable {call call' : (n : ι) → Attempt (τ n)}

/-- The parsers for the names answer alike where a construction with the given heads may run them
on the text `s`: the heads on this text, and all names on its shorter ends. -/
structure AlikeFrom (call' call : (n : ι) → Attempt (τ n)) (heads : List ι) (s : Text) : Prop where
  here : ∀ n ∈ heads, FollowsAt s (call' n) (call n)
  later : ∀ t, t <:+ s → t.length < s.length → ∀ n, FollowsAt t (call' n) (call n)

theorem AlikeFrom.subset {names names' : List ι} {s : Text} (h : AlikeFrom call' call names s)
    (hsub : names' ⊆ names) : AlikeFrom call' call names' s :=
  ⟨fun n hn => h.here n (hsub hn), h.later⟩

/-- On a shorter end of the text every construction may be run. -/
theorem AlikeFrom.of_shorter {names : List ι} {s t : Text} (h : AlikeFrom call' call names s)
    (ht : t <:+ s) (hlt : t.length < s.length) (names' : List ι) :
    AlikeFrom call' call names' t := by
  refine ⟨fun n _ => h.later t ht hlt n, fun t' ht' hlt' => ?_⟩
  exact h.later t' (ht'.trans ht) (Nat.lt_trans hlt' hlt)

/-- On an end of the text the constructions with the same heads may be run. -/
theorem AlikeFrom.of_suffix {names : List ι} {s t : Text} (h : AlikeFrom call' call names s)
    (ht : t <:+ s) : AlikeFrom call' call names t := by
  rcases Nat.lt_or_eq_of_le ht.length_le with hlt | heq
  · exact h.of_shorter ht hlt names
  · rw [ht.eq_of_length heq]
    exact h

/-- The readings of a construction leave ends of the text, shorter ones if it is not nullable. -/
theorem rest_of_attempt (hcall : ∀ n, LeavesSuffix (call n).toParser) {a : Construction τ α}
    (ha : a.BasesLeaveSuffix) {s : Text} {rs : List (Reading α)} (h : a.attempt call s = some rs) :
    ∀ r ∈ rs, r.rest <:+ s ∧ (a.nullable = false → r.rest.length < s.length) := by
  have hparser : a.parser (fun n => (call n).toParser) s = rs := by
    refine parser_eq_of_attempt ?_ h
    intro n t ts hts
    exact toParser_eq hts
  intro r hr
  rw [← hparser] at hr
  exact ⟨leavesSuffix hcall ha s r hr, fun hnull => shortens hcall ha hnull s r hr⟩

/-- What is run after a part of a sequence depends on its own heads if this part may read nothing,
and else on shorter ends of the text only. -/
theorem AlikeFrom.after (hcall : ∀ n, LeavesSuffix (call n).toParser) {a : Construction τ α}
    (ha : a.BasesLeaveSuffix) {names : List ι} {s : Text}
    (h : AlikeFrom call' call (if a.nullable then names else []) s) {rs : List (Reading α)}
    (hrs : a.attempt call s = some rs) {r : Reading α} (hr : r ∈ rs) :
    AlikeFrom call' call names r.rest := by
  obtain ⟨hrest, hlt⟩ := rest_of_attempt hcall ha hrs r hr
  cases hnull : a.nullable with
  | false => exact h.of_shorter hrest (hlt hnull) names
  | true =>
      rw [hnull] at h
      exact h.of_suffix hrest

/-- The steps of a repetition are run on ends of the text. -/
theorem followsAt_many (hcall : ∀ n, LeavesSuffix (call n).toParser) {a : Construction τ α}
    (ha : a.BasesLeaveSuffix) {s : Text}
    (h : ∀ t, t <:+ s → FollowsAt t (a.attempt call') (a.attempt call)) :
    FollowsAt s (Attempt.many (a.attempt call')) (Attempt.many (a.attempt call)) := by
  have hstay : Stays (fun t => t <:+ s) (a.attempt call) :=
    fun t ht rs hrs r hr => (rest_of_attempt hcall ha hrs r hr).1.trans ht
  exact Follows.many h hstay s (List.suffix_refl s)

/-- If the parsers for the names answer alike where a construction may run them, its readings are
the same. -/
theorem followsAt_of_heads (hcall : ∀ n, LeavesSuffix (call n).toParser) {c : Construction τ α}
    (hc : c.BasesLeaveSuffix) {s : Text} (h : AlikeFrom call' call c.heads s) :
    FollowsAt s (c.attempt call') (c.attempt call) := by
  -- The later parts of a sequence are run on what the earlier ones have left, so the text changes
  -- along the structure of the construction, and `AlikeFrom` goes along with it.
  induction c generalizing s with
  | primitive p => exact FollowsAt.refl _
  | starts min max longestFirst => exact FollowsAt.refl _
  | base p => exact FollowsAt.refl _
  | many1 a ih =>
      exact (followsAt_many hcall (a := a) hc fun t ht => ih hc (h.of_suffix ht)).many1_of_many
  | many a ih => exact followsAt_many hcall (a := a) hc fun t ht => ih hc (h.of_suffix ht)
  | choice a b iha ihb =>
      refine (iha hc.1 (h.subset ?_)).orElse (ihb hc.2 (h.subset ?_))
      · exact List.subset_append_left _ _
      · exact List.subset_append_right _ _
  | seq a b iha ihb =>
      refine (iha hc.1 (h.subset (List.subset_append_left _ _))).andThen fun rs hrs r hr => ?_
      exact ihb hc.2 ((h.subset (List.subset_append_right _ _)).after hcall hc.1 hrs hr)
  | push a b iha ihb =>
      refine (iha hc.1 (h.subset (List.subset_append_left _ _))).push fun rs hrs r hr => ?_
      exact ihb hc.2 ((h.subset (List.subset_append_right _ _)).after hcall hc.1 hrs hr)
  | between a b c iha ihb ihc =>
      have hafter : ∀ os, a.attempt call s = some os → ∀ o ∈ os,
          AlikeFrom call' call (b.heads ++ if b.nullable then c.heads else []) o.rest :=
        fun os hos o ho => (h.subset (List.subset_append_right _ _)).after hcall hc.1 hos ho
      refine (iha hc.1 (h.subset (List.subset_append_left _ _))).between (fun os hos o ho => ?_)
        fun os hos o ho cs hcs x hx => ?_
      · exact ihb hc.2.1 ((hafter os hos o ho).subset (List.subset_append_left _ _))
      · have hrest := (hafter os hos o ho).subset (List.subset_append_right _ _)
        exact ihc hc.2.2 (hrest.after hcall hc.2.1 hcs hx)
  | map a f ih => exact (ih hc h).map f
  | filter a keep ih => exact (ih hc h).pointwise _
  | filterMap a f ih => exact (ih hc h).pointwise _
  | span a ih => exact (ih hc h).pointwise _
  | group a ih => exact ih hc h
  | lazy n => exact h.here n (List.mem_singleton_self n)

/-- A construction has an answer if the parsers for the names have one where it may run them. -/
theorem exists_attempt_eq_some (hcall : ∀ n, LeavesSuffix (call n).toParser)
    {c : Construction τ α} (hc : c.BasesLeaveSuffix) {s : Text}
    (here : ∀ n ∈ c.heads, ∃ rs, call n s = some rs)
    (later : ∀ t, t <:+ s → t.length < s.length → ∀ n, ∃ rs, call n t = some rs) :
    ∃ rs, c.attempt call s = some rs := by
  -- Compare with the parsers that have the same answers, and no reading where there is none.
  have hfollows : ∀ n t, (∃ rs, call n t = some rs) →
      FollowsAt t (call n) (ofParser (call n).toParser) := by
    rintro n t ⟨rs, hrs⟩ ts hts
    obtain rfl := Option.some.inj hts
    rw [toParser_eq hrs, hrs]
  have halike : AlikeFrom call (fun n => ofParser (call n).toParser) c.heads s :=
    ⟨fun n hn => hfollows n s (here n hn), fun t ht hlt n => hfollows n t (later t ht hlt n)⟩
  have hparsers : ∀ n, LeavesSuffix (ofParser (call n).toParser).toParser := hcall
  have hanswer := followsAt_of_heads hparsers hc halike
  rw [attempt_ofParser] at hanswer
  exact ⟨_, hanswer _ rfl⟩

end Heads

end Construction

/-! ## Runs of definitions without left recursion -/

namespace Definitions

open ExprCalc.Parser ExprCalc.Attempt

/-- The name `m` is a head of the construction of the name `n`. -/
def HeadRef (D : Definitions τ) (n m : ι) : Prop := m ∈ (D n).heads

/-- Some name is reached from itself by heads. -/
def LeftRecursive (D : Definitions τ) : Prop := ∃ n, Relation.TransGen D.HeadRef n n

/-- The number of names that are reached from a name by heads. -/
noncomputable def rank (D : Definitions τ) (n : ι) : Nat :=
  {m | Relation.TransGen D.HeadRef n m}.ncard

/-- Every parse ends, for every construction that refers to the names and for every text, and with
at most one open reference for each name and each remainder of the text. -/
def Ends (D : Definitions τ) : Prop :=
  ∀ {α : Type} (c : Construction τ α), c.BasesLeaveSuffix → ∀ s : Text, ∃ rs,
    ∀ k, Nat.card ι * (s.length + 1) ≤ k → D.run k c s = some rs ∧ c.parser (D.within k) s = rs

variable {D : Definitions τ}

/-- Definitions are not left recursive if some number gets smaller from each name to its heads. -/
theorem not_leftRecursive_of_lt (f : ι → Nat) (h : ∀ n m, D.HeadRef n m → f m < f n) :
    ¬ D.LeftRecursive := by
  have hpath : ∀ n m, Relation.TransGen D.HeadRef n m → f m < f n := by
    intro n m hnm
    induction hnm with
    | single hstep => exact h _ _ hstep
    | tail _ hstep ih => exact Nat.lt_trans (h _ _ hstep) ih
  rintro ⟨n, hn⟩
  exact Nat.lt_irrefl _ (hpath n n hn)

/-- A head has a smaller rank. -/
theorem rank_lt [Finite ι] (h : ¬ D.LeftRecursive) {n m : ι} (hnm : D.HeadRef n m) :
    D.rank m < D.rank n := by
  refine Set.ncard_lt_ncard ⟨fun l hl => Relation.TransGen.head hnm hl, fun hsub => ?_⟩
  -- The name `m` is reached from `n`, and it would be reached from itself.
  exact h ⟨m, hsub (Relation.TransGen.single hnm)⟩

/-- A name is not reached from itself, so its rank is less than the number of names. -/
theorem rank_lt_card [Finite ι] (h : ¬ D.LeftRecursive) (n : ι) : D.rank n < Nat.card ι := by
  rw [← Set.ncard_univ]
  refine Set.ncard_lt_ncard (Set.ssubset_univ_iff.2 fun huniv => ?_)
  have hn : n ∈ {m | Relation.TransGen D.HeadRef n m} := by
    rw [huniv]
    trivial
  exact h ⟨n, hn⟩

theorem toParser_bounded_leavesSuffix (hD : D.BasesLeaveSuffix) (k : Nat) (n : ι) :
    LeavesSuffix (D.bounded k n).toParser := by
  intro s r hr
  cases hrs : D.bounded k n s with
  | none =>
      rw [toParser, hrs] at hr
      cases hr
  | some rs =>
      rw [toParser_eq hrs] at hr
      rw [← within_eq_of_bounded hrs] at hr
      exact leavesSuffix_within hD k n s r hr

/-- A reference ends within one open reference for each name and each shorter end of the text, and
one for each smaller rank on the text itself. -/
theorem exists_bounded [Finite ι] (hD : D.BasesLeaveSuffix) (h : ¬ D.LeftRecursive) {k : Nat}
    {n : ι} {s : Text} (hk : Nat.card ι * s.length + D.rank n < k) :
    ∃ rs, D.bounded k n s = some rs := by
  induction k generalizing n s with
  | zero => omega
  | succ k ih =>
      -- A head on the same text has a smaller rank. On a shorter text the rank may be any.
      refine Construction.exists_attempt_eq_some (toParser_bounded_leavesSuffix hD k) (hD n)
        (fun m hm => ?_) fun t _ hlt m => ?_
      · have hrank : D.rank m < D.rank n := rank_lt h hm
        exact ih (by omega)
      · have hrank := rank_lt_card h m
        have hmul : Nat.card ι * (t.length + 1) ≤ Nat.card ι * s.length :=
          Nat.mul_le_mul_left _ hlt
        rw [Nat.mul_succ] at hmul
        exact ih (by omega)

/-- Without left recursion every run ends. -/
theorem ends_of_not_leftRecursive [Finite ι] (hD : D.BasesLeaveSuffix) (h : ¬ D.LeftRecursive) :
    D.Ends := by
  intro α c hc s
  have hrun : ∃ rs, D.run (Nat.card ι * (s.length + 1)) c s = some rs := by
    rw [Nat.mul_succ]
    refine Construction.exists_attempt_eq_some (toParser_bounded_leavesSuffix hD _) hc
      (fun m _ => ?_) fun t _ hlt m => ?_
    · have hrank := rank_lt_card h m
      exact exists_bounded hD h (by omega)
    · have hrank := rank_lt_card h m
      have hmul : Nat.card ι * t.length ≤ Nat.card ι * s.length :=
        Nat.mul_le_mul_left _ (Nat.le_of_lt hlt)
      exact exists_bounded hD h (by omega)
  obtain ⟨rs, hrs⟩ := hrun
  exact ⟨rs, fun k hk => ⟨run_mono hk hrs, parser_eq_of_run (run_mono hk hrs)⟩⟩

end Definitions

end ExprCalc
