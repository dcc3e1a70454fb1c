import ExprCalc.Parser.Repeat
import Mathlib.Data.List.Basic

/-!
# Repetition step by step

A repetition takes the first reading of the repeated parser, again and again, as long as this leaves
fewer bytes. `Parser.Chain p s steps` says that `steps` are such readings from the text `s` on, and
`Parser.Stops p t` that no further one is taken at the text `t`. From every text there is exactly one
chain that cannot go on (`Parser.exists_chain`), and all others are the start of it
(`Parser.Chain.prefix_of_stops`). Its values and its end are the reading of the repetition
(`Parser.Chain.greedy_eq`), whatever the repeated parser does: it may be ambiguous, read nothing, or
leave a text that is no end of its input.

The repetition is a loop as well: a turn puts one value at the end of those found so far and moves on
to the remainder (`Parser.turn?`). Every turn leaves fewer bytes, so the loop takes no more turns
than the text has bytes, and ends with the reading of the repetition (`Parser.Chain.loop?_eq`).
-/

set_option autoImplicit false

namespace ExprCalc

universe u

variable {α : Type u} {p : Parser α} {s : Text} {steps : List (Reading α)}

namespace Parser

/-! ## Chains -/

/-- Readings that are taken one after another from a text on: each is the first one where it is
taken, and leaves fewer bytes. -/
inductive Chain (p : Parser α) : Text → List (Reading α) → Prop
  | nil (s : Text) : Chain p s []
  | cons {s : Text} {r : Reading α} {steps : List (Reading α)} (hfirst : (p s).head? = some r)
      (hlt : r.rest.byteCount < s.byteCount) (hsteps : Chain p r.rest steps) :
      Chain p s (r :: steps)

/-- The text that is left when readings have been taken from a text on. -/
def after (s : Text) : List (Reading α) → Text
  | [] => s
  | r :: steps => after r.rest steps

/-- There is no reading at the text, or the first one does not leave fewer bytes. -/
def Stops (p : Parser α) (s : Text) : Prop :=
  p s = [] ∨ ∃ r, (p s).head? = some r ∧ ¬ r.rest.byteCount < s.byteCount

theorem Stops.greedy_eq (h : Stops p s) : greedy p s = ⟨[], s⟩ := by
  rcases h with hnil | ⟨r, hfirst, hlt⟩
  · exact greedy_of_eq_nil hnil
  · exact greedy_of_not_lt hfirst hlt

/-- Where a chain stops, no reading can be taken. -/
theorem Stops.not_taken (h : Stops p s) {r : Reading α} (hfirst : (p s).head? = some r) :
    ¬ r.rest.byteCount < s.byteCount := by
  rcases h with hnil | ⟨r', hfirst', hlt⟩
  · rw [hnil] at hfirst
    cases hfirst
  · rw [hfirst, Option.some.injEq] at hfirst'
    rw [hfirst']
    exact hlt

/-- Each reading that is taken costs a byte at least. -/
theorem Chain.length_add_le (h : Chain p s steps) :
    steps.length + (after s steps).byteCount ≤ s.byteCount := by
  induction h with
  | nil s => exact Nat.le_of_eq (Nat.zero_add _)
  | cons hfirst hlt hsteps ih =>
      rw [List.length_cons, after]
      omega

/-- Every chain is the start of the one that cannot go on. -/
theorem Chain.prefix_of_stops {other : List (Reading α)} (hother : Chain p s other)
    (h : Chain p s steps) (hstops : Stops p (after s steps)) : other <+: steps := by
  induction hother generalizing steps with
  | nil s => exact List.nil_prefix
  | cons hfirst hlt hsteps ih =>
      cases h with
      | nil => exact absurd hlt (hstops.not_taken hfirst)
      | cons hfirst' hlt' hsteps' =>
          -- Both chains take the first reading here.
          rw [hfirst, Option.some.injEq] at hfirst'
          subst hfirst'
          rw [List.cons_prefix_cons]
          exact ⟨rfl, ih hsteps' hstops⟩

/-- Two chains from one text that cannot go on are the same. -/
theorem Chain.eq_of_stops {other : List (Reading α)} (hother : Chain p s other)
    (hstops' : Stops p (after s other)) (h : Chain p s steps) (hstops : Stops p (after s steps)) :
    other = steps := by
  have hle := (h.prefix_of_stops hother hstops').length_le
  exact (hother.prefix_of_stops h hstops).eq_of_length_le hle

/-- From every text there is a chain that cannot go on. -/
theorem exists_chain (p : Parser α) (s : Text) :
    ∃ steps : List (Reading α), Chain p s steps ∧ Stops p (after s steps) := by
  fun_induction greedy p s with
  | case1 s hs => exact ⟨[], .nil s, Or.inl (List.head?_eq_none_iff.1 hs)⟩
  | case2 s r hs hlt tail ih =>
      obtain ⟨steps, hchain, hstops⟩ := ih
      exact ⟨r :: steps, .cons hs hlt hchain, hstops⟩
  | case3 s r hs hlt => exact ⟨[], .nil s, Or.inr ⟨r, hs, hlt⟩⟩

/-- The repetition reads the values of a chain that cannot go on. -/
theorem Chain.greedy_eq (h : Chain p s steps) (hstops : Stops p (after s steps)) :
    greedy p s = ⟨steps.map Reading.value, after s steps⟩ := by
  induction h with
  | nil s => exact hstops.greedy_eq
  | cons hfirst hlt hsteps ih =>
      rw [greedy_of_lt hfirst hlt, ih hstops]
      rfl

/-! ## The loop -/

/-- One turn of the loop, with the values so far and the text where it stands: the value of the
first reading is put at the end, if this reading leaves fewer bytes. -/
def turn? (p : Parser α) (sofar : Reading (List α)) : Option (Reading (List α)) :=
  (p sofar.rest).head?.bind fun r =>
    if r.rest.byteCount < sofar.rest.byteCount then some ⟨sofar.value ++ [r.value], r.rest⟩
    else none

/-- The loop, which goes on while there is a turn to take; called off when it would take more than
`n` turns. -/
def loop? (p : Parser α) : Nat → Reading (List α) → Option (Reading (List α))
  | 0, sofar => if (turn? p sofar).isSome then none else some sofar
  | n + 1, sofar =>
      match turn? p sofar with
      | none => some sofar
      | some next => loop? p n next

theorem turn?_of_lt {r : Reading α} (hfirst : (p s).head? = some r)
    (hlt : r.rest.byteCount < s.byteCount) (values : List α) :
    turn? p ⟨values, s⟩ = some ⟨values ++ [r.value], r.rest⟩ := by
  simp only [turn?, hfirst, Option.bind_some, if_pos hlt]

theorem Stops.turn?_eq_none (h : Stops p s) (values : List α) : turn? p ⟨values, s⟩ = none := by
  rcases h with hnil | ⟨r, hfirst, hlt⟩
  · simp only [turn?, hnil, List.head?_nil, Option.bind_none]
  · simp only [turn?, hfirst, Option.bind_some, if_neg hlt]

theorem Stops.loop?_eq (h : Stops p s) (n : Nat) (values : List α) :
    loop? p n ⟨values, s⟩ = some ⟨values, s⟩ := by
  cases n with
  | zero => simp only [loop?, h.turn?_eq_none, Option.isSome_none, Bool.false_eq_true, if_false]
  | succ n => simp only [loop?, h.turn?_eq_none]

/-- The loop takes one turn for each reading of the chain, and then it ends. -/
theorem Chain.loop?_eq (h : Chain p s steps) (hstops : Stops p (after s steps)) {n : Nat}
    (hn : steps.length ≤ n) (values : List α) :
    loop? p n ⟨values, s⟩ = some ⟨values ++ steps.map Reading.value, after s steps⟩ := by
  induction h generalizing n values with
  | nil s =>
      rw [List.map_nil, List.append_nil]
      exact hstops.loop?_eq n values
  | @cons s r steps hfirst hlt hsteps ih =>
      obtain ⟨n, rfl⟩ : ∃ m, n = m + 1 := by
        rw [List.length_cons] at hn
        exact ⟨n - 1, by omega⟩
      rw [loop?, turn?_of_lt hfirst hlt]
      show loop? p n ⟨values ++ [r.value], r.rest⟩ = _
      rw [ih hstops (Nat.le_of_succ_le_succ hn), List.append_assoc]
      rfl

/-! ## Repetitions of repetitions -/

/-- A repetition that is repeated takes all in one step, if there is anything to take. -/
theorem Chain.greedy_many (h : Chain p s steps) (hstops : Stops p (after s steps)) :
    greedy (many p) s =
      ⟨if steps = [] then [] else [steps.map Reading.value], after s steps⟩ := by
  have hread : (many p s).head? = some ⟨steps.map Reading.value, after s steps⟩ := by
    rw [many, h.greedy_eq hstops]
    rfl
  -- Where the repetition has ended, another one takes nothing, and so it is no step.
  have hend : Stops (many p) (after s steps) := by
    refine Or.inr ⟨⟨[], after s steps⟩, ?_, Nat.lt_irrefl _⟩
    rw [many, hstops.greedy_eq]
    rfl
  cases h with
  | nil => exact hend.greedy_eq
  | @cons _ r steps hfirst hlt hsteps =>
      have hle := hsteps.length_add_le
      have hshort : (after r.rest steps).byteCount < s.byteCount := by omega
      rw [greedy_of_lt hread hshort, hend.greedy_eq, if_neg (List.cons_ne_nil r steps)]

/-- A repetition reads the values of the one chain of first readings that cannot go on, for every
parser whatsoever. The loop that follows it ends after at most as many turns as the text has
bytes. Any other chain from the text is a start of this one. With at least one step the repetition
of at least one has the same reading, and none otherwise. At the end of the chain a repetition reads
nothing more, so repeating it puts the same values into one list more. -/
theorem repetition_follows_chain (p : Parser α) (s : Text) :
    ∃ (steps : List (Reading α)) (stop : Text), stop = after s steps ∧
      Chain p s steps ∧ Stops p stop ∧ steps.length ≤ s.byteCount ∧
      (∀ other, Chain p s other →
        other <+: steps ∧ (Stops p (after s other) → other = steps)) ∧
      loop? p s.byteCount ⟨[], s⟩ = some ⟨steps.map Reading.value, stop⟩ ∧
      many p s = [⟨steps.map Reading.value, stop⟩] ∧
      many1 p s = (if 1 ≤ steps.length then [⟨steps.map Reading.value, stop⟩] else []) ∧
      many p stop = [⟨[], stop⟩] ∧
      ∃ lists, many (many p) s = [⟨lists, stop⟩] ∧ lists.flatten = steps.map Reading.value := by
  obtain ⟨steps, hchain, hstops⟩ := exists_chain p s
  have hgreedy := hchain.greedy_eq hstops
  have hlength : steps.length ≤ s.byteCount :=
    Nat.le_trans (Nat.le_add_right _ _) hchain.length_add_le
  refine ⟨steps, after s steps, rfl, hchain, hstops, hlength, ?_, ?_, ?_, ?_, ?_, ?_⟩
  · intro other hother
    refine ⟨hother.prefix_of_stops hchain hstops, fun hstops' => ?_⟩
    exact hother.eq_of_stops hstops' hchain hstops
  · exact hchain.loop?_eq hstops hlength []
  · rw [many, hgreedy]
  · rw [many1_eq, hgreedy]
    cases steps with
    | nil => rfl
    | cons r steps => rfl
  · rw [many, hstops.greedy_eq]
  · refine ⟨_, by rw [many, hchain.greedy_many hstops], ?_⟩
    cases steps with
    | nil => rfl
    | cons r steps => exact List.append_nil _

/-- A first reading that takes nothing hides a longer second one. -/
example : many (fun s => [⟨(), s⟩, ⟨(), s.drop 1⟩]) ['a', 'b'] = [⟨[], ['a', 'b']⟩] := by
  decide +kernel

end Parser

end ExprCalc
