import ExprCalc.Grammar.Meaning
import ExprCalc.Proofs.Attempt
import ExprCalc.Proofs.Progress

/-!
# Constructions

A construction is a parser put together from the primitive parsers of the library by its
operations, as a piece of data indexed by the type of the values. The functions that it applies to
values are arbitrary, and so are its base parsers, which come from outside and may be ambiguous. A
construction may refer to others by name, and definitions give a construction to each name, so
constructions may refer to each other in circles.

`Construction.parser` is the parser of a construction, given one for each name, and
`Construction.attempt` is the same for parsers that may be called off. A parse of a construction
follows references inside one another; `Definitions.run` is the parse that is called off when more
than a given number of references would be open at once. So a parse ends if and only if some number
is large enough for it, and a larger number changes nothing about its answer.

A construction is *nullable* if its form allows that it reads nothing, and its *heads* are the
names that it may refer to before it has read anything. What is not nullable leaves less than the
whole text (`Construction.shortens`), and with `Construction.leavesSuffix` this tells
on which texts the parts of a construction are run.
-/

set_option autoImplicit false

namespace ExprCalc

/-- The parsers of the library that run no other parser. -/
inductive Primitive : Type → Type
  | any : Primitive Char
  | char (expected : Char) : Primitive Char
  | oneOf (set : Text) : Primitive Char
  | letter : Primitive Char
  | digit : Primitive Nat
  | natural : Primitive UInt64
  | integer : Primitive Int64
  | arithmetic (level : Arithmetic.Level) : Primitive Int64
  | operator (symbols : Text) : Primitive Operator

/-- The parser that a primitive stands for. -/
def Primitive.parser : {α : Type} → Primitive α → Parser α
  | _, .any => Parser.any
  | _, .char expected => Parser.char expected
  | _, .oneOf set => Parser.oneOf set
  | _, .letter => Parser.letter
  | _, .digit => Parser.digit
  | _, .natural => Parser.natural
  | _, .integer => Parser.integer
  | _, .arithmetic level => level.parser
  | _, .operator symbols => Parser.operator symbols

/-- A parser put together by the operations of the library, where the values of the name `n` are of
the type `τ n`. -/
inductive Construction {ι : Type} (τ : ι → Type) : Type → Type 1
  /-- A primitive parser. -/
  | primitive {α : Type} (p : Primitive α) : Construction τ α
  /-- Every start of the text with a length in the given interval. -/
  | starts (min max : Nat) (longestFirst : Bool) : Construction τ Text
  /-- A parser from outside. -/
  | base {α : Type} (p : Parser α) : Construction τ α
  /-- One or more in a row. -/
  | many1 {α : Type} (a : Construction τ α) : Construction τ (List α)
  /-- Any number in a row. -/
  | many {α : Type} (a : Construction τ α) : Construction τ (List α)
  /-- The first construction, or the second one where the first fails. -/
  | choice {α : Type} (a b : Construction τ α) : Construction τ α
  /-- One construction after the other, with the pair of their values. -/
  | seq {α β : Type} (a : Construction τ α) (b : Construction τ β) : Construction τ (α × β)
  /-- One construction after the other, with the value of the second at the end of that of
  the first. -/
  | push {α : Type} (a : Construction τ (List α)) (b : Construction τ α) : Construction τ (List α)
  /-- The second construction between the first and the third one. -/
  | between {α β γ : Type} (a : Construction τ α) (b : Construction τ β) (c : Construction τ γ) :
      Construction τ β
  /-- The construction with its values changed. -/
  | map {α β : Type} (a : Construction τ α) (f : α → β) : Construction τ β
  /-- The construction with only the values that pass a test. -/
  | filter {α : Type} (a : Construction τ α) (keep : α → Bool) : Construction τ α
  /-- The construction with its values changed where a partial function has an answer. -/
  | filterMap {α β : Type} (a : Construction τ α) (f : α → Option β) : Construction τ β
  /-- The construction with its values paired with the text that was read. -/
  | span {α : Type} (a : Construction τ α) : Construction τ (α × Text)
  /-- The construction as it is. -/
  | group {α : Type} (a : Construction τ α) : Construction τ α
  /-- The construction of the given name, looked up when it is run. -/
  | lazy (n : ι) : Construction τ (τ n)

/-- Definitions give a construction to each name. -/
abbrev Definitions {ι : Type} (τ : ι → Type) : Type 1 := (n : ι) → Construction τ (τ n)

variable {ι : Type} {τ : ι → Type} {α : Type}

/-! ## The meaning of constructions -/

namespace Construction

/-- The parser of a construction, when `call` gives the parsers for the names. -/
def parser (call : (n : ι) → Parser (τ n)) : {α : Type} → Construction τ α → Parser α
  | _, .primitive p => p.parser
  | _, .starts min max longestFirst => Parser.starts min max longestFirst
  | _, .base p => p
  | _, .many1 a => Parser.many1 (a.parser call)
  | _, .many a => Parser.many (a.parser call)
  | _, .choice a b => (a.parser call).orElse (b.parser call)
  | _, .seq a b => (a.parser call).andThen (b.parser call)
  | _, .push a b => (a.parser call).push (b.parser call)
  | _, .between a b c => Parser.between (a.parser call) (b.parser call) (c.parser call)
  | _, .map a f => (a.parser call).map f
  | _, .filter a keep => (a.parser call).filter keep
  | _, .filterMap a f => (a.parser call).filterMap f
  | _, .span a => (a.parser call).withSpan
  | _, .group a => a.parser call
  | _, .lazy n => call n

/-- The parser of a construction that is called off when one of the parsers for the names is. -/
def attempt (call : (n : ι) → Attempt (τ n)) : {α : Type} → Construction τ α → Attempt α
  | _, .primitive p => .ofParser p.parser
  | _, .starts min max longestFirst => .ofParser (Parser.starts min max longestFirst)
  | _, .base p => .ofParser p
  | _, .many1 a => Attempt.many1 (a.attempt call)
  | _, .many a => Attempt.many (a.attempt call)
  | _, .choice a b => (a.attempt call).orElse (b.attempt call)
  | _, .seq a b => (a.attempt call).andThen (b.attempt call)
  | _, .push a b => (a.attempt call).push (b.attempt call)
  | _, .between a b c => Attempt.between (a.attempt call) (b.attempt call) (c.attempt call)
  | _, .map a f => (a.attempt call).map f
  | _, .filter a keep => (a.attempt call).pointwise fun p => p.filter keep
  | _, .filterMap a f => (a.attempt call).pointwise fun p => p.filterMap f
  | _, .span a => (a.attempt call).pointwise Parser.withSpan
  | _, .group a => a.attempt call
  | _, .lazy n => call n

end Construction

namespace Definitions

/-- The parsers of the names with at most `k` references open one inside another; one that goes
deeper fails. -/
def within (D : Definitions τ) : Nat → (n : ι) → Parser (τ n)
  | 0, _ => Parser.fail
  | k + 1, n => (D n).parser (D.within k)

/-- The parsers of the names, called off when more than `k` references would be open one inside
another. -/
def bounded (D : Definitions τ) : Nat → (n : ι) → Attempt (τ n)
  | 0, _ => fun _ => none
  | k + 1, n => (D n).attempt (D.bounded k)

/-- The parse of a construction, called off when more than `k` references would be open one inside
another. -/
def run (D : Definitions τ) (k : Nat) (c : Construction τ α) : Attempt α := c.attempt (D.bounded k)

end Definitions

/-! ## Attempts and parsers -/

/-- The readings of an attempt, none if it is called off. -/
def Attempt.toParser (p : Attempt α) : Parser α := fun s => (p s).getD []

theorem Attempt.toParser_eq {p : Attempt α} {s : Text} {rs : List (Reading α)}
    (h : p s = some rs) : p.toParser s = rs := by
  rw [toParser, h]
  rfl

namespace Construction

open Attempt

/-- Where nothing is called off, the attempt of a construction is its parser. -/
theorem attempt_ofParser (call : (n : ι) → Parser (τ n)) (c : Construction τ α) :
    c.attempt (fun n => ofParser (call n)) = ofParser (c.parser call) := by
  induction c with
  | primitive p => rfl
  | starts min max longestFirst => rfl
  | base p => rfl
  | many1 a ih => rw [attempt, ih, ofParser_many1, parser]
  | many a ih => rw [attempt, ih, ofParser_many, parser]
  | choice a b iha ihb => rw [attempt, iha, ihb, ofParser_orElse, parser]
  | seq a b iha ihb => rw [attempt, iha, ihb, ofParser_andThen, parser]
  | push a b iha ihb => rw [attempt, iha, ihb, ofParser_push, parser]
  | between a b c iha ihb ihc => rw [attempt, iha, ihb, ihc, ofParser_between, parser]
  | map a f ih => rw [attempt, ih, ofParser_map, parser]
  | filter a keep ih => rw [attempt, ih, ofParser_pointwise _ fun _ _ => rfl, parser]
  | filterMap a f ih => rw [attempt, ih, ofParser_pointwise _ fun _ _ => rfl, parser]
  | span a ih => rw [attempt, ih, ofParser_pointwise _ fun _ _ => rfl, parser]
  | group a ih => exact ih
  | lazy n => rfl

/-- Where the parsers for the names answer alike, the constructions do. -/
theorem followsAt_attempt {call call' : (n : ι) → Attempt (τ n)}
    (h : ∀ n t, FollowsAt t (call' n) (call n)) (c : Construction τ α) (s : Text) :
    FollowsAt s (c.attempt call') (c.attempt call) := by
  induction c generalizing s with
  | primitive p => exact FollowsAt.refl _
  | starts min max longestFirst => exact FollowsAt.refl _
  | base p => exact FollowsAt.refl _
  | many1 a ih => exact (FollowsAt.many ih s).many1_of_many
  | many a ih => exact FollowsAt.many ih s
  | choice a b iha ihb => exact (iha s).orElse (ihb s)
  | seq a b iha ihb => exact (iha s).andThen fun _ _ x _ => ihb x.rest
  | push a b iha ihb => exact (iha s).push fun _ _ x _ => ihb x.rest
  | between a b c iha ihb ihc =>
      exact (iha s).between (fun _ _ o _ => ihb o.rest) fun _ _ _ _ _ _ x _ => ihc x.rest
  | map a f ih => exact (ih s).map f
  | filter a keep ih => exact (ih s).pointwise _
  | filterMap a f ih => exact (ih s).pointwise _
  | span a ih => exact (ih s).pointwise _
  | group a ih => exact ih s
  | lazy n => exact h n s

/-- An answer of the attempt is that of the parser, if the answers for the names are. -/
theorem parser_eq_of_attempt {call : (n : ι) → Attempt (τ n)} {f : (n : ι) → Parser (τ n)}
    (h : ∀ n t ts, call n t = some ts → f n t = ts) {c : Construction τ α} {s : Text}
    {rs : List (Reading α)} (hrs : c.attempt call s = some rs) : c.parser f s = rs := by
  have hcall : ∀ n t, FollowsAt t (ofParser (f n)) (call n) :=
    fun n t ts hts => congrArg some (h n t ts hts)
  have hparser := c.followsAt_attempt hcall s rs hrs
  rw [attempt_ofParser] at hparser
  exact Option.some.inj hparser

/-! ## Remainders -/

/-- The base parsers of the construction leave ends of the text. -/
def BasesLeaveSuffix : {α : Type} → Construction τ α → Prop
  | _, .primitive _ => True
  | _, .starts _ _ _ => True
  | _, .base p => p.LeavesSuffix
  | _, .many1 a => a.BasesLeaveSuffix
  | _, .many a => a.BasesLeaveSuffix
  | _, .choice a b => a.BasesLeaveSuffix ∧ b.BasesLeaveSuffix
  | _, .seq a b => a.BasesLeaveSuffix ∧ b.BasesLeaveSuffix
  | _, .push a b => a.BasesLeaveSuffix ∧ b.BasesLeaveSuffix
  | _, .between a b c => a.BasesLeaveSuffix ∧ b.BasesLeaveSuffix ∧ c.BasesLeaveSuffix
  | _, .map a _ => a.BasesLeaveSuffix
  | _, .filter a _ => a.BasesLeaveSuffix
  | _, .filterMap a _ => a.BasesLeaveSuffix
  | _, .span a => a.BasesLeaveSuffix
  | _, .group a => a.BasesLeaveSuffix
  | _, .lazy _ => True

end Construction

namespace Parser

theorem leavesSuffix_starts (min max : Nat) (longestFirst : Bool) :
    LeavesSuffix (starts min max longestFirst) := by
  intro s r h
  obtain ⟨n, -, rfl⟩ := List.mem_map.1 h
  exact List.drop_suffix n s

theorem shortens_starts {min max : Nat} (hmin : 0 < min) (longestFirst : Bool) :
    Shortens (starts min max longestFirst) := by
  intro s r h
  obtain ⟨n, hn, rfl⟩ := List.mem_map.1 h
  have hmem : n ∈ (List.range (s.length + 1)).filter fun n => min ≤ n && n ≤ max := by
    cases longestFirst with
    | true => exact List.mem_reverse.1 hn
    | false => exact hn
  obtain ⟨hrange, hinterval⟩ := List.mem_filter.1 hmem
  have hle : min ≤ n := of_decide_eq_true (Bool.and_eq_true_iff.1 hinterval).1
  have hlt : n < s.length + 1 := List.mem_range.1 hrange
  show (s.drop n).length < s.length
  rw [List.length_drop]
  omega

end Parser

namespace Primitive

open ExprCalc.Parser

theorem leavesSuffix (p : Primitive α) : LeavesSuffix p.parser := by
  cases p with
  | any => exact leavesSuffix_any
  | char expected => exact leavesSuffix_char expected
  | oneOf set => exact leavesSuffix_oneOf set
  | letter => exact leavesSuffix_letter
  | digit => exact leavesSuffix_digit
  | natural => exact leavesSuffix_natural
  | integer => exact leavesSuffix_integer
  | arithmetic level => exact level.leavesSuffix_parser
  | operator symbols => exact leavesSuffix_operator symbols

theorem shortens (p : Primitive α) : Shortens p.parser := by
  cases p with
  | any => exact shortens_any
  | char expected => exact shortens_char expected
  | oneOf set => exact shortens_oneOf set
  | letter => exact shortens_letter
  | digit => exact shortens_digit
  | natural => exact shortens_natural
  | integer => exact shortens_integer
  | arithmetic level => exact level.shortens_parser
  | operator symbols => exact shortens_operator symbols

end Primitive

namespace Construction

open ExprCalc.Parser

/-- A construction leaves ends of the text if its base parsers and the parsers for the names do. -/
theorem leavesSuffix {call : (n : ι) → Parser (τ n)} (hcall : ∀ n, LeavesSuffix (call n))
    {c : Construction τ α} (hc : c.BasesLeaveSuffix) : LeavesSuffix (c.parser call) := by
  induction c with
  | primitive p => exact p.leavesSuffix
  | starts min max longestFirst => exact leavesSuffix_starts min max longestFirst
  | base p => exact hc
  | many1 a ih => exact (ih hc).many1
  | many a ih => exact (ih hc).many
  | choice a b iha ihb => exact (iha hc.1).orElse (ihb hc.2)
  | seq a b iha ihb => exact (iha hc.1).andThen (ihb hc.2)
  | push a b iha ihb => exact (iha hc.1).push (ihb hc.2)
  | between a b c iha ihb ihc => exact (iha hc.1).between (ihb hc.2.1) (ihc hc.2.2)
  | map a f ih => exact (ih hc).map f
  | filter a keep ih => exact (ih hc).filter keep
  | filterMap a f ih => exact (ih hc).filterMap f
  | span a ih => exact (ih hc).withSpan
  | group a ih => exact ih hc
  | lazy n => exact hcall n

/-! ## Constructions that may read nothing -/

/-- The form of the construction allows that it reads nothing: nothing is known of references and
base parsers, a repetition may take no step, and a sequence reads nothing if no part of it reads
anything. -/
def nullable : {α : Type} → Construction τ α → Bool
  | _, .primitive _ => false
  | _, .starts min _ _ => min == 0
  | _, .base _ => true
  | _, .many1 _ => false
  | _, .many _ => true
  | _, .choice a b => a.nullable || b.nullable
  | _, .seq a b => a.nullable && b.nullable
  | _, .push a b => a.nullable && b.nullable
  | _, .between a b c => a.nullable && b.nullable && c.nullable
  | _, .map a _ => a.nullable
  | _, .filter a _ => a.nullable
  | _, .filterMap a _ => a.nullable
  | _, .span a => a.nullable
  | _, .group a => a.nullable
  | _, .lazy _ => true

/-- What is not nullable leaves less than the whole text. -/
theorem shortens {call : (n : ι) → Parser (τ n)} (hcall : ∀ n, LeavesSuffix (call n))
    {c : Construction τ α} (hc : c.BasesLeaveSuffix) (hnull : c.nullable = false) :
    Shortens (c.parser call) := by
  induction c with
  | primitive p => exact p.shortens
  | starts min max longestFirst =>
      exact shortens_starts (Nat.pos_of_ne_zero (beq_eq_false_iff_ne.1 hnull)) longestFirst
  | base p => cases hnull
  -- One step of a repetition is taken only if it shortens the text, whatever is repeated.
  | many1 a ih => exact (leavesSuffix hcall (c := a) hc).shortens_many1
  | many a ih => cases hnull
  | choice a b iha ihb =>
      obtain ⟨ha, hb⟩ := Bool.or_eq_false_iff.1 hnull
      exact (iha hc.1 ha).orElse (ihb hc.2 hb)
  | seq a b iha ihb =>
      refine shortens_andThen (leavesSuffix hcall hc.1) (leavesSuffix hcall hc.2) ?_
      exact (Bool.and_eq_false_iff.1 hnull).imp (iha hc.1) (ihb hc.2)
  | push a b iha ihb =>
      refine shortens_push (leavesSuffix hcall hc.1) (leavesSuffix hcall hc.2) ?_
      exact (Bool.and_eq_false_iff.1 hnull).imp (iha hc.1) (ihb hc.2)
  | between a b c iha ihb ihc =>
      refine shortens_between (leavesSuffix hcall hc.1) (leavesSuffix hcall hc.2.1)
        (leavesSuffix hcall hc.2.2) ?_
      refine (Bool.and_eq_false_iff.1 hnull).imp (fun hab => ?_) (ihc hc.2.2)
      exact (Bool.and_eq_false_iff.1 hab).imp (iha hc.1) (ihb hc.2.1)
  | map a f ih => exact (ih hc hnull).map f
  | filter a keep ih => exact (ih hc hnull).filter keep
  | filterMap a f ih => exact (ih hc hnull).filterMap f
  | span a ih => exact (ih hc hnull).withSpan
  | group a ih => exact ih hc hnull
  | lazy n => cases hnull

end Construction

/-! ## Runs -/

namespace Definitions

open ExprCalc.Parser

/-- The base parsers of all constructions leave ends of the text. -/
def BasesLeaveSuffix (D : Definitions τ) : Prop := ∀ n, (D n).BasesLeaveSuffix

theorem within_eq_of_bounded {D : Definitions τ} {k : Nat} {n : ι} {s : Text}
    {rs : List (Reading (τ n))} (h : D.bounded k n s = some rs) : D.within k n s = rs := by
  induction k generalizing n s with
  | zero => cases h
  | succ k ih =>
      have hbody : (D n).attempt (D.bounded k) s = some rs := h
      refine Construction.parser_eq_of_attempt ?_ hbody
      intro m t ts hts
      exact ih hts

/-- A run that ends has the readings of the parser that follows as many references. -/
theorem parser_eq_of_run {D : Definitions τ} {k : Nat} {c : Construction τ α} {s : Text}
    {rs : List (Reading α)} (h : D.run k c s = some rs) : c.parser (D.within k) s = rs := by
  have hbody : c.attempt (D.bounded k) s = some rs := h
  refine Construction.parser_eq_of_attempt ?_ hbody
  intro m t ts hts
  exact within_eq_of_bounded hts

/-- One more open reference changes no answer. -/
theorem followsAt_bounded_succ (D : Definitions τ) (k : Nat) (n : ι) (s : Text) :
    Attempt.FollowsAt s (D.bounded (k + 1) n) (D.bounded k n) := by
  induction k generalizing n s with
  | zero =>
      intro rs hrs
      cases hrs
  | succ k ih => exact (D n).followsAt_attempt ih s

theorem followsAt_bounded (D : Definitions τ) {k m : Nat} (hkm : k ≤ m) (n : ι) (s : Text) :
    Attempt.FollowsAt s (D.bounded m n) (D.bounded k n) := by
  induction hkm with
  | refl => exact Attempt.FollowsAt.refl _
  | @step m _ ih => exact fun rs hrs => D.followsAt_bounded_succ m n s rs (ih rs hrs)

/-- A run that ends has the same answer if more references may be open. -/
theorem run_mono {D : Definitions τ} {k m : Nat} (hkm : k ≤ m) {c : Construction τ α} {s : Text}
    {rs : List (Reading α)} (h : D.run k c s = some rs) : D.run m c s = some rs :=
  c.followsAt_attempt (D.followsAt_bounded hkm) s rs h

theorem leavesSuffix_within {D : Definitions τ} (hD : D.BasesLeaveSuffix) (k : Nat) (n : ι) :
    LeavesSuffix (D.within k n) := by
  induction k generalizing n with
  | zero => exact leavesSuffix_fail
  | succ k ih => exact Construction.leavesSuffix ih (hD n)

/-- Every reading of a run that ends leaves an end of the text. -/
theorem rest_of_run {D : Definitions τ} (hD : D.BasesLeaveSuffix) {k : Nat} {c : Construction τ α}
    (hc : c.BasesLeaveSuffix) {s : Text} {rs : List (Reading α)} (h : D.run k c s = some rs) :
    ∀ r ∈ rs, r.rest <:+ s := by
  rw [← parser_eq_of_run h]
  exact Construction.leavesSuffix (leavesSuffix_within hD k) hc s

end Definitions

end ExprCalc
