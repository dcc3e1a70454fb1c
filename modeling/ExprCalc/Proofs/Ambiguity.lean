import ExprCalc.Proofs.GrammarTermination

/-!
# Where ambiguity comes from

A parser is *unambiguous* if no text has more than one reading by it. The primitive parsers are, and
every operation keeps the property. A repetition is unambiguous whatever is repeated, since it
follows first readings only. So what stands inside a repetition may be ambiguous, and everything
else is *exposed*: its readings become readings of the whole. That holds of references too. What a
construction refers to outside every repetition is exposed, with all that is exposed in
its definition.

If no ambiguous base parser is exposed in a construction, each of its parses that ends has at most
one reading (`Definitions.at_most_one_reading`). The exposed references may lead in circles, and the
repetitions may hide definitions that are ambiguous on their own.
-/

set_option autoImplicit false

namespace ExprCalc

universe u v w

namespace Parser

variable {α : Type u} {β : Type v} {γ : Type w}

/-- No text has more than one reading. -/
def Unambiguous (p : Parser α) : Prop := ∀ s, (p s).length ≤ 1

theorem Unambiguous.eq_nil_or_singleton {p : Parser α} (hp : Unambiguous p) (s : Text) :
    p s = [] ∨ ∃ r, p s = [r] := by
  rcases Nat.le_one_iff_eq_zero_or_eq_one.1 (hp s) with hzero | hone
  · exact Or.inl (List.length_eq_zero_iff.1 hzero)
  · exact Or.inr (List.length_eq_one_iff.1 hone)

/-- The first reading of an unambiguous parser is all that it has. -/
theorem Unambiguous.head?_toList {p : Parser α} (hp : Unambiguous p) (s : Text) :
    (p s).head?.toList = p s := by
  rcases hp.eq_nil_or_singleton s with h | ⟨r, h⟩
  · rw [h]
    rfl
  · rw [h]
    rfl

/-! ## The operations on parsers -/

theorem unambiguous_fail : Unambiguous (fail : Parser α) := fun _ => Nat.zero_le 1

theorem Unambiguous.map {p : Parser α} (hp : Unambiguous p) (f : α → β) :
    Unambiguous (p.map f) := by
  intro s
  unfold Parser.map
  rw [List.length_map]
  exact hp s

theorem Unambiguous.filter {p : Parser α} (hp : Unambiguous p) (keep : α → Bool) :
    Unambiguous (p.filter keep) :=
  fun s => (List.length_filter_le _ _).trans (hp s)

theorem Unambiguous.filterMap {p : Parser α} (hp : Unambiguous p) (f : α → Option β) :
    Unambiguous (p.filterMap f) :=
  fun s => (List.length_filterMap_le _ _).trans (hp s)

theorem Unambiguous.withSpan {p : Parser α} (hp : Unambiguous p) : Unambiguous p.withSpan := by
  intro s
  unfold Parser.withSpan
  rw [List.length_map]
  exact hp s

theorem Unambiguous.orElse {p q : Parser α} (hp : Unambiguous p) (hq : Unambiguous q) :
    Unambiguous (p.orElse q) := by
  intro s
  by_cases h : p s = []
  · rw [orElse_of_eq_nil h]
    exact hq s
  · rw [orElse_of_ne_nil h]
    exact hp s

theorem Unambiguous.andThen {p : Parser α} {q : Parser β} (hp : Unambiguous p)
    (hq : Unambiguous q) : Unambiguous (p.andThen q) := by
  intro s
  rcases hp.eq_nil_or_singleton s with h | ⟨a, h⟩
  · rw [andThen_of_eq_nil h]
    exact Nat.zero_le 1
  · -- Only one remainder is left for the second parser.
    unfold Parser.andThen
    rw [h, List.flatMap_singleton, List.length_map]
    exact hq a.rest

theorem Unambiguous.push {p : Parser (List α)} {q : Parser α} (hp : Unambiguous p)
    (hq : Unambiguous q) : Unambiguous (p.push q) := by
  rw [push_eq_map_andThen]
  exact (hp.andThen hq).map _

theorem Unambiguous.between {opening : Parser α} {content : Parser β} {closing : Parser γ}
    (ho : Unambiguous opening) (hc : Unambiguous content) (he : Unambiguous closing) :
    Unambiguous (between opening content closing) := by
  rw [between_eq_map_andThen]
  exact ((ho.andThen hc).andThen he).map _

/-- A repetition has one reading, also of a parser that has many. -/
theorem unambiguous_many (p : Parser α) : Unambiguous (many p) := fun _ => Nat.le_refl 1

theorem unambiguous_many1 (p : Parser α) : Unambiguous (many1 p) := (unambiguous_many p).filter _

/-! ## The parsers of the library -/

theorem unambiguous_any : Unambiguous any := by
  intro s
  cases s with
  | nil => exact Nat.zero_le 1
  | cons c s => exact Nat.le_refl 1

theorem unambiguous_char (c : Char) : Unambiguous (char c) := unambiguous_any.filter _

theorem unambiguous_oneOf (set : Text) : Unambiguous (oneOf set) := unambiguous_any.filter _

theorem unambiguous_letter : Unambiguous letter := unambiguous_any.filter _

theorem unambiguous_digit : Unambiguous digit := unambiguous_any.filterMap _

theorem unambiguous_unsignedNumeral : Unambiguous unsignedNumeral := (unambiguous_many1 digit).map _

theorem unambiguous_natural : Unambiguous natural := unambiguous_unsignedNumeral.filterMap _

theorem unambiguous_signedNumeral : Unambiguous signedNumeral :=
  (((unambiguous_oneOf _).andThen unambiguous_unsignedNumeral).map _).orElse
    (unambiguous_unsignedNumeral.map _)

theorem unambiguous_integer : Unambiguous integer := unambiguous_signedNumeral.filterMap _

theorem unambiguous_operator (symbols : Text) : Unambiguous (operator symbols) :=
  (unambiguous_oneOf symbols).filterMap _

end Parser

namespace Arithmetic

open ExprCalc.Parser

theorem unambiguous_chain {operand : Parser (Option Int64)} (h : Unambiguous operand)
    (symbols : Text) : Unambiguous (chain operand symbols) :=
  (h.andThen (unambiguous_many _)).map _

theorem unambiguous_factorWith {inner : Parser (Option Int64)} (h : Unambiguous inner) :
    Unambiguous (factorWith inner) :=
  unambiguous_signedNumeral.orElse ((unambiguous_char '(').between h (unambiguous_char ')'))

theorem unambiguous_termWith {inner : Parser (Option Int64)} (h : Unambiguous inner) :
    Unambiguous (termWith inner) :=
  unambiguous_chain (unambiguous_factorWith h) _

theorem unambiguous_expressionWith {inner : Parser (Option Int64)} (h : Unambiguous inner) :
    Unambiguous (expressionWith inner) :=
  unambiguous_chain (unambiguous_termWith h) _

theorem unambiguous_expressionWithin (n : Nat) : Unambiguous (expressionWithin n) := by
  induction n with
  | zero => exact unambiguous_fail
  | succ n ih => exact unambiguous_expressionWith ih

theorem unambiguous_nested : Unambiguous nested :=
  fun s => unambiguous_expressionWithin (s.length + 1) s

theorem Level.unambiguous_parser (level : Level) : Unambiguous level.parser := by
  cases level with
  | expression => exact (unambiguous_expressionWith unambiguous_nested).filterMap _
  | term => exact (unambiguous_termWith unambiguous_nested).filterMap _
  | factor => exact (unambiguous_factorWith unambiguous_nested).filterMap _

end Arithmetic

variable {ι : Type} {τ : ι → Type} {α : Type}

theorem Primitive.unambiguous (p : Primitive α) : p.parser.Unambiguous := by
  cases p with
  | any => exact Parser.unambiguous_any
  | char expected => exact Parser.unambiguous_char expected
  | oneOf set => exact Parser.unambiguous_oneOf set
  | letter => exact Parser.unambiguous_letter
  | digit => exact Parser.unambiguous_digit
  | natural => exact Parser.unambiguous_natural
  | integer => exact Parser.unambiguous_integer
  | arithmetic level => exact level.unambiguous_parser
  | operator symbols => exact Parser.unambiguous_operator symbols

/-! ## What is exposed -/

namespace Construction

open ExprCalc.Parser

/-- The base parsers outside every repetition are unambiguous. -/
def ExposedUnambiguous : {α : Type} → Construction τ α → Prop
  | _, .primitive _ => True
  | _, .starts min max longestFirst => Unambiguous (Parser.starts min max longestFirst)
  | _, .base p => Unambiguous p
  | _, .many1 _ => True
  | _, .many _ => True
  | _, .choice a b => a.ExposedUnambiguous ∧ b.ExposedUnambiguous
  | _, .seq a b => a.ExposedUnambiguous ∧ b.ExposedUnambiguous
  | _, .push a b => a.ExposedUnambiguous ∧ b.ExposedUnambiguous
  | _, .between a b c => a.ExposedUnambiguous ∧ b.ExposedUnambiguous ∧ c.ExposedUnambiguous
  | _, .map a _ => a.ExposedUnambiguous
  | _, .filter a _ => a.ExposedUnambiguous
  | _, .filterMap a _ => a.ExposedUnambiguous
  | _, .span a => a.ExposedUnambiguous
  | _, .group a => a.ExposedUnambiguous
  | _, .lazy _ => True

/-- The names that a construction refers to outside every repetition. -/
def exposed : {α : Type} → Construction τ α → List ι
  | _, .primitive _ => []
  | _, .starts _ _ _ => []
  | _, .base _ => []
  | _, .many1 _ => []
  | _, .many _ => []
  | _, .choice a b => a.exposed ++ b.exposed
  | _, .seq a b => a.exposed ++ b.exposed
  | _, .push a b => a.exposed ++ b.exposed
  | _, .between a b c => a.exposed ++ (b.exposed ++ c.exposed)
  | _, .map a _ => a.exposed
  | _, .filter a _ => a.exposed
  | _, .filterMap a _ => a.exposed
  | _, .span a => a.exposed
  | _, .group a => a.exposed
  | _, .lazy n => [n]

/-- A construction is unambiguous if all that is exposed in it is. -/
theorem unambiguous {call : (n : ι) → Parser (τ n)} {c : Construction τ α}
    (hc : c.ExposedUnambiguous) (hcall : ∀ n ∈ c.exposed, Unambiguous (call n)) :
    Unambiguous (c.parser call) := by
  induction c with
  | primitive p => exact p.unambiguous
  | starts min max longestFirst => exact hc
  | base p => exact hc
  -- Nothing is known of what is repeated, and nothing needs to be.
  | many1 a => exact unambiguous_many1 _
  | many a => exact unambiguous_many _
  | choice a b iha ihb =>
      obtain ⟨ha, hb⟩ := List.forall_mem_append.1 hcall
      exact (iha hc.1 ha).orElse (ihb hc.2 hb)
  | seq a b iha ihb =>
      obtain ⟨ha, hb⟩ := List.forall_mem_append.1 hcall
      exact (iha hc.1 ha).andThen (ihb hc.2 hb)
  | push a b iha ihb =>
      obtain ⟨ha, hb⟩ := List.forall_mem_append.1 hcall
      exact (iha hc.1 ha).push (ihb hc.2 hb)
  | between a b c iha ihb ihc =>
      obtain ⟨ha, hbc⟩ := List.forall_mem_append.1 hcall
      obtain ⟨hb, hc'⟩ := List.forall_mem_append.1 hbc
      exact (iha hc.1 ha).between (ihb hc.2.1 hb) (ihc hc.2.2 hc')
  | map a f ih => exact (ih hc hcall).map f
  | filter a keep ih => exact (ih hc hcall).filter keep
  | filterMap a f ih => exact (ih hc hcall).filterMap f
  | span a ih => exact (ih hc hcall).withSpan
  | group a ih => exact ih hc hcall
  | lazy n => exact hcall n List.mem_cons_self

end Construction

namespace Definitions

open ExprCalc.Parser

/-- The definition of the name `n` refers to the name `m` outside every repetition. -/
def Exposes (D : Definitions τ) (n m : ι) : Prop := m ∈ (D n).exposed

/-- No ambiguous base parser is exposed in a construction, neither in itself nor in a definition
that its exposed references lead to. -/
structure ExposedUnambiguous (D : Definitions τ) (c : Construction τ α) : Prop where
  here : c.ExposedUnambiguous
  reached : ∀ n ∈ c.exposed, ∀ m, Relation.ReflTransGen D.Exposes n m → (D m).ExposedUnambiguous

/-- The parser of a name is unambiguous if no ambiguous base parser is exposed in the definitions
that the name leads to. -/
theorem unambiguous_within {D : Definitions τ} {n : ι}
    (h : ∀ m, Relation.ReflTransGen D.Exposes n m → (D m).ExposedUnambiguous) (k : Nat) :
    Unambiguous (D.within k n) := by
  -- The induction is on the references that may be open, since the names may lead in circles.
  induction k generalizing n with
  | zero => exact unambiguous_fail
  | succ k ih =>
      have hbody : Unambiguous ((D n).parser (D.within k)) := by
        refine Construction.unambiguous (h n .refl) fun m hm => ih fun m' hm' => ?_
        exact h m' (Relation.ReflTransGen.head hm hm')
      exact hbody

theorem ExposedUnambiguous.unambiguous {D : Definitions τ} {c : Construction τ α}
    (h : D.ExposedUnambiguous c) (k : Nat) : Unambiguous (c.parser (D.within k)) :=
  Construction.unambiguous h.here fun n hn => unambiguous_within (h.reached n hn) k

/-- Ambiguity comes from base parsers that are exposed, and from nowhere else. Without them every
parse that ends has at most one reading, so taking the first reading loses nothing. The same holds
of the rules of a grammar for every text, and of the arithmetic that is evaluated. -/
theorem at_most_one_reading :
    (∀ {ι : Type} {τ : ι → Type} (D : Definitions τ) {α : Type} (c : Construction τ α),
      D.ExposedUnambiguous c → ∀ (k : Nat) (s : Text) (rs : List (Reading α)),
        D.run k c s = some rs →
          rs.length ≤ 1 ∧ rs.head?.toList = rs ∧ c.parser (D.within k) s = rs) ∧
    (∀ (g : Grammar) (r : Grammar.Rule), g.definitions.ExposedUnambiguous (r.construction g) →
      ∀ s, (g.parse r s).length ≤ 1 ∧ (g.parse r s).head?.toList = g.parse r s) ∧
    ∀ (level : Arithmetic.Level) (s : Text), (level.parser s).head?.toList = level.parser s := by
  refine ⟨fun D _ c h k s rs hrs => ?_, fun g r h s => ?_, fun level s => ?_⟩
  · have hparser := parser_eq_of_run hrs
    rw [← hparser]
    exact ⟨h.unambiguous k s, (h.unambiguous k).head?_toList s, rfl⟩
  · rw [Grammar.parse_eq_parser_construction]
    exact ⟨h.unambiguous _ s, (h.unambiguous _).head?_toList s⟩
  · exact level.unambiguous_parser.head?_toList s

/-- Brackets around items, where an item is one character or two with a dot behind them. -/
def items : Grammar where
  rules := [
    ("group", .choice (.between (.char '[') (.ref "group") (.char ']')) (.many1 (.ref "item"))),
    ("item", .seq (.starts 1 2 false) (.char '.'))]

/-- The items are hidden in a repetition, so a group leads to groups alone. -/
theorem exposedUnambiguous_group :
    items.definitions.ExposedUnambiguous (Grammar.Rule.construction items (.ref "group")) := by
  have hstep : ∀ m ∈ (items.definitions ⟨"group", rfl⟩).exposed, m.val = "group" := by
    decide +kernel
  have hpath : ∀ n m : items.Name, n.val = "group" →
      Relation.ReflTransGen items.definitions.Exposes n m → m.val = "group" := by
    intro n m hn hnm
    induction hnm with
    | refl => exact hn
    | @tail m l _ hml ih =>
        obtain ⟨name, hname⟩ := m
        obtain rfl : name = "group" := ih
        exact hstep l hml
  refine ⟨trivial, fun n hn m hnm => ?_⟩
  obtain ⟨name, hname⟩ := m
  obtain rfl : name = "group" := hpath n _ (congrArg Subtype.val (List.mem_singleton.1 hn)) hnm
  exact ⟨⟨trivial, trivial, trivial⟩, trivial⟩

/-- An item with two readings is repeated inside brackets that stand inside brackets. -/
theorem at_most_one_reading_group :
    (items.parse (.ref "item") "x..y.]]é".toList).map Reading.rest =
        [".y.]]é".toList, "y.]]é".toList] ∧
      items.definitions.ExposedUnambiguous (Grammar.Rule.construction items (.ref "group")) ∧
      (items.parse (.ref "group") "[[x..y.]]é".toList).map Reading.rest = ["é".toList] ∧
      (items.parse (.ref "group") "[[x..y.]]é".toList).length ≤ 1 ∧
      (items.definitions.run 4 (Grammar.Rule.construction items (.ref "group"))
        "[[x..y.]]é".toList).isSome ∧
      ∀ rs, items.definitions.run 4 (Grammar.Rule.construction items (.ref "group"))
        "[[x..y.]]é".toList = some rs → rs.length ≤ 1 := by
  have hgroup := exposedUnambiguous_group
  refine ⟨by decide +kernel, hgroup, by decide +kernel, ?_, by decide +kernel, fun rs hrs => ?_⟩
  · exact (at_most_one_reading.2.1 items (.ref "group") hgroup _).1
  · exact (at_most_one_reading.1 items.definitions _ hgroup 4 _ rs hrs).1

end Definitions

end ExprCalc
