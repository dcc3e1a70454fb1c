import ExprCalc.Proofs.OpenReferences

/-!
# Termination of the parse of a grammar

The rules of a grammar are constructions whose values are all of one type, and whose names are
those that the grammar gives a rule to (`Grammar.Rule.construction`, `Grammar.definitions`). So
what holds of constructions holds of grammars: every parse leaves ends of the text
(`Grammar.leavesSuffix_parse`), `Grammar.parse` follows enough references for every parse that ends
(`Grammar.parse_eq_of_run`), and if no rule reaches itself before anything is read, every parse ends
(`Grammar.parse_ends`).
-/

set_option autoImplicit false

namespace ExprCalc

namespace Grammar

open ExprCalc.Parser

/-- The names that have a rule. -/
def Name (g : Grammar) : Type := { name : String // (g.rule? name).isSome }

/-- The construction that a rule describes. A name without a rule stands for a parser without
readings. -/
def Rule.construction (g : Grammar) : Rule → Construction (fun _ : g.Name => Value) Value
  | any => .map (.primitive .any) Value.char
  | char expected => .map (.primitive (.char expected)) Value.char
  | oneOf set => .map (.primitive (.oneOf set)) Value.char
  | letter => .map (.primitive .letter) Value.char
  | digit => .map (.primitive .digit) fun d => .int d
  | natural => .map (.primitive .natural) fun n => .int n.toNat
  | integer => .map (.primitive .integer) fun n => .int n.toInt
  | arithmetic level => .map (.primitive (.arithmetic level)) fun n => .int n.toInt
  | operator symbols => .map (.primitive (.operator symbols)) Value.operator
  | starts min max longestFirst => .map (.starts min max longestFirst) Value.text
  | many1 a => .map (.many1 (a.construction g)) Value.list
  | many a => .map (.many (a.construction g)) Value.list
  | choice a b => .choice (a.construction g) (b.construction g)
  | seq a b => .map (.seq (a.construction g) (b.construction g)) fun (x, y) => .pair x y
  | push a b => .map (.push (.map (a.construction g) Value.toList) (b.construction g)) Value.list
  | between a b c => .between (a.construction g) (b.construction g) (c.construction g)
  | map a f => .map (a.construction g) f.apply
  | filter a f => .filter (a.construction g) f.holds
  | filterMap a f => .filterMap (a.construction g) f.apply?
  | span a => .map (.span (a.construction g)) fun (x, s) => .pair x (.text s)
  | group a => .group (a.construction g)
  | ref name => if h : (g.rule? name).isSome then .lazy ⟨name, h⟩ else .base Parser.fail

/-- The constructions that the rules of a grammar describe. -/
def definitions (g : Grammar) : Definitions fun _ : g.Name => Value :=
  fun n => ((g.rule? n.val).get n.property).construction g

/-! ## Rules and their constructions -/

/-- A rule and its construction are the same parser. -/
theorem Rule.parser_construction {g : Grammar} {f : String → Parser Value}
    (hf : ∀ name, g.rule? name = none → f name = Parser.fail) (r : Rule) :
    (r.construction g).parser (fun n => f n.val) = r.parser f := by
  induction r with
  | any => rfl
  | char expected => rfl
  | oneOf set => rfl
  | letter => rfl
  | digit => rfl
  | natural => rfl
  | integer => rfl
  | arithmetic level => rfl
  | operator symbols => rfl
  | starts min max longestFirst => rfl
  | many1 a ih => simp only [construction, Construction.parser, Rule.parser, ih]
  | many a ih => simp only [construction, Construction.parser, Rule.parser, ih]
  | choice a b iha ihb => simp only [construction, Construction.parser, Rule.parser, iha, ihb]
  | seq a b iha ihb => simp only [construction, Construction.parser, Rule.parser, iha, ihb]
  | push a b iha ihb => simp only [construction, Construction.parser, Rule.parser, iha, ihb]
  | between a b c iha ihb ihc =>
      simp only [construction, Construction.parser, Rule.parser, iha, ihb, ihc]
  | map a f ih => simp only [construction, Construction.parser, Rule.parser, ih]
  | filter a f ih => simp only [construction, Construction.parser, Rule.parser, ih]
  | filterMap a f ih => simp only [construction, Construction.parser, Rule.parser, ih]
  | span a ih => simp only [construction, Construction.parser, Rule.parser, ih]
  | group a ih => exact ih
  | ref name =>
      rw [construction]
      split
      · rfl
      · next h => exact (hf name (Option.not_isSome_iff_eq_none.1 h)).symm

/-- The only parser from outside is the one without readings. -/
theorem Rule.basesLeaveSuffix_construction (g : Grammar) (r : Rule) :
    (r.construction g).BasesLeaveSuffix := by
  induction r with
  | many1 a ih => exact ih
  | many a ih => exact ih
  | choice a b iha ihb => exact ⟨iha, ihb⟩
  | seq a b iha ihb => exact ⟨iha, ihb⟩
  | push a b iha ihb => exact ⟨iha, ihb⟩
  | between a b c iha ihb ihc => exact ⟨iha, ihb, ihc⟩
  | map a f ih => exact ih
  | filter a f ih => exact ih
  | filterMap a f ih => exact ih
  | span a ih => exact ih
  | group a ih => exact ih
  | ref name =>
      rw [construction]
      split
      · trivial
      · exact leavesSuffix_fail
  | _ => trivial

theorem basesLeaveSuffix_definitions (g : Grammar) : g.definitions.BasesLeaveSuffix :=
  fun _ => Rule.basesLeaveSuffix_construction g _

theorem within_of_rule?_eq_none {g : Grammar} {name : String} (h : g.rule? name = none) (k : Nat) :
    g.within k name = Parser.fail := by
  funext s
  cases k with
  | zero => rfl
  | succ k => rw [within, h]; rfl

/-- The parsers of the names are those of the constructions, with as many references. -/
theorem within_definitions (g : Grammar) (k : Nat) (n : g.Name) :
    g.definitions.within k n = g.within k n.val := by
  induction k generalizing n with
  | zero => rfl
  | succ k ih =>
      obtain ⟨name, hname⟩ := n
      obtain ⟨r, hr⟩ := Option.isSome_iff_exists.1 hname
      funext s
      have hbody : g.definitions ⟨name, hname⟩ = r.construction g := by
        simp only [definitions, hr, Option.get_some]
      have hcalls : g.definitions.within k = fun n : g.Name => g.within k n.val := funext ih
      show (g.definitions ⟨name, hname⟩).parser (g.definitions.within k) s = _
      rw [hbody, hcalls, Rule.parser_construction fun _ h => within_of_rule?_eq_none h k, within, hr]

/-- A rule is parsed in a grammar as its construction is, with a reference for each rule and each
remainder of the text. -/
theorem parse_eq_parser_construction (g : Grammar) (r : Rule) (s : Text) :
    g.parse r s = (r.construction g).parser
      (g.definitions.within (g.rules.length * (s.length + 1))) s := by
  have hcalls : ∀ k, g.definitions.within k = fun n : g.Name => g.within k n.val :=
    fun k => funext (within_definitions g k)
  rw [hcalls, Rule.parser_construction fun _ h => within_of_rule?_eq_none h _]
  rfl

/-- Every parse leaves an end of the text. -/
theorem leavesSuffix_parse (g : Grammar) (r : Rule) : LeavesSuffix (g.parse r) := by
  intro s
  rw [parse_eq_parser_construction]
  exact Construction.leavesSuffix
    (Definitions.leavesSuffix_within (basesLeaveSuffix_definitions g) _)
    (Rule.basesLeaveSuffix_construction g r) s

/-! ## Termination -/

/-- The name among those of the rules. -/
def Name.toRule {g : Grammar} (n : g.Name) : { name // name ∈ (g.rules.map Prod.fst).toFinset } :=
  ⟨n.val, by
    obtain ⟨p, hp, heq⟩ := List.lookup_isSome_iff.1 n.property
    rw [List.mem_toFinset, eq_of_beq heq]
    exact List.mem_map_of_mem hp⟩

theorem Name.toRule_injective (g : Grammar) : Function.Injective (Name.toRule (g := g)) := by
  intro n m h
  have hval : n.toRule.val = m.toRule.val := congrArg Subtype.val h
  exact Subtype.ext hval

instance (g : Grammar) : Finite g.Name := Finite.of_injective _ (Name.toRule_injective g)

theorem card_name_le (g : Grammar) : Nat.card g.Name ≤ g.rules.length := by
  calc Nat.card g.Name ≤ Nat.card { name // name ∈ (g.rules.map Prod.fst).toFinset } :=
        Nat.card_le_card_of_injective _ (Name.toRule_injective g)
    _ = (g.rules.map Prod.fst).toFinset.card := Nat.card_eq_finsetCard _
    _ ≤ (g.rules.map Prod.fst).length := List.toFinset_card_le _
    _ = g.rules.length := List.length_map _

theorem card_references_le (g : Grammar) (s : Text) :
    Nat.card g.Name * (s.length + 1) ≤ g.rules.length * (s.length + 1) :=
  Nat.mul_le_mul_right _ (card_name_le g)

/-- `Grammar.parse` follows enough references for every parse that ends. -/
theorem parse_eq_of_run {g : Grammar} {r : Rule} {s : Text} {k : Nat} {rs : List (Reading Value)}
    (h : g.definitions.run k (r.construction g) s = some rs) : g.parse r s = rs := by
  have hrun := Definitions.run_card_of_run (basesLeaveSuffix_definitions g)
    (Rule.basesLeaveSuffix_construction g r) h
  rw [parse_eq_parser_construction]
  exact Definitions.parser_eq_of_run (Definitions.run_mono (card_references_le g s) hrun)

/-- Without left recursion every parse ends, for every text. This holds of every finite family of
definitions, whatever functions they apply to values. So it holds of the rules of every grammar:
with as many references as there are rules for each remainder of the text the parse of a rule ends,
more of them make no difference, and the answer is that of `Grammar.parse`. -/
theorem parse_ends :
    (∀ {ι : Type} [Finite ι] {τ : ι → Type} (D : Definitions τ),
      D.BasesLeaveSuffix → ¬ D.LeftRecursive → D.Ends) ∧
    ∀ g : Grammar, ¬ g.definitions.LeftRecursive → ∀ (r : Rule) (s : Text) (k : Nat),
      g.rules.length * (s.length + 1) ≤ k →
        g.definitions.run k (r.construction g) s = some (g.parse r s) := by
  refine ⟨fun D hD h => Definitions.ends_of_not_leftRecursive hD h, fun g h r s k hk => ?_⟩
  have hends : g.definitions.Ends :=
    Definitions.ends_of_not_leftRecursive (basesLeaveSuffix_definitions g) h
  obtain ⟨rs, hrs⟩ := hends (r.construction g) (Rule.basesLeaveSuffix_construction g r) s
  obtain ⟨hrun, -⟩ := hrs k (Nat.le_trans (card_references_le g s) hk)
  rw [hrun, parse_eq_of_run hrun]

/-- Sums of digits, where a sum between parentheses is a digit too. -/
def sums : Grammar where
  rules := [
    ("sum", .seq (.ref "digit") (.many (.seq (.char '+') (.ref "digit")))),
    ("digit", .choice .digit (.between (.char '(') (.ref "sum") (.char ')')))]

theorem sums_name (n : sums.Name) : n.val = "sum" ∨ n.val = "digit" := by
  obtain ⟨p, hp, heq⟩ := List.lookup_isSome_iff.1 n.property
  rw [eq_of_beq heq]
  rcases List.mem_cons.1 hp with rfl | hp
  · exact Or.inl rfl
  · obtain rfl := List.mem_singleton.1 hp
    exact Or.inr rfl

/-- A sum starts with a digit, and a digit with a character. -/
theorem sums_not_leftRecursive : ¬ sums.definitions.LeftRecursive := by
  have hsum : ∀ m ∈ (sums.definitions ⟨"sum", rfl⟩).heads, m.val = "digit" := by decide +kernel
  have hdigit : (sums.definitions ⟨"digit", rfl⟩).heads.isEmpty = true := by decide +kernel
  refine Definitions.not_leftRecursive_of_lt (fun n => if n.val = "sum" then 1 else 0) ?_
  rintro ⟨name, hname⟩ m hm
  rcases sums_name ⟨name, hname⟩ with rfl | rfl
  · have hm' : m.val = "digit" := hsum m hm
    show (if m.val = "sum" then 1 else 0) < 1
    rw [hm']
    decide
  · change m ∈ (sums.definitions ⟨"digit", rfl⟩).heads at hm
    rw [List.isEmpty_iff.1 hdigit] at hm
    cases hm

/-- A sum between parentheses and a character that belongs to no sum. -/
theorem parse_ends_sum :
    ¬ sums.definitions.LeftRecursive ∧ sums.definitions.Ends ∧
      (∀ k, 2 * (8 + 1) ≤ k →
        sums.definitions.run k (Rule.construction sums (.ref "sum")) "(1+2)+3é".toList =
          some (sums.parse (.ref "sum") "(1+2)+3é".toList)) ∧
      (sums.parse (.ref "sum") "(1+2)+3é".toList).map Reading.rest = ["é".toList] :=
  ⟨sums_not_leftRecursive,
    parse_ends.1 sums.definitions (basesLeaveSuffix_definitions sums) sums_not_leftRecursive,
    parse_ends.2 sums sums_not_leftRecursive (.ref "sum") "(1+2)+3é".toList, by decide +kernel⟩

end Grammar

end ExprCalc
