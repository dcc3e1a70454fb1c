import ExprCalc.Proofs.Construction
import ExprCalc.Proofs.Evaluation

/-!
# Remainders of constructions

Whatever parser is put together from the primitive parsers by the operations of the library, also
with references in circles and with ambiguous parsers from outside that leave ends of the text:
where its parse ends, every remainder is an end of the text, and starts at a character
(`Definitions.remainder_isSuffix`). So the span of a reading can be cut out of the text by counting
bytes: the remainder has no more bytes than the text, the cut is between two characters, and the
span and the remainder together are the text.
-/

set_option autoImplicit false

namespace ExprCalc

variable {ι : Type} {τ : ι → Type} {α : Type}

/-- What stands before an end of the text ends between two characters, and its bytes are those that
the end lacks. -/
theorem Text.isBoundary_of_suffix {s t : Text} (h : t <:+ s) :
    t.byteCount ≤ s.byteCount ∧ s.IsBoundary (s.byteCount - t.byteCount) := by
  obtain ⟨p, rfl⟩ := h
  rw [Text.byteCount_append, Nat.add_sub_cancel]
  exact ⟨Nat.le_add_left _ _, p, t, rfl, rfl⟩

namespace Definitions

/-- A run that ends has the readings of the parser, and each of them leaves an end of the text that
starts at a character. So the bytes before it can be counted and cut off, and where the values are
paired with what was read, this text and the remainder make up the whole text. -/
theorem remainder_isSuffix {D : Definitions τ} (hD : D.BasesLeaveSuffix) {c : Construction τ α}
    (hc : c.BasesLeaveSuffix) (k : Nat) (s : Text) :
    (∀ rs, D.run k c s = some rs → c.parser (D.within k) s = rs ∧
        ∀ r ∈ rs, r.rest <:+ s ∧ r.rest.byteCount ≤ s.byteCount ∧
          s.IsBoundary (s.byteCount - r.rest.byteCount)) ∧
      ∀ rs, D.run k (.span c) s = some rs → ∀ r ∈ rs, r.value.2 ++ r.rest = s := by
  constructor
  · intro rs hrs
    refine ⟨parser_eq_of_run hrs, fun r hr => ?_⟩
    have hrest := rest_of_run hD hc hrs r hr
    exact ⟨hrest, Text.isBoundary_of_suffix hrest⟩
  · intro rs hrs r hr
    obtain ⟨as, has, rfl⟩ := Option.map_eq_some_iff.1 hrs
    obtain ⟨a, ha, rfl⟩ := List.mem_map.1 hr
    exact Reading.span_append_rest (rest_of_run hD hc has a ha)

/-- The nesting of brackets around a dot: a construction that refers to itself between the
brackets. -/
def brackets : Definitions fun _ : Unit => Nat := fun _ =>
  .choice
    (.map (.seq (.seq (.primitive (.char '[')) (.lazy ())) (.primitive (.char ']')))
      fun ((_, depth), _) => depth + 1)
    (.map (.primitive (.char '.')) fun _ => 0)

/-- Brackets, and after them the one or two characters that an ambiguous parser from outside reads. -/
def bracketsThenStart : Construction (fun _ : Unit => Nat) (Nat × Text) :=
  .seq (.lazy ()) (.base (Parser.starts 1 2 false))

/-- After the brackets stands a character of two bytes. Both remainders are ends of the text. -/
theorem remainder_isSuffix_ambiguous :
    brackets.BasesLeaveSuffix ∧ bracketsThenStart.BasesLeaveSuffix ∧
      brackets.run 3 bracketsThenStart "[[.]]é!x".toList =
        some [⟨(2, "é".toList), "!x".toList⟩, ⟨(2, "é!".toList), "x".toList⟩] ∧
      "!x".toList <:+ "[[.]]é!x".toList ∧ Text.IsBoundary "[[.]]é!x".toList (9 - 2) ∧
      ∀ rs, brackets.run 3 (.span bracketsThenStart) "[[.]]é!x".toList = some rs →
        ∀ r ∈ rs, r.value.2 ++ r.rest = "[[.]]é!x".toList := by
  have hD : brackets.BasesLeaveSuffix := fun _ => ⟨⟨⟨trivial, trivial⟩, trivial⟩, trivial⟩
  have hc : bracketsThenStart.BasesLeaveSuffix := ⟨trivial, Parser.leavesSuffix_starts 1 2 false⟩
  have hrun : brackets.run 3 bracketsThenStart "[[.]]é!x".toList =
      some [⟨(2, "é".toList), "!x".toList⟩, ⟨(2, "é!".toList), "x".toList⟩] := by
    decide +kernel
  obtain ⟨hrest, hspan⟩ := remainder_isSuffix hD hc 3 "[[.]]é!x".toList
  obtain ⟨hsuffix, -, hboundary⟩ := (hrest _ hrun).2 _ List.mem_cons_self
  exact ⟨hD, hc, hrun, hsuffix, hboundary, hspan⟩

end Definitions

end ExprCalc
