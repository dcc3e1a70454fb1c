import ExprCalc.Proofs.Recognition

/-!
# Parsers that always read something

A parser *shortens* if no reading of it leaves the whole text. The parsers of this library that run
no other parser all do (`shortens_integer`, `Arithmetic.Level.shortens_parser` and so on). A choice
shortens if both of its parts do, and a sequence if one of its parts does, since the others leave
ends of the text (`shortens_andThen`). A repetition of at least one shortens for every part that
leaves ends of the text, also for one that may read nothing, for a step that reads nothing is not
taken (`LeavesSuffix.shortens_many1`).
-/

set_option autoImplicit false

namespace ExprCalc

universe u v w

variable {α : Type u} {β : Type v} {γ : Type w}

namespace Parser

/-- Every reading leaves less than the whole text. -/
def Shortens (p : Parser α) : Prop := ∀ s, ∀ r ∈ p s, r.rest.length < s.length

/-! ## One parser and choice -/

theorem shortens_any : Shortens any := by
  intro s r h
  rw [eq_cons_of_mem_any h]
  exact Nat.lt_succ_self r.rest.length

theorem Shortens.map {p : Parser α} (hp : Shortens p) (f : α → β) : Shortens (p.map f) := by
  intro s r h
  obtain ⟨a, ha, rfl⟩ := mem_map.1 h
  exact hp s a ha

theorem Shortens.filter {p : Parser α} (hp : Shortens p) (keep : α → Bool) :
    Shortens (p.filter keep) :=
  fun s r h => hp s r (mem_filter.1 h).1

theorem Shortens.filterMap {p : Parser α} (hp : Shortens p) (f : α → Option β) :
    Shortens (p.filterMap f) := by
  intro s r h
  obtain ⟨a, ha, -, hr⟩ := mem_filterMap.1 h
  rw [← hr]
  exact hp s a ha

theorem Shortens.withSpan {p : Parser α} (hp : Shortens p) : Shortens p.withSpan := by
  intro s r h
  obtain ⟨a, ha, rfl⟩ := List.mem_map.1 h
  exact hp s a ha

theorem Shortens.orElse {p q : Parser α} (hp : Shortens p) (hq : Shortens q) :
    Shortens (p.orElse q) := by
  intro s r h
  rcases mem_of_mem_orElse h with h | h
  · exact hp s r h
  · exact hq s r h

/-! ## Sequence -/

/-- A sequence leaves less than the whole text if one of its parts does. -/
theorem shortens_andThen {p : Parser α} {q : Parser β} (hp : LeavesSuffix p) (hq : LeavesSuffix q)
    (h : Shortens p ∨ Shortens q) : Shortens (p.andThen q) := by
  intro s r hr
  obtain ⟨a, ha, b, hb, rfl⟩ := mem_andThen.1 hr
  have hle := (hp s a ha).length_le
  have hle' := (hq a.rest b hb).length_le
  show b.rest.length < s.length
  rcases h with h | h
  · exact Nat.lt_of_le_of_lt hle' (h s a ha)
  · exact Nat.lt_of_lt_of_le (h a.rest b hb) hle

theorem shortens_push {p : Parser (List α)} {q : Parser α} (hp : LeavesSuffix p)
    (hq : LeavesSuffix q) (h : Shortens p ∨ Shortens q) : Shortens (p.push q) := by
  rw [push_eq_map_andThen]
  exact (shortens_andThen hp hq h).map _

theorem shortens_between {opening : Parser α} {content : Parser β} {closing : Parser γ}
    (ho : LeavesSuffix opening) (hc : LeavesSuffix content) (he : LeavesSuffix closing)
    (h : (Shortens opening ∨ Shortens content) ∨ Shortens closing) :
    Shortens (between opening content closing) := by
  rw [between_eq_map_andThen]
  exact (shortens_andThen (ho.andThen hc) he (h.imp_left (shortens_andThen ho hc))).map _

/-! ## Repetition -/

/-- A repetition that takes a step leaves less than the whole text. -/
theorem LeavesSuffix.length_greedy_lt {p : Parser α} (hp : LeavesSuffix p) {s : Text}
    (h : (Parser.greedy p s).value ≠ []) : (Parser.greedy p s).rest.length < s.length := by
  cases hs : (p s).head? with
  | none =>
      rw [greedy_of_eq_nil (List.head?_eq_none_iff.1 hs)] at h
      exact absurd rfl h
  | some r =>
      by_cases hlt : r.rest.byteCount < s.byteCount
      · have hr : r.rest <:+ s := hp s r (List.mem_of_head? hs)
        -- An end of the text with fewer bytes is not the whole text.
        have hshort : r.rest.length < s.length := by
          refine Nat.lt_of_le_of_ne hr.length_le fun heq => ?_
          rw [hr.eq_of_length heq] at hlt
          exact Nat.lt_irrefl _ hlt
        rw [greedy_of_lt hs hlt]
        exact Nat.lt_of_le_of_lt (hp.greedy r.rest).length_le hshort
      · rw [greedy_of_not_lt hs hlt] at h
        exact absurd rfl h

theorem LeavesSuffix.shortens_many1 {p : Parser α} (hp : LeavesSuffix p) :
    Shortens (Parser.many1 p) := by
  intro s r h
  rw [many1_eq] at h
  split at h
  · cases h
  · next hne =>
      obtain rfl := List.mem_singleton.1 h
      exact hp.length_greedy_lt hne

/-! ## The parsers of the library -/

theorem shortens_char (c : Char) : Shortens (char c) := shortens_any.filter _

theorem shortens_oneOf (set : Text) : Shortens (oneOf set) := shortens_any.filter _

theorem shortens_letter : Shortens letter := shortens_any.filter _

theorem shortens_digit : Shortens digit := shortens_any.filterMap _

theorem shortens_unsignedNumeral : Shortens unsignedNumeral :=
  leavesSuffix_digit.shortens_many1.map _

theorem shortens_natural : Shortens natural := shortens_unsignedNumeral.filterMap _

theorem shortens_signedNumeral : Shortens signedNumeral :=
  ((shortens_andThen (leavesSuffix_oneOf _) leavesSuffix_unsignedNumeral
    (Or.inl (shortens_oneOf _))).map _).orElse (shortens_unsignedNumeral.map _)

theorem shortens_integer : Shortens integer := shortens_signedNumeral.filterMap _

theorem shortens_operator (symbols : Text) : Shortens (operator symbols) :=
  (shortens_oneOf symbols).filterMap _

end Parser

/-- A level reads the text of a tree, and no tree has the empty text. -/
theorem Arithmetic.Level.shortens_parser (l : Arithmetic.Level) : Parser.Shortens l.parser := by
  refine Parser.Shortens.filterMap (fun s r h => ?_) id
  obtain ⟨t, rfl⟩ := l.derives_checked s r h
  have hpos : 0 < t.text.length := List.length_pos_iff.2 t.text_ne_nil
  rw [List.length_append]
  omega

end ExprCalc
