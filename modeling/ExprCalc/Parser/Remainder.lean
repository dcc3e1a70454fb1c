import ExprCalc.Operator
import ExprCalc.Numeral
import ExprCalc.Parser.Span

/-!
# Remainders

A parser *leaves suffixes* if the remainder of each of its readings is an end of the text that was
read. All parsers of this library do, and all operations on parsers keep the property. It has two
uses. The span of a reading is what its name says: followed by the remainder it is the input
(`Reading.span_append_rest`). And the readings of a parser put together from others depend on these
only at the ends of the input, so two of them that agree there may be exchanged.
-/

set_option autoImplicit false

namespace ExprCalc

universe u v w

variable {α : Type u} {β : Type v} {γ : Type w}

/-- Followed by the remainder, the span of a reading is the input, if the remainder is an end of
it. -/
theorem Reading.span_append_rest {r : Reading α} {s : Text} (h : r.rest <:+ s) :
    r.span s ++ r.rest = s := by
  obtain ⟨t, rfl⟩ := h
  unfold Reading.span
  rw [Text.byteCount_append, Nat.add_sub_cancel, Text.takeBytes_append]

namespace Parser

/-- Every remainder is an end of the text that was read. -/
def LeavesSuffix (p : Parser α) : Prop := ∀ s, ∀ r ∈ p s, r.rest <:+ s

/-! ## One parser -/

theorem leavesSuffix_fail : LeavesSuffix (fail : Parser α) := fun _ _ h => absurd h List.not_mem_nil

theorem leavesSuffix_any : LeavesSuffix any := by
  intro s r h
  rw [eq_cons_of_mem_any h]
  exact List.suffix_cons r.value r.rest

theorem LeavesSuffix.map {p : Parser α} (hp : LeavesSuffix p) (f : α → β) :
    LeavesSuffix (p.map f) := by
  intro s r h
  obtain ⟨a, ha, rfl⟩ := mem_map.1 h
  exact hp s a ha

theorem LeavesSuffix.filter {p : Parser α} (hp : LeavesSuffix p) (keep : α → Bool) :
    LeavesSuffix (p.filter keep) :=
  fun s r h => hp s r (mem_filter.1 h).1

theorem LeavesSuffix.filterMap {p : Parser α} (hp : LeavesSuffix p) (f : α → Option β) :
    LeavesSuffix (p.filterMap f) := by
  intro s r h
  obtain ⟨a, ha, -, hr⟩ := mem_filterMap.1 h
  rw [← hr]
  exact hp s a ha

theorem LeavesSuffix.withSpan {p : Parser α} (hp : LeavesSuffix p) : LeavesSuffix p.withSpan := by
  intro s r h
  obtain ⟨a, ha, rfl⟩ := List.mem_map.1 h
  exact hp s a ha

/-! ## Choice and sequence -/

theorem LeavesSuffix.orElse {p q : Parser α} (hp : LeavesSuffix p) (hq : LeavesSuffix q) :
    LeavesSuffix (p.orElse q) := by
  intro s r h
  rcases mem_of_mem_orElse h with h | h
  · exact hp s r h
  · exact hq s r h

theorem LeavesSuffix.andThen {p : Parser α} {q : Parser β} (hp : LeavesSuffix p)
    (hq : LeavesSuffix q) : LeavesSuffix (p.andThen q) := by
  intro s r h
  obtain ⟨a, ha, b, hb, rfl⟩ := mem_andThen.1 h
  exact (hq a.rest b hb).trans (hp s a ha)

theorem LeavesSuffix.push {p : Parser (List α)} {q : Parser α} (hp : LeavesSuffix p)
    (hq : LeavesSuffix q) : LeavesSuffix (p.push q) := by
  intro s r h
  obtain ⟨l, hl, a, ha, rfl⟩ := mem_push.1 h
  exact (hq l.rest a ha).trans (hp s l hl)

theorem LeavesSuffix.between {opening : Parser α} {content : Parser β} {closing : Parser γ}
    (ho : LeavesSuffix opening) (hc : LeavesSuffix content) (he : LeavesSuffix closing) :
    LeavesSuffix (between opening content closing) := by
  intro s r h
  obtain ⟨o, hmo, c, hmc, e, hme, rfl⟩ := mem_between.1 h
  exact ((he c.rest e hme).trans (hc o.rest c hmc)).trans (ho s o hmo)

/-! ## Repetition -/

theorem LeavesSuffix.greedy {p : Parser α} (hp : LeavesSuffix p) (s : Text) :
    (greedy p s).rest <:+ s := by
  fun_induction Parser.greedy p s with
  | case1 s hs => exact List.suffix_refl s
  | case2 s r hs hlt tail ih => exact ih.trans (hp s r (List.mem_of_head? hs))
  | case3 s r hs hlt => exact List.suffix_refl s

theorem LeavesSuffix.many {p : Parser α} (hp : LeavesSuffix p) : LeavesSuffix (many p) := by
  intro s r h
  obtain rfl := List.mem_singleton.1 h
  exact hp.greedy s

theorem LeavesSuffix.many1 {p : Parser α} (hp : LeavesSuffix p) : LeavesSuffix (many1 p) :=
  hp.many.filter _

/-! ## The parsers of the library -/

theorem leavesSuffix_char (c : Char) : LeavesSuffix (char c) := leavesSuffix_any.filter _

theorem leavesSuffix_oneOf (set : Text) : LeavesSuffix (oneOf set) := leavesSuffix_any.filter _

theorem leavesSuffix_letter : LeavesSuffix letter := leavesSuffix_any.filter _

theorem leavesSuffix_digit : LeavesSuffix digit := leavesSuffix_any.filterMap _

theorem leavesSuffix_unsignedNumeral : LeavesSuffix unsignedNumeral :=
  leavesSuffix_digit.many1.map _

theorem leavesSuffix_natural : LeavesSuffix natural := leavesSuffix_unsignedNumeral.filterMap _

theorem leavesSuffix_signedNumeral : LeavesSuffix signedNumeral :=
  (((leavesSuffix_oneOf _).andThen leavesSuffix_unsignedNumeral).map _).orElse
    (leavesSuffix_unsignedNumeral.map _)

theorem leavesSuffix_integer : LeavesSuffix integer := leavesSuffix_signedNumeral.filterMap _

theorem leavesSuffix_operator (symbols : Text) : LeavesSuffix (operator symbols) :=
  (leavesSuffix_oneOf symbols).filterMap _

/-! ## Exchange of parsers that agree on the ends of the input -/

/-- The parsers agree on every end of the text. -/
def AgreeOn (s : Text) (p q : Parser α) : Prop := ∀ t, t <:+ s → p t = q t

theorem AgreeOn.self {s : Text} {p q : Parser α} (h : AgreeOn s p q) : p s = q s :=
  h s (List.suffix_refl s)

theorem AgreeOn.of_suffix {s t : Text} {p q : Parser α} (h : AgreeOn s p q) (ht : t <:+ s) :
    AgreeOn t p q :=
  fun t' ht' => h t' (ht'.trans ht)

theorem AgreeOn.map {s : Text} {p q : Parser α} (h : AgreeOn s p q) (f : α → β) :
    AgreeOn s (p.map f) (q.map f) := by
  intro t ht
  unfold Parser.map
  rw [h t ht]

theorem AgreeOn.orElse {s : Text} {p p' q q' : Parser α} (hp : AgreeOn s p p')
    (hq : AgreeOn s q q') : AgreeOn s (p.orElse q) (p'.orElse q') := by
  intro t ht
  unfold Parser.orElse
  rw [hp t ht, hq t ht]

theorem AgreeOn.andThen {s : Text} {p p' : Parser α} {q q' : Parser β} (hp : AgreeOn s p p')
    (hs : LeavesSuffix p) (hq : AgreeOn s q q') : AgreeOn s (p.andThen q) (p'.andThen q') := by
  intro t ht
  unfold Parser.andThen
  rw [← hp t ht, List.flatMap_def, List.flatMap_def]
  refine congrArg List.flatten (List.map_congr_left fun a ha => ?_)
  rw [hq a.rest ((hs t a ha).trans ht)]

theorem AgreeOn.greedy_eq {s : Text} {p q : Parser α} (h : AgreeOn s p q) (hp : LeavesSuffix p) :
    greedy p s = greedy q s := by
  fun_induction Parser.greedy p s with
  | case1 s hs =>
      rw [h.self, List.head?_eq_none_iff] at hs
      exact (greedy_of_eq_nil hs).symm
  | case2 s r hs hlt tail ih =>
      have hr : r.rest <:+ s := hp s r (List.mem_of_head? hs)
      rw [greedy_of_lt (h.self ▸ hs) hlt, ← ih (h.of_suffix hr)]
  | case3 s r hs hlt => rw [greedy_of_not_lt (h.self ▸ hs) hlt]

theorem AgreeOn.many {s : Text} {p q : Parser α} (h : AgreeOn s p q) (hp : LeavesSuffix p) :
    AgreeOn s (many p) (many q) := by
  intro t ht
  unfold Parser.many
  rw [(h.of_suffix ht).greedy_eq hp]

end Parser

end ExprCalc
