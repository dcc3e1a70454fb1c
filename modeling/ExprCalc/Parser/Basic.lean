import ExprCalc.Text.Basic

/-!
# Parsers

A parser reads the start of a text. It answers with every reading it finds, in order of preference;
a reading is a value and the text that remains. No reading at all is the only sign of failure, and
more than one means that the text is ambiguous for the parser. A parser is a plain function, so it
has the same readings whenever it is asked about the same text.

This module holds the type and the operations on one parser alone: failure, choice, and the ways to
change, drop or select values. None of them touches a remainder.
-/

set_option autoImplicit false

namespace ExprCalc

universe u v

/-- One way to read the start of a text: the value, and the text that remains. -/
structure Reading (α : Type u) where
  value : α
  rest : Text
  deriving DecidableEq

/-- A parser gives every reading of the start of a text, in order of preference. -/
abbrev Parser (α : Type u) : Type u := Text → List (Reading α)

variable {α : Type u} {β : Type v}

/-- The reading with its value changed. -/
def Reading.map (f : α → β) (r : Reading α) : Reading β := ⟨f r.value, r.rest⟩

namespace Parser

/-- The parser that reads nothing at all, not even the empty text. -/
def fail : Parser α := fun _ => []

/-- Changes every value by a function. -/
def map (p : Parser α) (f : α → β) : Parser β := fun s => (p s).map (Reading.map f)

/-- Keeps the readings whose value passes a test. -/
def filter (p : Parser α) (keep : α → Bool) : Parser α :=
  fun s => (p s).filter fun r => keep r.value

/-- Changes every value by a partial function, and drops the readings where it has no answer. -/
def filterMap (p : Parser α) (f : α → Option β) : Parser β :=
  fun s => (p s).filterMap fun r => (f r.value).map fun b => ⟨b, r.rest⟩

/-- Ordered choice: the readings of `p`, and those of `q` only where `p` has none. -/
def orElse (p q : Parser α) : Parser α :=
  fun s =>
    match p s with
    | [] => q s
    | r :: rs => r :: rs

/-! ## The readings of the operations -/

variable {p q : Parser α} {s : Text}

theorem map_of_eq_nil (h : p s = []) (f : α → β) : p.map f s = [] := by simp [map, h]

theorem map_of_eq_singleton {r : Reading α} (h : p s = [r]) (f : α → β) :
    p.map f s = [⟨f r.value, r.rest⟩] := by
  simp [map, h, Reading.map]

theorem filterMap_of_eq_nil (h : p s = []) (f : α → Option β) : p.filterMap f s = [] := by
  simp [filterMap, h]

theorem filterMap_of_eq_singleton {r : Reading α} (h : p s = [r]) (f : α → Option β) :
    p.filterMap f s = (f r.value).toList.map fun b => ⟨b, r.rest⟩ := by
  cases hv : f r.value with
  | none => simp [filterMap, h, hv]
  | some b => simp [filterMap, h, hv]

theorem mem_map {f : α → β} {r : Reading β} : r ∈ p.map f s ↔ ∃ a ∈ p s, a.map f = r :=
  List.mem_map

theorem mem_filter {keep : α → Bool} {r : Reading α} :
    r ∈ p.filter keep s ↔ r ∈ p s ∧ keep r.value = true :=
  List.mem_filter

theorem mem_filterMap {f : α → Option β} {r : Reading β} :
    r ∈ p.filterMap f s ↔ ∃ a ∈ p s, f a.value = some r.value ∧ a.rest = r.rest := by
  unfold filterMap
  rw [List.mem_filterMap]
  constructor
  · rintro ⟨a, ha, h⟩
    obtain ⟨b, hb, rfl⟩ := Option.map_eq_some_iff.1 h
    exact ⟨a, ha, hb, rfl⟩
  · rintro ⟨a, ha, hv, hr⟩
    refine ⟨a, ha, ?_⟩
    rw [hv, hr]
    rfl

theorem orElse_of_eq_nil (h : p s = []) : p.orElse q s = q s := by
  unfold orElse
  rw [h]

theorem orElse_of_ne_nil (h : p s ≠ []) : p.orElse q s = p s := by
  unfold orElse
  cases hp : p s with
  | nil => exact absurd hp h
  | cons r rs => rfl

theorem orElse_of_eq_singleton {r : Reading α} (h : p s = [r]) : p.orElse q s = [r] := by
  simp [orElse, h]

/-- A reading of a choice is a reading of one of the two parsers. -/
theorem mem_of_mem_orElse {r : Reading α} (h : r ∈ p.orElse q s) : r ∈ p s ∨ r ∈ q s := by
  by_cases hp : p s = []
  · rw [orElse_of_eq_nil hp] at h
    exact Or.inr h
  · rw [orElse_of_ne_nil hp] at h
    exact Or.inl h

end Parser

end ExprCalc
