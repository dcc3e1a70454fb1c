import ExprCalc.Parser.Basic

/-!
# Sequences

A sequence continues every reading of its first parser with every reading of its second parser on
the remainder. Where parts are ambiguous the readings of the whole are the full cross product, in
the order of the first part's readings and then of the second part's. The three ways to put parts
in sequence differ only in what they keep of the values: a pair, a list that grows at its end, or
what stands between two delimiters.
-/

set_option autoImplicit false

namespace ExprCalc

universe u v w

variable {α : Type u} {β : Type v} {γ : Type w}

namespace Parser

/-- First `p`, then `q`; the value is the pair of the two values. -/
def andThen (p : Parser α) (q : Parser β) : Parser (α × β) :=
  fun s => (p s).flatMap fun a => (q a.rest).map fun b => ⟨(a.value, b.value), b.rest⟩

/-- First `p`, which reads a list, then `q`; the value of `q` is put at the end of the list. -/
def push (p : Parser (List α)) (q : Parser α) : Parser (List α) :=
  fun s => (p s).flatMap fun l => (q l.rest).map fun a => ⟨l.value ++ [a.value], a.rest⟩

/-- An opening delimiter, the content, and a closing delimiter; the value is that of
the content. -/
def between (opening : Parser α) (content : Parser β) (closing : Parser γ) : Parser β :=
  fun s =>
    (opening s).flatMap fun o =>
      (content o.rest).flatMap fun c => (closing c.rest).map fun e => ⟨c.value, e.rest⟩

/-! ## The readings of a sequence -/

variable {s : Text}

theorem mem_andThen {p : Parser α} {q : Parser β} {r : Reading (α × β)} :
    r ∈ p.andThen q s ↔ ∃ a ∈ p s, ∃ b ∈ q a.rest, ⟨(a.value, b.value), b.rest⟩ = r := by
  simp only [andThen, List.mem_flatMap, List.mem_map]

theorem andThen_of_eq_nil {p : Parser α} (h : p s = []) (q : Parser β) : p.andThen q s = [] := by
  simp [andThen, h]

theorem andThen_of_eq_singleton {p : Parser α} {q : Parser β} {a : Reading α} {b : Reading β}
    (hp : p s = [a]) (hq : q a.rest = [b]) :
    p.andThen q s = [⟨(a.value, b.value), b.rest⟩] := by
  simp [andThen, hp, hq]

theorem mem_push {p : Parser (List α)} {q : Parser α} {r : Reading (List α)} :
    r ∈ p.push q s ↔ ∃ l ∈ p s, ∃ a ∈ q l.rest, ⟨l.value ++ [a.value], a.rest⟩ = r := by
  simp only [push, List.mem_flatMap, List.mem_map]

/-- A list that grows at its end is a pair whose two parts are put together. -/
theorem push_eq_map_andThen (p : Parser (List α)) (q : Parser α) :
    p.push q = (p.andThen q).map fun (l, a) => l ++ [a] := by
  funext s
  simp only [push, map, andThen, List.map_flatMap, List.map_map]
  rfl

theorem mem_between {opening : Parser α} {content : Parser β} {closing : Parser γ}
    {r : Reading β} :
    r ∈ between opening content closing s ↔
      ∃ o ∈ opening s, ∃ c ∈ content o.rest, ∃ e ∈ closing c.rest, ⟨c.value, e.rest⟩ = r := by
  simp only [between, List.mem_flatMap, List.mem_map]

/-- What stands between two delimiters is a sequence of which the middle part is kept. -/
theorem between_eq_map_andThen (opening : Parser α) (content : Parser β) (closing : Parser γ) :
    between opening content closing =
      ((opening.andThen content).andThen closing).map fun ((_, c), _) => c := by
  funext s
  simp only [between, map, andThen, List.map_flatMap, List.flatMap_assoc, List.flatMap_map,
    List.map_map]
  rfl

theorem between_of_eq_singleton {opening : Parser α} {content : Parser β} {closing : Parser γ}
    {o : Reading α} {c : Reading β} {e : Reading γ} (ho : opening s = [o])
    (hc : content o.rest = [c]) (he : closing c.rest = [e]) :
    between opening content closing s = [⟨c.value, e.rest⟩] := by
  simp [between, ho, hc, he]

end Parser

end ExprCalc
