import ExprCalc.Parser.Sequence
import Mathlib.Data.List.Basic

/-!
# Sequences reading by reading

The readings of a sequence are an ordered product (`Parser.OrderedProduct`): every reading of the
first part is continued with every reading of the second part on its remainder, and where each of
these stands in the list is told by how many readings continue the earlier ones. As many readings
are in the list as this makes, so no reading is lost and none is there twice
(`Parser.OrderedProduct.eq_flatMap`).

The same readings may be gathered one after another in a list that grows at its end
(`Parser.gather`). While they are gathered, the value of the first part is copied for every reading
of the second part but the last, which takes the value itself; so this last one is set apart and
added at the end. A part without readings adds nothing. `Parser.gather_eq` says that gathering is
the product again, for whatever is made of the two values, and so all three ways to put parts in
sequence are gathered alike.
-/

set_option autoImplicit false

namespace ExprCalc

universe u v w

variable {α : Type u} {β : Type v} {γ : Type w}

namespace Parser

/-! ## Ordered products -/

/-- The readings `rs` are those of `firsts`, each continued with each of the readings that `next`
gives for it. The continuations of one reading stand together in their own order, behind those of
all earlier readings. -/
structure OrderedProduct (firsts : List (Reading α)) (next : Reading α → List (Reading β))
    (rs : List (Reading (α × β))) : Prop where
  length_eq : rs.length = (firsts.flatMap next).length
  getElem?_eq : ∀ (i j : Nat) (a : Reading α) (b : Reading β), firsts[i]? = some a →
    (next a)[j]? = some b →
      rs[((firsts.take i).flatMap next).length + j]? = some ⟨(a.value, b.value), b.rest⟩

/-- One more reading in front moves the continuations of the others back by its own. -/
theorem OrderedProduct.cons {firsts : List (Reading α)} {next : Reading α → List (Reading β)}
    {rs : List (Reading (α × β))} (h : OrderedProduct firsts next rs) (a : Reading α) :
    OrderedProduct (a :: firsts) next
      ((next a).map (fun b => ⟨(a.value, b.value), b.rest⟩) ++ rs) where
  length_eq := by
    rw [List.length_append, List.length_map, h.length_eq, List.flatMap_cons, List.length_append]
  getElem?_eq := by
    intro i j a' b ha hb
    cases i with
    | zero =>
        obtain rfl : a = a' := by simpa using ha
        obtain ⟨hj, -⟩ := List.getElem?_eq_some_iff.1 hb
        rw [List.take_zero, List.flatMap_nil, List.length_nil, Nat.zero_add,
          List.getElem?_append_left (by rwa [List.length_map]), List.getElem?_map, hb]
        rfl
    | succ i =>
        rw [List.getElem?_cons_succ] at ha
        rw [List.take_succ_cons, List.flatMap_cons, List.length_append, Nat.add_assoc,
          List.getElem?_append_right (by rw [List.length_map]; omega), List.length_map,
          Nat.add_sub_cancel_left]
        exact h.getElem?_eq i j a' b ha hb

theorem orderedProduct_flatMap (firsts : List (Reading α)) (next : Reading α → List (Reading β)) :
    OrderedProduct firsts next
      (firsts.flatMap fun a => (next a).map fun b => ⟨(a.value, b.value), b.rest⟩) := by
  induction firsts with
  | nil =>
      constructor
      · rfl
      · intro i j a b ha
        rw [List.getElem?_nil] at ha
        cases ha
  | cons a firsts ih =>
      rw [List.flatMap_cons]
      exact ih.cons a

/-- Without the continuations of its first reading, a product is the product of the others. -/
theorem OrderedProduct.drop {a : Reading α} {firsts : List (Reading α)}
    {next : Reading α → List (Reading β)} {rs : List (Reading (α × β))}
    (h : OrderedProduct (a :: firsts) next rs) :
    OrderedProduct firsts next (rs.drop (next a).length) where
  length_eq := by
    rw [List.length_drop, h.length_eq, List.flatMap_cons, List.length_append,
      Nat.add_sub_cancel_left]
  getElem?_eq := by
    intro i j a' b ha hb
    have hget := h.getElem?_eq (i + 1) j a' b (by rwa [List.getElem?_cons_succ]) hb
    rw [List.take_succ_cons, List.flatMap_cons, List.length_append, Nat.add_assoc] at hget
    rw [List.getElem?_drop]
    exact hget

/-- The readings at the start of a product continue the first reading. -/
theorem OrderedProduct.take {a : Reading α} {firsts : List (Reading α)}
    {next : Reading α → List (Reading β)} {rs : List (Reading (α × β))}
    (h : OrderedProduct (a :: firsts) next rs) :
    rs.take (next a).length = (next a).map fun b => ⟨(a.value, b.value), b.rest⟩ := by
  apply List.ext_getElem?
  intro j
  rw [List.getElem?_map]
  by_cases hj : j < (next a).length
  · have hb := List.getElem?_eq_getElem hj
    have hget := h.getElem?_eq 0 j a _ List.getElem?_cons_zero hb
    rw [List.take_zero, List.flatMap_nil, List.length_nil, Nat.zero_add] at hget
    rw [List.getElem?_take_of_lt hj, hget, hb]
    rfl
  · rw [List.getElem?_take_eq_none (Nat.not_lt.1 hj), List.getElem?_eq_none (Nat.not_lt.1 hj)]
    rfl

/-- No two lists are the ordered product of the same readings. -/
theorem OrderedProduct.eq_flatMap {firsts : List (Reading α)}
    {next : Reading α → List (Reading β)} {rs : List (Reading (α × β))}
    (h : OrderedProduct firsts next rs) :
    rs = firsts.flatMap fun a => (next a).map fun b => ⟨(a.value, b.value), b.rest⟩ := by
  induction firsts generalizing rs with
  | nil => exact List.length_eq_zero_iff.1 h.length_eq
  | cons a firsts ih =>
      rw [List.flatMap_cons, ← ih h.drop, ← h.take, List.take_append_drop]

/-! ## Gathering -/

/-- Puts the readings that continue `first` behind those found so far: all but the last one, and
then the last one. -/
def gatherNext (make : α → β → γ) (found : List (Reading γ)) (first : Reading α)
    (seconds : List (Reading β)) : List (Reading γ) :=
  match seconds.getLast? with
  | none => found
  | some last =>
      seconds.dropLast.foldl
          (fun found second => found ++ [⟨make first.value second.value, second.rest⟩]) found ++
        [⟨make first.value last.value, last.rest⟩]

/-- Gathers the readings that continue those of the first part, one of these after the other. -/
def gather (make : α → β → γ) (next : Reading α → List (Reading β)) (found : List (Reading γ))
    (firsts : List (Reading α)) : List (Reading γ) :=
  firsts.foldl (fun found first => gatherNext make found first (next first)) found

/-- Readings that are added one at a time are added as a list. -/
theorem foldl_concat_reading (f : Reading β → Reading γ) (seconds : List (Reading β))
    (found : List (Reading γ)) :
    seconds.foldl (fun found second => found ++ [f second]) found = found ++ seconds.map f := by
  rw [List.foldl_append_eq_append, ← List.flatMap_def, ← List.map_eq_flatMap]

/-- Setting the last reading apart neither loses it nor moves it. -/
theorem gatherNext_eq (make : α → β → γ) (found : List (Reading γ)) (first : Reading α)
    (seconds : List (Reading β)) :
    gatherNext make found first seconds =
      found ++ seconds.map fun b => ⟨make first.value b.value, b.rest⟩ := by
  unfold gatherNext
  cases hlast : seconds.getLast? with
  | none =>
      rw [List.getLast?_eq_none_iff.1 hlast]
      simp
  | some last =>
      obtain ⟨before, rfl⟩ := List.getLast?_eq_some_iff.1 hlast
      simp only [List.dropLast_concat, foldl_concat_reading, List.map_append, List.map_cons,
        List.map_nil, List.append_assoc]

/-- A whole run of gathering. -/
theorem gather_eq (make : α → β → γ) (next : Reading α → List (Reading β))
    (found : List (Reading γ)) (firsts : List (Reading α)) :
    gather make next found firsts =
      found ++ firsts.flatMap fun a =>
        (next a).map fun b => ⟨make a.value b.value, b.rest⟩ := by
  unfold gather
  induction firsts generalizing found with
  | nil => simp
  | cons a firsts ih =>
      rw [List.foldl_cons, ih, gatherNext_eq, List.append_assoc, List.flatMap_cons]

theorem andThen_eq_gather (p : Parser α) (q : Parser β) (s : Text) :
    p.andThen q s = gather Prod.mk (fun a => q a.rest) [] (p s) := by
  rw [gather_eq, List.nil_append]
  rfl

theorem push_eq_gather (p : Parser (List α)) (q : Parser α) (s : Text) :
    p.push q s = gather (fun l a => l ++ [a]) (fun l => q l.rest) [] (p s) := by
  rw [gather_eq, List.nil_append]
  rfl

/-- Between delimiters the contents of every opening are gathered in turn. -/
theorem between_eq_gather (opening : Parser α) (content : Parser β) (closing : Parser γ)
    (s : Text) :
    between opening content closing s =
      (opening s).foldl
        (fun found o => gather (fun c _ => c) (fun c => closing c.rest) found (content o.rest))
        [] := by
  simp only [gather_eq]
  rw [List.foldl_append_eq_append, List.nil_append, ← List.flatMap_def]
  rfl

/-! ## The laws of sequences -/

/-- Sequences may be put together from either side. -/
theorem andThen_assoc (p : Parser α) (q : Parser β) (r : Parser γ) :
    p.andThen (q.andThen r) =
      ((p.andThen q).andThen r).map fun ((a, b), c) => (a, (b, c)) := by
  funext s
  simp only [andThen, map, List.map_flatMap, List.flatMap_assoc, List.flatMap_map, List.map_map]
  rfl

/-- The readings of a sequence are the ordered product of those of its parts and nothing else. So
three parts may be put together from either side, a list that grows at its end is a sequence whose
two values are put together, and what stands between delimiters is the middle of a sequence of
three. All three kinds of sequences have the readings that gathering gives. -/
theorem sequences_ordered_product (p : Parser α) (q : Parser β) (r : Parser γ)
    (l : Parser (List β)) :
    (∀ s rs, OrderedProduct (p s) (fun a => q a.rest) rs ↔ rs = p.andThen q s) ∧
      p.andThen (q.andThen r) =
        ((p.andThen q).andThen r).map (fun ((a, b), c) => (a, (b, c))) ∧
      l.push q = (l.andThen q).map (fun (l, b) => l ++ [b]) ∧
      between p q r = ((p.andThen q).andThen r).map (fun ((_, b), _) => b) ∧
      ∀ s, p.andThen q s = gather Prod.mk (fun a => q a.rest) [] (p s) ∧
        l.push q s = gather (fun l b => l ++ [b]) (fun l => q l.rest) [] (l s) ∧
        between p q r s =
          (p s).foldl
            (fun found a => gather (fun b _ => b) (fun b => r b.rest) found (q a.rest)) [] := by
  refine ⟨?_, andThen_assoc p q r, push_eq_map_andThen l q, between_eq_map_andThen p q r, ?_⟩
  · intro s rs
    constructor
    · intro h
      exact h.eq_flatMap
    · rintro rfl
      exact orderedProduct_flatMap (p s) fun a => q a.rest
  · intro s
    exact ⟨andThen_eq_gather p q s, push_eq_gather l q s, between_eq_gather p q r s⟩

end Parser

end ExprCalc
