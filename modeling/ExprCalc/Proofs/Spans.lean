import ExprCalc.Proofs.Construction

/-!
# Spans of compositions

The span of a reading is cut out of the whole input by counting bytes; it is not put together while
the parts of a parser read. It is made up of their spans all the same, if the parts leave ends of
the text. The span of a sequence is that of its first part followed by that of its second part,
which is cut out of what the first part left (`Parser.withSpan_andThen`), and the span of a
repetition is made of the spans of its steps in a row (`Parser.LeavesSuffix.withSpan_many`). So a
composition may be paired with its span as a whole, or each of its parts may be, and the spans be
put together afterwards. This holds reading by reading, so also for parts that are ambiguous.
-/

set_option autoImplicit false

namespace ExprCalc

universe u v

variable {α : Type u} {β : Type v}

/-! ## One reading after another -/

/-- A reading that leaves the whole input has read nothing. -/
theorem Reading.span_of_rest_eq {r : Reading α} {s : Text} (h : r.rest = s) : r.span s = [] := by
  subst h
  have hspan : r.span r.rest ++ r.rest = r.rest :=
    Reading.span_append_rest (List.suffix_refl r.rest)
  exact List.append_left_eq_self.1 hspan

/-- What two readings in a row have read is what the first one has read of the input, and then what
the second one has read of the remainder. -/
theorem Reading.span_append_span {a : Reading α} {b : Reading β} {s : Text} (ha : a.rest <:+ s)
    (hb : b.rest <:+ a.rest) : a.span s ++ b.span a.rest = b.span s := by
  -- Both texts are what stands before the same end of the input.
  have hwhole : a.span s ++ b.span a.rest ++ b.rest = b.span s ++ b.rest := by
    calc a.span s ++ b.span a.rest ++ b.rest = a.span s ++ (b.span a.rest ++ b.rest) :=
          List.append_assoc _ _ _
      _ = a.span s ++ a.rest := by rw [Reading.span_append_rest hb]
      _ = s := Reading.span_append_rest ha
      _ = b.span s ++ b.rest := (Reading.span_append_rest (hb.trans ha)).symm
  exact List.append_cancel_right hwhole

namespace Parser

/-! ## Sequence -/

/-- The readings of a sequence are paired with the spans of the two parts put together. -/
theorem withSpan_andThen {p : Parser α} {q : Parser β} (hp : LeavesSuffix p)
    (hq : LeavesSuffix q) :
    (p.andThen q).withSpan =
      (p.withSpan.andThen q.withSpan).map fun ((a, t), (b, u)) => ((a, b), t ++ u) := by
  funext s
  simp only [withSpan, andThen, map, List.map_flatMap, List.flatMap_map, List.map_map]
  rw [List.flatMap_def, List.flatMap_def]
  apply congrArg List.flatten
  apply List.map_congr_left
  intro a ha
  apply List.map_congr_left
  intro b hb
  have hspan : a.span s ++ b.span a.rest = b.span s :=
    Reading.span_append_span (hp s a ha) (hq a.rest b hb)
  show Reading.mk ((a.value, b.value), b.span s) b.rest =
    ⟨((a.value, b.value), a.span s ++ b.span a.rest), b.rest⟩
  rw [hspan]

/-! ## Repetition -/

/-- The values of steps that are paired with spans, and the spans in a row. -/
def joinSpans (steps : List (α × Text)) : List α × Text :=
  (steps.map Prod.fst, (steps.map Prod.snd).flatten)

/-- Values that are paired with spans have the same first reading. -/
theorem head?_withSpan (p : Parser α) (s : Text) :
    (p.withSpan s).head? = (p s).head?.map fun r => ⟨(r.value, r.span s), r.rest⟩ :=
  List.head?_map

/-- A repetition takes the same steps if their values are paired with spans, and the spans of the
steps in a row are what the repetition has read. -/
theorem LeavesSuffix.greedy_withSpan {p : Parser α} (hp : LeavesSuffix p) (s : Text) :
    (Parser.greedy p.withSpan s).map joinSpans =
      ⟨((Parser.greedy p s).value, (Parser.greedy p s).span s), (Parser.greedy p s).rest⟩ := by
  fun_induction Parser.greedy p s with
  | case1 s hs =>
      have hnone : (p.withSpan s).head? = none := by rw [head?_withSpan, hs, Option.map_none]
      rw [greedy_of_eq_nil (List.head?_eq_none_iff.1 hnone), Reading.span_of_rest_eq rfl]
      rfl
  | case2 s r hs hlt tail ih =>
      have hsome : (p.withSpan s).head? = some ⟨(r.value, r.span s), r.rest⟩ := by
        rw [head?_withSpan, hs, Option.map_some]
      have hspan : r.span s ++ tail.span r.rest = tail.span s :=
        Reading.span_append_span (hp s r (List.mem_of_head? hs)) (hp.greedy r.rest)
      -- The first step in front of the others, which are joined by the induction hypothesis.
      calc (Parser.greedy p.withSpan s).map joinSpans
          = ((Parser.greedy p.withSpan r.rest).map joinSpans).map
              (fun steps => (r.value :: steps.1, r.span s ++ steps.2)) := by
            rw [greedy_of_lt hsome hlt]
            rfl
        _ = ⟨(r.value :: tail.value, r.span s ++ tail.span r.rest), tail.rest⟩ :=
            congrArg (Reading.map fun steps => (r.value :: steps.1, r.span s ++ steps.2)) ih
        _ = ⟨(r.value :: tail.value, tail.span s), tail.rest⟩ := by rw [hspan]
  | case3 s r hs hlt =>
      have hsome : (p.withSpan s).head? = some ⟨(r.value, r.span s), r.rest⟩ := by
        rw [head?_withSpan, hs, Option.map_some]
      rw [greedy_of_not_lt hsome hlt, Reading.span_of_rest_eq rfl]
      rfl

/-- The reading of a repetition is paired with the spans of its steps in a row. -/
theorem LeavesSuffix.withSpan_many {p : Parser α} (hp : LeavesSuffix p) :
    (Parser.many p).withSpan = (Parser.many p.withSpan).map joinSpans := by
  funext s
  show [_] = [_]
  rw [hp.greedy_withSpan s]

/-- A selection among changed values selects among the values themselves. -/
theorem filter_map (p : Parser α) (f : α → β) (keep : β → Bool) :
    (p.map f).filter keep = (p.filter fun v => keep (f v)).map f := by
  funext s
  exact List.filter_map

/-- A selection among the values does not look at the spans. -/
theorem withSpan_filter (p : Parser α) (keep : α → Bool) :
    (p.filter keep).withSpan = p.withSpan.filter fun v => keep v.1 := by
  funext s
  show ((p s).filter _).map _ = ((p s).map _).filter _
  rw [List.filter_map]
  rfl

/-- At least one step is taken with spans if and only if one is taken without them. -/
theorem LeavesSuffix.withSpan_many1 {p : Parser α} (hp : LeavesSuffix p) :
    (Parser.many1 p).withSpan = (Parser.many1 p.withSpan).map joinSpans := by
  have hempty : ∀ steps : List (α × Text), (joinSpans steps).1.isEmpty = steps.isEmpty :=
    fun steps => List.isEmpty_map
  calc (Parser.many1 p).withSpan
      = (Parser.many p).withSpan.filter fun v => !v.1.isEmpty := withSpan_filter _ _
    _ = ((Parser.many p.withSpan).map joinSpans).filter fun v => !v.1.isEmpty := by
        rw [hp.withSpan_many]
    _ = (Parser.many1 p.withSpan).map joinSpans := by
        simp only [filter_map, hempty]
        rfl

/-! ## The law of spans -/

/-- Pairing a composition with its span is the same as pairing its parts with theirs, and putting
the spans together: the two spans of a sequence, and the spans of all steps of a repetition. The
readings are the same ones in the same order, with the same remainders. -/
theorem spans_compose {p : Parser α} {q : Parser β} (hp : LeavesSuffix p) (hq : LeavesSuffix q) :
    (p.andThen q).withSpan =
        (p.withSpan.andThen q.withSpan).map (fun ((a, t), (b, u)) => ((a, b), t ++ u)) ∧
      (many p).withSpan = (many p.withSpan).map joinSpans ∧
      (many1 p).withSpan = (many1 p.withSpan).map joinSpans :=
  ⟨withSpan_andThen hp hq, hp.withSpan_many, hp.withSpan_many1⟩

/-- Two ambiguous parts and characters of two and of three bytes: the spans of all four readings of
the sequence, and those of the steps of the repetition, which are two characters long. -/
theorem spans_compose_ambiguous :
    let p := starts 1 2 false
    let q := starts 1 2 true
    LeavesSuffix p ∧ LeavesSuffix q ∧
      (p.andThen q).withSpan "é€x!".toList =
        (p.withSpan.andThen q.withSpan).map (fun ((a, t), (b, u)) => ((a, b), t ++ u))
          "é€x!".toList ∧
      ((p.andThen q).withSpan "é€x!".toList).map (fun r => r.value.2) =
        ["é€x".toList, "é€".toList, "é€x!".toList, "é€x".toList] ∧
      (many q).withSpan "é€x".toList = (many q.withSpan).map joinSpans "é€x".toList ∧
      many1 q.withSpan "é€x".toList =
        [⟨[("é€".toList, "é€".toList), ("x".toList, "x".toList)], []⟩] := by
  intro p q
  have hp : LeavesSuffix p := leavesSuffix_starts 1 2 false
  have hq : LeavesSuffix q := leavesSuffix_starts 1 2 true
  refine ⟨hp, hq, congrFun (spans_compose hp hq).1 _, by decide +kernel,
    congrFun (spans_compose hq hp).2.1 _, by decide +kernel⟩

end Parser

end ExprCalc
