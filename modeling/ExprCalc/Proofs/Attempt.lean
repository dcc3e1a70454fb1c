import ExprCalc.Parser.Repeat
import ExprCalc.Parser.Sequence

/-!
# Attempts

An attempt is a parser that may be called off while it runs, and then has no answer at all. The
operations on parsers carry over: each runs the same parts in the same order on the same texts, and
is called off as soon as one of its parts is. So an attempt tells which parts a parser runs, failed
ones included, where the parser itself only tells what they answer.

Parsers are the attempts that are never called off (`Attempt.ofParser`), and the operations agree
on them. The attempt `q` follows `p` on a text if it answers like `p` where `p` answers
(`Attempt.FollowsAt`), and on a set of texts if it does so on each of them (`Attempt.Follows`). All
operations keep this: a sequence follows another one if its parts do, the later ones on what the
earlier ones leave of the text.
-/

set_option autoImplicit false

namespace ExprCalc

universe u v w

variable {α : Type u} {β : Type v} {γ : Type w}

/-- A parser that may be called off: `none` if it is. -/
abbrev Attempt (α : Type u) : Type u := Text → Option (List (Reading α))

namespace Attempt

/-- The parser as an attempt that is never called off. -/
def ofParser (p : Parser α) : Attempt α := fun s => some (p s)

/-- Changes every value by a function. -/
def map (p : Attempt α) (f : α → β) : Attempt β :=
  fun s => (p s).map fun rs => rs.map (Reading.map f)

/-- Ordered choice: `q` is run only where `p` has no reading. -/
def orElse (p q : Attempt α) : Attempt α :=
  fun s =>
    match p s with
    | none => none
    | some [] => q s
    | some (r :: rs) => some (r :: rs)

/-- Runs `next` on every element of a list, in order, and puts the answers together. -/
def collect (next : α → Option (List β)) : List α → Option (List β)
  | [] => some []
  | a :: as => (next a).bind fun bs => (collect next as).map fun rest => bs ++ rest

/-- First `p`, then `q` on every remainder. -/
def andThen (p : Attempt α) (q : Attempt β) : Attempt (α × β) :=
  fun s => (p s).bind fun as =>
    collect (fun a => (q a.rest).map fun bs => bs.map fun b => ⟨(a.value, b.value), b.rest⟩) as

/-- An opening delimiter, the content, and a closing delimiter. -/
def between (opening : Attempt α) (content : Attempt β) (closing : Attempt γ) : Attempt β :=
  fun s => (opening s).bind fun os =>
    collect (fun o => (content o.rest).bind fun cs =>
      collect (fun c => (closing c.rest).map fun es => es.map fun e => ⟨c.value, e.rest⟩) cs) os

/-- The chain of first readings, as long as the remainder gets shorter. -/
def greedy (p : Attempt α) (s : Text) : Option (Reading (List α)) :=
  match p s with
  | none => none
  | some rs =>
      match rs.head? with
      | none => some ⟨[], s⟩
      | some r =>
          if r.rest.byteCount < s.byteCount then
            (greedy p r.rest).map fun tail => ⟨r.value :: tail.value, tail.rest⟩
          else some ⟨[], s⟩
termination_by s.byteCount

/-- Any number of `p` in a row, as many as there are. -/
def many (p : Attempt α) : Attempt (List α) := fun s => (greedy p s).map fun r => [r]

/-- Changes the answer by an operation on parsers that looks at no other text: the operation is
given the parser that has this answer everywhere. -/
def pointwise (p : Attempt α) (op : Parser α → Parser β) : Attempt β :=
  fun s => (p s).map fun rs => op (fun _ => rs) s

/-- At least one `p` in a row, as many as there are. -/
def many1 (p : Attempt α) : Attempt (List α) :=
  (many p).pointwise fun q => q.filter fun values => !values.isEmpty

/-- First `p`, which reads a list, then `q`; the value of `q` is put at the end of the list. -/
def push (p : Attempt (List α)) (q : Attempt α) : Attempt (List α) :=
  (p.andThen q).map fun (l, a) => l ++ [a]

/-! ## Parsers as attempts -/

/-- Where the answers are certain, collecting them is what the parsers do. -/
theorem collect_some (next : α → List β) (as : List α) :
    collect (fun a => some (next a)) as = some (as.flatMap next) := by
  induction as with
  | nil => rfl
  | cons a as ih =>
      rw [collect, ih]
      rfl

theorem ofParser_map (p : Parser α) (f : α → β) : (ofParser p).map f = ofParser (p.map f) := rfl

theorem ofParser_orElse (p q : Parser α) :
    (ofParser p).orElse (ofParser q) = ofParser (p.orElse q) := by
  funext s
  simp only [orElse, ofParser, Parser.orElse]
  cases p s with
  | nil => rfl
  | cons r rs => rfl

theorem ofParser_andThen (p : Parser α) (q : Parser β) :
    (ofParser p).andThen (ofParser q) = ofParser (p.andThen q) := by
  funext s
  exact collect_some _ (p s)

theorem ofParser_between (opening : Parser α) (content : Parser β) (closing : Parser γ) :
    between (ofParser opening) (ofParser content) (ofParser closing) =
      ofParser (Parser.between opening content closing) := by
  funext s
  show collect (fun o => collect (fun c => some _) (content o.rest)) (opening s) = _
  simp only [collect_some]
  rfl

theorem greedy_ofParser (p : Parser α) (s : Text) :
    greedy (ofParser p) s = some (Parser.greedy p s) := by
  fun_induction Parser.greedy p s with
  | case1 s hs =>
      have hread : ofParser p s = some (p s) := rfl
      rw [greedy, hread]
      simp only [hs]
  | case2 s r hs hlt tail ih =>
      have hread : ofParser p s = some (p s) := rfl
      rw [greedy, hread]
      simp only [hs, if_pos hlt, ih]
      rfl
  | case3 s r hs hlt =>
      have hread : ofParser p s = some (p s) := rfl
      rw [greedy, hread]
      simp only [hs, if_neg hlt]

theorem ofParser_many (p : Parser α) : many (ofParser p) = ofParser (Parser.many p) := by
  funext s
  rw [many, greedy_ofParser]
  rfl

theorem ofParser_pointwise (p : Parser α) {op : Parser α → Parser β}
    (hop : ∀ q s, op q s = op (fun _ => q s) s) : (ofParser p).pointwise op = ofParser (op p) := by
  funext s
  show some (op (fun _ => p s) s) = some (op p s)
  rw [← hop p s]

theorem ofParser_many1 (p : Parser α) : many1 (ofParser p) = ofParser (Parser.many1 p) := by
  rw [many1, ofParser_many, ofParser_pointwise _ fun _ _ => rfl]
  rfl

theorem ofParser_push (p : Parser (List α)) (q : Parser α) :
    (ofParser p).push (ofParser q) = ofParser (p.push q) := by
  rw [push, ofParser_andThen, ofParser_map, Parser.push_eq_map_andThen]

/-! ## What an answer says about the parts -/

/-- A collected answer has an answer for every element. -/
theorem exists_of_collect {next : α → Option (List β)} {as : List α} {rs : List β}
    (h : collect next as = some rs) : ∀ a ∈ as, ∃ bs, next a = some bs := by
  induction as generalizing rs with
  | nil =>
      intro a ha
      cases ha
  | cons b as ih =>
      obtain ⟨bs, hbs, hrest⟩ := Option.bind_eq_some_iff.1 h
      obtain ⟨cs, hcs, -⟩ := Option.map_eq_some_iff.1 hrest
      intro a ha
      rcases List.mem_cons.1 ha with rfl | ha
      · exact ⟨bs, hbs⟩
      · exact ih hcs a ha

/-- What is collected comes from one of the elements. -/
theorem exists_of_mem_collect {next : α → Option (List β)} {as : List α} {rs : List β}
    (h : collect next as = some rs) {r : β} (hr : r ∈ rs) :
    ∃ a ∈ as, ∃ bs, next a = some bs ∧ r ∈ bs := by
  induction as generalizing rs with
  | nil =>
      obtain rfl := Option.some.inj h
      cases hr
  | cons a as ih =>
      obtain ⟨bs, hbs, hrest⟩ := Option.bind_eq_some_iff.1 h
      obtain ⟨cs, hcs, rfl⟩ := Option.map_eq_some_iff.1 hrest
      rcases List.mem_append.1 hr with hr | hr
      · exact ⟨a, List.mem_cons_self, bs, hbs, hr⟩
      · obtain ⟨b, hb, hnext⟩ := ih hcs hr
        exact ⟨b, List.mem_cons_of_mem a hb, hnext⟩

/-- A repetition that has an answer has one for its first step, and for the rest of the chain if
the step counts. -/
theorem exists_of_greedy {p : Attempt α} {s : Text} {x : Reading (List α)}
    (h : greedy p s = some x) :
    ∃ rs, p s = some rs ∧ ∀ r, rs.head? = some r → r.rest.byteCount < s.byteCount →
      ∃ tail, greedy p r.rest = some tail := by
  rw [greedy] at h
  cases hps : p s with
  | none =>
      rw [hps] at h
      cases h
  | some rs =>
      refine ⟨rs, rfl, fun r hr hlt => ?_⟩
      rw [hps] at h
      simp only [hr, if_pos hlt] at h
      obtain ⟨tail, htail, -⟩ := Option.map_eq_some_iff.1 h
      exact ⟨tail, htail⟩

/-! ## Attempts that follow one another on a text -/

/-- On the text `s`, `q` answers like `p` if `p` answers. -/
def FollowsAt (s : Text) (q p : Attempt α) : Prop := ∀ rs, p s = some rs → q s = some rs

section FollowsAt

variable {s : Text}

theorem FollowsAt.refl (p : Attempt α) : FollowsAt s p p := fun _ h => h

theorem FollowsAt.map {p q : Attempt α} (h : FollowsAt s q p) (f : α → β) :
    FollowsAt s (q.map f) (p.map f) := by
  intro rs hrs
  obtain ⟨as, has, rfl⟩ := Option.map_eq_some_iff.1 hrs
  exact Option.map_eq_some_iff.2 ⟨as, h as has, rfl⟩

theorem FollowsAt.pointwise {p q : Attempt α} (h : FollowsAt s q p) (op : Parser α → Parser β) :
    FollowsAt s (q.pointwise op) (p.pointwise op) := by
  intro rs hrs
  obtain ⟨as, has, rfl⟩ := Option.map_eq_some_iff.1 hrs
  exact Option.map_eq_some_iff.2 ⟨as, h as has, rfl⟩

theorem FollowsAt.orElse {p p' q q' : Attempt α} (hp : FollowsAt s p' p) (hq : FollowsAt s q' q) :
    FollowsAt s (p'.orElse q') (p.orElse q) := by
  intro rs hrs
  simp only [Attempt.orElse] at hrs ⊢
  cases hps : p s with
  | none =>
      rw [hps] at hrs
      cases hrs
  | some as =>
      rw [hps] at hrs
      rw [hp as hps]
      cases as with
      | nil =>
          -- The second attempt is run on the same text.
          exact hq rs hrs
      | cons a as => exact hrs

theorem collect_follows {next next' : α → Option (List β)} {as : List α}
    (h : ∀ a ∈ as, ∀ bs, next a = some bs → next' a = some bs) :
    ∀ rs, collect next as = some rs → collect next' as = some rs := by
  induction as with
  | nil => exact fun _ hrs => hrs
  | cons a as ih =>
      intro rs hrs
      obtain ⟨bs, hbs, hrest⟩ := Option.bind_eq_some_iff.1 hrs
      obtain ⟨cs, hcs, rfl⟩ := Option.map_eq_some_iff.1 hrest
      have htail := ih (fun b hb => h b (List.mem_cons_of_mem a hb)) cs hcs
      rw [collect, h a List.mem_cons_self bs hbs, htail]
      rfl

theorem FollowsAt.andThen {p p' : Attempt α} {q q' : Attempt β} (hp : FollowsAt s p' p)
    (hq : ∀ as, p s = some as → ∀ a ∈ as, FollowsAt a.rest q' q) :
    FollowsAt s (p'.andThen q') (p.andThen q) := by
  intro rs hrs
  obtain ⟨as, has, hcollect⟩ := Option.bind_eq_some_iff.1 hrs
  refine Option.bind_eq_some_iff.2 ⟨as, hp as has, ?_⟩
  refine collect_follows (fun a ha bs hbs => ?_) rs hcollect
  obtain ⟨cs, hcs, rfl⟩ := Option.map_eq_some_iff.1 hbs
  exact Option.map_eq_some_iff.2 ⟨cs, hq as has a ha cs hcs, rfl⟩

theorem FollowsAt.push {p p' : Attempt (List α)} {q q' : Attempt α} (hp : FollowsAt s p' p)
    (hq : ∀ as, p s = some as → ∀ a ∈ as, FollowsAt a.rest q' q) :
    FollowsAt s (p'.push q') (p.push q) :=
  (hp.andThen hq).map _

theorem FollowsAt.many1_of_many {p q : Attempt α} (h : FollowsAt s (many q) (many p)) :
    FollowsAt s (many1 q) (many1 p) :=
  h.pointwise _

theorem FollowsAt.between {opening opening' : Attempt α} {content content' : Attempt β}
    {closing closing' : Attempt γ} (ho : FollowsAt s opening' opening)
    (hc : ∀ os, opening s = some os → ∀ o ∈ os, FollowsAt o.rest content' content)
    (he : ∀ os, opening s = some os → ∀ o ∈ os, ∀ cs, content o.rest = some cs → ∀ c ∈ cs,
      FollowsAt c.rest closing' closing) :
    FollowsAt s (between opening' content' closing') (between opening content closing) := by
  intro rs hrs
  obtain ⟨os, hos, hcollect⟩ := Option.bind_eq_some_iff.1 hrs
  refine Option.bind_eq_some_iff.2 ⟨os, ho os hos, ?_⟩
  refine collect_follows (fun o hmo bs hbs => ?_) rs hcollect
  obtain ⟨cs, hcs, hinner⟩ := Option.bind_eq_some_iff.1 hbs
  refine Option.bind_eq_some_iff.2 ⟨cs, hc os hos o hmo cs hcs, ?_⟩
  refine collect_follows (fun c hmc ds hds => ?_) bs hinner
  obtain ⟨es, hes, rfl⟩ := Option.map_eq_some_iff.1 hds
  exact Option.map_eq_some_iff.2 ⟨es, he os hos o hmo cs hcs c hmc es hes, rfl⟩

end FollowsAt

/-! ## Attempts that follow one another on a set of texts -/

/-- On every text of the set, `q` answers like `p` where `p` answers. -/
def Follows (P : Text → Prop) (q p : Attempt α) : Prop :=
  ∀ s, P s → ∀ rs, p s = some rs → q s = some rs

/-- From a text of the set, every remainder is again a text of the set. -/
def Stays (P : Text → Prop) (p : Attempt α) : Prop :=
  ∀ s, P s → ∀ rs, p s = some rs → ∀ r ∈ rs, P r.rest

variable {P : Text → Prop}

theorem Follows.refl (p : Attempt α) : Follows P p p := fun _ _ _ h => h

theorem Stays.ofParser {p : Parser α} (h : ∀ s, P s → ∀ r ∈ p s, P r.rest) :
    Stays P (ofParser p) := by
  intro s hs rs hrs
  obtain rfl := Option.some.inj hrs
  exact h s hs

theorem Stays.andThen {p : Attempt α} {q : Attempt β} (hp : Stays P p) (hq : Stays P q) :
    Stays P (p.andThen q) := by
  intro s hs rs hrs r hr
  obtain ⟨as, has, hcollect⟩ := Option.bind_eq_some_iff.1 hrs
  obtain ⟨a, ha, bs, hbs, hmem⟩ := exists_of_mem_collect hcollect hr
  obtain ⟨cs, hcs, rfl⟩ := Option.map_eq_some_iff.1 hbs
  obtain ⟨c, hc, rfl⟩ := List.mem_map.1 hmem
  exact hq a.rest (hp s hs as has a ha) cs hcs c hc

theorem Follows.map {p q : Attempt α} (h : Follows P q p) (f : α → β) :
    Follows P (q.map f) (p.map f) :=
  fun s hs => FollowsAt.map (h s hs) f

theorem Follows.orElse {p p' q q' : Attempt α} (hp : Follows P p' p) (hq : Follows P q' q) :
    Follows P (p'.orElse q') (p.orElse q) :=
  fun s hs => FollowsAt.orElse (hp s hs) (hq s hs)

theorem Follows.andThen {p p' : Attempt α} {q q' : Attempt β} (hp : Follows P p' p)
    (hstay : Stays P p) (hq : Follows P q' q) : Follows P (p'.andThen q') (p.andThen q) :=
  fun s hs => FollowsAt.andThen (hp s hs) fun as has a ha => hq a.rest (hstay s hs as has a ha)

theorem Follows.greedy {p q : Attempt α} (h : Follows P q p) (hstay : Stays P p) {s : Text}
    (hs : P s) : ∀ r, greedy p s = some r → greedy q s = some r := by
  fun_induction Attempt.greedy p s with
  | case1 s hps =>
      intro r hr
      cases hr
  | case2 s rs hps hhead =>
      intro r hr
      rw [Attempt.greedy, h s hs rs hps]
      simp only [hhead]
      exact hr
  | case3 s rs hps a hhead hlt ih =>
      intro r hr
      obtain ⟨tail, htail, rfl⟩ := Option.map_eq_some_iff.1 hr
      -- The chain goes on from a text of the set.
      have ha : P a.rest := hstay s hs rs hps a (List.mem_of_head? hhead)
      rw [Attempt.greedy, h s hs rs hps]
      simp only [hhead, if_pos hlt]
      exact Option.map_eq_some_iff.2 ⟨tail, ih ha tail htail, rfl⟩
  | case4 s rs hps a hhead hlt =>
      intro r hr
      rw [Attempt.greedy, h s hs rs hps]
      simp only [hhead, if_neg hlt]
      exact hr

theorem Follows.many {p q : Attempt α} (h : Follows P q p) (hstay : Stays P p) :
    Follows P (many q) (many p) := by
  intro s hs rs hrs
  obtain ⟨r, hr, rfl⟩ := Option.map_eq_some_iff.1 hrs
  exact Option.map_eq_some_iff.2 ⟨r, h.greedy hstay hs r hr, rfl⟩

/-- A repetition follows another one if its steps do, whatever the text. -/
theorem FollowsAt.many {p q : Attempt α} (h : ∀ t, FollowsAt t q p) (s : Text) :
    FollowsAt s (many q) (many p) :=
  Follows.many (P := fun _ => True) (fun t _ => h t) (fun _ _ _ _ _ _ => trivial) s trivial

/-- What stands between the delimiters is run on what an opening delimiter leaves, and only this
matters. -/
theorem Follows.between {opening : Parser α} {content content' : Attempt β} {closing : Parser γ}
    (h : ∀ s, P s → ∀ o ∈ opening s, ∀ cs, content o.rest = some cs → content' o.rest = some cs) :
    Follows P (between (ofParser opening) content' (ofParser closing))
      (between (ofParser opening) content (ofParser closing)) := by
  intro s hs
  refine FollowsAt.between (FollowsAt.refl _) (fun os hos o ho => ?_) fun _ _ _ _ _ _ _ _ =>
    FollowsAt.refl _
  obtain rfl := Option.some.inj hos
  exact h s hs o ho

end Attempt

end ExprCalc
