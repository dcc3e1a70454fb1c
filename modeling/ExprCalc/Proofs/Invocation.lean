import ExprCalc.CommandLine.Program
import ExprCalc.Proofs.Arguments
import Mathlib

/-!
# Invocations

A request is what a command line asks for: the flag, a limit, an expression, each or not. It is
written by its items in any order, each in any of its forms (`Request.WrittenBy`). The scan takes
the items one by one. What it has then been given, with what is still pending, is the request so far
(`Scan.Holds`): each item adds itself (`Scan.exists_of_item`), whatever the order, so the arguments
as a whole give the request (`Request.scan_of_writtenBy`).

What a request leaves open is decided by the environment, and then by two fixed values: the limit is
256 and the flag is off. `Request.evaluator` says so in full, with the words that switch the flag off
spelled out, and the settings of a run agree with it (`Request.settings_of_writtenBy`). A run is
therefore the run that the request describes (`run_of_writtenBy`).
-/

set_option autoImplicit false

namespace ExprCalc

namespace CommandLine

/-! ## Words in small and capital letters -/

/-- The value is the word, with each of its letters small or capital. -/
def inAnyCase : Text → Text → Bool
  | [], [] => true
  | w :: word, c :: value => (c == w || c == w.toUpper) && inAnyCase word value
  | _, _ => false

/-- A character whose small form is `w` is `w` itself or its capital. -/
theorem toLower_eq_iff {w : Char} (hw : w.toLower = w) (c : Char) :
    c.toLower = w ↔ c = w ∨ c = w.toUpper := by
  constructor
  · intro h
    by_cases hupper : c.isUpper
    · right
      rw [← h, Char.toUpper_toLower_eq_toUpper,
        Char.toUpper_eq_of_not_isLower (Char.not_isLower_of_isUpper hupper)]
    · left
      rw [← h, Char.toLower_eq_of_not_isUpper hupper]
  · rintro (rfl | rfl)
    · exact hw
    · rw [Char.toLower_toUpper_eq_toLower, hw]

/-- A value is a word of small letters in any case if and only if its small form is the word. -/
theorem inAnyCase_iff {word : Text} (hword : word.map Char.toLower = word) (value : Text) :
    inAnyCase word value = true ↔ value.map Char.toLower = word := by
  induction word generalizing value with
  | nil =>
      cases value with
      | nil => exact iff_of_true rfl rfl
      | cons c value => exact iff_of_false Bool.false_ne_true (List.cons_ne_nil _ _)
  | cons w word ih =>
      obtain ⟨hw, hrest⟩ := List.cons.inj hword
      cases value with
      | nil => exact iff_of_false Bool.false_ne_true (List.cons_ne_nil _ _).symm
      | cons c value =>
          rw [inAnyCase, List.map_cons, List.cons.injEq, Bool.and_eq_true, ih hrest,
            Bool.or_eq_true, beq_iff_eq, beq_iff_eq, toLower_eq_iff hw]

/-- The small form of a value is not in a list of words of small letters if and only if the value is
none of these words in any case. -/
theorem map_toLower_notMem_iff {words : List String}
    (hwords : ∀ word ∈ words, word.toList.map Char.toLower = word.toList) (value : Text) :
    value.map Char.toLower ∉ words.map String.toList ↔
      (words.all fun word => !inAnyCase word.toList value) = true := by
  rw [List.mem_map, not_exists, List.all_eq_true]
  apply forall_congr'
  intro word
  rw [not_and]
  apply forall_congr'
  intro hword
  rw [Bool.not_eq_true', ← Bool.not_eq_true, inAnyCase_iff (hwords word hword)]
  exact not_congr eq_comm

/-- A value switches the flag on unless it is one of the words that say no, in any case. -/
theorem isOn_eq (value : Text) :
    isOn value =
      ["", "n", "no", "f", "false", "off", "0"].all fun word => !inAnyCase word.toList value := by
  have hwords : ∀ word ∈ ["", "n", "no", "f", "false", "off", "0"],
      word.toList.map Char.toLower = word.toList := by decide +kernel
  rw [Bool.eq_iff_iff, ← map_toLower_notMem_iff hwords value]
  exact decide_eq_true_iff

/-! ## Requests -/

/-- One thing that a command line asks for. -/
inductive Item where
  | allowTrailing
  | maxDepth (n : UInt64)
  | expression (t : ArithmeticText)

/-- What a command line asks for. -/
structure Request where
  allowTrailing : Bool := false
  maxDepth : Option UInt64 := none
  expression : Option ArithmeticText := none

/-- The arguments that write an item, in each of its forms. -/
inductive Item.Written : Item → List Text → Prop
  | shortFlag : Written .allowTrailing ["-t".toList]
  | longFlag : Written .allowTrailing ["--allow-trailing".toList]
  | shortLimit {n : UInt64} {s : Text} (hs : WritesLimit n s) :
      Written (.maxDepth n) ["-x".toList, s]
  | longLimit {n : UInt64} {s : Text} (hs : WritesLimit n s) :
      Written (.maxDepth n) ["--max-depth".toList, s]
  | attachedLimit {n : UInt64} {s : Text} (hs : WritesLimit n s) :
      Written (.maxDepth n) ["--max-depth=".toList ++ s]
  | expression (t : ArithmeticText) : Written (.expression t) [t.text]

/-- The arguments that write items in the given order. An expression at the end may have the
terminator before it. -/
inductive Item.AllWritten : List Item → List Text → Prop
  | nil : AllWritten [] []
  | cons {item : Item} {items : List Item} {args rest : List Text} (h : item.Written args)
      (hrest : AllWritten items rest) : AllWritten (item :: items) (args ++ rest)
  | terminated (t : ArithmeticText) : AllWritten [.expression t] ["--".toList, t.text]

/-- The option of an item. The expression has none. -/
def Item.switch? : Item → Option Switch
  | allowTrailing => some .allowTrailing
  | maxDepth _ => some .maxDepth
  | expression _ => none

namespace Request

/-- The items of a request. -/
def items (r : Request) : List Item :=
  (if r.allowTrailing then [.allowTrailing] else []) ++ r.maxDepth.toList.map .maxDepth ++
    r.expression.toList.map .expression

/-- The arguments write the items of the request in some order. -/
def WrittenBy (r : Request) (args : List Text) : Prop :=
  ∃ items : List Item, items.Perm r.items ∧ Item.AllWritten items args

/-- The evaluator of a request. A limit that the request leaves open is the one that the variable of
the limit states, which is `stated`, or else 256. The flag is on if the request gives it, or if its
variable is set to anything but one of seven words that say no. -/
def evaluator (r : Request) (env : Environment) (stated : Option UInt64) : Evaluator where
  maxDepth := ((r.maxDepth.or stated).map UInt64.toNat).getD 256
  allowTrailing :=
    r.allowTrailing ||
      match env.allowTrailing with
      | none => false
      | some value =>
          ["", "n", "no", "f", "false", "off", "0"].all fun word => !inAnyCase word.toList value

/-- The outcome that a request asks for: that of its expression, or else that of the lines of the
standard input. -/
def outcome (r : Request) (env : Environment) (stated : Option UInt64) (stdin : Bytes) :
    Outcome :=
  match r.expression with
  | some t => (r.evaluator env stated).runSingle t.text
  | none => ((r.evaluator env stated).runBatch stdin).outcome

/-- The request with one more item. -/
def add (r : Request) : Item → Request
  | .allowTrailing => { r with allowTrailing := true }
  | .maxDepth n => { r with maxDepth := some n }
  | .expression t => { r with expression := some t }

/-- The request asks for nothing yet of the kind of the item. -/
def Lacks (r : Request) : Item → Prop
  | .allowTrailing => r.allowTrailing = false
  | .maxDepth _ => r.maxDepth = none
  | .expression _ => r.expression = none

theorem Lacks.add {r : Request} {a b : Item} (h : r.Lacks b) (hab : a.switch? ≠ b.switch?) :
    (r.add a).Lacks b := by
  cases a <;> cases b <;> first | exact h | exact absurd rfl hab

/-- Items of different kinds may be added in either order. -/
theorem add_comm {a b : Item} (hab : a.switch? ≠ b.switch?) (r : Request) :
    (r.add a).add b = (r.add b).add a := by
  cases a <;> cases b <;> first | rfl | exact absurd rfl hab

/-- A request has one item of a kind at most. -/
theorem nodup_items (r : Request) : (r.items.map Item.switch?).Nodup := by
  obtain ⟨flag, limit, expression⟩ := r
  cases flag <;> cases limit <;> cases expression <;> simp [items, Item.switch?]

theorem foldl_add_items (r : Request) : r.items.foldl add {} = r := by
  obtain ⟨flag, limit, expression⟩ := r
  cases flag <;> cases limit <;> cases expression <;> rfl

/-- The items of a request make this request, in every order. -/
theorem foldl_add_of_perm {r : Request} {items : List Item} (h : items.Perm r.items) :
    items.foldl add {} = r := by
  rw [← r.foldl_add_items]
  have hnodup : (items.map Item.switch?).Nodup := (h.map _).nodup_iff.mpr r.nodup_items
  -- Two of the items that are added in the other order are of different kinds, or the same item.
  refine h.foldl_eq' (fun a ha b hb r => ?_) ({} : Request)
  by_cases hab : a.switch? = b.switch?
  · rw [List.inj_on_of_nodup_map hnodup ha hb hab]
  · exact (add_comm hab r)

end Request

/-! ## The scan of an item -/

namespace Given

/-- What has been given is the request. -/
structure Holds (g : Given) (r : Request) : Prop where
  allowTrailing : Switch.allowTrailing ∈ g.options ↔ r.allowTrailing = true
  limit : Switch.maxDepth ∈ g.options ↔ r.maxDepth.isSome
  maxDepth : g.maxDepth = r.maxDepth.map UInt64.toNat
  expression : g.expression = r.expression.map ArithmeticText.text

section

variable {g : Given} {r : Request}

theorem Holds.flag_notMem (h : g.Holds r) (hlacks : r.allowTrailing = false) :
    Switch.allowTrailing ∉ g.options := by
  rw [h.allowTrailing, hlacks]
  exact Bool.false_ne_true

theorem Holds.limit_notMem (h : g.Holds r) (hlacks : r.maxDepth = none) :
    Switch.maxDepth ∉ g.options := by
  rw [h.limit, hlacks]
  exact Bool.false_ne_true

theorem Holds.expression_eq_none (h : g.Holds r) (hlacks : r.expression = none) :
    g.expression = none := by
  rw [h.expression, hlacks]
  rfl

/-! What is added to what has been given is added to the request. -/

theorem Holds.addFlag (h : g.Holds r) :
    Holds { g with options := g.options ++ [.allowTrailing] } (r.add .allowTrailing) where
  allowTrailing := by simp [Request.add]
  limit := by simpa [Request.add] using h.limit
  maxDepth := h.maxDepth
  expression := h.expression

theorem Holds.addLimit (h : g.Holds r) (n : UInt64) :
    Holds { g with options := g.options ++ [.maxDepth], maxDepth := some n.toNat }
      (r.add (.maxDepth n)) where
  allowTrailing := by simpa [Request.add] using h.allowTrailing
  limit := by simp [Request.add]
  maxDepth := rfl
  expression := h.expression

theorem Holds.addExpression (h : g.Holds r) (t : ArithmeticText) :
    Holds { g with expression := some t.text } (r.add (.expression t)) where
  allowTrailing := h.allowTrailing
  limit := h.limit
  maxDepth := h.maxDepth
  expression := rfl

end

/-- The value of the limit option leaves the expression as it is. -/
theorem expression_of_addDepth {g g' : Given} {value : Bytes} (h : g.addDepth value = .ok g') :
    g'.expression = g.expression := by
  unfold addDepth at h
  split at h
  · cases h
  · split at h
    · cases h
    · split at h
      · cases h
      · cases h
        rfl

theorem addDepth_of_writesLimit {g : Given} (hg : Switch.maxDepth ∉ g.options) {n : UInt64}
    {v : Text} (hv : WritesLimit n v) :
    g.addDepth (Utf8.encode v) =
      .ok { g with options := g.options ++ [.maxDepth], maxDepth := some n.toNat } := by
  rw [addDepth, if_neg hg, Utf8.decode?_encode]
  simp only [readDepth_of_writesLimit hv]

end Given

namespace Scan

/-- What has been given, with what is pending, is the request. -/
def Holds (s : Scan) (r : Request) : Prop := ∃ g, s.settled = .ok g ∧ g.Holds r

theorem holds_empty : Holds {} {} :=
  ⟨{}, rfl, by simp, by simp, rfl, rfl⟩

theorem settled_eq_ok_iff {s : Scan} {g : Given} :
    s.settled = .ok g ↔ s.given.settle s.pending = .ok g := by
  unfold settled
  cases s.given.settle s.pending <;> simp [Except.mapError]

/-- A scan that can be settled waits for no limit. -/
theorem pending_ne_of_settled {s : Scan} {g : Given} (h : s.settled = .ok g) :
    s.pending ≠ some (.depth none) := by
  intro hpending
  rw [settled_eq_ok_iff, hpending] at h
  cases h

/-- Whether the expression has been given can be told before it is settled. -/
theorem hasExpression_of_settled {s : Scan} {g : Given} (h : s.settled = .ok g) :
    s.hasExpression = g.expression.isSome := by
  rw [settled_eq_ok_iff] at h
  obtain ⟨given, pending, positionalOnly⟩ := s
  -- What is pending is the expression, or else it leaves the expression as it is.
  match pending with
  | none =>
      cases h
      rfl
  | some (.depth none) => cases h
  | some (.depth (some value)) => exact congrArg Option.isSome (Given.expression_of_addDepth h).symm
  | some (.expression value) =>
      rw [Given.settle] at h
      split at h
      · cases h
      · cases h
        rfl

section

variable {s : Scan} {g : Given}

theorem takeSwitch_allowTrailing (h : s.settled = .ok g) (hg : Switch.allowTrailing ∉ g.options) :
    s.takeSwitch .allowTrailing =
      .ok { s with
        given := { g with options := g.options ++ [.allowTrailing] }
        pending := none } := by
  rw [takeSwitch, h]
  show ((g.addFlag .allowTrailing).mapError Stop.usage).map _ = _
  rw [Given.addFlag, if_neg hg]
  rfl

theorem takeSwitch_maxDepth (h : s.settled = .ok g) :
    s.takeSwitch .maxDepth = .ok { s with given := g, pending := some (.depth none) } := by
  rw [takeSwitch, h]
  rfl

theorem takeDepth_of_writesLimit (h : s.settled = .ok g) (hg : Switch.maxDepth ∉ g.options)
    {n : UInt64} {v : Text} (hv : WritesLimit n v) :
    s.takeDepth (Utf8.encode v) =
      .ok { s with
        given := { g with options := g.options ++ [.maxDepth], maxDepth := some n.toNat }
        pending := none } := by
  rw [takeDepth, h]
  show ((g.addDepth (Utf8.encode v)).mapError Stop.usage).map _ = _
  rw [Given.addDepth_of_writesLimit hg hv]
  rfl

theorem takePositional_of_settled (h : s.settled = .ok g) (hg : g.expression = none)
    (arg : Bytes) :
    s.takePositional arg = .ok { s with given := g, pending := some (.expression arg) } := by
  have hwaits : s.hasExpression = false := by rw [hasExpression_of_settled h, hg]; rfl
  rw [takePositional, hwaits, if_neg Bool.false_ne_true, h]
  rfl

/-! ### Arguments by their shape -/

theorem step_of_plain (hopen : s.positionalOnly = false) {arg : Bytes}
    (hshape : Shape.of arg = .plain) : s.step arg = s.takeValue arg := by
  simp only [step, hopen, hshape, Bool.false_eq_true, if_false]

theorem step_of_cluster (hopen : s.positionalOnly = false) {arg : Bytes} (letters : Bytes)
    (hshape : Shape.of arg = .cluster letters)
    (hknown : (letters.any fun b => (Switch.ofLetter? b).isNone) = false) :
    s.step arg = s.takeCluster letters := by
  simp only [step, hopen, hshape, hknown, Bool.and_false, Bool.false_eq_true, if_false]

theorem step_of_long (hopen : s.positionalOnly = false) {arg : Bytes} (name : Text)
    (value? : Option Bytes) (hshape : Shape.of arg = .long (Utf8.encode name) value?) {o : Switch}
    (hname : Switch.ofName? name = some o) : s.step arg = s.takeLong o value? := by
  simp only [step, hopen, hshape, Utf8.decode?_encode, hname, Bool.false_eq_true, if_false]

/-- The flag in either form. -/
theorem step_flag (hopen : s.positionalOnly = false) {arg : Text}
    (harg : arg = "-t".toList ∨ arg = "--allow-trailing".toList) :
    s.step (Utf8.encode arg) = s.takeSwitch .allowTrailing := by
  rcases harg with rfl | rfl
  · have hletter : s.takeCluster [0x74] = (s.takeSwitch .allowTrailing).bind .ok := rfl
    rw [step_of_cluster hopen [0x74] rfl rfl, hletter]
    cases s.takeSwitch .allowTrailing <;> rfl
  · exact step_of_long hopen "allow-trailing".toList none rfl rfl

/-- The limit option in either form with its value in the next argument. -/
theorem step_limit (hopen : s.positionalOnly = false) {arg : Text}
    (harg : arg = "-x".toList ∨ arg = "--max-depth".toList) :
    s.step (Utf8.encode arg) = s.takeSwitch .maxDepth := by
  rcases harg with rfl | rfl
  · exact step_of_cluster hopen [0x78] rfl rfl
  · exact step_of_long hopen "max-depth".toList none rfl rfl

/-- The limit option with its value attached. -/
theorem step_attached (hopen : s.positionalOnly = false) (v : Text) :
    s.step (Utf8.encode ("--max-depth=".toList ++ v)) = s.takeDepth (Utf8.encode v) := by
  have hshape : Shape.of (Utf8.encode ("--max-depth=".toList ++ v)) =
      .long (Utf8.encode "max-depth".toList) (some (Utf8.encode v)) := by
    rw [Utf8.encode_append]
    rfl
  exact step_of_long hopen "max-depth".toList (some (Utf8.encode v)) hshape rfl

end

/-! ### Items -/

variable {s : Scan} {r : Request}

theorem foldlM_step_singleton (s : Scan) (arg : Bytes) : [arg].foldlM step s = s.step arg := by
  rw [List.foldlM_cons]
  exact bind_pure _

/-- An expression is taken as one while the request has none, in place of an option or behind the
terminator. -/
theorem exists_of_positional (hs : s.Holds r) {t : ArithmeticText}
    (hlacks : r.Lacks (.expression t)) :
    ∃ s', s.takePositional (Utf8.encode t.text) = .ok s' ∧ s'.positionalOnly = s.positionalOnly ∧
      s'.Holds (r.add (.expression t)) := by
  obtain ⟨g, hg, hholds⟩ := hs
  have hnone := hholds.expression_eq_none hlacks
  refine ⟨_, takePositional_of_settled hg hnone _, rfl, _, ?_, hholds.addExpression t⟩
  rw [settled_eq_ok_iff, Given.settle, Utf8.decode?_encode]

theorem exists_of_flag {arg : Text} (harg : arg = "-t".toList ∨ arg = "--allow-trailing".toList)
    (hopen : s.positionalOnly = false) (hs : s.Holds r) (hlacks : r.Lacks .allowTrailing) :
    ∃ s', s.step (Utf8.encode arg) = .ok s' ∧ s'.positionalOnly = false ∧
      s'.Holds (r.add .allowTrailing) := by
  obtain ⟨g, hg, hholds⟩ := hs
  have hnone := hholds.flag_notMem hlacks
  have hstep := (step_flag hopen harg).trans (takeSwitch_allowTrailing hg hnone)
  exact ⟨_, hstep, hopen, _, rfl, hholds.addFlag⟩

/-- A limit in an argument of its own is checked late, when it is settled. -/
theorem exists_of_limit {arg : Text} (harg : arg = "-x".toList ∨ arg = "--max-depth".toList)
    {n : UInt64} {v : Text} (hv : WritesLimit n v) (hopen : s.positionalOnly = false)
    (hs : s.Holds r) (hlacks : r.Lacks (.maxDepth n)) :
    ∃ s', [Utf8.encode arg, Utf8.encode v].foldlM step s = .ok s' ∧ s'.positionalOnly = false ∧
      s'.Holds (r.add (.maxDepth n)) := by
  obtain ⟨g, hg, hholds⟩ := hs
  have hnone := hholds.limit_notMem hlacks
  let waiting : Scan := { s with given := g, pending := some (.depth none) }
  let met : Scan := { waiting with pending := some (.depth (some (Utf8.encode v))) }
  have hoption : s.step (Utf8.encode arg) = .ok waiting :=
    (step_limit hopen harg).trans (takeSwitch_maxDepth hg)
  have hvalue : waiting.step (Utf8.encode v) = .ok met :=
    step_of_plain (s := waiting) hopen (shape_of_writesLimit hv)
  -- The value has not been read yet, but `met` counts as settled since it can be.
  refine ⟨met, ?_, hopen, _, ?_, hholds.addLimit n⟩
  · rw [List.foldlM_cons, hoption]
    exact (foldlM_step_singleton waiting _).trans hvalue
  · rw [settled_eq_ok_iff]
    exact Given.addDepth_of_writesLimit hnone hv

theorem exists_of_attached {n : UInt64} {v : Text} (hv : WritesLimit n v)
    (hopen : s.positionalOnly = false) (hs : s.Holds r) (hlacks : r.Lacks (.maxDepth n)) :
    ∃ s', s.step (Utf8.encode ("--max-depth=".toList ++ v)) = .ok s' ∧
      s'.positionalOnly = false ∧ s'.Holds (r.add (.maxDepth n)) := by
  obtain ⟨g, hg, hholds⟩ := hs
  have hnone := hholds.limit_notMem hlacks
  have hstep := (step_attached hopen v).trans (takeDepth_of_writesLimit hg hnone hv)
  exact ⟨_, hstep, hopen, _, rfl, hholds.addLimit n⟩

/-- An expression is taken as one, whatever hyphens it starts with. -/
theorem exists_of_expression {t : ArithmeticText} (hopen : s.positionalOnly = false)
    (hs : s.Holds r) (hlacks : r.Lacks (.expression t)) :
    ∃ s', s.step (Utf8.encode t.text) = .ok s' ∧ s'.positionalOnly = false ∧
      s'.Holds (r.add (.expression t)) := by
  have hwaits : s.hasExpression = false := by
    obtain ⟨g, hg, hholds⟩ := hs
    rw [hasExpression_of_settled hg, hholds.expression_eq_none hlacks]
    rfl
  have hpositional : s.takeValue (Utf8.encode t.text) = s.takePositional (Utf8.encode t.text) := by
    obtain ⟨g, hg, -⟩ := hs
    unfold takeValue
    split
    · next hpending => exact absurd hpending (pending_ne_of_settled hg)
    · rfl
  obtain ⟨s', hstep, hopen', hs'⟩ := exists_of_positional hs hlacks
  exact ⟨s', ((step_arithmetic hopen hwaits t).trans hpositional).trans hstep, hopen'.trans hopen,
    hs'⟩

/-- An item of a kind of which the request has none yet is taken, in each of its forms. -/
theorem exists_of_item {item : Item} {args : List Text} (hitem : item.Written args)
    (hopen : s.positionalOnly = false) (hs : s.Holds r) (hlacks : r.Lacks item) :
    ∃ s', (args.map Utf8.encode).foldlM step s = .ok s' ∧ s'.positionalOnly = false ∧
      s'.Holds (r.add item) := by
  cases hitem with
  | shortFlag =>
      rw [List.map_singleton, foldlM_step_singleton]
      exact exists_of_flag (Or.inl rfl) hopen hs hlacks
  | longFlag =>
      rw [List.map_singleton, foldlM_step_singleton]
      exact exists_of_flag (Or.inr rfl) hopen hs hlacks
  | shortLimit hv => exact exists_of_limit (Or.inl rfl) hv hopen hs hlacks
  | longLimit hv => exact exists_of_limit (Or.inr rfl) hv hopen hs hlacks
  | attachedLimit hv =>
      rw [List.map_singleton, foldlM_step_singleton]
      exact exists_of_attached hv hopen hs hlacks
  | expression t =>
      rw [List.map_singleton, foldlM_step_singleton]
      exact exists_of_expression hopen hs hlacks

/-- Items of different kinds, of which the request has none yet, are taken one by one. -/
theorem exists_of_allWritten {items : List Item} {args : List Text}
    (h : Item.AllWritten items args) :
    ∀ {s : Scan} {r : Request}, s.positionalOnly = false → s.Holds r →
      (∀ item ∈ items, r.Lacks item) → (items.map Item.switch?).Nodup →
      ∃ s', (args.map Utf8.encode).foldlM step s = .ok s' ∧
        s'.Holds (items.foldl Request.add r) := by
  induction h with
  | nil =>
      intro s r _ hs _ _
      exact ⟨s, rfl, hs⟩
  | @cons item items args rest hitem _ ih =>
      intro s r hopen hs hlacks hnodup
      rw [List.map_cons, List.nodup_cons] at hnodup
      obtain ⟨s₁, hstep, hopen₁, hs₁⟩ :=
        exists_of_item hitem hopen hs (hlacks item List.mem_cons_self)
      -- The items to come are of other kinds, so the request still has none of them.
      have hlacks₁ : ∀ other ∈ items, (r.add item).Lacks other := by
        intro other hother
        refine (hlacks other (List.mem_cons_of_mem item hother)).add fun heq => hnodup.1 ?_
        rw [heq]
        exact List.mem_map_of_mem hother
      obtain ⟨s₂, hrest, hs₂⟩ := ih hopen₁ hs₁ hlacks₁ hnodup.2
      refine ⟨s₂, ?_, hs₂⟩
      rw [List.map_append, List.foldlM_append, hstep]
      exact hrest
  | terminated t =>
      intro s r hopen hs hlacks _
      have hterminator :
          s.step (Utf8.encode "--".toList) = .ok { s with positionalOnly := true } := by
        simp only [step, hopen, Bool.false_eq_true, if_false]
        rfl
      obtain ⟨s', hstep, -, hs'⟩ := exists_of_positional (s := { s with positionalOnly := true })
        hs (hlacks _ List.mem_cons_self)
      refine ⟨s', ?_, hs'⟩
      rw [List.map_cons, List.foldlM_cons, hterminator]
      exact (foldlM_step_singleton _ _).trans hstep

end Scan

/-! ## Runs -/

namespace Request

variable {r : Request} {args : List Text}

/-- The arguments that write a request give this request. -/
theorem scan_of_writtenBy (h : r.WrittenBy args) :
    ∃ g, scan (args.map Utf8.encode) = .ok g ∧ g.Holds r := by
  obtain ⟨items, hperm, hwritten⟩ := h
  have hnodup : (items.map Item.switch?).Nodup := (hperm.map _).nodup_iff.mpr r.nodup_items
  have hlacks : ∀ item ∈ items, Lacks {} item := fun item _ => by cases item <;> rfl
  obtain ⟨s, hfold, g, hsettled, hholds⟩ :=
    Scan.exists_of_allWritten hwritten rfl Scan.holds_empty hlacks hnodup
  rw [foldl_add_of_perm hperm] at hholds
  refine ⟨g, ?_, hholds⟩
  rw [scan, hfold]
  exact hsettled

/-- The limit comes from the request, or else from its variable. -/
theorem maxDepthOr_of_holds {g : Given} (hg : g.Holds r) {env : Environment}
    {stated : Option UInt64}
    (henv : r.maxDepth.isSome ∨ Option.Rel WritesLimit stated env.maxDepth) :
    g.maxDepthOr env.maxDepth = .ok (r.evaluator env stated).maxDepth := by
  rw [Given.maxDepthOr.eq_def, hg.maxDepth, evaluator]
  cases hlimit : r.maxDepth with
  | some n => rfl
  | none =>
      rw [hlimit] at henv
      obtain hgiven | hrel := henv
      · cases hgiven
      · generalize env.maxDepth = written at hrel
        cases hrel with
        | none => rfl
        | some hwrites =>
            simp only [Option.map_none, readDepth_of_writesLimit hwrites]
            rfl

/-- The flag comes from the request, or else from its variable. -/
theorem allowTrailingOr_of_holds {g : Given} (hg : g.Holds r) (env : Environment)
    (stated : Option UInt64) :
    g.allowTrailingOr env.allowTrailing = (r.evaluator env stated).allowTrailing := by
  rw [Given.allowTrailingOr.eq_def, evaluator]
  cases hflag : r.allowTrailing with
  | true => rw [if_pos (hg.allowTrailing.mpr hflag), Bool.true_or]
  | false =>
      rw [if_neg (hg.flag_notMem hflag), Bool.false_or]
      cases env.allowTrailing with
      | none => rfl
      | some value => exact isOn_eq value

theorem settings_of_writtenBy (h : r.WrittenBy args) {env : Environment} {stated : Option UInt64}
    (henv : r.maxDepth.isSome ∨ Option.Rel WritesLimit stated env.maxDepth) :
    settings (args.map Utf8.encode) env =
      .ok ⟨r.evaluator env stated, r.expression.map ArithmeticText.text⟩ := by
  obtain ⟨g, hscan, hg⟩ := scan_of_writtenBy h
  rw [settings, hscan, Except.bind, maxDepthOr_of_holds hg henv,
    allowTrailingOr_of_holds hg env stated, hg.expression]
  rfl

end Request

/-- An expression alone is asked for by itself. -/
theorem Request.writtenBy_expression (t : ArithmeticText) :
    WrittenBy { expression := some t } [t.text] :=
  ⟨[.expression t], List.Perm.refl _, .cons (.expression t) .nil⟩

end CommandLine

end ExprCalc
