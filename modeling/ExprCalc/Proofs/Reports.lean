import ExprCalc.Proofs.SelfDelimiting

/-!
# Reports that can be read back

A batch reports its errors one to a line, and a report shows parts of the input between fixed words,
numbers and quotes. No input can disguise one report as another, or as several. All characters of a
message print as themselves, so a message stays on its line (`EvalError.printable_message`). With
the end of its line a message tells which error it is for, and so does a report with its number
(`EvalError.selfDelimiting_message`, `EvalError.selfDelimiting_report`). So different lists of
errors have different reports (`EvalError.reports_decodable`).
-/

set_option autoImplicit false

namespace ExprCalc

/-! ## Printable texts -/

/-- The blocks of code points of the category `Cc`. A character that ends a line is in one of them or
is one of the two separators. -/
def controlRanges : List (Nat × Nat) := [(0x0, 0x1f), (0x7f, 0x9f)]

/-- Is the character a control character? -/
def isControl (c : Char) : Bool := inRanges controlRanges c.toNat

/-- The block of the two code points of the categories `Zl` and `Zp`. -/
def separatorRanges : List (Nat × Nat) := [(0x2028, 0x2029)]

/-- Does the character separate lines or paragraphs? -/
def isSeparator (c : Char) : Bool := inRanges separatorRanges c.toNat

theorem exists_block_of_inRanges {blocks : List (Nat × Nat)} {n : Nat}
    (h : inRanges blocks n = true) : ∃ b ∈ blocks, b.1 ≤ n ∧ n ≤ b.2 := by
  fun_induction inRanges blocks n with
  | case1 n => cases h
  | case2 n first last blocks hlt => cases h
  | case3 n first last blocks hge ih =>
      rcases Bool.or_eq_true_iff.1 h with hle | hlater
      · exact ⟨_, List.mem_cons_self, Nat.not_lt.1 hge, of_decide_eq_true hle⟩
      · obtain ⟨b, hb, hmem⟩ := ih hlater
        exact ⟨b, List.mem_cons_of_mem _ hb, hmem⟩

/-- What prints as itself is in no block whose code points are all unprintable. -/
theorem inRanges_eq_false_of_isPrintable {blocks : List (Nat × Nat)}
    (hblocks : ∀ b ∈ blocks, ∀ i < b.2 + 1 - b.1, inRanges unprintableRanges (b.1 + i) = true)
    {c : Char} (h : isPrintable c = true) : inRanges blocks c.toNat = false := by
  unfold isPrintable hasGlyph at h
  simp only [Bool.and_eq_true, Bool.not_eq_true'] at h
  have hno : inRanges unprintableRanges c.toNat = false := h.1.1
  by_contra hin
  obtain ⟨b, hb, hfirst, hlast⟩ := exists_block_of_inRanges (Bool.of_not_eq_false hin)
  have hyes := hblocks b hb (c.toNat - b.1) (by omega)
  rw [Nat.add_sub_cancel' hfirst, hno] at hyes
  cases hyes

theorem not_isControl_of_isPrintable {c : Char} (h : isPrintable c = true) :
    isControl c = false :=
  inRanges_eq_false_of_isPrintable (by decide +kernel) h

theorem not_isSeparator_of_isPrintable {c : Char} (h : isPrintable c = true) :
    isSeparator c = false :=
  inRanges_eq_false_of_isPrintable (by decide +kernel) h

namespace Text

/-- All characters of the text print as themselves. -/
def Printable (s : Text) : Prop := ∀ c ∈ s, isPrintable c = true

instance (s : Text) : Decidable s.Printable := List.decidableBAll _ s

theorem Printable.append {s t : Text} (hs : s.Printable) (ht : t.Printable) :
    (s ++ t).Printable := by
  intro c hc
  rcases List.mem_append.1 hc with hc | hc
  · exact hs c hc
  · exact ht c hc

theorem printable_ofInt (n : Int) : (ofInt n).Printable := by
  obtain ⟨l, htext, -⟩ := exists_literal_ofInt n
  rw [← htext]
  refine l.forall_mem_text (fun sign => ?_) (by decide)
  cases sign with
  | plus => decide
  | minus => decide

theorem printable_ofNat (n : Nat) : (ofNat n).Printable := by
  rw [← ofInt_natCast]
  exact printable_ofInt n

theorem printable_hexOfNat (n : Nat) : (hexOfNat n).Printable := by
  have hsymbol : ∀ d : Fin 16, isPrintable (hexSymbol d) = true := by decide
  obtain ⟨ds, htext, -⟩ := exists_digits_hexOfNat n
  rw [← htext]
  intro c hc
  obtain ⟨d, -, rfl⟩ := List.mem_map.1 hc
  exact hsymbol d

/-- A character prints as itself between quotes, or is replaced by characters that do. -/
theorem QuotedAs.printable {c : Char} {t : Text} (h : QuotedAs c t) : t.Printable := by
  cases h with
  | plain hprint =>
      intro d hd
      rw [List.mem_singleton.1 hd]
      exact hprint
  | @escape e he =>
      have hletter : isPrintable e = true := by
        unfold escaped? at he
        split at he
        case h_7 => cases he
        all_goals decide
      intro d hd
      rcases List.mem_pair.1 hd with rfl | rfl
      · decide
      · exact hletter
  | code =>
      have hopen : Printable ['\\', 'u', '\x7b'] := by decide
      have hclose : Printable ['\x7d'] := by decide
      exact hopen.append ((printable_hexOfNat _).append hclose)

theorem printable_quoted (s : Text) : s.quoted.Printable := by
  have hquote : Printable ['"'] := by decide
  have hbody : Printable (s.flatMap quoteChar) := by
    intro d hd
    obtain ⟨c, -, hd⟩ := List.mem_flatMap.1 hd
    exact (quotedAs_quoteChar c).printable d hd
  exact hquote.append (hbody.append hquote)

end Text

/-! ## Messages -/

namespace EvalError

theorem printable_message (err : EvalError) : err.message.Printable := by
  cases err with
  | noExpression input =>
      have h : Text.Printable "invalid expression: ".toList := by decide +kernel
      exact h.append input.printable_quoted
  | leftover value offset remainder =>
      have hoffset : Text.Printable "unexpected trailing input at byte offset ".toList := by
        decide +kernel
      have hcolon : Text.Printable ": ".toList := by decide +kernel
      have hvalue : Text.Printable " (parsed value: ".toList := by decide +kernel
      have hclose : Text.Printable ")".toList := by decide +kernel
      exact (((((hoffset.append (Text.printable_ofNat offset)).append hcolon).append
        remainder.printable_quoted).append hvalue).append
          (Text.printable_ofInt value.toInt)).append hclose
  | tooDeep depth limit =>
      have hdepth : Text.Printable "expression nests ".toList := by decide +kernel
      have hlimit : Text.Printable " parentheses deep, limit is ".toList := by decide +kernel
      exact ((hdepth.append (Text.printable_ofNat depth)).append hlimit).append
        (Text.printable_ofNat limit)

/-- No digit stands at the start of a text that starts with another character. -/
theorem noDigit_append {w : Text} {c : Char} (hw : w.head? = some c)
    (hc : ∀ d : Fin 10, c ≠ digitSymbol d) (t : Text) : NoDigit (w ++ t) := by
  obtain ⟨w, rfl⟩ := List.head?_eq_some_iff.1 hw
  exact noDigit_cons hc (w ++ t)

theorem noDigit_colon (t : Text) : NoDigit (": ".toList ++ t) :=
  noDigit_append (by decide +kernel : _ = some ':') (by decide) t

/-- The letter that the message of an error starts with. Each kind of error has its own. -/
def initial : EvalError → Char
  | noExpression _ => 'i'
  | leftover _ _ _ => 'u'
  | tooDeep _ _ => 'e'

theorem head?_append_of_some {w : Text} {c : Char} (hw : w.head? = some c) (t : Text) :
    (w ++ t).head? = some c := by
  rw [List.head?_append, hw, Option.some_or]

theorem head?_message (err : EvalError) : err.message.head? = some err.initial := by
  cases err with
  | noExpression input =>
      have h : ("invalid expression: ".toList).head? = some 'i' := by decide +kernel
      exact head?_append_of_some h _
  | leftover value offset remainder =>
      have h : ("unexpected trailing input at byte offset ".toList).head? = some 'u' := by
        decide +kernel
      exact head?_append_of_some h _
  | tooDeep depth limit =>
      have h : ("expression nests ".toList).head? = some 'e' := by decide +kernel
      exact head?_append_of_some h _

/-- Messages that are the same up to what stands after them are for errors of one kind. -/
theorem initial_eq_of_append {err err' : EvalError} {r r' : Text}
    (h : err.message ++ r = err'.message ++ r') : err.initial = err'.initial := by
  have hhead := congrArg List.head? h
  rw [List.head?_append, List.head?_append, head?_message, head?_message] at hhead
  exact Option.some.inj hhead

/-! ## The fields of a message

Within one kind the fields are read back one after another. The fixed words before a field are
cancelled, a quoted text tells its own end, and a number ends where no digit stands. -/

theorem noExpression_append_inj {input input' r r' : Text}
    (h : (noExpression input).message ++ r = (noExpression input').message ++ r') :
    input = input' ∧ r = r' := by
  unfold message at h
  simp only [List.append_assoc] at h
  exact Text.selfDelimiting_quoted _ _ _ _ (List.append_cancel_left h)

theorem leftover_append_inj {value value' : Int64} {offset offset' : Nat}
    {remainder remainder' r r' : Text}
    (h : (leftover value offset remainder).message ++ r =
      (leftover value' offset' remainder').message ++ r') :
    value = value' ∧ offset = offset' ∧ remainder = remainder' ∧ r = r' := by
  have hclose : ∀ t : Text, NoDigit (")".toList ++ t) :=
    noDigit_append (by decide +kernel : _ = some ')') (by decide)
  unfold message at h
  simp only [List.append_assoc] at h
  obtain ⟨hoffset, hcolon⟩ :=
    Text.ofNat_append_inj (noDigit_colon _) (noDigit_colon _) (List.append_cancel_left h)
  obtain ⟨hremainder, hvalue⟩ :=
    Text.selfDelimiting_quoted _ _ _ _ (List.append_cancel_left hcolon)
  obtain ⟨hword, hrest⟩ :=
    Text.ofInt_append_inj (hclose _) (hclose _) (List.append_cancel_left hvalue)
  exact ⟨Int64.toInt_inj.1 hword, hoffset, hremainder, List.append_cancel_left hrest⟩

/-- The limit is the last thing in its message, so it ends where no digit follows. -/
theorem tooDeep_append_inj {depth depth' limit limit' : Nat} {r r' : Text} (hr : NoDigit r)
    (hr' : NoDigit r')
    (h : (tooDeep depth limit).message ++ r = (tooDeep depth' limit').message ++ r') :
    depth = depth' ∧ limit = limit' ∧ r = r' := by
  have hblank : ∀ t : Text, NoDigit (" parentheses deep, limit is ".toList ++ t) :=
    noDigit_append (by decide +kernel : _ = some ' ') (by decide)
  unfold message at h
  simp only [List.append_assoc] at h
  obtain ⟨hdepth, hlimit⟩ :=
    Text.ofNat_append_inj (hblank _) (hblank _) (List.append_cancel_left h)
  obtain ⟨hlimits, hrest⟩ := Text.ofNat_append_inj hr hr' (List.append_cancel_left hlimit)
  exact ⟨hdepth, hlimits, hrest⟩

/-- A message and the end of its line tell the error. -/
theorem selfDelimiting_message : SelfDelimiting fun err : EvalError => err.message.line := by
  intro err err' r r' heq
  have hend : ∀ t : Text, NoDigit (['\n'] ++ t) := noDigit_cons (by decide)
  have hmessage : err.message ++ (['\n'] ++ r) = err'.message ++ (['\n'] ++ r') := by
    rw [← List.append_assoc, ← List.append_assoc]
    exact heq
  have hkind := initial_eq_of_append hmessage
  cases err with
  | noExpression input =>
      cases err' with
      | noExpression input' =>
          obtain ⟨rfl, hrest⟩ := noExpression_append_inj hmessage
          exact ⟨rfl, List.append_cancel_left hrest⟩
      | leftover _ _ _ => cases hkind
      | tooDeep _ _ => cases hkind
  | leftover value offset remainder =>
      cases err' with
      | noExpression _ => cases hkind
      | leftover value' offset' remainder' =>
          obtain ⟨rfl, rfl, rfl, hrest⟩ := leftover_append_inj hmessage
          exact ⟨rfl, List.append_cancel_left hrest⟩
      | tooDeep _ _ => cases hkind
  | tooDeep depth limit =>
      cases err' with
      | noExpression _ => cases hkind
      | leftover _ _ _ => cases hkind
      | tooDeep depth' limit' =>
          obtain ⟨rfl, rfl, hrest⟩ := tooDeep_append_inj (hend r) (hend r') hmessage
          exact ⟨rfl, List.append_cancel_left hrest⟩

theorem message_injective : Function.Injective message := by
  intro err err' h
  apply selfDelimiting_message.injective
  show err.message.line = err'.message.line
  rw [h]

/-! ## Reports -/

/-- The line that reports an error in the line with the given number. -/
def report (number : Nat) (err : EvalError) : Text :=
  Text.line ("line ".toList ++ Text.ofNat number ++ ": ".toList ++ err.message)

/-- A report tells the number and the error. -/
theorem selfDelimiting_report :
    SelfDelimiting fun (line : Nat × EvalError) => report line.1 line.2 := by
  rintro ⟨number, err⟩ ⟨number', err'⟩ r r' heq
  simp only [report, Text.line, List.append_assoc] at heq
  obtain ⟨rfl, hcolon⟩ := Text.ofNat_append_inj (noDigit_colon _) (noDigit_colon _)
    (List.append_cancel_left heq)
  have hmessage : err.message.line ++ r = err'.message.line ++ r' := by
    simp only [Text.line, List.append_assoc]
    exact List.append_cancel_left hcolon
  obtain ⟨rfl, hrest⟩ := selfDelimiting_message _ _ _ _ hmessage
  exact ⟨rfl, hrest⟩

/-- Errors with the numbers of their lines, reported one after another. -/
def reports (errors : List (Nat × EvalError)) : Text :=
  errors.flatMap fun (number, err) => err.report number

theorem reports_injective : Function.Injective reports := by
  intro errors errors' h
  have hend : ∀ (line : Nat × EvalError) (t : Text), [] ≠ line.2.report line.1 ++ t := by
    intro line t heq
    cases heq
  have heq : reports errors ++ [] = reports errors' ++ [] := by rw [h]
  exact (selfDelimiting_report.flatMap_append_inj hend hend heq).1

end EvalError

/-- What a batch reports: the numbers and the errors of the lines that failed. -/
def Batch.failures (b : Batch) : List (Nat × EvalError) :=
  b.lines.filterMap fun l =>
    match l.result with
    | .ok _ => none
    | .error err => some (l.number, err)

/-- A batch writes the reports of its failures, and nothing else, to the standard error. -/
theorem Batch.stderr_eq_reports (b : Batch) : b.stderr = EvalError.reports b.failures := by
  unfold Batch.stderr Batch.failures EvalError.reports
  induction b.lines with
  | nil => rfl
  | cons l lines ih =>
      rw [List.flatMap_cons, ih, List.filterMap_cons]
      unfold BatchLine.stderr
      cases l.result with
      | ok value => rfl
      | error err => rfl

namespace EvalError

/-- Reports can be read back: no two lists of errors with line numbers have the same reports, and
the reports of its failures are what a batch writes to the standard error. No message has a
character in it that ends a line, controls the output or does not print as itself, whatever the
input was, and no two errors have the same message. -/
theorem reports_decodable :
    Function.Injective reports ∧
      (∀ b : Batch, b.stderr = reports b.failures) ∧
      (∀ (err : EvalError) (c : Char), c ∈ err.message →
        isPrintable c = true ∧ isControl c = false ∧ isSeparator c = false) ∧
      Function.Injective message := by
  refine ⟨reports_injective, Batch.stderr_eq_reports, ?_, message_injective⟩
  intro err c hc
  have hprint := err.printable_message c hc
  exact ⟨hprint, not_isControl_of_isPrintable hprint, not_isSeparator_of_isPrintable hprint⟩

/-- A line that looks like the end of one message and the start of another report, which is what
its quotes are for. The errors are read back from the reports of the batch. -/
theorem reports_decodable_lookalike :
    let input := Utf8.encode "2\" (parsed value: 3)\n\n(1+\u2028".toList
    let errors := [(1, leftover 2 1 "\" (parsed value: 3)".toList), (3, noExpression "(1+".toList)]
    let b := Evaluator.default.runBatch input
    b.stderr = reports errors ∧ b.failures = errors ∧
      'u' ∈ (noExpression ['\u2028']).message ∧ isSeparator 'u' = false := by
  intro input errors b
  have hstderr : b.stderr = reports errors := by decide +kernel
  have hletter : 'u' ∈ (noExpression ['\u2028']).message := by decide +kernel
  refine ⟨hstderr, ?_, hletter, (reports_decodable.2.2.1 _ _ hletter).2.2⟩
  apply reports_decodable.1
  rw [← reports_decodable.2.1 b, hstderr]

end EvalError

end ExprCalc
