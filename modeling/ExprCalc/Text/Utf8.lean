import ExprCalc.Text.Basic

/-!
# UTF-8

Bytes come from outside: arguments and the standard input. `Utf8.decode?` reads bytes strictly, all
or nothing, and undoes `Utf8.encode` (`Utf8.decode?_encode`). `Utf8.lossy` reads any bytes for a
message that has to show them: each maximal broken piece becomes one replacement character.
-/

set_option autoImplicit false

namespace ExprCalc

/-- A string of bytes. -/
abbrev Bytes := List UInt8

namespace Utf8

/-- The UTF-8 form of a text. -/
def encode (s : Text) : Bytes := s.flatMap String.utf8EncodeChar

/-- The text whose UTF-8 form the bytes are, if there is one. -/
def decode? (bs : Bytes) : Option Text := bs.toByteArray.utf8Decode?.map Array.toList

/-- Reading gives back every text that was written. -/
@[simp] theorem decode?_encode (s : Text) : decode? (encode s) = some s := by
  have h := List.utf8Decode?_utf8Encode (l := s)
  unfold List.utf8Encode at h
  simp [decode?, encode, h]

/-! ## Broken bytes -/

/-- The character whose UTF-8 form the bytes start with, if there is one. -/
def firstChar? (bs : Bytes) : Option Char := (bs.take 4).toByteArray.utf8DecodeChar? 0

/-- Is the byte one that continues a character? -/
def isContinuation (b : UInt8) : Bool := 0x80 ≤ b && b ≤ 0xbf

/-- May `second` follow the first byte `lead` of a character of three or four bytes? The bounds
leave out spellings that are too long, surrogates, and numbers beyond the last code point. -/
def mayFollow (lead second : UInt8) : Bool :=
  if lead = 0xe0 then 0xa0 ≤ second && second ≤ 0xbf
  else if lead = 0xed then 0x80 ≤ second && second ≤ 0x9f
  else if lead = 0xf0 then 0x90 ≤ second && second ≤ 0xbf
  else if lead = 0xf4 then 0x80 ≤ second && second ≤ 0x8f
  else 0xe1 ≤ lead && lead ≤ 0xf3 && isContinuation second

/-- The length of the broken piece at the start of bytes that start with no character: the longest
beginning of a character that stands there, and one byte if there is none. -/
def brokenLength : Bytes → Nat
  | lead :: second :: third :: _ =>
      if mayFollow lead second then
        if 0xf0 ≤ lead && isContinuation third then 3 else 2
      else 1
  | [lead, second] => if mayFollow lead second then 2 else 1
  | _ => 1

/-- The text that bytes show: what is UTF-8 in them, and one replacement character for every broken
piece between. -/
def lossy (bs : Bytes) : Text :=
  match bs with
  | [] => []
  | b :: tail =>
      match firstChar? (b :: tail) with
      | some c => c :: lossy (tail.drop (c.utf8Size - 1))
      | none => '\uFFFD' :: lossy (tail.drop (brokenLength (b :: tail) - 1))
termination_by bs.length
decreasing_by all_goals simp only [List.length_drop, List.length_cons]; omega

end Utf8

end ExprCalc
