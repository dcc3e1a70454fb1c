import ExprCalc.Text.Lines
import Mathlib.Data.List.Basic

/-!
# Lines of a text

Byte streams are cut at newline bytes before anything is decoded. In UTF-8 the newline byte stands
for the newline character and is a part of no other character, so for a stream that is UTF-8 as a
whole the cut may as well be made in the text: `Lines.split_encode`. In particular each of its lines
is UTF-8. A stream whose last line is ended may be put before another one, and the lines of the two
follow each other (`Lines.split_append`).
-/

set_option autoImplicit false

namespace ExprCalc

/-! ## Bytes below 128 -/

namespace Utf8

@[simp] theorem encode_nil : encode [] = [] := rfl

@[simp] theorem encode_append (s t : Text) : encode (s ++ t) = encode s ++ encode t :=
  List.flatMap_append

@[simp] theorem encode_cons (c : Char) (s : Text) :
    encode (c :: s) = String.utf8EncodeChar c ++ encode s := rfl

@[simp] theorem encode_eq_nil_iff {s : Text} : encode s = [] ↔ s = [] := by
  cases s <;> simp [String.utf8EncodeChar_ne_nil]

/-- Bytes that can be read are the UTF-8 form of what is read. -/
theorem eq_encode_of_decode? {bs : Bytes} {s : Text} (h : decode? bs = some s) :
    bs = encode s := by
  obtain ⟨chars, hchars, rfl⟩ := Option.map_eq_some_iff.mp h
  have hsome : bs.toByteArray.utf8Decode?.isSome := by rw [hchars, Option.isSome_some]
  have hbytes : (bs.toByteArray.utf8Decode?.get hsome).toList.utf8Encode = bs.toByteArray :=
    ByteArray.utf8Encode_get_utf8Decode?
  simp only [hchars, Option.get_some] at hbytes
  have hlist := congrArg (fun array => array.data.toList) hbytes
  simpa [List.utf8Encode, encode] using hlist.symm

/-- A character below 128 is one byte. -/
theorem utf8EncodeChar_of_lt {c : Char} (hc : c.toNat < 128) :
    String.utf8EncodeChar c = [UInt8.ofNat c.toNat] := by
  rw [String.utf8EncodeChar.eq_def]
  exact if_pos (Nat.le_of_lt_succ hc)

/-- Every byte of any other character has its highest bit set. -/
theorem le_of_mem_utf8EncodeChar {c : Char} {b : UInt8} (hc : 128 ≤ c.toNat)
    (h : b ∈ String.utf8EncodeChar c) : 128 ≤ b.toNat := by
  have hnat (n : Nat) : (UInt8.ofNat n).toNat = n % 256 := UInt8.toNat_ofNat'
  have hlong : ¬ c.val.toNat ≤ 127 := Nat.not_le.mpr hc
  rw [String.utf8EncodeChar.eq_def] at h
  dsimp only at h
  rw [if_neg hlong] at h
  split_ifs at h <;> simp only [List.mem_cons, List.not_mem_nil, or_false] at h
  · rcases h with rfl | rfl <;> rw [hnat] <;> omega
  · rcases h with rfl | rfl | rfl <;> rw [hnat] <;> omega
  · rcases h with rfl | rfl | rfl | rfl <;> rw [hnat] <;> omega

/-- A byte below 128 stands for the character of this number only. -/
theorem mem_utf8EncodeChar_iff {b : UInt8} {ascii c : Char} (hb : b.toNat < 128)
    (hascii : ascii.toNat = b.toNat) : b ∈ String.utf8EncodeChar c ↔ c = ascii := by
  constructor
  · intro h
    have hc : c.toNat < 128 := by
      by_contra hlong
      exact absurd (le_of_mem_utf8EncodeChar (Nat.not_lt.mp hlong) h) (Nat.not_le.mpr hb)
    rw [utf8EncodeChar_of_lt hc, List.mem_singleton] at h
    subst h
    rw [UInt8.toNat_ofNat', Nat.mod_eq_of_lt (by omega)] at hascii
    exact Char.toNat_inj.mp hascii.symm
  · rintro rfl
    rw [utf8EncodeChar_of_lt (by omega), hascii, List.mem_singleton, UInt8.ofNat_toNat]

/-- The newline byte stands for the newline character only. -/
theorem newline_mem_encode_iff (s : Text) : Lines.newline ∈ encode s ↔ '\n' ∈ s := by
  have hchar (c : Char) : Lines.newline ∈ String.utf8EncodeChar c ↔ c = '\n' :=
    mem_utf8EncodeChar_iff (by decide) (by decide)
  simp only [encode, List.mem_flatMap, hchar, exists_eq_right]

/-- The carriage-return byte at the end of a text stands for the carriage-return character. -/
theorem getLast?_encode_eq_return_iff (s : Text) :
    (encode s).getLast? = some Lines.carriageReturn ↔ s.getLast? = some '\r' := by
  have hchar (c : Char) : Lines.carriageReturn ∈ String.utf8EncodeChar c ↔ c = '\r' :=
    mem_utf8EncodeChar_iff (by decide) (by decide)
  rcases List.eq_nil_or_concat s with rfl | ⟨s, c, rfl⟩
  · simp
  · have hlast : (encode (s ++ [c])).getLast? = (String.utf8EncodeChar c).getLast? := by
      rw [encode_append, encode_cons, encode_nil, List.append_nil,
        List.getLast?_append_of_ne_nil _ String.utf8EncodeChar_ne_nil]
    rw [List.concat_eq_append, hlast, List.getLast?_concat, Option.some_inj]
    refine ⟨fun h => (hchar c).mp (List.mem_of_getLast? h), ?_⟩
    rintro rfl
    decide

end Utf8

/-! ## Lines -/

namespace Text

/-- A line without the carriage return at its end, if it has one. -/
def dropReturn (line : Text) : Text :=
  if line.getLast? = some '\r' then line.dropLast else line

/-- The lines of a text, without their endings. -/
def lines (s : Text) : List Text :=
  let pieces := s.splitOn '\n'
  pieces.dropLast.map dropReturn ++ pieces.getLast?.toList.filter (· ≠ [])

end Text

namespace Lines

/-- Cutting at newlines commutes with writing. -/
theorem splitOn_encode (s : Text) :
    (Utf8.encode s).splitOn newline = (s.splitOn '\n').map Utf8.encode := by
  by_cases h : '\n' ∈ s
  · obtain ⟨line, rest, hs, hline⟩ := List.eq_append_cons_of_mem h
    have hbytes : newline ∉ Utf8.encode line := mt (Utf8.newline_mem_encode_iff line).mp hline
    have hnewline : Utf8.encode ('\n' :: rest) = newline :: Utf8.encode rest := rfl
    rw [hs, List.splitOn_append_cons_self_of_not_mem hline, List.map_cons, ← splitOn_encode rest,
      Utf8.encode_append, hnewline, List.splitOn_append_cons_self_of_not_mem hbytes]
  · have hbytes : newline ∉ Utf8.encode s := mt (Utf8.newline_mem_encode_iff s).mp h
    rw [List.splitOn_eq_singleton h, List.splitOn_eq_singleton hbytes, List.map_singleton]
termination_by s.length
decreasing_by
  rw [hs, List.length_append, List.length_cons]
  omega

/-- A carriage return is dropped alike before and after a line is written. -/
theorem dropReturn_encode (line : Text) :
    dropReturn (Utf8.encode line) = Utf8.encode line.dropReturn := by
  unfold dropReturn Text.dropReturn
  by_cases h : line.getLast? = some '\r'
  · obtain ⟨start, rfl⟩ := List.getLast?_eq_some_iff.mp h
    rw [if_pos ((Utf8.getLast?_encode_eq_return_iff _).mpr h), if_pos h, List.dropLast_concat,
      Utf8.encode_append]
    exact List.dropLast_concat
  · rw [if_neg (mt (Utf8.getLast?_encode_eq_return_iff line).mp h), if_neg h]

/-- The lines of a text that was written are the lines of the text. -/
theorem split_encode (s : Text) : split (Utf8.encode s) = s.lines.map Utf8.encode := by
  obtain ⟨ended, last, hpieces⟩ : ∃ ended last, s.splitOn '\n' = ended ++ [last] :=
    ⟨_, _, (List.dropLast_concat_getLast (List.splitOn_ne_nil '\n' s)).symm⟩
  have hbytes : (Utf8.encode s).splitOn newline =
      ended.map Utf8.encode ++ [Utf8.encode last] := by
    rw [splitOn_encode, hpieces, List.map_append, List.map_singleton]
  -- What follows the last newline is a line unless it is empty, and no text but the empty one is
  -- written as no bytes.
  have hlast : [Utf8.encode last].filter (· ≠ []) = ([last].filter (· ≠ [])).map Utf8.encode := by
    simp [List.filter_cons, apply_ite (List.map Utf8.encode)]
  calc split (Utf8.encode s)
      = (ended.map Utf8.encode).map dropReturn ++ [Utf8.encode last].filter (· ≠ []) := by
        simp only [split, hbytes, List.dropLast_concat, List.getLast?_concat, Option.toList_some]
    _ = (ended.map Text.dropReturn).map Utf8.encode ++
          ([last].filter (· ≠ [])).map Utf8.encode := by
        rw [List.map_map, List.map_map, hlast]
        exact congrArg (· ++ _) (List.map_congr_left fun line _ => dropReturn_encode line)
    _ = s.lines.map Utf8.encode := by
        simp only [Text.lines, hpieces, List.dropLast_concat, List.getLast?_concat,
          Option.toList_some, List.map_append]

/-- Every line of a text can be read. -/
theorem decode?_split_encode (s : Text) :
    (split (Utf8.encode s)).map Utf8.decode? = s.lines.map some := by
  rw [split_encode, List.map_map]
  exact List.map_congr_left fun line _ => Utf8.decode?_encode line

/-! ## Streams whose last line is ended -/

/-- Is every line of a stream ended by a newline? -/
def Ended (bs : Bytes) : Prop := bs = [] ∨ bs.getLast? = some newline

instance (bs : Bytes) : Decidable (Ended bs) := inferInstanceAs (Decidable (_ ∨ _))

/-- The lines of a stream stay as they are when its last line is ended and another one follows. -/
theorem split_append {bs : Bytes} (h : Ended bs) (cs : Bytes) :
    split (bs ++ cs) = split bs ++ split cs := by
  rcases h with rfl | h
  · simp
  · obtain ⟨start, rfl⟩ := List.getLast?_eq_some_iff.mp h
    rw [split_append_newline, split_nil, List.append_nil, List.append_assoc, List.singleton_append,
      split_append_newline]

/-- A cut is made at every separator. -/
theorem length_splitOn (b : UInt8) (bs : Bytes) : (bs.splitOn b).length = bs.count b + 1 := by
  induction bs with
  | nil => simp
  | cons c bs ih =>
      rw [List.splitOn_cons_eq_if_modifyHead, List.count_cons]
      split <;> simp [ih]

/-- A stream whose last line is ended has as many lines as newlines. -/
theorem length_split {bs : Bytes} (h : Ended bs) : (split bs).length = bs.count newline := by
  rcases h with rfl | h
  · simp
  · obtain ⟨start, rfl⟩ := List.getLast?_eq_some_iff.mp h
    rw [split_append_newline, split_nil, List.append_nil, List.length_map, length_splitOn,
      List.count_append, List.count_singleton_self]

end Lines

end ExprCalc
