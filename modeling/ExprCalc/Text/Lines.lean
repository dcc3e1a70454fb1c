import ExprCalc.Text.Utf8

/-!
# Lines of a byte stream

A line ends at a newline byte, and one carriage return right before this newline belongs to the
ending. What follows the last newline is a line too, unless it is empty; a carriage return at its
end is part of the line, since no newline follows. Lines are cut before anything is decoded, so a
line that is not UTF-8 leaves the other lines as they are.
-/

set_option autoImplicit false

namespace ExprCalc

namespace Lines

/-- The newline byte. -/
def newline : UInt8 := 0x0a

/-- The carriage-return byte. -/
def carriageReturn : UInt8 := 0x0d

/-- A line without the carriage return at its end, if it has one. -/
def dropReturn (line : Bytes) : Bytes :=
  if line.getLast? = some carriageReturn then line.dropLast else line

/-- The lines of a byte stream, without their endings. -/
def split (bs : Bytes) : List Bytes :=
  let pieces := bs.splitOn newline
  pieces.dropLast.map dropReturn ++ pieces.getLast?.toList.filter (· ≠ [])

/-- No bytes hold no line. -/
@[simp] theorem split_nil : split [] = [] := by
  simp [split]

/-- What stands before a newline is cut into lines on its own, its end being the end of a line. -/
theorem split_append_newline (bs cs : Bytes) :
    split (bs ++ newline :: cs) = (bs.splitOn newline).map dropReturn ++ split cs := by
  have h : (bs ++ newline :: cs).splitOn newline = bs.splitOn newline ++ cs.splitOn newline := by
    rw [List.splitOn_eq_splitOnP, List.splitOn_eq_splitOnP, List.splitOn_eq_splitOnP]
    exact List.splitOnP_append_cons bs cs (by simp)
  have hne : cs.splitOn newline ≠ [] := List.splitOn_ne_nil newline cs
  unfold split
  dsimp only
  rw [h, List.dropLast_append_of_ne_nil hne, List.map_append, List.append_assoc,
    List.getLast?_append, List.getLast?_eq_some_getLast hne, Option.some_or]

end Lines

end ExprCalc
