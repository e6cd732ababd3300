/-
Lists taken for pieces that a mark ends, such as the lines of a text or the entries of a block of
bytes. The cut itself is the library's `List.splitOn`, which makes one piece more than there are
marks; what stands behind the last mark is no piece if there is nothing.
-/

namespace EnvSettings

/-- The pieces of a list, each ended by the mark or by the end of the list. -/
def piecesEndedBy {α : Type} [DecidableEq α] (mark : α) (as : List α) : List (List α) :=
  let pieces := as.splitOn mark
  if pieces.getLast? = some [] then pieces.dropLast else pieces

end EnvSettings
