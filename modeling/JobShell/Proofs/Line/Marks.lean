import JobShell.Proofs.Line.Newline
import Mathlib.Data.List.Induction

namespace JobShell

/-!
# A line read in two passes

The first pass marks each character of a line with its role. All that counts of
the characters before it is the mode that they end in, and whether a backslash
is left at their end. The second pass takes the words from between the marked
separators. Splitting reads the line once, and counts the bytes of a word as it
grows; it finds the words of the two passes, and refuses a line exactly if one
of these words is too long.
-/

namespace Words

/-- The role of each character of a line. -/
def marks (line : Text) : List Role :=
  line.mapIdx fun index c => roleAfter (ending .plain (line.take index)) c

/-- Longer lines leave the marks of their beginning as they are. -/
theorem marks_snoc (line : Text) (c : Char) :
    marks (line ++ [c]) =
      marks line ++ [roleAfter (ending .plain line) c] := by
  have earlier :
      (line.mapIdx fun index d =>
          roleAfter (ending .plain ((line ++ [c]).take index)) d) =
        marks line := by
    rw [marks, List.mapIdx_eq_mapIdx_iff]
    intro index bound
    rw [List.take_append_of_le_length (Nat.le_of_lt bound)]
  rw [marks, List.mapIdx_concat, List.take_left, earlier]

theorem roles_eq_marks (line : Text) :
    roles .plain line = marks line := by
  induction line using List.reverseRecOn with
  | nil =>
      rfl
  | append_singleton line c inductionHypothesis =>
      rw [roles_snoc, marks_snoc, inductionHypothesis]

example :
    roles .plain "'\\' b'\\".toList =
      [.dropped, .dropped, .literal '\x27', .literal ' ', .literal 'b',
        .dropped, .dropped] := by
  decide

/-- The texts between marked separators, where more than dropped characters is left. -/
def markedWords (line : Text) : List Text :=
  (((marks line).splitOn .separator).map literals).filter (· ≠ [])

theorem wordsOf_roles (line : Text) :
    wordsOf (roles .plain line) = markedWords line := by
  rw [wordsOf_eq, roles_eq_marks, markedWords]

/--
Splitting a line gives the words of the two passes if none of them has more
bytes than the limit, and the line is refused if one has.
-/
theorem split_eq_markedWords (limit : Nat) (line : Text) :
    split limit line =
      if ∀ word ∈ markedWords line, (Utf8.encode word).length ≤ limit then
        .ok (markedWords line)
      else .error (.tokenTooLong limit) := by
  simp only [length_encode]
  rw [split_eq, wordsOf_roles]

end Words
end JobShell
