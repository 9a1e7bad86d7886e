import JobShell.Proofs.Line.Newline

namespace JobShell

/-!
# Lines from parts

White space that follows a whole line, one that ends outside quotes and awaits
no character, cuts the longer line in two that are split on their own: nothing
of the mode, of the word or of its size reaches over it.

Any words within the limit, whatever they hold, can therefore be typed one
after the other. In front of each character a backslash takes its meaning away
in every mode.
-/

namespace Words

theorem roles_append
    {mode next : Mode}
    {first : Text}
    (ends : ending mode first = some next)
    (second : Text) :
    roles mode (first ++ second) = roles mode first ++ roles next second := by
  induction mode, first using roles_induction with
  | nil mode =>
      obtain rfl := Option.some.inj ends
      rfl
  | trailing mode =>
      contradiction
  | escaped mode c rest inductionHypothesis =>
      simp only [List.cons_append, roles, inductionHypothesis ends]
  | cons mode c rest unescaped inductionHypothesis =>
      rw [ending_cons unescaped] at ends
      rw [List.cons_append, roles_cons unescaped, roles_cons unescaped,
        inductionHypothesis ends, List.cons_append]

/-- Roles that white space separates make up the words of either side. -/
theorem wordsOf_roles_append
    {first : Text}
    (ends : ending .plain first = some .plain)
    {blank : Char}
    (separates : isBlank blank = true)
    (second : Text) :
    wordsOf (roles .plain (first ++ blank :: second)) =
      wordsOf (roles .plain first) ++ wordsOf (roles .plain second) := by
  rw [roles_append ends, roles_blank separates, wordsOf_append]

/--
A line with white space after a whole line is split as the two parts are, one
after the other, and refused if one of them is.
-/
theorem split_append_blank
    {first : Text}
    (ends : ending .plain first = some .plain)
    {blank : Char}
    (separates : isBlank blank = true)
    (second : Text)
    (limit : Nat) :
    split limit (first ++ blank :: second) =
      match split limit first, split limit second with
      | .ok words, .ok others => .ok (words ++ others)
      | _, _ => .error (.tokenTooLong limit) := by
  simp only [split_eq, wordsOf_roles_append ends separates,
    List.forall_mem_append]
  by_cases fits : ∀ word ∈ wordsOf (roles .plain first), byteSize word ≤ limit
  · by_cases othersFit :
        ∀ word ∈ wordsOf (roles .plain second), byteSize word ≤ limit
    · rw [if_pos ⟨fits, othersFit⟩, if_pos fits, if_pos othersFit]
    · rw [if_neg fun both => othersFit both.2, if_pos fits, if_neg othersFit]
  · rw [if_neg fun both => fits both.1, if_neg fits]

/-- Quotes that are closed before an em space, and others left open after it. -/
theorem split_append_blank_quoted :
    ending .plain "a 'b c'\\ d".toList = some .plain ∧
      isBlank '\u2003' = true ∧
      split 5 "a 'b c'\\ d\u2003'e f".toList =
        .ok ["a".toList, "b c d".toList, "e f".toList] ∧
      split 4 "a 'b c'\\ d\u2003'e f".toList = .error (.tokenTooLong 4) := by
  have ends : ending .plain "a 'b c'\\ d".toList = some .plain := by
    decide
  have separates : isBlank '\u2003' = true := by
    decide
  refine ⟨ends, separates, ?_, ?_⟩
  · exact split_append_blank ends separates "'e f".toList 5
  · exact split_append_blank ends separates "'e f".toList 4

/-- A word with a backslash in front of each character. -/
def spelled (word : Text) : Text :=
  word.flatMap fun c => ['\\', c]

/-- Words one after the other, each with a space behind it. -/
def spelledAll (words : List Text) : Text :=
  words.flatMap fun word => spelled word ++ [' ']

theorem ending_spelled (mode : Mode) (word : Text) :
    ending mode (spelled word) = some mode := by
  induction word with
  | nil =>
      rfl
  | cons c rest inductionHypothesis =>
      exact inductionHypothesis

theorem roles_spelled (mode : Mode) (word : Text) :
    roles mode (spelled word) =
      word.flatMap fun c => [.dropped, .literal c] := by
  induction word with
  | nil =>
      rfl
  | cons c rest inductionHypothesis =>
      exact congrArg ([.dropped, .literal c] ++ ·) inductionHypothesis

theorem literals_roles_spelled (mode : Mode) (word : Text) :
    literals (roles mode (spelled word)) = word := by
  rw [roles_spelled]
  induction word with
  | nil =>
      rfl
  | cons c rest inductionHypothesis =>
      rw [List.flatMap_cons, literals_append, inductionHypothesis]
      rfl

/-- With its backslashes a word is read as it is, in any mode. -/
theorem wordsOf_spelled
    (mode : Mode)
    {word : Text}
    (nonempty : word ≠ []) :
    wordsOf (roles mode (spelled word)) = [word] := by
  have joined : .separator ∉ roles mode (spelled word) := by
    simp [roles_spelled]
  rw [wordsOf_joined joined, literals_roles_spelled]
  exact if_neg nonempty

theorem wordsOf_spelledAll
    {words : List Text}
    (nonempty : ∀ word ∈ words, word ≠ []) :
    wordsOf (roles .plain (spelledAll words)) = words := by
  induction words with
  | nil =>
      rfl
  | cons word rest inductionHypothesis =>
      simp only [List.forall_mem_cons] at nonempty
      obtain ⟨own, others⟩ := nonempty
      have line :
          spelledAll (word :: rest) = spelled word ++ ' ' :: spelledAll rest := by
        simp [spelledAll]
      rw [line, wordsOf_roles_append (ending_spelled .plain word) (by decide),
        wordsOf_spelled .plain own, inductionHypothesis others,
        List.singleton_append]

/-- Some line is split into given words exactly if none is empty or too long. -/
theorem exists_split_iff (limit : Nat) (words : List Text) :
    (∃ line, split limit line = .ok words) ↔
      ∀ word ∈ words, word ≠ [] ∧ (Utf8.encode word).length ≤ limit := by
  simp only [length_encode]
  constructor
  · rintro ⟨line, splits⟩ word member
    exact of_mem_split splits member
  · intro typable
    refine ⟨spelledAll words, split_eq_ok_iff.mpr ⟨?_, fun word member => ?_⟩⟩
    · exact wordsOf_spelledAll fun word member => (typable word member).1
    · exact (typable word member).2

end Words
end JobShell
