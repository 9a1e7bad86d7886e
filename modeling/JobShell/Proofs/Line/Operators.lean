import JobShell.Proofs.Line.Retyping

namespace JobShell

/-!
# Operators on a line

The first operator after a command's name ends its arguments, and decides with
the words after it what becomes of the rest. A command is read from words, which
do not tell how they were typed: an operator in quotes is an operator.
-/

namespace Command

/-- The command that a line asks for. -/
def ofLine? (line : Text) : Except ShellError (Option Command) :=
  (tokenize line).bind ofWords?

/-- A command that has all words for arguments. -/
def plain (name : Text) (rest : List Text) : Command :=
  { name := name
    arguments := name :: rest
    redirection := none
    background := false }

/--
The command whose arguments end before an operator. After `<` or `>` and its
file name, only an `&` at the very end still counts.
-/
def endedBy
    (name : Text)
    (before : List Text)
    (operator : Text)
    (after : List Text) :
    Except ShellError (Option Command) :=
  match Direction.ofWord? operator, after with
  | none, _ => .ok (some { plain name before with background := true })
  | some _, [] => .error (.danglingRedirection operator)
  | some direction, filename :: left =>
      .ok (some
        { plain name before with
          redirection := some ⟨direction, filename⟩
          background := left.getLast? = some ampersand })

/-- With an operator after its name a command is not a plain one. -/
theorem endedBy_ne_plain
    (name : Text)
    (before : List Text)
    (operator : Text)
    (after rest : List Text) :
    endedBy name before operator after ≠ .ok (some (plain name rest)) := by
  fun_cases endedBy name before operator after <;> simp [plain]

/-- Words without an operator are all read as arguments. -/
theorem span_ordinary
    {words : List Text}
    (ordinary : ∀ word ∈ words, isOperator word = false) :
    words.takeWhile (!isOperator ·) = words ∧
      words.dropWhile (!isOperator ·) = [] := by
  have all : ∀ word ∈ words, (!isOperator word) = true := by
    simpa using ordinary
  constructor
  · rw [← List.append_nil words, List.takeWhile_append_of_pos all]
    rfl
  · rw [← List.append_nil words, List.dropWhile_append_of_pos all]
    rfl

/-- Otherwise the words before the first operator are. -/
theorem span_operator
    {before : List Text}
    {operator : Text}
    (after : List Text)
    (ordinary : ∀ word ∈ before, isOperator word = false)
    (isFirst : isOperator operator = true) :
    (before ++ operator :: after).takeWhile (!isOperator ·) = before ∧
      (before ++ operator :: after).dropWhile (!isOperator ·) =
        operator :: after := by
  have all : ∀ word ∈ before, (!isOperator word) = true := by
    simpa using ordinary
  constructor
  · rw [List.takeWhile_append_of_pos all]
    simp [isFirst]
  · rw [List.dropWhile_append_of_pos all]
    simp [isFirst]

/-- Words without an operator after the first are a plain command. -/
theorem ofWords?_plain
    (name : Text)
    {rest : List Text}
    (ordinary : ∀ word ∈ rest, isOperator word = false) :
    ofWords? (name :: rest) = .ok (some (plain name rest)) := by
  obtain ⟨taken, dropped⟩ := span_ordinary ordinary
  simp only [ofWords?, Reader.next, Reader.ofWords, taken, dropped]
  rfl

/-- The first operator after the name ends a command. -/
theorem ofWords?_endedBy
    (name : Text)
    {before : List Text}
    {operator : Text}
    (after : List Text)
    (ordinary : ∀ word ∈ before, isOperator word = false)
    (isFirst : isOperator operator = true) :
    ofWords? (name :: (before ++ operator :: after)) =
      endedBy name before operator after := by
  obtain ⟨taken, dropped⟩ := span_operator after ordinary isFirst
  simp only [ofWords?, Reader.next, Reader.ofWords, taken, dropped]
  cases asked : Direction.ofWord? operator with
  | none =>
      simp only [Reader.readOperator, endedBy, asked]
      rfl
  | some direction =>
      cases after with
      | nil =>
          simp only [Reader.readOperator, endedBy, asked]
          rfl
      | cons filename left =>
          have last :
              (name :: (before ++ operator :: filename :: left)).getLast? =
                  some ampersand ∧ left ≠ [] ↔
                left.getLast? = some ampersand := by
            cases left with
            | nil =>
                simp
            | cons next later =>
                simp [List.getLast?_cons, List.getLast?_append]
          simp only [Reader.readOperator, endedBy, asked, last]
          rfl

/-- Of words that are not all ordinary, some word is the first operator. -/
theorem exists_operator
    {words : List Text}
    (operators : ¬ ∀ word ∈ words, isOperator word = false) :
    ∃ before operator after,
      words = before ++ operator :: after ∧
        (∀ word ∈ before, isOperator word = false) ∧
        isOperator operator = true := by
  induction words with
  | nil =>
      simp at operators
  | cons word rest inductionHypothesis =>
      cases kind : isOperator word with
      | true =>
          exact ⟨[], word, rest, rfl, by simp, kind⟩
      | false =>
          obtain ⟨before, operator, after, rfl, ordinary, isFirst⟩ :=
            inductionHypothesis (by simpa [kind] using operators)
          exact
            ⟨word :: before, operator, after, rfl,
              by simpa [kind] using ordinary, isFirst⟩

/-- Words are a plain command exactly if none after the first is an operator. -/
theorem ofWords?_eq_plain_iff
    {name : Text}
    {rest : List Text} :
    ofWords? (name :: rest) = .ok (some (plain name rest)) ↔
      ∀ word ∈ rest, isOperator word = false := by
  refine ⟨fun isPlain => Decidable.byContradiction fun operators => ?_,
    ofWords?_plain name⟩
  obtain ⟨before, operator, after, rfl, ordinary, isFirst⟩ :=
    exists_operator operators
  rw [ofWords?_endedBy name after ordinary isFirst] at isPlain
  exact endedBy_ne_plain _ _ _ _ _ isPlain

end Command

/-- An operator is written in quotes. -/
theorem Quoting.quote_operator
    {operator : Text}
    (operates : isOperator operator = true) :
    quote operator = '\x27' :: operator ++ ['\x27'] := by
  have named :
      operator = ['&'] ∨ operator = ['<'] ∨ operator = ['>'] := by
    simp only [isOperator, ampersand, Direction.ofWord?] at operates
    grind
  rcases named with rfl | rfl | rfl <;> decide

namespace Command

open Quoting (join quote)

/--
Let words come back when they are written as a line. The line then asks for a
plain command of just these words exactly if none after the first is an
operator: although an operator is written in quotes, the first one ends the
arguments as it would without them.
-/
theorem ofLine?_join
    {name : Text}
    {rest : List Text}
    (back : tokenize (join (name :: rest)) = .ok (name :: rest)) :
    (ofLine? (join (name :: rest)) = .ok (some (plain name rest)) ↔
        ∀ word ∈ rest, isOperator word = false) ∧
      ∀ before operator after,
        rest = before ++ operator :: after →
        (∀ word ∈ before, isOperator word = false) →
        isOperator operator = true →
        quote operator = '\x27' :: operator ++ ['\x27'] ∧
          ofLine? (join (name :: rest)) = endedBy name before operator after := by
  have read : ofLine? (join (name :: rest)) = ofWords? (name :: rest) := by
    rw [ofLine?, back]
    rfl
  rw [read]
  refine ⟨ofWords?_eq_plain_iff, ?_⟩
  rintro before operator after rfl ordinary isFirst
  exact
    ⟨Quoting.quote_operator isFirst,
      ofWords?_endedBy name after ordinary isFirst⟩

/--
The name of a command may be an operator; after the name, a quoted one makes
the next word the file that is written to.
-/
theorem ofLine?_join_redirected :
    tokenize (join [['>'], "a b".toList]) = .ok [['>'], "a b".toList] ∧
      ofLine? (join [['>'], "a b".toList]) =
        .ok (some (plain ['>'] ["a b".toList])) ∧
      tokenize (join ["grep".toList, ['>'], "notes".toList]) =
        .ok ["grep".toList, ['>'], "notes".toList] ∧
      ofLine? (join ["grep".toList, ['>'], "notes".toList]) =
        .ok (some
          { plain "grep".toList [] with
            redirection := some ⟨.output, "notes".toList⟩ }) := by
  have named :
      tokenize (join [['>'], "a b".toList]) = .ok [['>'], "a b".toList] := by
    rfl
  have quoted :
      tokenize (join ["grep".toList, ['>'], "notes".toList]) =
        .ok ["grep".toList, ['>'], "notes".toList] := by
    rfl
  have ordinary : ∀ word ∈ ["a b".toList], isOperator word = false := by
    decide
  obtain ⟨-, ended⟩ :=
    (ofLine?_join quoted).2 [] ['>'] ["notes".toList] rfl (by simp) rfl
  exact ⟨named, (ofLine?_join named).1.mpr ordinary, quoted, ended⟩

/-- Quotes do not make an operator an argument. -/
theorem not_all_quoted_plain :
    ¬ ∀ (name : Text) (rest : List Text),
        tokenize (join (name :: rest)) = .ok (name :: rest) →
        ofLine? (join (name :: rest)) = .ok (some (plain name rest)) := by
  intro all
  have read :
      ofLine? "grep '>' notes".toList =
        .ok (some (plain "grep".toList [['>'], "notes".toList])) :=
    all "grep".toList [['>'], "notes".toList] rfl
  have arguments :
      (ofLine? "grep '>' notes".toList).toOption.bind
          (·.map Command.arguments) =
        some ["grep".toList] := by
    rfl
  rw [read] at arguments
  exact absurd arguments (by decide)

end Command
end JobShell
