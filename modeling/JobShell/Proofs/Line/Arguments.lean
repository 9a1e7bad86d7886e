import JobShell.Proofs.Line.Operators

namespace JobShell

/-!
# Operators among the arguments

A command's name is the first word of its line, whatever the word is, and its
other arguments are the words before the first operator after the name. So an
operator is an argument exactly if it is the name, and it is one only where a
file goes by that name. No word is empty, and so the file of a redirection has
a name that is not.
-/

namespace Command

/-- A command is plain, or its arguments end before an operator. -/
theorem plain_or_endedBy
    {words : List Text}
    {command : Command}
    (found : ofWords? words = .ok (some command)) :
    ∃ name rest,
      words = name :: rest ∧
        ((∀ word ∈ rest, isOperator word = false) ∧
            command = plain name rest ∨
          ∃ before operator after,
            rest = before ++ operator :: after ∧
              (∀ word ∈ before, isOperator word = false) ∧
              endedBy name before operator after = .ok (some command)) := by
  cases words with
  | nil =>
      cases found
  | cons name rest =>
      refine ⟨name, rest, rfl, ?_⟩
      by_cases ordinary : ∀ word ∈ rest, isOperator word = false
      · rw [ofWords?_plain name ordinary] at found
        exact .inl ⟨ordinary, (Option.some.inj (Except.ok.inj found)).symm⟩
      · obtain ⟨before, operator, after, rfl, others, isFirst⟩ :=
          exists_operator ordinary
        rw [ofWords?_endedBy name after others isFirst] at found
        exact .inr ⟨before, operator, after, rfl, others, found⟩

/-- An operator after the arguments adds none. -/
theorem arguments_endedBy
    {name operator : Text}
    {before after : List Text}
    {command : Command}
    (ended : endedBy name before operator after = .ok (some command)) :
    command.name = name ∧ command.arguments = name :: before := by
  unfold endedBy at ended
  split at ended
  · cases ended
    exact ⟨rfl, rfl⟩
  · cases ended
  · cases ended
    exact ⟨rfl, rfl⟩

/-- The file of a redirection is the word after the operator. -/
theorem filename_endedBy
    {name operator : Text}
    {before after : List Text}
    {command : Command}
    (ended : endedBy name before operator after = .ok (some command))
    {redirection : Redirection}
    (redirected : command.redirection = some redirection) :
    after.head? = some redirection.filename := by
  unfold endedBy at ended
  split at ended
  · cases ended
    contradiction
  · cases ended
  · cases ended
    cases redirected
    rfl

/-- The name is the first word, and no argument after it is an operator. -/
theorem ordinary_of_ofWords?
    {words : List Text}
    {command : Command}
    (found : ofWords? words = .ok (some command)) :
    words.head? = some command.name ∧
      ∃ rest,
        command.arguments = command.name :: rest ∧
          ∀ word ∈ rest, isOperator word = false := by
  obtain ⟨name, rest, rfl, ⟨ordinary, rfl⟩ | ended⟩ := plain_or_endedBy found
  · exact ⟨rfl, rest, rfl, ordinary⟩
  · obtain ⟨before, operator, after, rfl, ordinary, ended⟩ := ended
    obtain ⟨named, arguments⟩ := arguments_endedBy ended
    rw [arguments, named]
    exact ⟨rfl, before, rfl, ordinary⟩

/-- The file of a redirection is one of the words. -/
theorem filename_mem_of_ofWords?
    {words : List Text}
    {command : Command}
    (found : ofWords? words = .ok (some command))
    {redirection : Redirection}
    (redirected : command.redirection = some redirection) :
    redirection.filename ∈ words := by
  obtain ⟨name, rest, rfl, ⟨-, rfl⟩ | ended⟩ := plain_or_endedBy found
  · contradiction
  · obtain ⟨before, operator, after, rfl, -, ended⟩ := ended
    have read := List.mem_of_head? (filename_endedBy ended redirected)
    simp [read]

end Command

namespace Descriptor

/--
A descriptor that is built of a line has the line's first word as its first
argument, and no operator after it: an argument is an operator exactly if the
first word is one, and then a program goes by that name. The file of a
redirection has a name that is not empty.
-/
theorem operator_mem_arguments_iff
    {line : Text}
    {space : Workspace}
    {searchPath : Option Bytes}
    {words : List Text}
    {descriptor : Descriptor}
    (split : tokenize line = .ok words)
    (built : build space searchPath words = .ok (some descriptor)) :
    ∃ name rest,
      words.head? = some name ∧
        descriptor.arguments = name :: rest ∧
        resolveProgram? space searchPath name = some descriptor.program ∧
        (∀ word ∈ rest, isOperator word = false) ∧
        ((∃ argument ∈ descriptor.arguments, isOperator argument = true) ↔
          isOperator name = true) ∧
        ∀ redirection,
          descriptor.redirection = some redirection →
          redirection.filename ≠ [] := by
  obtain ⟨command, program, found, resolved, rfl⟩ :=
    build_eq_some_iff.mp built
  obtain ⟨first, rest, arguments, ordinary⟩ :=
    Command.ordinary_of_ofWords? found
  refine ⟨command.name, rest, first, arguments, resolved, ordinary, ?_, ?_⟩
  · change (∃ argument ∈ command.arguments, _) ↔ _
    rw [arguments]
    constructor
    · rintro ⟨argument, member, operates⟩
      rcases List.mem_cons.mp member with rfl | later
      · exact operates
      · rw [ordinary argument later] at operates
        contradiction
    · exact fun operates => ⟨command.name, by simp, operates⟩
  · intro redirection redirected
    have member := Command.filename_mem_of_ofWords? found redirected
    exact (Words.of_mem_split split member).1

/-- Files with one program, whose name is an operator. -/
def operatorNamed : Workspace :=
  { tree := { entries := [([[62]], .file 0o755 [])] } }

/-- The line `> a < b`, where `>` is a program. -/
theorem operator_mem_arguments_redirected :
    ∃ descriptor,
      tokenize "> a < b".toList = .ok [['>'], ['a'], ['<'], ['b']] ∧
        build operatorNamed none [['>'], ['a'], ['<'], ['b']] =
            .ok (some descriptor) ∧
        descriptor.arguments = [['>'], ['a']] ∧
        descriptor.redirection = some ⟨.input, ['b']⟩ ∧
        (∃ argument ∈ descriptor.arguments, isOperator argument = true) ∧
        ['b'] ≠ ([] : Text) := by
  have split :
      tokenize "> a < b".toList = .ok [['>'], ['a'], ['<'], ['b']] := by
    rfl
  have built :
      build operatorNamed none [['>'], ['a'], ['<'], ['b']] =
        .ok (some (ofCommand [62]
          { name := ['>']
            arguments := [['>'], ['a']]
            redirection := some ⟨.input, ['b']⟩
            background := false })) :=
    build_eq_some_iff.mpr ⟨_, [62], rfl, by decide +kernel, rfl⟩
  obtain ⟨name, rest, first, -, -, -, operators, named⟩ :=
    operator_mem_arguments_iff split built
  obtain rfl := Option.some.inj first
  exact
    ⟨_, split, built, rfl, rfl, operators.mpr (by decide), named _ rfl⟩

/-- An operator that a program goes by is an argument. -/
theorem not_all_ordinary :
    ¬ ∀ (line : Text) (space : Workspace) (searchPath : Option Bytes)
        (words : List Text) (descriptor : Descriptor),
        tokenize line = .ok words →
        build space searchPath words = .ok (some descriptor) →
        descriptor.arguments ≠ [] ∧
          (∀ argument ∈ descriptor.arguments, isOperator argument = false) ∧
          ∀ redirection,
            descriptor.redirection = some redirection →
            redirection.filename ≠ [] := by
  intro all
  have built :
      build operatorNamed none [['>'], ['a']] =
        .ok (some (ofCommand [62]
          { name := ['>']
            arguments := [['>'], ['a']]
            redirection := none
            background := false })) :=
    build_eq_some_iff.mpr ⟨_, [62], rfl, by decide +kernel, rfl⟩
  obtain ⟨-, ordinary, -⟩ :=
    all "> a".toList operatorNamed none [['>'], ['a']] _ rfl built
  exact absurd (ordinary ['>'] (by decide)) (by decide)

end Descriptor
end JobShell
