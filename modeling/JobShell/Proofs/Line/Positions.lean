import JobShell.Proofs.Line.Arguments

namespace JobShell

/-!
# Commands by positions

A command can be told from the positions of its words alone. The first operator
behind the name decides: it cuts the arguments off, `&` stands for the
background, and `<` or `>` takes the word behind it as a file. `Positioned` says
so without reading word by word, and the reader answers with a command exactly
if it is positioned in its words, and with an error exactly if the deciding
operator needs a file and is the last word.
-/

/-- An operator is `&`, or the word of a direction. -/
theorem isOperator_iff {word : Text} :
    isOperator word = true ↔
      word = ampersand ∨ ∃ direction : Direction, word = direction.word := by
  constructor
  · intro operates
    simp only [isOperator, Bool.or_eq_true, beq_iff_eq] at operates
    rcases operates with background | redirects
    · exact .inl background
    · unfold Direction.ofWord? at redirects
      split at redirects
      · rename_i input
        exact .inr ⟨.input, input⟩
      · split at redirects
        · rename_i output
          exact .inr ⟨.output, output⟩
        · contradiction
  · rintro (rfl | ⟨direction, rfl⟩)
    · rfl
    · cases direction <;> rfl

@[simp] theorem Direction.ofWord?_word (direction : Direction) :
    Direction.ofWord? direction.word = some direction := by
  cases direction <;> rfl

theorem Direction.word_inj {first second : Direction} :
    first.word = second.word ↔ first = second := by
  cases first <;> cases second <;> decide

theorem Direction.word_ne_ampersand (direction : Direction) :
    direction.word ≠ ampersand := by
  cases direction <;> decide

namespace Command

/-- The first operator among the words behind the name, and where it stands. -/
structure FirstOperator
    (words : List Text)
    (position : Nat)
    (operator : Text) : Prop where
  behind : 1 ≤ position
  stands : words[position]? = some operator
  operates : isOperator operator = true
  first :
    ∀ other word,
      1 ≤ other →
      other < position →
      words[other]? = some word →
      isOperator word = false

/-- The first operator needs a file, and there is no word left for it. -/
def Dangling (words : List Text) (direction : Direction) : Prop :=
  ∃ position,
    FirstOperator words position direction.word ∧
      position + 1 = words.length

/-- The command that words make up by their positions. -/
structure Positioned (words : List Text) (command : Command) : Prop where
  name : words[0]? = some command.name
  /-- Without an operator all words are arguments. -/
  whole :
    (∀ position operator, ¬ FirstOperator words position operator) →
    command.arguments = words
  /-- An operator cuts the arguments off. -/
  cut :
    ∀ position operator,
      FirstOperator words position operator →
      command.arguments = words.take position
  /-- The word behind `<` or `>` is the file. -/
  redirection :
    ∀ redirection,
      command.redirection = some redirection ↔
        ∃ position,
          FirstOperator words position redirection.direction.word ∧
            words[position + 1]? = some redirection.filename
  /-- It is `&`, or `&` is the last word and stands behind the file. -/
  background :
    command.background = true ↔
      (∃ position, FirstOperator words position ampersand) ∨
        ∃ position direction,
          FirstOperator words position (Direction.word direction) ∧
            words.getLast? = some ampersand ∧
            position + 1 < words.length - 1

/-- There is none in words that are not operators. -/
theorem not_firstOperator
    (name : Text)
    {rest : List Text}
    (ordinary : ∀ word ∈ rest, isOperator word = false)
    (position : Nat)
    (operator : Text) :
    ¬ FirstOperator (name :: rest) position operator := by
  intro found
  obtain ⟨before, rfl⟩ := Nat.exists_eq_succ_of_ne_zero (Nat.ne_of_gt found.behind)
  have member : operator ∈ rest := by
    apply List.mem_of_getElem? (i := before)
    simpa using found.stands
  have operates := found.operates
  rw [ordinary operator member] at operates
  contradiction

/-- It is the operator that ordinary words stand before. -/
theorem firstOperator_iff
    {name operator : Text}
    {before after : List Text}
    (ordinary : ∀ word ∈ before, isOperator word = false)
    (isFirst : isOperator operator = true)
    {position : Nat}
    {other : Text} :
    FirstOperator (name :: (before ++ operator :: after)) position other ↔
      position = before.length + 1 ∧ other = operator := by
  have stands :
      (name :: (before ++ operator :: after))[before.length + 1]? =
        some operator := by
    simp
  constructor
  · intro found
    have same : position = before.length + 1 := by
      rcases Nat.lt_trichotomy position (before.length + 1) with
        earlier | same | later
      · -- An operator that stands earlier is one of the ordinary words.
        have member : other ∈ before := by
          have behind := found.behind
          apply List.mem_of_getElem? (i := position - 1)
          rw [← found.stands, List.getElem?_cons, if_neg (by omega),
            List.getElem?_append_left (by omega)]
        have operates := found.operates
        rw [ordinary other member] at operates
        contradiction
      · exact same
      · have plain := found.first _ operator (by omega) later stands
        rw [isFirst] at plain
        contradiction
    subst same
    exact ⟨rfl, Option.some.inj (found.stands.symm.trans stands)⟩
  · rintro ⟨rfl, rfl⟩
    refine ⟨by omega, stands, isFirst, ?_⟩
    intro earlier word behind sooner found
    rw [List.getElem?_cons, if_neg (by omega),
      List.getElem?_append_left (by omega)] at found
    exact ordinary word (List.mem_of_getElem? found)

theorem positioned_plain
    {name : Text}
    {rest : List Text}
    (ordinary : ∀ word ∈ rest, isOperator word = false) :
    Positioned (name :: rest) (plain name rest) := by
  have none := not_firstOperator name ordinary
  refine ⟨rfl, fun _ => rfl, fun position operator found => ?_, ?_, ?_⟩
  · exact absurd found (none position operator)
  · simp [plain, none]
  · simp [plain, none]

theorem endedBy_ampersand (name : Text) (before after : List Text) :
    endedBy name before ampersand after =
      .ok (some { plain name before with background := true }) :=
  rfl

theorem endedBy_dangling
    (name : Text)
    (before : List Text)
    (direction : Direction) :
    endedBy name before direction.word [] =
      .error (.danglingRedirection direction.word) := by
  cases direction <;> rfl

theorem endedBy_redirected
    (name : Text)
    (before : List Text)
    (direction : Direction)
    (filename : Text)
    (left : List Text) :
    endedBy name before direction.word (filename :: left) =
      .ok (some
        { plain name before with
          redirection := some ⟨direction, filename⟩
          background := left.getLast? = some ampersand }) := by
  cases direction <;> rfl

/-- Behind the file, `&` is the last word of all exactly if it is the last there. -/
theorem last_behind_file
    (name : Text)
    (before : List Text)
    (operator filename : Text)
    (left : List Text) :
    (name :: (before ++ operator :: filename :: left)).getLast? =
          some ampersand ∧
        before.length + 1 + 1 <
          (name :: (before ++ operator :: filename :: left)).length - 1 ↔
      left.getLast? = some ampersand := by
  cases left with
  | nil =>
      simp
  | cons next later =>
      simp [List.getLast?_cons, List.getLast?_append]
      omega

/-- What an operator ends is the positioned command, or lacks its file. -/
theorem endedBy_outcome
    (name : Text)
    {operator : Text}
    {before : List Text}
    (after : List Text)
    (ordinary : ∀ word ∈ before, isOperator word = false)
    (isFirst : isOperator operator = true) :
    (∃ direction,
        Dangling (name :: (before ++ operator :: after)) direction ∧
          endedBy name before operator after =
            .error (.danglingRedirection direction.word)) ∨
      ∃ command,
        (∀ direction,
            ¬ Dangling (name :: (before ++ operator :: after)) direction) ∧
          Positioned (name :: (before ++ operator :: after)) command ∧
          endedBy name before operator after = .ok (some command) := by
  have only {position : Nat} {other : Text} :
      FirstOperator (name :: (before ++ operator :: after)) position other ↔
        position = before.length + 1 ∧ other = operator :=
    firstOperator_iff ordinary isFirst
  have cuts
      {position : Nat}
      {other : Text}
      (found :
        FirstOperator (name :: (before ++ operator :: after)) position other) :
      name :: before = (name :: (before ++ operator :: after)).take position := by
    obtain ⟨rfl, -⟩ := only.mp found
    simp
  have first :
      FirstOperator (name :: (before ++ operator :: after))
        (before.length + 1) operator :=
    only.mpr ⟨rfl, rfl⟩
  rcases isOperator_iff.mp isFirst with rfl | ⟨direction, rfl⟩
  · refine
      .inr
        ⟨_, ?_, ⟨rfl, ?_, fun _ _ => cuts, ?_, ?_⟩,
          endedBy_ampersand name before after⟩
    · simp [Dangling, only, Direction.word_ne_ampersand]
    · exact fun none => absurd first (none _ _)
    · simp [plain, only, Direction.word_ne_ampersand]
    · exact iff_of_true rfl (.inl ⟨_, first⟩)
  · cases after with
    | nil =>
        refine .inl ⟨direction, ⟨_, first, by simp⟩, ?_⟩
        exact endedBy_dangling name before direction
    | cons filename left =>
        refine
          .inr
            ⟨_, ?_, ⟨rfl, ?_, fun _ _ => cuts, ?_, ?_⟩,
              endedBy_redirected name before direction filename left⟩
        · simp [Dangling, only]
        · exact fun none => absurd first (none _ _)
        · rintro ⟨toward, file⟩
          simp [only, Direction.word_inj, and_assoc, eq_comm]
        · rw [decide_eq_true_eq,
            ← last_behind_file name before direction.word filename left]
          constructor
          · rintro ⟨last, room⟩
            exact .inr ⟨_, direction, first, last, room⟩
          · rintro (⟨position, background⟩ | ⟨position, other, found, last⟩)
            · exact absurd (only.mp background).2.symm direction.word_ne_ampersand
            · obtain ⟨rfl, -⟩ := only.mp found
              exact last

/-- The reader answers with the positioned command, or that its file is missing. -/
theorem ofWords?_outcome (name : Text) (rest : List Text) :
    (∃ direction,
        Dangling (name :: rest) direction ∧
          ofWords? (name :: rest) =
            .error (.danglingRedirection direction.word)) ∨
      ∃ command,
        (∀ direction, ¬ Dangling (name :: rest) direction) ∧
          Positioned (name :: rest) command ∧
          ofWords? (name :: rest) = .ok (some command) := by
  by_cases ordinary : ∀ word ∈ rest, isOperator word = false
  · refine
      .inr
        ⟨plain name rest, ?_, positioned_plain ordinary,
          ofWords?_plain name ordinary⟩
    rintro direction ⟨position, found, -⟩
    exact not_firstOperator name ordinary position direction.word found
  · obtain ⟨before, operator, after, rfl, others, isFirst⟩ :=
      exists_operator ordinary
    rw [ofWords?_endedBy name after others isFirst]
    exact endedBy_outcome name after others isFirst

/-- At most one operator lacks its file. -/
theorem Dangling.unique
    {words : List Text}
    {first second : Direction}
    (dangling : Dangling words first)
    (again : Dangling words second) :
    first = second := by
  obtain ⟨position, found, isLast⟩ := dangling
  obtain ⟨other, foundToo, isLastToo⟩ := again
  obtain rfl : position = other := by omega
  exact
    Direction.word_inj.mp
      (Option.some.inj (found.stands.symm.trans foundToo.stands))

/-- Positions leave room for one command only. -/
theorem Positioned.unique
    {words : List Text}
    {first second : Command}
    (positioned : Positioned words first)
    (again : Positioned words second) :
    first = second := by
  have name : first.name = second.name :=
    Option.some.inj (positioned.name.symm.trans again.name)
  have arguments : first.arguments = second.arguments := by
    by_cases none : ∀ position operator, ¬ FirstOperator words position operator
    · rw [positioned.whole none, again.whole none]
    · simp only [Classical.not_forall, Classical.not_not] at none
      obtain ⟨position, operator, found⟩ := none
      rw [positioned.cut position operator found,
        again.cut position operator found]
  have redirection : first.redirection = second.redirection :=
    Option.ext fun redirection =>
      (positioned.redirection redirection).trans
        (again.redirection redirection).symm
  have background : first.background = second.background := by
    rw [Bool.eq_iff_iff]
    exact positioned.background.trans again.background.symm
  cases first
  cases second
  simp_all

/--
A reader at the start of some words answers by positions. It fails, and names
the operator, exactly if the first operator behind the name is `<` or `>` and
the last word. Otherwise it answers with the one command that is positioned in
the words; its arguments begin with the name and hold no operator behind it.
-/
theorem next_positioned {words : List Text} (nonempty : words ≠ []) :
    (∀ e,
        (Reader.ofWords words).next.1 = .error e ↔
          ∃ direction,
            Dangling words direction ∧
              e = .danglingRedirection direction.word) ∧
      (∀ command,
        (Reader.ofWords words).next.1 = .ok (some command) ↔
          (∀ direction, ¬ Dangling words direction) ∧
            Positioned words command) ∧
      (Reader.ofWords words).next.1 ≠ .ok none ∧
      ∀ command,
        (Reader.ofWords words).next.1 = .ok (some command) →
        ∃ rest,
          command.arguments = command.name :: rest ∧
            ∀ word ∈ rest, isOperator word = false := by
  obtain ⟨name, rest, rfl⟩ := List.exists_cons_of_ne_nil nonempty
  change
    (∀ e, ofWords? (name :: rest) = .error e ↔ _) ∧
      (∀ command, ofWords? (name :: rest) = .ok (some command) ↔ _) ∧
      ofWords? (name :: rest) ≠ .ok none ∧
      ∀ command, ofWords? (name :: rest) = .ok (some command) → _
  refine ⟨?_, ?_, ?_, fun command found => (ordinary_of_ofWords? found).2⟩
  · intro e
    rcases ofWords?_outcome name rest with
      ⟨direction, dangling, answered⟩ | ⟨command, complete, -, answered⟩
    · rw [answered]
      constructor
      · rintro ⟨⟩
        exact ⟨direction, dangling, rfl⟩
      · rintro ⟨other, danglingToo, rfl⟩
        rw [dangling.unique danglingToo]
    · rw [answered]
      refine ⟨nofun, ?_⟩
      rintro ⟨direction, dangling, -⟩
      exact absurd dangling (complete direction)
  · intro command
    rcases ofWords?_outcome name rest with
      ⟨direction, dangling, answered⟩ | ⟨other, complete, positioned, answered⟩
    · rw [answered]
      refine ⟨nofun, ?_⟩
      rintro ⟨complete, -⟩
      exact absurd dangling (complete direction)
    · rw [answered]
      constructor
      · rintro ⟨⟩
        exact ⟨complete, positioned⟩
      · rintro ⟨-, positionedToo⟩
        rw [positioned.unique positionedToo]
  · rcases ofWords?_outcome name rest with
      ⟨direction, -, answered⟩ | ⟨command, -, -, answered⟩
    · rw [answered]
      nofun
    · rw [answered]
      nofun

/-- The words `a > & < &`, where `&` is the file and at the end the background. -/
def crossed : List Text := [['a'], ['>'], ['&'], ['<'], ['&']]

/-- The first `&` is a file, and the other operators behind it do not count. -/
theorem next_positioned_crossed :
    crossed ≠ [] ∧
      (Reader.ofWords crossed).next.1 =
        .ok (some
          { plain ['a'] [] with
            redirection := some ⟨.output, ['&']⟩
            background := true }) ∧
      Positioned crossed
        { plain ['a'] [] with
          redirection := some ⟨.output, ['&']⟩
          background := true } ∧
      [['>'], ['>']] ≠ ([] : List Text) ∧
      ∃ direction, Dangling [['>'], ['>']] direction := by
  have nonempty : crossed ≠ [] := by
    decide
  have nonemptyToo : [['>'], ['>']] ≠ ([] : List Text) := by
    decide
  obtain ⟨-, positioned, -⟩ := next_positioned nonempty
  obtain ⟨fails, -⟩ := next_positioned nonemptyToo
  obtain ⟨direction, dangling, -⟩ := (fails (.danglingRedirection ['>'])).mp rfl
  exact
    ⟨nonempty, rfl, ((positioned _).mp rfl).2, nonemptyToo, direction, dangling⟩

end Command
end JobShell
