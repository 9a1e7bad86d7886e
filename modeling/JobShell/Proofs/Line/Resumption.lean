import JobShell.Proofs.Line.Positions

namespace JobShell

/-!
# Readers that go on

A reader that has handed out commands goes on with the words that are left. It
still remembers the last word of the whole list, but as long as words are left
that is their last word as well: it stands where a new reader of these words
would stand. So each answer is about a segment of the words of its own, and the
segments follow each other without a gap until no word is left.
-/

namespace Reader

open Command (exists_operator plain span_operator span_ordinary)

/-- The reader after a number of commands, read or failed. -/
def skip : Nat → Reader → Reader
  | 0, reader => reader
  | n + 1, reader => (skip n reader).next.2

/-- The words that the next answer is about. -/
def consumed (reader : Reader) : List Text :=
  reader.rest.take (reader.rest.length - reader.next.2.rest.length)

/-- The answer is a command or an error. -/
def isAnswer : Except ShellError (Option Command) → Bool
  | .ok none => false
  | .ok (some _) | .error _ => true

/--
What an answer takes up, and which words it leaves: a name with its arguments,
and then nothing, `&`, or an operator with its file.
-/
inductive Consumes :
    List Text → Except ShellError (Option Command) → List Text → Prop
  /-- No word is left to begin with. -/
  | nothing : Consumes [] (.ok none) []
  | whole (name : Text) (arguments : List Text) :
      (∀ word ∈ arguments, isOperator word = false) →
      Consumes (name :: arguments) (.ok (some (plain name arguments))) []
  | background (name : Text) (arguments left : List Text) :
      (∀ word ∈ arguments, isOperator word = false) →
      Consumes (name :: (arguments ++ [ampersand]))
        (.ok (some { plain name arguments with background := true })) left
  | redirected
      (name : Text)
      (arguments : List Text)
      (direction : Direction)
      (filename : Text)
      (background : Bool)
      (left : List Text) :
      (∀ word ∈ arguments, isOperator word = false) →
      Consumes (name :: (arguments ++ [direction.word, filename]))
        (.ok (some
          { plain name arguments with
            redirection := some ⟨direction, filename⟩
            background := background }))
        left
  /-- The operator is the last of all words. -/
  | dangling (name : Text) (arguments : List Text) (direction : Direction) :
      (∀ word ∈ arguments, isOperator word = false) →
      Consumes (name :: (arguments ++ [direction.word]))
        (.error (.danglingRedirection direction.word)) []

namespace Consumes

variable
  {segment left : List Text}
  {answer : Except ShellError (Option Command)}

/-- What takes up a word is answered. -/
theorem nonempty
    (consumes : Consumes segment answer left)
    (answers : isAnswer answer = true) :
    segment ≠ [] := by
  cases consumes with
  | nothing =>
      contradiction
  | _ =>
      simp

/-- As long as there are words, there is an answer about some of them. -/
theorem isAnswer
    (consumes : Consumes segment answer left)
    (words : segment ++ left ≠ []) :
    Reader.isAnswer answer = true := by
  cases consumes with
  | nothing =>
      contradiction
  | _ =>
      rfl

/-- An error leaves nothing to read. -/
theorem left_of_error
    {e : ShellError}
    (consumes : Consumes segment (.error e) left) :
    left = [] := by
  cases consumes
  rfl

end Consumes

theorem readOperator_ampersand (last : Option Text) (rest : List Text) :
    readOperator last (ampersand :: rest) = (.ok (none, true), rest) :=
  rfl

theorem readOperator_dangling (last : Option Text) (direction : Direction) :
    readOperator last [direction.word] =
      (.error (.danglingRedirection direction.word), []) := by
  cases direction <;> rfl

theorem readOperator_redirected
    (last : Option Text)
    (direction : Direction)
    (filename : Text)
    (left : List Text) :
    readOperator last (direction.word :: filename :: left) =
      (.ok (some ⟨direction, filename⟩, last = some ampersand ∧ left ≠ []),
        left) := by
  cases direction <;> rfl

/-- An answer takes up a segment at the front of the words, and leaves the rest. -/
theorem next_consumes (reader : Reader) :
    ∃ segment,
      reader.rest = segment ++ reader.next.2.rest ∧
        Consumes segment reader.next.1 reader.next.2.rest := by
  obtain ⟨words, last⟩ := reader
  cases words with
  | nil =>
      exact ⟨[], rfl, .nothing⟩
  | cons name words =>
      by_cases ordinary : ∀ word ∈ words, isOperator word = false
      · obtain ⟨taken, dropped⟩ := span_ordinary ordinary
        simp only [next, taken, dropped]
        exact
          ⟨name :: words, by simp [readOperator], .whole name words ordinary⟩
      · obtain ⟨before, operator, after, rfl, others, isFirst⟩ :=
          exists_operator ordinary
        obtain ⟨taken, dropped⟩ := span_operator after others isFirst
        simp only [next, taken, dropped]
        rcases isOperator_iff.mp isFirst with rfl | ⟨direction, rfl⟩
        · rw [readOperator_ampersand]
          exact
            ⟨name :: (before ++ [ampersand]), by simp,
              .background name before after others⟩
        · cases after with
          | nil =>
              rw [readOperator_dangling]
              exact
                ⟨name :: (before ++ [direction.word]), by simp,
                  .dangling name before direction others⟩
          | cons filename left =>
              rw [readOperator_redirected]
              exact
                ⟨name :: (before ++ [direction.word, filename]), by simp,
                  .redirected name before direction filename _ left others⟩

/-- The segment of an answer is what the reader is done with after it. -/
theorem consumed_consumes (reader : Reader) :
    reader.rest = reader.consumed ++ reader.next.2.rest ∧
      Consumes reader.consumed reader.next.1 reader.next.2.rest := by
  obtain ⟨segment, parts, consumes⟩ := next_consumes reader
  have same : reader.consumed = segment := by
    unfold consumed
    rw [parts]
    simp
  rw [same]
  exact ⟨parts, consumes⟩

theorem next_last (reader : Reader) : reader.next.2.last = reader.last := by
  obtain ⟨words, last⟩ := reader
  cases words <;> rfl

/-- A reader is spent when no word is left, and then it stays so. -/
theorem next_of_rest_nil {reader : Reader} (spent : reader.rest = []) :
    reader.next = (.ok none, reader) := by
  unfold next
  rw [spent]

/-- There is an answer as long as words are left. -/
theorem isAnswer_next_iff (reader : Reader) :
    isAnswer reader.next.1 = true ↔ reader.rest ≠ [] := by
  obtain ⟨parts, consumes⟩ := consumed_consumes reader
  constructor
  · intro answers spent
    rw [next_of_rest_nil spent] at answers
    contradiction
  · intro words
    rw [parts] at words
    exact consumes.isAnswer words

/-- The last word that the reader remembers is the last of the words left. -/
def Current (reader : Reader) : Prop :=
  reader.rest ≠ [] → reader.last = reader.rest.getLast?

theorem current_ofWords (words : List Text) : Current (ofWords words) :=
  fun _ => rfl

/-- Answers take words from the front, and leave the last where it is. -/
theorem Current.next {reader : Reader} (current : Current reader) :
    Current reader.next.2 := by
  intro left
  obtain ⟨parts, -⟩ := consumed_consumes reader
  have words : reader.rest ≠ [] := by
    rw [parts]
    simp [left]
  rw [next_last, current words, parts, List.getLast?_append,
    List.getLast?_eq_some_getLast left]
  rfl

theorem Current.skip
    {reader : Reader}
    (current : Current reader)
    (n : Nat) :
    Current (skip n reader) := by
  induction n with
  | zero =>
      exact current
  | succ n inductionHypothesis =>
      exact inductionHypothesis.next

/-- A reader whose memory is current answers like a new one on the words left. -/
theorem Current.next_eq {reader : Reader} (current : Current reader) :
    reader.next.1 = (ofWords reader.rest).next.1 ∧
      reader.next.2.rest = (ofWords reader.rest).next.2.rest := by
  by_cases spent : reader.rest = []
  · rw [next_of_rest_nil spent, spent]
    exact ⟨rfl, rfl⟩
  · have same : reader = ofWords reader.rest := by
      rw [ofWords, ← current spent]
    rw [← same]
    exact ⟨rfl, rfl⟩

theorem skip_add (m n : Nat) (reader : Reader) :
    skip (m + n) reader = skip n (skip m reader) := by
  induction n with
  | zero =>
      rfl
  | succ n inductionHypothesis =>
      rw [← Nat.add_assoc, skip, inductionHypothesis, skip]

theorem skip_of_rest_nil
    {reader : Reader}
    (spent : reader.rest = [])
    (n : Nat) :
    skip n reader = reader := by
  induction n with
  | zero =>
      rfl
  | succ n inductionHypothesis =>
      rw [skip, inductionHypothesis, next_of_rest_nil spent]

/-- Once no word is left there is no answer any more. -/
theorem next_skip_of_le
    {reader : Reader}
    {n later : Nat}
    (spent : (skip n reader).rest = [])
    (after : n ≤ later) :
    (skip later reader).next.1 = .ok none := by
  obtain ⟨more, rfl⟩ := Nat.exists_eq_add_of_le after
  rw [skip_add, skip_of_rest_nil spent, next_of_rest_nil spent]

/-- The segments of the answers follow each other, up to the words left. -/
theorem rest_eq_segments (n : Nat) (reader : Reader) :
    reader.rest =
      ((List.range n).flatMap fun k => (skip k reader).consumed) ++
        (skip n reader).rest := by
  induction n with
  | zero =>
      rfl
  | succ n inductionHypothesis =>
      obtain ⟨parts, -⟩ := consumed_consumes (skip n reader)
      rw [List.range_succ, List.flatMap_append, List.flatMap_singleton,
        List.append_assoc, skip, ← parts]
      exact inductionHypothesis

/-- The answers are those of the readers that are reached one after the other. -/
theorem take_eq_map (n : Nat) (reader : Reader) :
    take n reader = (List.range n).map fun k => (skip k reader).next.1 := by
  induction n generalizing reader with
  | zero =>
      rfl
  | succ n inductionHypothesis =>
      have next (k : Nat) : skip k reader.next.2 = skip (k + 1) reader := by
        rw [Nat.add_comm, skip_add]
        rfl
      rw [take, inductionHypothesis, List.range_succ_eq_map, List.map_cons,
        List.map_map]
      simp only [next, Function.comp_def]
      rfl

/-- Each answer costs a word. -/
theorem countP_take_add_le (n : Nat) (reader : Reader) :
    (take n reader).countP isAnswer + (skip n reader).rest.length ≤
      reader.rest.length := by
  rw [take_eq_map]
  induction n with
  | zero =>
      simp [skip]
  | succ n inductionHypothesis =>
      obtain ⟨parts, consumes⟩ := consumed_consumes (skip n reader)
      have lengths := congrArg List.length parts
      rw [List.length_append] at lengths
      rw [List.range_succ, List.map_append, List.countP_append,
        List.map_singleton, List.countP_singleton, skip]
      split
      · rename_i answers
        have costs := List.length_pos_iff.mpr (consumes.nonempty answers)
        omega
      · omega

/--
How a reader goes on after any number of calls. It answers what a new reader of
the words left would answer, and leaves the same words. What the call takes up
stands at the front of the words left, directly behind what the calls before it
took up: a name with its arguments, and then perhaps `&`, or an operator with
its file. A call takes up a word exactly if one is left, which is when it
answers; after an error, and once no word is left, no call answers any more.
So there are at most as many answers as words.
-/
theorem next_resumed (words : List Text) (n : Nat) :
    let reader := skip n (ofWords words)
    (reader.next.1 = (ofWords reader.rest).next.1 ∧
        reader.next.2.rest = (ofWords reader.rest).next.2.rest) ∧
      (words =
          ((List.range n).flatMap fun k =>
            (skip k (ofWords words)).consumed) ++ reader.rest ∧
        reader.rest = reader.consumed ++ reader.next.2.rest ∧
        Consumes reader.consumed reader.next.1 reader.next.2.rest) ∧
      (isAnswer reader.next.1 = true → reader.consumed ≠ []) ∧
      (isAnswer reader.next.1 = true ↔ reader.rest ≠ []) ∧
      (∀ e,
        reader.next.1 = .error e →
        ∀ later,
          n < later →
          (skip later (ofWords words)).next.1 = .ok none) ∧
      (reader.rest = [] →
        ∀ later,
          n ≤ later →
          (skip later (ofWords words)).next.1 = .ok none) ∧
      (take n (ofWords words)).countP isAnswer ≤ words.length := by
  intro reader
  obtain ⟨parts, consumes⟩ := consumed_consumes reader
  refine
    ⟨((current_ofWords words).skip n).next_eq,
      ⟨rest_eq_segments n (ofWords words), parts, consumes⟩,
      consumes.nonempty, isAnswer_next_iff reader, ?_, ?_, ?_⟩
  · intro e failed later after
    have spent : (skip (n + 1) (ofWords words)).rest = [] := by
      rw [failed] at consumes
      exact consumes.left_of_error
    exact next_skip_of_le spent after
  · exact fun spent later after => next_skip_of_le spent after
  · have cost := countP_take_add_le n (ofWords words)
    exact Nat.le_trans (Nat.le_add_right _ _) cost

end Reader
end JobShell
