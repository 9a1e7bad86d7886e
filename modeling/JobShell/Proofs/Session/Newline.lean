import JobShell.Proofs.Line.Newline
import JobShell.Proofs.Session.Paths

namespace JobShell

/-!
# Lines with and without their newline

The last line of an input may lack the newline that all others have. A session
handles a line by what it reads of it, and it reads the newline as a part of the
line: the newline counts for the line's length, and where the line ends inside
quotes or with a backslash, it is a character of the last word.
-/

namespace Session

open Words (ending consNonempty byteSize defaultLimit)

variable {settings : Settings} {raw : Bytes}

/-- With its newline, a line is read as the text of it and a newline. -/
theorem readWords_newline (fits : raw.length < settings.maxLine) :
    readWords settings (raw ++ [newline]) =
      match Utf8.decode raw with
      | .error offset => .error (.invalidUtf8 offset)
      | .ok line => tokenize (line ++ ['\n']) := by
  have fitsToo : (raw ++ [newline]).length ≤ settings.maxLine := by
    simpa using Nat.succ_le_of_lt fits
  rw [readWords_of_le fitsToo, Utf8.decode_newline]
  cases Utf8.decode raw <;> rfl

/-- A line that is as long as it may be is too long with a newline. -/
theorem readWords_newline_of_le (longest : settings.maxLine ≤ raw.length) :
    readWords settings (raw ++ [newline]) =
      .error (.lineTooLong settings.maxLine) :=
  readWords_of_lt (by simpa using Nat.lt_succ_of_le longest)

/-- No line within the limit is refused for its length. -/
theorem readWords_ne_lineTooLong (fits : raw.length ≤ settings.maxLine) :
    readWords settings raw ≠ .error (.lineTooLong settings.maxLine) := by
  rw [readWords_of_le fits]
  cases Utf8.decode raw with
  | error offset =>
      simp
  | ok line =>
      simp only [tokenize, Words.split_eq]
      split <;> simp

/-- Inside quotes, and after a backslash, the newline goes into the last word. -/
theorem readWords_newline_of_open
    (fits : raw.length < settings.maxLine)
    {line : Text}
    {words : List Text}
    (decoded : Utf8.decode raw = .ok line)
    (splits : tokenize line = .ok words)
    (ends : ending .plain line ≠ some .plain) :
    ∃ earlier last,
      words = earlier ++ consNonempty last [] ∧
        readWords settings (raw ++ [newline]) =
          if byteSize last < defaultLimit then
            .ok (earlier ++ [last ++ ['\n']])
          else .error (.tokenTooLong defaultLimit) := by
  rw [readWords_newline fits, decoded]
  exact Words.split_newline_of_not_plain ends splits

/--
A line is read alike with and without a newline exactly if it is too long in any
case, or shorter than it may be and, if it can be read, ends outside quotes and
with no backslash that awaits a character.
-/
theorem readWords_newline_iff :
    readWords settings (raw ++ [newline]) = readWords settings raw ↔
      settings.maxLine < raw.length ∨
        raw.length < settings.maxLine ∧
          ∀ line words,
            Utf8.decode raw = .ok line →
            tokenize line = .ok words →
            ending .plain line = some .plain := by
  rcases Nat.lt_trichotomy raw.length settings.maxLine with
    shorter | longest | longer
  · have fits : raw.length ≤ settings.maxLine := Nat.le_of_lt shorter
    rw [readWords_newline shorter, readWords_of_le fits]
    simp only [Nat.not_lt.mpr fits, false_or, shorter, true_and]
    cases Utf8.decode raw with
    | error offset =>
        simp
    | ok line =>
        dsimp only
        cases splits : tokenize line with
        | error e =>
            have same : tokenize (line ++ ['\n']) = .error e :=
              Words.split_newline_of_error splits
            refine iff_of_true same ?_
            rintro _ words ⟨⟩ accepted
            rw [splits] at accepted
            contradiction
        | ok words =>
            have same :
                tokenize (line ++ ['\n']) = .ok words ↔
                  ending .plain line = some .plain := by
              rw [← splits]
              exact Words.split_newline_iff splits
            refine same.trans ⟨?_, fun all => all line words rfl splits⟩
            rintro ends _ _ ⟨⟩ _
            exact ends
  · have refused := readWords_newline_of_le (Nat.le_of_eq longest.symm)
    have differs := readWords_ne_lineTooLong (Nat.le_of_eq longest)
    rw [refused]
    simp [differs.symm, longest]
  · rw [readWords_newline_of_le (Nat.le_of_lt longer), readWords_of_lt longer]
    simp [longer]

/--
How a newline after a line matters. The line is read alike with and without it
exactly if it is too long in any case, or shorter than it may be and, if it can
be read, ends outside quotes and with no backslash that awaits a character; and
then the session does the same about it, whatever the shell is. Otherwise the
newline makes the line too long, or it becomes the last character of the last
word, which may then be too long.
-/
theorem handleLine_newline (session : Session) (number : Nat) (raw : Bytes) :
    (readWords session.settings (raw ++ [newline]) =
          readWords session.settings raw ↔
        session.settings.maxLine < raw.length ∨
          raw.length < session.settings.maxLine ∧
            ∀ line words,
              Utf8.decode raw = .ok line →
              tokenize line = .ok words →
              ending .plain line = some .plain) ∧
      (readWords session.settings (raw ++ [newline]) =
          readWords session.settings raw →
        ∀ shell : Shell,
          session.handleLine number (raw ++ [newline]) shell =
              session.respond number (readWords session.settings raw)
                (shell.on (taken number (raw ++ [newline]) shell.host)) ∧
            session.handleLine number raw shell =
              session.respond number (readWords session.settings raw)
                (shell.on (taken number raw shell.host))) ∧
      (raw.length = session.settings.maxLine →
        readWords session.settings (raw ++ [newline]) =
          .error (.lineTooLong session.settings.maxLine)) ∧
      ∀ line words,
        raw.length < session.settings.maxLine →
        Utf8.decode raw = .ok line →
        tokenize line = .ok words →
        ending .plain line ≠ some .plain →
        ∃ earlier last,
          words = earlier ++ consNonempty last [] ∧
            readWords session.settings (raw ++ [newline]) =
              if byteSize last < defaultLimit then
                .ok (earlier ++ [last ++ ['\n']])
              else .error (.tokenTooLong defaultLimit) := by
  refine ⟨readWords_newline_iff, fun same shell => ⟨?_, ?_⟩, ?_, ?_⟩
  · rw [handleLine_eq, same]
  · exact handleLine_eq session number raw shell
  · exact fun longest => readWords_newline_of_le (Nat.le_of_eq longest.symm)
  · exact fun line words fits => readWords_newline_of_open fits

/-- The line `/p 'a b'`. -/
def quotedLine : Bytes := [47, 112, 32, 39, 97, 32, 98, 39]

/-- The line `exit 1` with a backslash at its end. -/
def escapedLine : Bytes := [101, 120, 105, 116, 32, 49, 92]

/--
A line that ends with a closing quote is read and handled alike; a backslash at
the end takes the newline.
-/
theorem handleLine_newline_escaped :
    readWords unattended.settings (quotedLine ++ [newline]) =
        .ok ["/p".toList, "a b".toList] ∧
      (∀ shell : Shell,
        unattended.handleLine 0 (quotedLine ++ [newline]) shell =
          unattended.respond 0 (.ok ["/p".toList, "a b".toList])
            (shell.on (taken 0 (quotedLine ++ [newline]) shell.host))) ∧
      ∃ earlier last,
        ["exit".toList, ['1']] = earlier ++ consNonempty last [] ∧
          readWords unattended.settings (escapedLine ++ [newline]) =
            if byteSize last < defaultLimit then
              .ok (earlier ++ [last ++ ['\n']])
            else .error (.tokenTooLong defaultLimit) := by
  obtain ⟨alike, handled, -, -⟩ := handleLine_newline unattended 0 quotedLine
  obtain ⟨-, -, -, opens⟩ := handleLine_newline unattended 0 escapedLine
  have read :
      readWords unattended.settings quotedLine =
        .ok ["/p".toList, "a b".toList] := by
    rfl
  have closed :
      ∀ line words,
        Utf8.decode quotedLine = .ok line →
        tokenize line = .ok words →
        ending .plain line = some .plain := by
    rintro line words decoded -
    have text : Utf8.decode quotedLine = .ok "/p 'a b'".toList := by
      rfl
    obtain rfl := Except.ok.inj (text.symm.trans decoded)
    rfl
  have same := alike.mpr (.inr ⟨by decide, closed⟩)
  refine ⟨same.trans read, fun shell => ?_, ?_⟩
  · rw [← read]
    exact (handled same shell).1
  · exact opens "exit 1\\".toList _ (by decide) rfl rfl (by decide)

/-- With its newline, a line can fail that leaves the session without it. -/
theorem not_all_alike :
    ¬ ∀ (session : Session) (number : Nat) (raw : Bytes) (shell : Shell),
        newline ∉ raw →
        (session.handleLine number (raw ++ [newline]) shell).1 =
          (session.handleLine number raw shell).1 := by
  intro all
  have same :=
    all unattended 0 escapedLine { host := {} } (by decide)
  have leaves :
      (unattended.handleLine 0 escapedLine { host := {} }).1 =
        .flow (.exit 1) := by
    decide +kernel
  have fails :
      (unattended.handleLine 0 (escapedLine ++ [newline]) { host := {} }).1 =
        .failed (.builtin "exit" "1\n: numeric argument required") := by
    decide +kernel
  rw [leaves, fails] at same
  contradiction

end Session
end JobShell
