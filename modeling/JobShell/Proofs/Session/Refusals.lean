import JobShell.Proofs.Builtin.Careful
import JobShell.Proofs.Line.Limit
import JobShell.Proofs.Session.Paths
import JobShell.Proofs.Text.Utf8

namespace JobShell

/-!
# Lines that are refused

A line fails before its words are known for what its text is: it is too long, it
is no UTF-8, or one of its words is too long. What comes after never fails for
such a reason: the built-ins blame themselves, a program is not found or a file
name is missing, and a launch fails for an argument or for the system.

The longest line and the longest word are of almost the same size, and so only
one kind of line has a word that is too long: a single word that fills the line
and leaves no room for a newline.
-/

/-- The error is one about the text of a line, and not about what it asks for. -/
def ShellError.aboutText : ShellError → Bool
  | tokenTooLong _ | lineTooLong _ | invalidUtf8 _ => true
  | danglingRedirection _ | commandNotFound _ | fork _ | sys _ _ | io _ _ | nul _
  | builtin _ _ => false

namespace Builtin

/-- A failure is reported as the built-in's own. -/
def Blames (handler : Handler) : Prop :=
  ∀ (listing : List (Text × Text)) (words : List Text) (console : Console)
      (e : ShellError),
    (handler listing words console).1 = .error e →
    ∃ name detail, e = .builtin name detail

theorem blames_help : Blames help := by
  intro listing words console e failed
  unfold help at failed
  rw [run_bind] at failed
  cases answer : (writeTexts (listing.map helpLine) console).1 with
  | ok done =>
      rw [answer] at failed
      contradiction
  | error trouble =>
      rw [answer] at failed
      exact ⟨_, _, (Except.error.inj failed).symm⟩

theorem blames_leave : Blames leave := by
  intro listing words console e failed
  unfold leave at failed
  cases typed : words[1]? with
  | none =>
      rw [typed] at failed
      contradiction
  | some code =>
      rw [typed] at failed
      dsimp only at failed
      cases parsed : Integer.parse32? code with
      | some value =>
          rw [parsed] at failed
          contradiction
      | none =>
          rw [parsed] at failed
          exact ⟨_, _, (Except.error.inj failed).symm⟩

theorem blames_showDirectory : Blames showDirectory := by
  intro listing words console e failed
  unfold showDirectory at failed
  rw [run_bind, run_get] at failed
  dsimp only at failed
  cases path : console.space.directoryPath with
  | error trouble =>
      rw [path] at failed
      exact ⟨_, _, (Except.error.inj failed).symm⟩
  | ok path' =>
      rw [path] at failed
      dsimp only at failed
      rw [run_bind] at failed
      cases answer : (writeText (Utf8.decodeLossy path' ++ ['\n']) console).1 with
      | ok done =>
          rw [answer] at failed
          contradiction
      | error trouble =>
          rw [answer] at failed
          exact ⟨_, _, (Except.error.inj failed).symm⟩

theorem blames_changeDirectory : Blames changeDirectory := by
  intro listing words console e failed
  unfold changeDirectory at failed
  rw [run_bind, run_get] at failed
  dsimp only at failed
  cases moving :
      console.space.changeDirectory
        (Utf8.encode (console.space.expandTilde (words[1]?.getD ['~']))) with
  | error trouble =>
      rw [moving] at failed
      exact ⟨_, _, (Except.error.inj failed).symm⟩
  | ok moved =>
      rw [moving] at failed
      contradiction

end Builtin

/-- The built-ins of a new shell blame themselves. -/
theorem BuiltinTable.blames_default :
    ∀ builtin ∈ BuiltinTable.default.entries, Builtin.Blames builtin.handler :=
  forall_default Builtin.blames_help Builtin.blames_leave
    Builtin.blames_showDirectory Builtin.blames_changeDirectory

theorem Command.error_of_ofWords?
    {words : List Text}
    {e : ShellError}
    (failed : ofWords? words = .error e) :
    ∃ operator, e = .danglingRedirection operator := by
  cases words with
  | nil =>
      contradiction
  | cons name rest =>
      simp only [ofWords?, Reader.next, Reader.ofWords] at failed
      generalize rest.dropWhile (!isOperator ·) = left at failed
      unfold Reader.readOperator at failed
      split at failed
      · contradiction
      · split at failed
        · contradiction
        · exact ⟨_, (Except.error.inj failed).symm⟩
        · contradiction

namespace Session

theorem error_of_findProgram
    {words : List Text}
    {host : Host}
    {e : ShellError}
    (failed : (findProgram words host).1 = .error e) :
    e.aboutText = false := by
  simp only [findProgram, run_bind, run_get, Descriptor.build] at failed
  cases found : Command.ofWords? words with
  | error trouble =>
      obtain ⟨operator, rfl⟩ := Command.error_of_ofWords? found
      rw [found] at failed
      obtain rfl := Except.error.inj failed
      rfl
  | ok command =>
      rw [found] at failed
      dsimp only [Except.map] at failed
      generalize
        (command.bind fun command =>
          (Descriptor.resolveProgram? host.space
            (host.space.lookupVariable? "PATH") command.name).map
              (Descriptor.ofCommand · command)) = descriptor at failed
      cases descriptor with
      | none =>
          obtain rfl := Except.error.inj failed
          rfl
      | some descriptor =>
          contradiction

theorem error_of_execute
    {terminal : Terminal}
    {descriptor : Descriptor}
    {before after : Shell}
    {e : ShellError}
    (refused : Shell.execute terminal descriptor before = (.refused e, after)) :
    e.aboutText = false := by
  cases Shell.execute_executed refused with
  | malformed _ problem =>
      obtain ⟨position, rfl⟩ := Shell.nul_of_malformed problem
      rfl
  | notBlocked =>
      rfl
  | notForked =>
      rfl

/--
With the built-ins of a new shell, a line fails for its text exactly if it
cannot be read.
-/
theorem handleLine_failed_iff
    {session : Session}
    (builtins : session.builtins = BuiltinTable.default)
    {e : ShellError}
    (aboutText : e.aboutText = true)
    (number : Nat)
    (raw : Bytes)
    (shell : Shell) :
    (session.handleLine number raw shell).1 = .failed e ↔
      readWords session.settings raw = .error e := by
  constructor
  · intro failed
    have handled :
        Handled session number raw shell (.failed e)
          (session.handleLine number raw shell).2 :=
      handleLine_handled (Prod.ext failed rfl)
    generalize (session.handleLine number raw shell).2 = after at handled
    cases handled with
    | unread _ unreadable =>
        exact unreadable
    | failed words _ read answered =>
        obtain ⟨builtin, console, -, -, selected, ran, -⟩ :=
          consulted_some answered
        have known := BuiltinTable.mem_of_select? selected
        rw [builtins] at known
        obtain ⟨name, detail, rfl⟩ :=
          BuiltinTable.blames_default builtin known _ _ _ e (by rw [ran])
        contradiction
    | program words _ _ read ran unanswered =>
        have other : e.aboutText = false := by
          cases runProgram_started ran with
          | unfound _ unfound =>
              exact error_of_findProgram unfound
          | refused descriptor _ _ found refused =>
              exact error_of_execute refused
        rw [aboutText] at other
        contradiction
  · intro unreadable
    rw [handleLine_eq, unreadable]
    rfl

/--
A line that is no longer than a longest word and a newline has a word that is too
long exactly if it is all one word, of that length and with nothing in it that is
white space, a quote or a backslash.
-/
theorem readWords_tokenTooLong_iff
    {settings : Settings}
    (longest : settings.maxLine = Words.defaultLimit + 1)
    (raw : Bytes)
    (limit : Nat) :
    readWords settings raw = .error (.tokenTooLong limit) ↔
      limit = Words.defaultLimit ∧
        raw.length = settings.maxLine ∧
        ∃ line, Utf8.encode line = raw ∧ ∀ c ∈ line, Words.Ordinary c := by
  by_cases fits : raw.length ≤ settings.maxLine
  · rw [readWords_of_le fits]
    cases decoded : Utf8.decode raw with
    | error offset =>
        constructor
        · intro refused
          have same := Except.error.inj refused
          contradiction
        · rintro ⟨-, -, line, encoded, -⟩
          rw [(Utf8.decode_eq_ok_iff raw line).mpr encoded] at decoded
          contradiction
    | ok line =>
        have encoded := (Utf8.decode_eq_ok_iff raw line).mp decoded
        have size : raw.length = Words.byteSize line := by
          rw [← encoded, Words.length_encode]
        have short : Words.byteSize line ≤ Words.defaultLimit + 1 := by
          omega
        constructor
        · intro refused
          obtain rfl : limit = Words.defaultLimit :=
            ShellError.tokenTooLong.inj (Words.error_of_split refused)
          obtain ⟨whole, ordinary⟩ := (Words.split_eq_error_iff short).mp refused
          exact ⟨rfl, by omega, line, encoded, ordinary⟩
        · rintro ⟨rfl, whole, other, otherEncoded, ordinary⟩
          have same : line = other := by
            have again := (Utf8.decode_eq_ok_iff raw other).mpr otherEncoded
            exact Except.ok.inj (decoded.symm.trans again)
          subst same
          exact (Words.split_eq_error_iff short).mpr ⟨by omega, ordinary⟩
  · rw [readWords_of_lt (Nat.not_le.mp fits)]
    constructor
    · intro refused
      have same := Except.error.inj refused
      contradiction
    · rintro ⟨-, whole, -⟩
      omega

theorem not_ordinary_of_newline
    {line : Text}
    {raw : Bytes}
    (encoded : Utf8.encode line = raw)
    (terminated : raw.getLast? = some newline) :
    ∃ c ∈ line, ¬ Words.Ordinary c := by
  obtain ⟨bytes, rfl⟩ := List.getLast?_eq_some_iff.mp terminated
  have decoded := (Utf8.decode_eq_ok_iff _ line).mpr encoded
  rw [Utf8.decode_newline] at decoded
  cases before : Utf8.decode bytes with
  | error offset =>
      rw [before] at decoded
      contradiction
  | ok text =>
      rw [before] at decoded
      obtain rfl := Except.ok.inj decoded
      exact ⟨'\n', by simp, by decide⟩

/--
With lines of up to 4096 bytes, and words of up to 4095, a line has a word that
is too long exactly if it is UTF-8, 4096 bytes long, and has no white space,
quote or backslash. No line that ends with a newline has one.
-/
theorem handleLine_tokenTooLong_iff
    {session : Session}
    (longest : session.settings.maxLine = 4096)
    (builtins : session.builtins = BuiltinTable.default)
    (number : Nat)
    (raw : Bytes)
    (shell : Shell) :
    (∀ limit,
        (session.handleLine number raw shell).1 = .failed (.tokenTooLong limit) ↔
          limit = 4095 ∧
            raw.length = 4096 ∧
            ∃ line, Utf8.encode line = raw ∧ ∀ c ∈ line, Words.Ordinary c) ∧
      (raw.getLast? = some newline →
        ∀ limit,
          (session.handleLine number raw shell).1 ≠
            .failed (.tokenTooLong limit)) := by
  have tooLong :
      ∀ limit,
        (session.handleLine number raw shell).1 = .failed (.tokenTooLong limit) ↔
          limit = 4095 ∧
            raw.length = 4096 ∧
            ∃ line, Utf8.encode line = raw ∧ ∀ c ∈ line, Words.Ordinary c := by
    intro limit
    rw [handleLine_failed_iff builtins rfl, readWords_tokenTooLong_iff longest,
      longest]
    rfl
  refine ⟨tooLong, fun terminated limit failed => ?_⟩
  obtain ⟨-, -, line, encoded, ordinary⟩ := (tooLong limit).mp failed
  obtain ⟨c, member, special⟩ := not_ordinary_of_newline encoded terminated
  exact special (ordinary c member)

theorem encode_replicate (n : Nat) :
    Utf8.encode (List.replicate n 'x') = List.replicate n 120 := by
  induction n with
  | zero =>
      rfl
  | succ n inductionHypothesis =>
      rw [List.replicate_succ, Utf8.encode_cons, inductionHypothesis]
      rfl

/--
A line of 4096 times the same letter has a word that is too long, and none with
a newline in place of the last of them.
-/
theorem handleLine_filled :
    (unattended.handleLine 0 (List.replicate 4096 120) { host := {} }).1 =
        .failed (.tokenTooLong 4095) ∧
      ∀ limit,
        (unattended.handleLine 0 (List.replicate 4095 120 ++ [newline])
            { host := {} }).1 ≠
          .failed (.tokenTooLong limit) := by
  have longest : unattended.settings.maxLine = 4096 := rfl
  obtain ⟨tooLong, -⟩ :=
    handleLine_tokenTooLong_iff longest rfl 0 (List.replicate 4096 120)
      { host := {} }
  obtain ⟨-, never⟩ :=
    handleLine_tokenTooLong_iff longest rfl 0
      (List.replicate 4095 120 ++ [newline]) { host := {} }
  have ordinary : ∀ c ∈ List.replicate 4096 'x', Words.Ordinary c := by
    intro c member
    rw [List.eq_of_mem_replicate member]
    decide
  refine ⟨(tooLong 4095).mpr ⟨rfl, ?_, _, encode_replicate 4096, ordinary⟩, never ?_⟩
  · exact List.length_replicate
  · exact List.getLast?_concat

end Session
end JobShell
