import JobShell.Proofs.Host.Written
import JobShell.Proofs.Launch.Keeps
import JobShell.Session

namespace JobShell

/-!
# The ways a line can go

A line is read or not, a built-in answers for it or not, and what is left is a
launch. Statements about sessions split along these ways; what a session does
between them is aside: it changes the host in ways that few relations mind.
-/

/-- After such a line the session goes on. -/
def LineResult.goesOn : LineResult → Bool
  | flow .resume | failed _ => true
  | flow (.exit _) | ended _ => false

namespace Session

section Reading

variable {settings : Settings} {raw : Bytes}

/-- Lines within the limit are decoded, and then split into words. -/
theorem readWords_of_le (fits : raw.length ≤ settings.maxLine) :
    readWords settings raw =
      match Utf8.decode raw with
      | .error offset => .error (.invalidUtf8 offset)
      | .ok line => tokenize line :=
  if_neg (Nat.not_lt.mpr fits)

theorem readWords_of_lt (tooLong : settings.maxLine < raw.length) :
    readWords settings raw = .error (.lineTooLong settings.maxLine) :=
  if_pos tooLong

/-- A line is read if it is within the limit, is UTF-8, and has only short words. -/
theorem readWords_eq_ok_iff {words : List Text} :
    readWords settings raw = .ok words ↔
      raw.length ≤ settings.maxLine ∧
        ∃ line, Utf8.decode raw = .ok line ∧ tokenize line = .ok words := by
  by_cases fits : raw.length ≤ settings.maxLine
  · rw [readWords_of_le fits]
    cases Utf8.decode raw <;> simp [fits]
  · rw [readWords_of_lt (Nat.not_le.mp fits)]
    simp [fits]

end Reading

section Searching

variable {relation : Host → Host → Prop} [Noting relation]

/-- The search for a program only leaves messages in the log. -/
theorem keeps_noteSearch (space : Workspace) (words : List Text) :
    Keeps relation (noteSearch space words) := by
  refine Keeps.when (Host.keeps_note _ _) ?_
  split
  · exact Keeps.pure _
  · exact Keeps.pure _
  · refine Keeps.when (Keeps.forM (fun _ => Host.keeps_note _ _) _) ?_
    split
    · exact Keeps.pure _
    · exact Host.keeps_note _ _

theorem keeps_findProgram (words : List Text) :
    Keeps relation (findProgram words) := by
  refine Keeps.bind Keeps.get fun host => ?_
  refine Keeps.bind (keeps_noteSearch _ _) fun _ => ?_
  split <;> exact Keeps.pure _

end Searching

/-- What is found is the descriptor of the words. -/
theorem findProgram_eq_ok_iff
    {words : List Text}
    {host : Host}
    {descriptor : Descriptor} :
    (findProgram words host).1 = .ok descriptor ↔
      Descriptor.build host.space (host.space.lookupVariable? "PATH") words =
        .ok (some descriptor) := by
  simp only [findProgram, run_bind, run_get]
  rcases Descriptor.build host.space (host.space.lookupVariable? "PATH") words
    with e | _ | found <;> simp [run_pure]

section Reporting

variable {relation : Host → Host → Prop} [Telling relation]

theorem keeps_reportJob (session : Session) (job : Job) :
    Keeps relation (session.reportJob job) :=
  Keeps.bind (Host.keeps_note _ _) fun _ =>
    Keeps.ite (Host.keeps_printLine _) (Keeps.pure _)

/-- Telling which jobs changed only reads the jobs. -/
theorem keeps_reportEach (session : Session) (jobs : List Job) :
    Keeps relation (session.reportEach jobs) := by
  induction jobs with
  | nil =>
      exact Keeps.pure _
  | cons job rest inductionHypothesis =>
      exact
        Keeps.bind (keeps_reportJob session job) fun _ =>
          Keeps.ite inductionHypothesis (Keeps.pure _)

end Reporting

section Steps

variable {relation : Host → Host → Prop} [Indifferent relation]

theorem keeps_runBuiltin (session : Session) (words : List Text) :
    Keeps relation (session.runBuiltin words) := by
  unfold runBuiltin
  split
  · exact Keeps.pure _
  · rename_i builtin selected
    refine Keeps.bind (Host.keeps_note _ _) fun _ => ?_
    intro host
    let ran :=
      builtin.handler session.builtins.listing words { space := host.space }
    have outputs :
        Keeps relation (Host.emit (.output ran.2.sink.written)) :=
      Host.keeps_emit rfl
    have changed : relation host { host with space := ran.2.space } :=
      Indifferent.same rfl rfl rfl rfl
    exact Frame.trans changed (outputs _)

/-- Telling how a launch went only reads the table. -/
theorem keeps_reportLaunch
    (session : Session)
    (descriptor : Descriptor)
    (pid : Pid) :
    Keeps (Aside relation) (session.reportLaunch descriptor pid) := by
  refine Keeps.bind Keeps.get fun shell => ?_
  split
  · exact Keeps.ite (Host.keeps_printLine _).aside (Keeps.pure _)
  · exact
      Keeps.bind (Host.keeps_printLine _).aside fun _ =>
        Keeps.ite (Host.keeps_printLine _).aside (Keeps.pure _)
  · exact (Host.keeps_complain _).aside
  · exact Keeps.bind (Host.keeps_note _ _).aside fun _ => Keeps.pure _
  · exact Keeps.pure _

theorem keeps_reportError
    (session : Session)
    (number : Nat)
    (e : ShellError) :
    Keeps relation (session.reportError number e) :=
  Keeps.bind (Host.keeps_note _ _) fun _ => Host.keeps_complain _

/-- The error of a line is reported, if there is one. -/
def IsReported
    (session : Session)
    (number : Nat)
    (result : LineResult)
    (after : Shell) :
    Prop :=
  ∀ e, result = .failed e →
    (session.reportError number e after.host).1 = true

/-- The shell once the error of a line is reported, if there is one. -/
def reported
    (session : Session)
    (number : Nat)
    (result : LineResult)
    (after : Shell) :
    Shell :=
  match result with
  | .failed e => after.on (session.reportError number e after.host).2
  | .flow _ | .ended _ => after

theorem reported_aside
    (session : Session)
    (number : Nat)
    (result : LineResult)
    (after : Shell) :
    Aside relation after (session.reported number result after) := by
  cases result with
  | failed e =>
      exact ⟨_, keeps_reportError session number e after.host, rfl⟩
  | _ =>
      exact Frame.refl after

end Steps

/-- Telling how a launch went answers whether that was written. -/
theorem tells_reportLaunch
    (session : Session)
    (descriptor : Descriptor)
    (pid : Pid) :
    Tells (·.host.history) (session.reportLaunch descriptor pid) := by
  have prints (text : Text) :
      Tells (fun shell : Shell => shell.host.history)
        (liftM (Host.printLine text) : ShellM Bool) :=
    fun shell => Host.tells_printLine text shell.host
  have complains (text : Text) :
      Tells (fun shell : Shell => shell.host.history)
        (liftM (Host.complain text) : ShellM Bool) :=
    fun shell => Host.tells_complain text shell.host
  refine Tells.after MonadState.get fun shell => ?_
  split
  · exact Tells.ite (prints _) Tells.silence
  · exact Tells.both (prints _) (prints _)
  · exact complains _
  · exact Tells.after _ fun _ => Tells.silence
  · exact Tells.silence

theorem tells_reportEach (session : Session) (jobs : List Job) :
    Tells Host.history (session.reportEach jobs) := by
  induction jobs with
  | nil =>
      exact Tells.silence
  | cons job rest inductionHypothesis =>
      refine Tells.both (Tells.after _ fun _ => ?_) inductionHypothesis
      exact Tells.ite (Host.tells_printLine _) Tells.silence

theorem tells_reportJobs (session : Session) :
    Tells (·.host.history) session.reportJobs :=
  Tells.after Shell.collect fun jobs shell =>
    tells_reportEach session jobs shell.host

theorem tells_reportError
    (session : Session)
    (number : Nat)
    (e : ShellError) :
    Tells Host.history (session.reportError number e) :=
  Tells.after _ fun _ => Host.tells_complain _

/-- The host once a line is taken. -/
def taken (number : Nat) (raw : Bytes) (host : Host) : Host :=
  (Host.emit (.line number raw) host).2

/-- What is done about the words of a line, or about the failure to read them. -/
def respond
    (session : Session)
    (number : Nat) :
    Except ShellError (List Text) → ShellM LineResult
  | .error e => return .failed e
  | .ok [] => return .flow .resume
  | .ok (first :: rest) => do
      let words := first :: rest
      Host.note .debug
        (s!"jobsh: line {number}: " ++ String.ofList (Escaped.texts words))
      match ← session.runBuiltin words with
      | some (.ok flow) => return .flow flow
      | some (.error e) => return .failed e
      | none => session.runProgram words

/-- A line is taken, and then only what is read of it counts. -/
theorem handleLine_eq
    (session : Session)
    (number : Nat)
    (raw : Bytes)
    (before : Shell) :
    session.handleLine number raw before =
      session.respond number (readWords session.settings raw)
        (before.on (taken number raw before.host)) := by
  unfold handleLine
  rw [run_bind, Shell.run_lift]
  cases readWords session.settings raw with
  | error e =>
      rfl
  | ok words =>
      cases words <;> rfl

/-- The answer of the built-ins to the words of a line, and the host after it. -/
def consulted
    (session : Session)
    (number : Nat)
    (words : List Text)
    (host : Host) :
    Option (Except ShellError Flow) × Host :=
  session.runBuiltin words
    (Host.note .debug
      (s!"jobsh: line {number}: " ++ String.ofList (Escaped.texts words))
      host).2

/-- Only words that select no built-in are left for a program. -/
theorem consulted_eq_none_iff
    (session : Session)
    (number : Nat)
    (words : List Text)
    (host : Host) :
    (session.consulted number words host).1 = none ↔
      session.builtins.select? words = none := by
  unfold consulted runBuiltin
  cases session.builtins.select? words with
  | none =>
      exact ⟨fun _ => rfl, fun _ => rfl⟩
  | some builtin =>
      exact ⟨nofun, nofun⟩

/-- A built-in that answers is one of the table's, and works on the files. -/
theorem consulted_some
    {session : Session}
    {number : Nat}
    {words : List Text}
    {host : Host}
    {answer : Except ShellError Flow}
    (answered : (session.consulted number words host).1 = some answer) :
    ∃ builtin console line name,
      session.builtins.select? words = some builtin ∧
        builtin.handler session.builtins.listing words
            { space := host.space } = (answer, console) ∧
        (session.consulted number words host).2 =
          { host with
            space := console.space
            history :=
              host.history ++
                [.note .debug line, .note .debug name,
                  .output console.sink.written] } := by
  unfold consulted runBuiltin at answered ⊢
  cases selected : session.builtins.select? words with
  | none =>
      rw [selected] at answered
      contradiction
  | some builtin =>
      rw [selected] at answered
      have inOrder (first second third : Event) :
          host.history ++ [first] ++ [second] ++ [third] =
            host.history ++ [first, second, third] := by
        simp
      refine
        ⟨builtin, _,
          s!"jobsh: line {number}: " ++ String.ofList (Escaped.texts words),
          "jobsh: builtin " ++ String.ofList builtin.name, rfl,
          Prod.ext (Option.some.inj answered) rfl, ?_⟩
      rw [← inOrder]
      rfl

/-- Words that select no built-in are only noted. -/
theorem keeps_consulted_of_unselected
    {relation : Host → Host → Prop}
    [Noting relation]
    {session : Session}
    {words : List Text}
    (unselected : session.builtins.select? words = none)
    (number : Nat)
    (host : Host) :
    relation host (session.consulted number words host).2 := by
  unfold consulted runBuiltin
  rw [unselected]
  exact Host.keeps_note _ _ host

theorem keeps_consulted
    {relation : Host → Host → Prop}
    [Indifferent relation]
    (session : Session)
    (number : Nat)
    (words : List Text)
    (host : Host) :
    relation host (session.consulted number words host).2 :=
  Frame.trans (Host.keeps_note _ _ host) (keeps_runBuiltin session words _)

/-- The ways the program of a line can go. -/
inductive Started
    (session : Session)
    (words : List Text)
    (before : Shell) :
    LineResult → Shell → Prop
  /-- There is no such program. -/
  | unfound (e : ShellError) :
      (findProgram words before.host).1 = .error e →
      Started session words before (.failed e)
        (before.on (findProgram words before.host).2)
  | refused (descriptor : Descriptor) (e : ShellError) (after : Shell) :
      (findProgram words before.host).1 = .ok descriptor →
      Shell.execute session.terminal descriptor
        (before.on (findProgram words before.host).2) =
        (.refused e, after) →
      Started session words before (.failed e) after
  /-- The caller is the child. -/
  | ended (descriptor : Descriptor) (ending : Ending) (after : Shell) :
      (findProgram words before.host).1 = .ok descriptor →
      Shell.execute session.terminal descriptor
        (before.on (findProgram words before.host).2) =
        (.ended ending, after) →
      Started session words before (.ended ending) after
  | launched (descriptor : Descriptor) (pid : Pid) (after : Shell) :
      (findProgram words before.host).1 = .ok descriptor →
      Shell.execute session.terminal descriptor
        (before.on (findProgram words before.host).2) =
        (.launched pid, after) →
      (session.reportLaunch descriptor pid after).1 = true →
      Started session words before (.flow .resume)
        (session.reportLaunch descriptor pid after).2
  /-- The user cannot be told how the launch went. -/
  | untold (descriptor : Descriptor) (pid : Pid) (after : Shell) :
      (findProgram words before.host).1 = .ok descriptor →
      Shell.execute session.terminal descriptor
        (before.on (findProgram words before.host).2) =
        (.launched pid, after) →
      (session.reportLaunch descriptor pid after).1 = false →
      Started session words before (.ended .panicked)
        (session.reportLaunch descriptor pid after).2

/-- The program of a line goes one of these ways. -/
theorem runProgram_started
    {session : Session}
    {words : List Text}
    {before after : Shell}
    {result : LineResult}
    (ran : session.runProgram words before = (result, after)) :
    Started session words before result after := by
  unfold runProgram at ran
  rw [run_bind, Shell.run_lift] at ran
  cases found : (findProgram words before.host).1 with
  | error e =>
      rw [found] at ran
      obtain ⟨rfl, rfl⟩ := Prod.mk.inj ran
      exact .unfound e found
  | ok descriptor =>
      rw [found] at ran
      dsimp only at ran
      rw [run_bind] at ran
      cases executed :
          Shell.execute session.terminal descriptor
            (before.on (findProgram words before.host).2) with
      | mk launch launched =>
          rw [executed] at ran
          cases launch with
          | refused e =>
              obtain ⟨rfl, rfl⟩ := Prod.mk.inj ran
              exact .refused descriptor e launched found executed
          | ended ending =>
              obtain ⟨rfl, rfl⟩ := Prod.mk.inj ran
              exact .ended descriptor ending launched found executed
          | launched pid =>
              dsimp only at ran
              rw [run_bind] at ran
              cases told : (session.reportLaunch descriptor pid launched).1 with
              | true =>
                  rw [told] at ran
                  obtain ⟨rfl, rfl⟩ := Prod.mk.inj ran
                  exact .launched descriptor pid launched found executed told
              | false =>
                  rw [told] at ran
                  obtain ⟨rfl, rfl⟩ := Prod.mk.inj ran
                  exact .untold descriptor pid launched found executed told

/-- The ways a line can go. -/
inductive Handled
    (session : Session)
    (number : Nat)
    (raw : Bytes)
    (before : Shell) :
    LineResult → Shell → Prop
  /-- It cannot be read. -/
  | unread (e : ShellError) :
      readWords session.settings raw = .error e →
      Handled session number raw before (.failed e)
        (before.on (taken number raw before.host))
  | blank :
      readWords session.settings raw = .ok [] →
      Handled session number raw before (.flow .resume)
        (before.on (taken number raw before.host))
  /-- A built-in fails. -/
  | failed (words : List Text) (e : ShellError) :
      readWords session.settings raw = .ok words →
      (session.consulted number words (taken number raw before.host)).1 =
        some (.error e) →
      Handled session number raw before (.failed e)
        (before.on
          (session.consulted number words (taken number raw before.host)).2)
  /-- A built-in succeeds. -/
  | answered (words : List Text) (flow : Flow) :
      readWords session.settings raw = .ok words →
      (session.consulted number words (taken number raw before.host)).1 =
        some (.ok flow) →
      Handled session number raw before (.flow flow)
        (before.on
          (session.consulted number words (taken number raw before.host)).2)
  /-- It asks for a program. -/
  | program
      (words : List Text)
      (result : LineResult)
      (after : Shell) :
      readWords session.settings raw = .ok words →
      session.runProgram words
        (before.on
          (session.consulted number words
            (taken number raw before.host)).2) = (result, after) →
      (session.consulted number words (taken number raw before.host)).1 =
        none →
      Handled session number raw before result after

/-- A line goes one of these ways. -/
theorem handleLine_handled
    {session : Session}
    {number : Nat}
    {raw : Bytes}
    {before after : Shell}
    {result : LineResult}
    (ran : session.handleLine number raw before = (result, after)) :
    Handled session number raw before result after := by
  unfold handleLine at ran
  rw [run_bind, Shell.run_lift] at ran
  cases read : readWords session.settings raw with
  | error e =>
      rw [read] at ran
      obtain ⟨rfl, rfl⟩ := Prod.mk.inj ran
      exact .unread e read
  | ok words =>
      rw [read] at ran
      cases words with
      | nil =>
          obtain ⟨rfl, rfl⟩ := Prod.mk.inj ran
          exact .blank read
      | cons first rest =>
          dsimp only at ran
          rw [run_bind, Shell.run_lift, run_bind, Shell.run_lift] at ran
          simp only [Shell.on_host, Shell.on_on] at ran
          cases answered :
              (session.consulted number (first :: rest)
                (taken number raw before.host)).1 with
          | none =>
              have asked := answered
              unfold consulted taken at answered
              rw [answered] at ran
              exact .program _ result after read ran asked
          | some answer =>
              have asked := answered
              unfold consulted taken at answered
              rw [answered] at ran
              cases answer with
              | error e =>
                  obtain ⟨rfl, rfl⟩ := Prod.mk.inj ran
                  exact .failed _ e read asked
              | ok flow =>
                  obtain ⟨rfl, rfl⟩ := Prod.mk.inj ran
                  exact .answered _ flow read asked

/-- A prompt is shown or fails; without a terminal there is none. -/
theorem keeps_prompt
    {relation : Host → Host → Prop}
    [Lenient relation]
    {number : Nat}
    (shown : ∀ text : Text, Ignores relation (.prompt number text))
    (fails : ∀ errno : Errno, Ignores relation (.unprompted number errno))
    (session : Session) :
    Keeps relation (session.prompt number).run := by
  unfold prompt
  split
  · refine Keeps.bindE (Keeps.liftE Host.keeps_nextPrompt) fun fault => ?_
    cases fault with
    | none =>
        exact Keeps.liftE (shown _)
    | some errno =>
        exact Keeps.bindE (Keeps.liftE (fails errno)) fun _ => Keeps.pure _
  · exact Keeps.pure _

/-- The ways what comes before a line can go. -/
inductive Begun (session : Session) (number : Nat) (before : Shell) :
    Except SessionResult Unit → Shell → Prop
  /-- A job that changed cannot be reported. -/
  | unreported :
      (session.reportJobs before).1 = false →
      Begun session number before (.error (.ended .panicked))
        (session.reportJobs before).2
  /-- The prompt fails. -/
  | unprompted (e : ShellError) (after : Host) :
      (session.prompt number).run (session.reportJobs before).2.host =
        (.error e, after) →
      Begun session number before (.error (.failed e))
        ((session.reportJobs before).2.on after)
  /-- The line can be read. -/
  | prompted (after : Host) :
      (session.prompt number).run (session.reportJobs before).2.host =
        (.ok (), after) →
      Begun session number before (.ok ())
        ((session.reportJobs before).2.on after)

theorem beforeLine_begun
    {session : Session}
    {number : Nat}
    {before after : Shell}
    {answer : Except SessionResult Unit}
    (ran : session.beforeLine number before = (answer, after)) :
    Begun session number before answer after := by
  unfold beforeLine at ran
  rw [run_bind] at ran
  cases told : (session.reportJobs before).1 with
  | false =>
      rw [told] at ran
      obtain ⟨rfl, rfl⟩ := Prod.mk.inj ran
      exact .unreported told
  | true =>
      rw [told, if_pos rfl, run_bind, Shell.run_lift] at ran
      cases prompts :
          (session.prompt number).run (session.reportJobs before).2.host with
      | mk shown prompted =>
          rw [prompts] at ran
          cases shown with
          | error e =>
              obtain ⟨rfl, rfl⟩ := Prod.mk.inj ran
              exact .unprompted e prompted prompts
          | ok done =>
              obtain ⟨rfl, rfl⟩ := Prod.mk.inj ran
              exact .prompted prompted prompts

/-- The input is over or fails, and that is only told. -/
theorem keeps_endInput
    {relation : Host → Host → Prop}
    [Telling relation]
    (session : Session)
    (trouble : Option Errno) :
    Keeps (Aside relation) (session.endInput trouble) := by
  cases trouble with
  | some errno =>
      exact Keeps.pure _
  | none =>
      refine Keeps.bind (Host.keeps_note _ _).aside fun _ => ?_
      refine Keeps.ite ?_ (Keeps.pure _)
      exact
        Keeps.bind (Host.keeps_printLine _).aside fun _ =>
          Keeps.ite (Keeps.pure _) (Keeps.pure _)

/-- How a session ends when there is no line to read. -/
inductive Closed (trouble : Option Errno) (after : Shell) :
    SessionResult → Prop
  /-- The input is over. -/
  | finished : trouble = none → Closed trouble after (.exit 0)
  /-- Reading fails. -/
  | broken (errno : Errno) :
      trouble = some errno →
      Closed trouble after
        (.failed (.io (Utf8.ofString "<stdin>") (.refused errno)))
  /-- The input is over, and that cannot be written. -/
  | unwritten :
      ¬ after.host.history.Written → Closed trouble after (.ended .panicked)

theorem endInput_closed
    {session : Session}
    {trouble : Option Errno}
    {before after : Shell}
    {result : SessionResult}
    (ran : session.endInput trouble before = (result, after)) :
    Closed trouble after result := by
  cases trouble with
  | some errno =>
      obtain ⟨rfl, rfl⟩ := Prod.mk.inj ran
      exact .broken errno rfl
  | none =>
      unfold endInput at ran
      dsimp only at ran
      rw [run_bind, Shell.run_lift] at ran
      cases interactive : session.terminal.isInteractive with
      | false =>
          rw [interactive] at ran
          obtain ⟨rfl, rfl⟩ := Prod.mk.inj ran
          exact .finished rfl
      | true =>
          rw [interactive, if_pos rfl, run_bind, Shell.run_lift] at ran
          split at ran
          · obtain ⟨rfl, rfl⟩ := Prod.mk.inj ran
            exact .finished rfl
          · rename_i untold
            obtain ⟨rfl, rfl⟩ := Prod.mk.inj ran
            exact
              .unwritten
                ((Host.tells_printLine []).unwritten (by simpa using untold))

/-- The courses of a session, from the line with a number on. -/
inductive Course
    (session : Session)
    (trouble : Option Errno) :
    Nat → List Bytes → Shell → SessionResult → Shell → Prop
  /-- The prompt fails, or a job cannot be reported. -/
  | unprompted
      {number : Nat}
      {lines : List Bytes}
      {before after : Shell}
      (result : SessionResult) :
      session.beforeLine number before = (.error result, after) →
      Course session trouble number lines before result after
  /-- There is no line to read. -/
  | unread
      {number : Nat}
      {before prompted after : Shell}
      {result : SessionResult} :
      session.beforeLine number before = (.ok (), prompted) →
      session.endInput trouble prompted = (result, after) →
      Course session trouble number [] before result after
  /-- The line leaves the session. -/
  | left
      {number : Nat}
      {raw : Bytes}
      {rest : List Bytes}
      {before prompted after : Shell}
      (code : Int) :
      session.beforeLine number before = (.ok (), prompted) →
      session.handleLine number raw prompted = (.flow (.exit code), after) →
      Course session trouble number (raw :: rest) before (.exit code)
        (after.on (Host.note .debug s!"jobsh: exit {code}" after.host).2)
  /-- The line makes the process a child that has ended, or the process panics. -/
  | parted
      {number : Nat}
      {raw : Bytes}
      {rest : List Bytes}
      {before prompted after : Shell}
      (ending : Ending) :
      session.beforeLine number before = (.ok (), prompted) →
      session.handleLine number raw prompted = (.ended ending, after) →
      Course session trouble number (raw :: rest) before (.ended ending) after
  /-- The error of the line cannot be reported. -/
  | unreported
      {number : Nat}
      {raw : Bytes}
      {rest : List Bytes}
      {before prompted handled : Shell}
      (e : ShellError) :
      session.beforeLine number before = (.ok (), prompted) →
      session.handleLine number raw prompted = (.failed e, handled) →
      (session.reportError number e handled.host).1 = false →
      Course session trouble number (raw :: rest) before (.ended .panicked)
        (session.reported number (.failed e) handled)
  /-- The session goes on with the next line, whether this one failed or not. -/
  | goesOn
      {number : Nat}
      {raw : Bytes}
      {rest : List Bytes}
      {before prompted handled after : Shell}
      {line : LineResult}
      {result : SessionResult} :
      session.beforeLine number before = (.ok (), prompted) →
      session.handleLine number raw prompted = (line, handled) →
      line.goesOn = true →
      session.IsReported number line handled →
      Course session trouble (number + 1) rest
        (session.reported number line handled) result after →
      Course session trouble number (raw :: rest) before result after

/-- After a line that does not leave, the session goes on with the next. -/
theorem runLines_goesOn
    {session : Session}
    {shell prompted after : Shell}
    {number : Nat}
    {raw : Bytes}
    {result : LineResult}
    (trouble : Option Errno)
    (rest : List Bytes)
    (prompts : session.beforeLine number shell = (.ok (), prompted))
    (ran : session.handleLine number raw prompted = (result, after))
    (goesOn : result.goesOn = true)
    (reports : session.IsReported number result after) :
    session.runLines trouble number (raw :: rest) shell =
      session.runLines trouble (number + 1) rest
        (session.reported number result after) := by
  rw [runLines, run_bind, prompts]
  dsimp only
  rw [run_bind, ran]
  cases result with
  | ended ending =>
      contradiction
  | failed e =>
      dsimp only
      rw [run_bind, Shell.run_lift, reports e rfl]
      rfl
  | flow flow =>
      cases flow with
      | exit code =>
          contradiction
      | resume =>
          rfl

/-- A session takes one of the courses. -/
theorem runLines_course
    {session : Session}
    {trouble : Option Errno}
    {number : Nat}
    {lines : List Bytes}
    {before after : Shell}
    {result : SessionResult}
    (ran :
      session.runLines trouble number lines before = (result, after)) :
    Course session trouble number lines before result after := by
  induction lines generalizing number before with
  | nil =>
      rw [runLines, run_bind] at ran
      cases prompts : session.beforeLine number before with
      | mk answer prompted =>
          rw [prompts] at ran
          cases answer with
          | error e =>
              obtain ⟨rfl, rfl⟩ := Prod.mk.inj ran
              exact .unprompted e prompts
          | ok done =>
              exact .unread prompts ran
  | cons raw rest inductionHypothesis =>
      cases prompts : session.beforeLine number before with
      | mk answer prompted =>
          cases answer with
          | error e =>
              rw [runLines, run_bind, prompts] at ran
              obtain ⟨rfl, rfl⟩ := Prod.mk.inj ran
              exact .unprompted e prompts
          | ok done =>
              cases handles : session.handleLine number raw prompted with
              | mk line handled =>
                  rw [runLines, run_bind, prompts] at ran
                  dsimp only at ran
                  rw [run_bind, handles] at ran
                  cases line with
                  | ended ending =>
                      obtain ⟨rfl, rfl⟩ := Prod.mk.inj ran
                      exact .parted ending prompts handles
                  | failed e =>
                      dsimp only at ran
                      rw [run_bind, Shell.run_lift] at ran
                      cases told : (session.reportError number e handled.host).1 with
                      | false =>
                          rw [told] at ran
                          obtain ⟨rfl, rfl⟩ := Prod.mk.inj ran
                          exact .unreported e prompts handles told
                      | true =>
                          rw [told] at ran
                          have reports :
                              session.IsReported number (.failed e) handled := by
                            rintro _ ⟨⟩
                            exact told
                          exact
                            .goesOn prompts handles rfl reports
                              (inductionHypothesis ran)
                  | flow flow =>
                      cases flow with
                      | resume =>
                          exact
                            .goesOn prompts handles rfl nofun
                              (inductionHypothesis ran)
                      | exit code =>
                          obtain ⟨rfl, rfl⟩ := Prod.mk.inj ran
                          exact .left code prompts handles

/-- The shell before the first line, which only a message is told of. -/
def opened (session : Session) (shell : Shell) : Shell :=
  shell.on
    (Host.note .debug
      (s!"jobsh: ready, interactive={session.terminal.isInteractive} " ++
        s!"pgid={session.terminal.group}") shell.host).2

theorem opened_aside
    {relation : Host → Host → Prop}
    [Noting relation]
    (session : Session)
    (shell : Shell) :
    Aside relation shell (session.opened shell) :=
  ⟨_, Host.keeps_note _ _ shell.host, rfl⟩

/-- A session on its input takes a course from the first line on. -/
theorem run_course
    {session : Session}
    {input : Input}
    {before after : Shell}
    {result : SessionResult}
    (ran : session.run input before = (result, after)) :
    Course session input.trouble? 0 input.lines (session.opened before)
      result after :=
  runLines_course ran

/-- A session without a terminal. -/
def unattended : Session :=
  { settings := { logDirectory := [] }
    theme := Theme.load "plain" false
    terminal := .detached 500 }

end Session
end JobShell
