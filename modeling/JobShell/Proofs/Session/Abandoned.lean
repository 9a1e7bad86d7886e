import JobShell.Proofs.Builtin.Careful
import JobShell.Proofs.Host.Spares
import JobShell.Proofs.Launch.Forks
import JobShell.Proofs.Launch.Window
import JobShell.Proofs.Session.Paths

namespace JobShell

/-!
# Abandoned lines

A line forks once if it can be read, selects no built-in, names a program, can
be handed to the system, and SIGCHLD can be blocked; otherwise it never forks. A
line that fails is abandoned: the jobs, the slots, the files, the terminal and
the mask are as they were, whichever of its steps it fails at.
-/

open Host (Adds Emits Restores SameSpace Silent Spares)
open Shell (WellFormed)

namespace Host

/-- What is only told in the history changes neither files nor faults. -/
theorem Emits.same
    {before after : Host}
    (emits : Emits before after) :
    after.space = before.space ∧ (after.CanBlock ↔ before.CanBlock) := by
  obtain ⟨added, rfl⟩ := emits
  exact ⟨rfl, Iff.rfl⟩

end Host

namespace Session

/-- What must hold of a line and of the host for the line to fork. -/
structure Launches (session : Session) (raw : Bytes) (host : Host) : Prop where
  short : raw.length ≤ session.settings.maxLine
  asks :
    ∃ line first rest command program,
      Utf8.decode raw = .ok line ∧
        tokenize line = .ok (first :: rest) ∧
        session.builtins.lookup? first = none ∧
        Command.ofWords? (first :: rest) = .ok (some command) ∧
        Descriptor.resolveProgram? host.space
            (host.space.lookupVariable? "PATH") command.name =
          some program ∧
        ∀ argument ∈ command.arguments, 0 ∉ Utf8.encode argument
  blocks : host.CanBlock

/-- Words start a process if a program is found, and nothing is in its way. -/
def Starts (words : List Text) (host : Host) : Prop :=
  ∃ descriptor,
    (findProgram words host).1 = .ok descriptor ∧
      (∃ program arguments, WellFormed descriptor program arguments) ∧
      host.CanBlock

/-- A program that is found can be started if its arguments hold no NUL byte. -/
theorem starts_iff {words : List Text} {host : Host} :
    Starts words host ↔
      (∃ command program,
        Command.ofWords? words = .ok (some command) ∧
          Descriptor.resolveProgram? host.space
              (host.space.lookupVariable? "PATH") command.name =
            some program ∧
          ∀ argument ∈ command.arguments, 0 ∉ Utf8.encode argument) ∧
        host.CanBlock := by
  constructor
  · rintro ⟨descriptor, found, ⟨program, arguments, -, argumentsOk⟩, blocks⟩
    obtain ⟨command, path, read, resolved, rfl⟩ :=
      Descriptor.build_eq_some_iff.mp (findProgram_eq_ok_iff.mp found)
    obtain ⟨noNul, -⟩ := Descriptor.systemArguments_eq_ok_iff.mp argumentsOk
    exact ⟨⟨command, path, read, resolved, noNul⟩, blocks⟩
  · rintro ⟨⟨command, program, read, resolved, noNul⟩, blocks⟩
    have found :
        (findProgram words host).1 = .ok (.ofCommand program command) :=
      findProgram_eq_ok_iff.mpr
        (Descriptor.build_eq_some_iff.mpr
          ⟨command, program, read, resolved, rfl⟩)
    have programOk :
        (Descriptor.ofCommand program command).systemProgram = .ok program :=
      checkNul_eq_ok_iff.mpr
        ⟨Descriptor.noNul_of_resolveProgram? resolved, rfl⟩
    have argumentsOk :
        (Descriptor.ofCommand program command).systemArguments = .ok _ :=
      Descriptor.systemArguments_eq_ok_iff.mpr ⟨noNul, rfl⟩
    exact ⟨_, found, ⟨_, _, programOk, argumentsOk⟩, blocks⟩

theorem not_starts_nil {host : Host} : ¬Starts [] host := by
  intro starts
  obtain ⟨⟨command, program, read, -⟩, -⟩ := starts_iff.mp starts
  have nothing : Command.ofWords? [] = .ok none := rfl
  exact nomatch nothing.symm.trans read

variable {session : Session} {number : Nat} {raw : Bytes} {host : Host}

/-- A line launches exactly if its words are no built-in's and start a process. -/
theorem launches_iff :
    session.Launches raw host ↔
      ∃ words,
        readWords session.settings raw = .ok words ∧
          session.builtins.select? words = none ∧
          Starts words host := by
  constructor
  · rintro ⟨short, ⟨line, first, rest, command, program, decoded, split,
      unselected, read, resolved, noNul⟩, blocks⟩
    exact
      ⟨first :: rest, readWords_eq_ok_iff.mpr ⟨short, line, decoded, split⟩,
        unselected,
        starts_iff.mpr ⟨⟨command, program, read, resolved, noNul⟩, blocks⟩⟩
  · rintro ⟨words, wordsRead, unselected, starts⟩
    obtain ⟨short, line, decoded, split⟩ := readWords_eq_ok_iff.mp wordsRead
    cases words with
    | nil =>
        exact absurd starts not_starts_nil
    | cons first rest =>
        obtain ⟨⟨command, program, read, resolved, noNul⟩, blocks⟩ :=
          starts_iff.mp starts
        exact
          ⟨short, ⟨line, first, rest, command, program, decoded, split,
            unselected, read, resolved, noNul⟩, blocks⟩

/-- What is only told in the history changes nothing about a start. -/
theorem starts_of_emits
    {before after : Host}
    (emits : Emits before after)
    (words : List Text) :
    Starts words after ↔ Starts words before := by
  obtain ⟨space, blocks⟩ := emits.same
  simp only [starts_iff, space, blocks]

/-- The program of a line forks once if it is started, and otherwise never. -/
theorem runProgram_fork
    {words : List Text}
    {before after : Shell}
    {result : LineResult}
    (ran : session.runProgram words before = (result, after)) :
    ∃ answer : Option ForkAnswer,
      (answer.isSome = true ↔ Starts words before.host) ∧
        Adds Event.isFork (History.ofFork answer) before.host after.host := by
  have finds :
      Silent Event.isFork before.host (findProgram words before.host).2 :=
    keeps_findProgram words before.host
  have emits : Emits before.host (findProgram words before.host).2 :=
    keeps_findProgram words before.host
  have executes
      {descriptor : Descriptor}
      {launch : Launch}
      {after : Shell}
      (found : (findProgram words before.host).1 = .ok descriptor)
      (executed :
        Shell.execute session.terminal descriptor
          (before.on (findProgram words before.host).2) = (launch, after)) :
      (launch.answer?.isSome = true ↔ Starts words before.host) ∧
        Adds Event.isFork (History.ofFork launch.answer?)
          before.host after.host := by
    have forks := finds.after_silent (Shell.adds_fork Event.isFork executed)
    have all :
        (History.ofFork launch.answer?).filter Event.isFork =
          History.ofFork launch.answer? := by
      cases launch.answer? <;> rfl
    rw [all] at forks
    refine ⟨(Shell.isSome_answer?_iff executed).trans ?_, forks⟩
    obtain ⟨-, blocks⟩ := emits.same
    rw [Shell.on_host, blocks]
    constructor
    · exact fun able => ⟨descriptor, found, able⟩
    · rintro ⟨other, foundToo, able⟩
      rw [found] at foundToo
      rwa [Except.ok.inj foundToo]
  have reports (descriptor : Descriptor) (pid : Pid) (launched : Shell) :
      Silent Event.isFork launched.host
        (session.reportLaunch descriptor pid launched).2.host :=
    (keeps_reportLaunch session descriptor pid launched).onHost
  cases runProgram_started ran with
  | unfound e found =>
      refine ⟨none, ⟨nofun, ?_⟩, finds⟩
      rintro ⟨descriptor, foundToo, -⟩
      rw [found] at foundToo
      contradiction
  | refused descriptor e _ found executed =>
      exact ⟨_, executes found executed⟩
  | ended descriptor ending _ found executed =>
      exact ⟨_, executes found executed⟩
  | launched descriptor pid launched found executed =>
      obtain ⟨starts, adds⟩ := executes found executed
      exact ⟨_, starts, adds.then_silent (reports descriptor pid launched)⟩
  | untold descriptor pid launched found executed =>
      obtain ⟨starts, adds⟩ := executes found executed
      exact ⟨_, starts, adds.then_silent (reports descriptor pid launched)⟩

/-- A line forks once if it launches, and otherwise never. -/
theorem handleLine_fork
    {before after : Shell}
    {result : LineResult}
    (ran : session.handleLine number raw before = (result, after)) :
    ∃ answer : Option ForkAnswer,
      (answer.isSome = true ↔ session.Launches raw before.host) ∧
        Adds Event.isFork (History.ofFork answer) before.host after.host := by
  have takes :
      Silent Event.isFork before.host (taken number raw before.host) :=
    Host.silent_of_not_fork rfl before.host
  have consults (words : List Text) :
      Silent Event.isFork before.host
        (session.consulted number words (taken number raw before.host)).2 :=
    takes.then_silent (keeps_consulted session number words _)
  rw [launches_iff]
  cases handleLine_handled ran with
  | unread e read =>
      exact ⟨none, by simp [read], takes⟩
  | blank read =>
      refine ⟨none, ⟨nofun, ?_⟩, takes⟩
      rintro ⟨words, same, -, starts⟩
      obtain rfl := Except.ok.inj (read.symm.trans same)
      exact absurd starts not_starts_nil
  | failed words e read answered =>
      refine ⟨none, ⟨nofun, ?_⟩, consults words⟩
      rintro ⟨other, same, unselected, -⟩
      obtain rfl := Except.ok.inj (read.symm.trans same)
      rw [(consulted_eq_none_iff session number _ _).mpr unselected] at answered
      contradiction
  | answered words flow read answered =>
      refine ⟨none, ⟨nofun, ?_⟩, consults words⟩
      rintro ⟨other, same, unselected, -⟩
      obtain rfl := Except.ok.inj (read.symm.trans same)
      rw [(consulted_eq_none_iff session number _ _).mpr unselected] at answered
      contradiction
  | program words _ _ read started unanswered =>
      have unselected : session.builtins.select? words = none :=
        (consulted_eq_none_iff session number words _).mp unanswered
      have emits :
          Emits before.host
            (session.consulted number words (taken number raw before.host)).2 :=
        Frame.trans (Host.emits_emit (.line number raw) before.host)
          (keeps_consulted_of_unselected unselected number _)
      obtain ⟨answer, starts, adds⟩ := runProgram_fork started
      refine ⟨answer, ?_, (consults words).after_silent adds⟩
      rw [starts, Shell.on_host, starts_of_emits emits words]
      constructor
      · exact fun able => ⟨words, read, unselected, able⟩
      · rintro ⟨other, same, -, able⟩
        rwa [Except.ok.inj (read.symm.trans same)]

/-- Every step at which a line of the session can fail keeps the relation. -/
structure Abandons
    (session : Session)
    (relation : Host → Host → Prop) :
    Prop where
  take : ∀ (number : Nat) (raw : Bytes), Ignores relation (.line number raw)
  consult :
    ∀ {number : Nat} {words : List Text} {host : Host} {e : ShellError},
      (session.consulted number words host).1 = some (.error e) →
      relation host (session.consulted number words host).2
  refuse :
    ∀ {descriptor : Descriptor} {before after : Shell} {e : ShellError},
      Shell.execute session.terminal descriptor before = (.refused e, after) →
      Aside relation before after

/-- A line that fails changes only the host, as its steps do. -/
theorem Abandons.handleLine
    {relation : Host → Host → Prop}
    [Noting relation]
    (abandons : session.Abandons relation)
    {before after : Shell}
    {e : ShellError}
    (ran : session.handleLine number raw before = (.failed e, after)) :
    Aside relation before after := by
  have takes : relation before.host (taken number raw before.host) :=
    abandons.take number raw before.host
  cases handleLine_handled ran with
  | unread _ read =>
      exact ⟨_, takes, rfl⟩
  | failed words _ read answered =>
      exact ⟨_, Frame.trans takes (abandons.consult answered), rfl⟩
  | program words _ _ read started unanswered =>
      have unselected : session.builtins.select? words = none :=
        (consulted_eq_none_iff session number words _).mp unanswered
      have consults :
          relation before.host
            (session.consulted number words (taken number raw before.host)).2 :=
        Frame.trans takes (keeps_consulted_of_unselected unselected number _)
      have finds (host : Host) : relation host (findProgram words host).2 :=
        keeps_findProgram words host
      cases runProgram_started started with
      | unfound _ found =>
          exact ⟨_, Frame.trans consults (finds _), rfl⟩
      | refused descriptor _ _ found executed =>
          obtain ⟨host, refuses, rfl⟩ := abandons.refuse executed
          exact
            ⟨host, Frame.trans (Frame.trans consults (finds _)) refuses, rfl⟩

/-- A launch that is refused claims no slot, and leaves the terminal alone. -/
theorem spares_of_refused
    {terminal : Terminal}
    {descriptor : Descriptor}
    {before after : Shell}
    {e : ShellError}
    (ran : Shell.execute terminal descriptor before = (.refused e, after)) :
    Aside Spares before after :=
  Shell.aside_of_refused (fun _ => Host.spares_fork _) ran

theorem spares_abandons (session : Session) : session.Abandons Spares where
  take number raw := Spares.emit rfl
  consult := by
    intro number words host e failed
    obtain ⟨builtin, console, line, name, -, -, consulted⟩ :=
      consulted_some failed
    rw [consulted]
    exact Spares.of_same rfl (by simp [Event.isWork, Event.isTerminal]) rfl
  refuse := spares_of_refused

/-- A careful built-in that fails has left the files alone. -/
theorem sameSpace_abandons
    (careful : session.builtins.Careful) :
    session.Abandons SameSpace where
  take number raw _ := rfl
  consult := by
    intro number words host e failed
    obtain ⟨builtin, console, line, name, selected, ran, consulted⟩ :=
      consulted_some failed
    have member : builtin ∈ session.builtins.entries :=
      BuiltinTable.mem_of_select? selected
    have same :=
      careful builtin member session.builtins.listing words
        { space := host.space } e (congrArg Prod.fst ran)
    rw [ran] at same
    rw [consulted]
    exact same
  refuse := Shell.aside_of_refused fun _ => Host.sameSpace_fork _

instance : Noting Restores where
  note level message host :=
    Host.restores_of_steady
      (Host.keeps_note level message host : Host.Inside host _)

theorem restores_abandons (session : Session) : session.Abandons Restores where
  take number raw host := by
    have takes : Host.Inside host (taken number raw host) :=
      Host.Steady.emit (fun _ => rfl) host
    exact Host.restores_of_steady takes
  consult := by
    intro number words host e _
    have consults :
        Host.Inside host (session.consulted number words host).2 :=
      keeps_consulted session number words host
    exact Host.restores_of_steady consults
  refuse := by
    intro descriptor before after e ran
    obtain ⟨host, -, rfl⟩ := spares_of_refused ran
    exact ⟨host, Shell.restores_execute ran (fun _ => nofun), rfl⟩

/--
What an abandoned line leaves: the jobs, the last status, the slots and, unless
restoring it fails, the mask are as they were; what was added to the history
claims no slot, opens no file and is no call about the terminal; and if the
built-ins are careful, the files and the working directory are as they were.
-/
structure Abandoned
    (session : Session)
    (before after : Shell)
    (events : History) :
    Prop where
  jobs : after.jobs = before.jobs
  lastStatus : after.lastStatus = before.lastStatus
  mask :
    (∀ event ∈ events, event.isRestoreFault = false) →
      after.host.blocked = before.host.blocked
  holds : ∀ pid : Pid, after.host.slots.holds pid = before.host.slots.holds pid
  idle : ∀ event ∈ events, event.isWork = false
  space : session.builtins.Careful → after.host.space = before.host.space

/-- A line that fails is abandoned, whichever of its steps it fails at. -/
theorem abandoned_of_failed
    {before after : Shell}
    {events : History}
    {e : ShellError}
    (ran : session.handleLine number raw before = (.failed e, after))
    (grown : after.host.history = before.host.history ++ events) :
    session.Abandoned before after events := by
  obtain ⟨host, spares, rfl⟩ := (spares_abandons session).handleLine ran
  have restores : Restores before.host host :=
    ((restores_abandons session).handleLine ran).onHost
  obtain ⟨added, addedToo, idle⟩ := spares.grows
  obtain ⟨others, othersToo, mask⟩ := restores
  obtain rfl := List.append_cancel_left (addedToo.symm.trans grown)
  obtain rfl := List.append_cancel_left (othersToo.symm.trans grown)
  exact
    { jobs := rfl
      lastStatus := rfl
      mask := mask
      holds := spares.holds
      idle := idle
      space := fun careful =>
        ((sameSpace_abandons careful).handleLine ran).onHost }

/--
Whatever the line and the shell are, an abandoned line has no effect. The line
forks once if it is within the limit and UTF-8, its words are some and select no
built-in, they make a command whose program is found and whose arguments hold no
NUL byte, and SIGCHLD can be blocked; otherwise it never forks. When it fails,
everything but the history is left as it was. The built-ins of a new shell are
careful about it.
-/
theorem handleLine_abandoned
    (session : Session)
    (number : Nat)
    (raw : Bytes)
    (before : Shell) :
    (∃ events,
      (session.handleLine number raw before).2.host.history =
          before.host.history ++ events ∧
        (session.Launches raw before.host →
          ∃ answer,
            events.filter Event.isFork = [.call (.fork answer) none]) ∧
        (¬session.Launches raw before.host →
          ∀ event ∈ events, event.isFork = false) ∧
        ∀ e,
          (session.handleLine number raw before).1 = .failed e →
          session.Abandoned before
            (session.handleLine number raw before).2 events) ∧
      BuiltinTable.default.Careful := by
  refine ⟨?_, BuiltinTable.careful_default⟩
  cases ran : session.handleLine number raw before with
  | mk result after =>
      obtain ⟨answer, launches, adds⟩ := handleLine_fork ran
      obtain ⟨events, grown, forks⟩ := adds.exists_events
      refine ⟨events, grown, fun able => ?_, fun unable => ?_, ?_⟩
      · obtain ⟨given, rfl⟩ := Option.isSome_iff_exists.mp (launches.mpr able)
        exact ⟨given, forks⟩
      · have unforked : answer = none := by
          rw [← Option.not_isSome_iff_eq_none]
          exact fun some => unable (launches.mp some)
        rw [unforked] at forks
        simpa using List.filter_eq_nil_iff.mp forks
      · rintro e rfl
        exact abandoned_of_failed ran grown

/-- A host with one program, which cannot be forked. -/
def exhausted : Host :=
  { script := { forks := [.failed .eagain] }
    space := { tree := { entries := [([[112]], .file 0o755 [])] } } }

/-- The line `/p`. -/
def plainLine : Bytes := [47, 112]

/-- A line whose fork fails is abandoned. -/
theorem handleLine_abandoned_exhausted :
    unattended.Launches plainLine exhausted ∧
      ∃ events answer,
        (unattended.handleLine 0 plainLine { host := exhausted }).2.host.history =
            events ∧
          events.filter Event.isFork = [.call (.fork answer) none] ∧
          unattended.Abandoned { host := exhausted }
            (unattended.handleLine 0 plainLine { host := exhausted }).2 events ∧
          (unattended.handleLine 0 plainLine
            { host := exhausted }).2.host.space = exhausted.space := by
  obtain ⟨⟨events, grown, forks, -, abandons⟩, careful⟩ :=
    handleLine_abandoned unattended 0 plainLine { host := exhausted }
  have launches : unattended.Launches plainLine exhausted :=
    { short := by decide
      asks :=
        ⟨"/p".toList, "/p".toList, [], ⟨"/p".toList, ["/p".toList], none, false⟩,
          plainLine, by rfl, by rfl, by rfl, by rfl, by rfl, by decide⟩
      blocks := by rfl }
  have failed :
      (unattended.handleLine 0 plainLine { host := exhausted }).1 =
        .failed (.fork .eagain) := by
    decide +kernel
  obtain ⟨answer, forked⟩ := forks launches
  have abandoned := abandons _ failed
  exact
    ⟨launches, events, answer, grown, forked, abandoned,
      abandoned.space careful⟩

end Session
end JobShell
