import JobShell.Proofs.Launch.Trail
import JobShell.Proofs.Session.Keeps

namespace JobShell

/-!
# What a session adds to a trail

A session on a claimed terminal is a sequence of rounds: a prompt, a line, and
what the line launches. `Rounds` says so for the trail of active events. The
numbers of the prompts and the lines that remain follow the recursion of
`Session.runLines`, so the rounds of a session are found by induction on them.
-/

open Host (Adds Silent)
open Shell (Launching)

namespace Session

/-- The words ask for a job in the background. -/
def asksBackground (words : List Text) : Bool :=
  match Command.ofWords? words with
  | .ok (some command) => command.background
  | _ => false

/-- The line asks for a job in the background. -/
def isBackground (settings : Settings) (raw : Bytes) : Bool :=
  match readWords settings raw with
  | .ok words => asksBackground words
  | .error _ => false

/--
The active events of a session on a claimed terminal, from the line with a
number on: a prompt for each line, the line, and what it launches. After a prompt
that fails there is nothing more, nor once the process panics, if it does.
-/
inductive Rounds
    (settings : Settings)
    (group : Pid)
    (modes : Option Modes)
    (panics : Prop) :
    Nat → List Bytes → History → Prop
  /-- The process panics. -/
  | panicked (number : Nat) (lines : List Bytes) :
      panics → Rounds settings group modes panics number lines []
  /-- The prompt fails. -/
  | unprompted (number : Nat) (errno : Errno) (lines : List Bytes) :
      Rounds settings group modes panics number lines [.unprompted number errno]
  /-- There is no line to read at the prompt. -/
  | stop (number : Nat) (text : Text) :
      Rounds settings group modes panics number [] [.prompt number text]
  /-- The line leaves the session. -/
  | leave (number : Nat) (text : Text) (raw : Bytes) (rest : List Bytes) :
      Rounds settings group modes panics number (raw :: rest)
        [.prompt number text, .line number raw]
  /-- The session goes on after the line. -/
  | line
      (number : Nat)
      (text : Text)
      (raw : Bytes)
      (rest : List Bytes)
      (body later : History) :
      Launching (isBackground settings raw) group modes body →
      Rounds settings group modes panics (number + 1) rest later →
      Rounds settings group modes panics number (raw :: rest)
        (.prompt number text :: .line number raw :: body ++ later)

/-- Where the process panics in fewer cases, it does in more. -/
theorem Rounds.imp
    {settings : Settings}
    {group : Pid}
    {modes : Option Modes}
    {panics panicsToo : Prop}
    {number : Nat}
    {lines : List Bytes}
    {rounds : History}
    (follows : panics → panicsToo)
    (are : Rounds settings group modes panics number lines rounds) :
    Rounds settings group modes panicsToo number lines rounds := by
  induction are with
  | panicked number lines panicked =>
      exact .panicked number lines (follows panicked)
  | unprompted number errno lines =>
      exact .unprompted number errno lines
  | stop number text =>
      exact .stop number text
  | leave number text raw rest =>
      exact .leave number text raw rest
  | line number text raw rest body later launching _ inductionHypothesis =>
      exact
        .line number text raw rest body later launching inductionHypothesis

/-- A descriptor that is found is in the background when its words ask for it. -/
theorem findProgram_background
    {words : List Text}
    {host : Host}
    {descriptor : Descriptor}
    (found : (findProgram words host).1 = .ok descriptor) :
    descriptor.background = asksBackground words := by
  obtain ⟨command, program, read, -, rfl⟩ :=
    Descriptor.build_eq_some_iff.mp (findProgram_eq_ok_iff.mp found)
  unfold asksBackground
  rw [read]
  rfl

/-- The process panics at the line, because something could not be written. -/
def Panics (result : LineResult) (after : Shell) : Prop :=
  result = .ended .panicked ∧ ¬ after.host.history.Written

/--
The session of a process that is no child: if the process is over, it panics,
because something could not be written.
-/
def Stays (result : SessionResult) (after : Shell) : Prop :=
  ∀ ending, result = .ended ending →
    ending = .panicked ∧ ¬ after.host.history.Written

theorem stays_of_unwritten
    {after : Shell}
    (unwritten : ¬ after.host.history.Written) :
    Stays (.ended .panicked) after := by
  rintro ending ⟨⟩
  exact ⟨rfl, unwritten⟩

/-- So does a session that ends because there is no line to read. -/
theorem Closed.stays
    {trouble : Option Errno}
    {after : Shell}
    {result : SessionResult}
    (closed : Closed trouble after result) :
    Stays result after := by
  cases closed with
  | finished | broken =>
      exact fun _ => nofun
  | unwritten unwritten =>
      exact stays_of_unwritten unwritten

/--
What launches of a session add to a trail that has its lines, in the background
or not. None of them makes the shell a child.
-/
structure Traced
    (session : Session)
    (keep : Event → Bool)
    (launching : Bool → History → Prop) :
    Prop where
  line : ∀ (number : Nat) (raw : Bytes), keep (.line number raw) = true
  refused : ∀ background : Bool, launching background []
  launch :
    ∀ {descriptor : Descriptor} {before after : Shell} {launch : Launch},
      ForkAnswer.child ∉ before.host.script.forks →
      Shell.execute session.terminal descriptor before = (launch, after) →
      (∃ body,
        launching descriptor.background body ∧
          Adds keep body before.host after.host) ∧
        ∀ ending, launch ≠ .ended ending

section Lines

variable
  {session : Session}
  {keep : Event → Bool}
  [Indifferent (Silent keep)]

namespace Traced

variable {launching : Bool → History → Prop}

/--
Running the program of a line is one launch, and the session goes on, unless the
user cannot be told of it.
-/
theorem runProgram
    (traced : session.Traced keep launching)
    {before after : Shell}
    (asParent : ForkAnswer.child ∉ before.host.script.forks)
    {words : List Text}
    {result : LineResult}
    (ran : session.runProgram words before = (result, after)) :
    (result.goesOn = true ∨ Panics result after) ∧
      ∃ body,
        launching (asksBackground words) body ∧
          Adds keep body before.host after.host := by
  have finds : Silent keep before.host (findProgram words before.host).2 :=
    keeps_findProgram words before.host
  have executes
      {descriptor : Descriptor}
      {launch : Launch}
      {after : Shell}
      (found : (findProgram words before.host).1 = .ok descriptor)
      (executed :
        Shell.execute session.terminal descriptor
          (before.on (findProgram words before.host).2) = (launch, after)) :
      (∃ body,
        launching (asksBackground words) body ∧
          Adds keep body before.host after.host) ∧
        ∀ ending, launch ≠ .ended ending := by
    have stillParent :
        ForkAnswer.child ∉
          (before.on (findProgram words before.host).2).host.script.forks :=
      finds.asParent asParent
    obtain ⟨⟨body, launches, adds⟩, notEnded⟩ :=
      traced.launch stillParent executed
    rw [findProgram_background found] at launches
    exact ⟨⟨body, launches, finds.after_silent adds⟩, notEnded⟩
  have reports (descriptor : Descriptor) (pid : Pid) (launched : Shell) :
      Silent keep launched.host
        (session.reportLaunch descriptor pid launched).2.host :=
    (keeps_reportLaunch session descriptor pid launched).onHost
  cases runProgram_started ran with
  | unfound e found =>
      exact ⟨.inl rfl, [], traced.refused _, finds⟩
  | refused descriptor e _ found executed =>
      obtain ⟨launches, -⟩ := executes found executed
      exact ⟨.inl rfl, launches⟩
  | ended descriptor ending _ found executed =>
      obtain ⟨-, notEnded⟩ := executes found executed
      exact absurd rfl (notEnded ending)
  | launched descriptor pid launched found executed =>
      obtain ⟨⟨body, launches, adds⟩, -⟩ := executes found executed
      exact
        ⟨.inl rfl, body, launches,
          adds.then_silent (reports descriptor pid launched)⟩
  | untold descriptor pid launched found executed told =>
      obtain ⟨⟨body, launches, adds⟩, -⟩ := executes found executed
      have panics :=
        (tells_reportLaunch session descriptor pid).unwritten told
      exact
        ⟨.inr ⟨rfl, panics⟩, body, launches,
          adds.then_silent (reports descriptor pid launched)⟩

/-- A line adds itself and at most one launch; one that leaves launches nothing. -/
theorem handleLine
    (traced : session.Traced keep launching)
    {before after : Shell}
    (asParent : ForkAnswer.child ∉ before.host.script.forks)
    {number : Nat}
    {raw : Bytes}
    {result : LineResult}
    (ran : session.handleLine number raw before = (result, after)) :
    ∃ body,
      launching (isBackground session.settings raw) body ∧
        Adds keep (.line number raw :: body) before.host after.host ∧
        ((result.goesOn = true ∨ Panics result after) ∨
          body = [] ∧ ∃ code, result = .flow (.exit code)) := by
  have takes :
      Adds keep [.line number raw] before.host
        (taken number raw before.host) := by
    have adds := Host.adds_emit keep (.line number raw) before.host
    rwa [List.filter_cons_of_pos (traced.line number raw)] at adds
  have consults (words : List Text) :
      Adds keep [.line number raw] before.host
        (session.consulted number words (taken number raw before.host)).2 :=
    takes.then_silent (keeps_consulted session number words _)
  cases handleLine_handled ran with
  | unread e read =>
      exact ⟨[], traced.refused _, takes, .inl (.inl rfl)⟩
  | blank read =>
      exact ⟨[], traced.refused _, takes, .inl (.inl rfl)⟩
  | failed words e read =>
      exact ⟨[], traced.refused _, consults words, .inl (.inl rfl)⟩
  | answered words flow read =>
      refine ⟨[], traced.refused _, consults words, ?_⟩
      cases flow with
      | resume =>
          exact .inl (.inl rfl)
      | exit code =>
          exact .inr ⟨rfl, code, rfl⟩
  | program words _ _ read started =>
      have background :
          isBackground session.settings raw = asksBackground words := by
        simp [isBackground, read]
      rw [background]
      obtain ⟨goesOn, body, launches, adds⟩ :=
        traced.runProgram ((consults words).asParent asParent) started
      exact ⟨body, launches, (consults words).trans adds, .inl goesOn⟩

end Traced

/-- The prompt of a line, if there is one. -/
def prompted (session : Session) (number : Nat) : History :=
  if session.terminal.isInteractive then
    [.prompt number (session.theme.prompt.paint s!"{number}: ".toList)]
  else []

/-- How the prompt of a line ends, and what it adds. -/
inductive Prompting
    (session : Session)
    (number : Nat) :
    Except ShellError Unit → History → Prop where
  | shown : Prompting session number (.ok ()) (session.prompted number)
  /-- Standard output fails. -/
  | failed (errno : Errno) :
      session.terminal.isInteractive = true →
      Prompting session number
        (.error (.io (Utf8.ofString "<stdout>") (.refused errno)))
        [.unprompted number errno]

variable (keep) in
/-- A trail with prompts has the prompt of a line, if there is one. -/
theorem adds_prompt
    {number : Nat}
    {before after : Host}
    {answer : Except ShellError Unit}
    (shows : ∀ text, keep (.prompt number text) = true)
    (fails : ∀ errno, keep (.unprompted number errno) = true)
    (ran : (session.prompt number).run before = (answer, after)) :
    ∃ shown,
      session.Prompting number answer shown ∧
        Adds keep shown before after := by
  have asks : Silent keep before (Host.nextPrompt before).2 :=
    Host.keeps_nextPrompt before
  have lifted :
      (liftM Host.nextPrompt : HostE (Option Errno)).run before =
        (.ok (Host.nextPrompt before).1, (Host.nextPrompt before).2) :=
    rfl
  have emits
      {event : Event}
      (kept : keep event = true)
      (host : Host) :
      Adds keep [event] host (Host.emit event host).2 := by
    have adds := Host.adds_emit keep event host
    rwa [List.filter_cons_of_pos kept] at adds
  have prompted : session.Prompting number (.ok ()) _ := .shown
  unfold Session.prompted at prompted
  unfold prompt at ran
  cases interactive : session.terminal.isInteractive with
  | false =>
      rw [interactive] at ran prompted
      obtain ⟨rfl, rfl⟩ := Prod.mk.inj ran
      exact ⟨_, prompted, Adds.refl before⟩
  | true =>
      rw [interactive, if_pos rfl] at ran prompted
      rw [run_bind_ok (congrArg Prod.fst lifted), lifted] at ran
      cases fault : (Host.nextPrompt before).1 with
      | none =>
          rw [fault] at ran
          obtain ⟨rfl, rfl⟩ := Prod.mk.inj ran
          exact ⟨_, prompted, asks.after_silent (emits (shows _) _)⟩
      | some errno =>
          rw [fault] at ran
          obtain ⟨rfl, rfl⟩ := Prod.mk.inj ran
          exact
            ⟨_, .failed errno interactive,
              asks.after_silent (emits (fails errno) _)⟩

/-- How what comes before a line ends, and what it adds besides a collection. -/
inductive Opening
    (session : Session)
    (number : Nat)
    (after : Shell) :
    Except SessionResult Unit → History → Prop where
  /-- The process panics. -/
  | panicked :
      ¬ after.host.history.Written →
      Opening session number after (.error (.ended .panicked)) []
  | shown : Opening session number after (.ok ()) (session.prompted number)
  /-- Standard output fails. -/
  | failed (errno : Errno) :
      session.terminal.isInteractive = true →
      Opening session number after
        (.error (.failed (.io (Utf8.ofString "<stdout>") (.refused errno))))
        [.unprompted number errno]

variable (keep) in
/-- A trail with prompts has the prompt of a line after what reports the jobs. -/
theorem adds_opening
    {number : Nat}
    {before after : Shell}
    {answer : Except SessionResult Unit}
    {reported : History}
    (shows : ∀ text, keep (.prompt number text) = true)
    (fails : ∀ errno, keep (.unprompted number errno) = true)
    (reports :
      Adds keep reported before.host (session.reportJobs before).2.host)
    (ran : session.beforeLine number before = (answer, after)) :
    ∃ shown,
      session.Opening number after answer shown ∧
        Adds keep (reported ++ shown) before.host after.host := by
  cases beforeLine_begun ran with
  | unreported told =>
      have panics := (tells_reportJobs session).unwritten told
      exact ⟨[], .panicked panics, by simpa using reports⟩
  | unprompted e after prompts =>
      obtain ⟨shown, prompting, adds⟩ := adds_prompt keep shows fails prompts
      cases prompting with
      | failed errno interactive =>
          exact ⟨_, .failed errno interactive, reports.trans adds⟩
  | prompted after prompts =>
      obtain ⟨shown, prompting, adds⟩ := adds_prompt keep shows fails prompts
      cases prompting with
      | shown =>
          exact ⟨_, .shown, reports.trans adds⟩

end Lines

section Claimed

variable
  {session : Session}
  {group : Pid}
  {modes : Option Modes}

/-- On a claimed terminal, launches add what their kind of job asks for. -/
theorem claimed_traced (claimed : session.terminal = .claimed group modes) :
    session.Traced Event.isActive fun background =>
      Launching background group modes where
  line _ _ := rfl
  refused _ := .refused
  launch {descriptor _ _ _} asParent executed := by
    have launches :=
      Shell.claimed_execute group modes asParent descriptor
    rwa [← claimed, executed] at launches

/-- Before a line is read, there is its prompt, unless the session is over. -/
theorem claimed_beforeLine
    {number : Nat}
    {before after : Shell}
    {answer : Except SessionResult Unit}
    (ran : session.beforeLine number before = (answer, after)) :
    ∃ shown,
      session.Opening number after answer shown ∧
        Adds Event.isActive shown before.host after.host := by
  have reports :
      Silent Event.isActive before.host (session.reportJobs before).2.host :=
    keeps_reportJobs Aside.onHost Shell.keeps_collect session before
  exact adds_opening Event.isActive (fun _ => rfl) (fun _ => rfl) reports ran

/-- On a claimed terminal there is a prompt for every line. -/
theorem claimed_prompted
    (claimed : session.terminal = .claimed group modes)
    (number : Nat) :
    ∃ text, session.prompted number = [.prompt number text] := by
  rw [prompted, claimed]
  exact ⟨_, rfl⟩

/-- The lines of a session are its rounds. -/
theorem claimed_course
    (claimed : session.terminal = .claimed group modes)
    {trouble : Option Errno}
    {number : Nat}
    {lines : List Bytes}
    {before after : Shell}
    {result : SessionResult}
    (course : Course session trouble number lines before result after)
    (asParent : ForkAnswer.child ∉ before.host.script.forks) :
    ∃ rounds,
      Rounds session.settings group modes (¬ after.host.history.Written)
          number lines rounds ∧
        Adds Event.isActive rounds before.host after.host := by
  have shows
      {number : Nat}
      {before prompted : Shell}
      (prompting : session.beforeLine number before = (.ok (), prompted)) :
      ∃ text,
        Adds Event.isActive [.prompt number text]
          before.host prompted.host := by
    obtain ⟨shown, opens, adds⟩ := claimed_beforeLine prompting
    cases opens with
    | shown =>
        obtain ⟨text, isPrompt⟩ := claimed_prompted claimed number
        rw [isPrompt] at adds
        exact ⟨text, adds⟩
  -- The shell changes with each line; what survives is that it forks as a parent.
  induction course with
  | @unprompted number lines _ after _ prompting =>
      obtain ⟨shown, opens, adds⟩ := claimed_beforeLine prompting
      cases opens with
      | panicked unwritten =>
          exact ⟨_, .panicked number lines unwritten, adds⟩
      | failed errno interactive =>
          exact ⟨_, .unprompted number errno lines, adds⟩
  | @unread number _ prompted after _ prompting ends =>
      obtain ⟨text, prompts⟩ := shows prompting
      have closes : Silent Event.isActive prompted.host after.host :=
        ((keeps_endInput session trouble).ran ends).onHost
      exact ⟨_, .stop number text, prompts.then_silent closes⟩
  | @left number raw rest _ _ after code prompting ran =>
      obtain ⟨text, prompts⟩ := shows prompting
      obtain ⟨body, -, adds, (goesOn | ⟨same, -⟩) | ⟨rfl, -⟩⟩ :=
        (claimed_traced claimed).handleLine (prompts.asParent asParent) ran
      · contradiction
      · contradiction
      · have handled := prompts.trans adds
        exact
          ⟨_, .leave number text raw rest,
            handled.then_silent (Host.keeps_note _ _ after.host)⟩
  | @parted number raw rest _ _ after ending prompting ran =>
      obtain ⟨text, prompts⟩ := shows prompting
      obtain ⟨body, launching, adds, (goesOn | ⟨-, unwritten⟩) |
          ⟨-, code, leaves⟩⟩ :=
        (claimed_traced claimed).handleLine (prompts.asParent asParent) ran
      · contradiction
      · have cut :=
          Rounds.line number text raw rest body [] launching
            (.panicked (number + 1) rest unwritten)
        rw [List.append_nil] at cut
        exact ⟨_, cut, prompts.trans adds⟩
      · contradiction
  | @unreported number raw rest _ _ handled e prompting ran told =>
      obtain ⟨text, prompts⟩ := shows prompting
      obtain ⟨body, launching, adds, -⟩ :=
        (claimed_traced claimed).handleLine (prompts.asParent asParent) ran
      have reports :=
        (prompts.trans adds).then_silent
          (reported_aside session number (.failed e) handled).onHost
      have unwritten := (tells_reportError session number e).unwritten told
      have cut :=
        Rounds.line number text raw rest body [] launching
          (.panicked (number + 1) rest unwritten)
      rw [List.append_nil] at cut
      exact ⟨_, cut, reports⟩
  | @goesOn number raw rest _ _ handled _ line _ prompting ran _ _ _
      inductionHypothesis =>
      obtain ⟨text, prompts⟩ := shows prompting
      obtain ⟨body, launching, adds, -⟩ :=
        (claimed_traced claimed).handleLine (prompts.asParent asParent) ran
      have reports :=
        (prompts.trans adds).then_silent
          (reported_aside session number line handled).onHost
      obtain ⟨later, rounds, added⟩ :=
        inductionHypothesis (reports.asParent asParent)
      exact
        ⟨_, .line number text raw rest body later launching rounds,
          reports.trans added⟩

/-- The active events of a session, for an input that can be read or not. -/
def Run
    (settings : Settings)
    (group : Pid)
    (modes : Option Modes)
    (panics : Prop)
    (rounds : History)
    (input : Input) :
    Prop :=
  Rounds settings group modes panics 0 input.lines rounds

/-- A session adds the rounds of its input. -/
theorem claimed_run
    (claimed : session.terminal = .claimed group modes)
    {shell : Shell}
    (asParent : ForkAnswer.child ∉ shell.host.script.forks)
    (input : Input) :
    ∃ rounds,
      Run session.settings group modes
          (¬ (session.run input shell).2.host.history.Written) rounds input ∧
        Adds Event.isActive rounds shell.host
          (session.run input shell).2.host := by
  have opens :
      Silent Event.isActive shell.host (session.opened shell).host :=
    (opened_aside session shell).onHost
  obtain ⟨rounds, are, adds⟩ :=
    claimed_course claimed (run_course rfl) (opens.asParent asParent)
  exact ⟨rounds, are, opens.after_silent adds⟩

end Claimed

section Detached

variable {session : Session} {group : Pid}

/-- Without a terminal there are neither prompts nor calls about one. -/
theorem detached_sustains
    (detached : session.terminal = .detached group) :
    session.Sustains (Silent Event.isTerminal) where
  launch descriptor := by
    rw [detached]
    exact Shell.detached_execute group descriptor
  collect := Shell.keeps_collect
  take number raw := Host.adds_emit Event.isTerminal (.line number raw)
  prompt number := by
    simp only [prompt, detached, Terminal.isInteractive]
    exact Keeps.pure _

end Detached
end Session
end JobShell
