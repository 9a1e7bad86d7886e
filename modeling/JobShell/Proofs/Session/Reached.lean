import JobShell.Proofs.Launch.Distinct
import JobShell.Proofs.Program.Keeps

namespace JobShell

/-!
# The shells of a session are reached

Between two lines, the shell of a session is one that launches, collections and
signals lead to. The session itself only adds what concerns no process: lines,
prompts, messages and the work of built-ins.
-/

open Host (Quiet)
open Shell (Reached)

namespace Shell

/-- What is reached stays reached. -/
def Reaches (before after : Shell) : Prop :=
  Reached False before → Reached False after

instance : Frame Reaches where
  refl _ reached := reached
  trans before after reached := after (before reached)

/-- What happens aside is nothing that concerns a process. -/
theorem reaches_of_aside
    {before after : Shell}
    (aside : Aside Quiet before after) :
    Reaches before after := by
  obtain ⟨host, quiet, rfl⟩ := aside
  exact fun reached => .elsewhere host reached quiet

theorem reaches_collect : Keeps Reaches collect :=
  fun _ reached => .collected _ reached rfl

/-- A launch leads to a reached shell, unless it ends as a forked child. -/
theorem reaches_execute
    {terminal : Terminal}
    {descriptor : Descriptor}
    {before after : Shell}
    {launch : Launch}
    (ran : execute terminal descriptor before = (launch, after))
    (notEnded : ∀ ending, launch ≠ .ended ending) :
    Reaches before after := by
  intro reached
  cases launch with
  | launched pid =>
      exact .launched terminal descriptor pid reached ran nofun
  | refused e =>
      exact .refused terminal descriptor e reached ran
  | ended ending =>
      exact absurd rfl (notEnded ending)

end Shell

namespace Session

open Shell (Reaches reaches_of_aside)

variable {session : Session}

/-- Running the program of a line is a launch, if the program is found. -/
theorem reaches_runProgram
    {words : List Text}
    {before after : Shell}
    {result : LineResult}
    (ran : session.runProgram words before = (result, after))
    (goesOn : result.goesOn = true) :
    Reaches before after := by
  have finds :
      Reaches before (before.on (findProgram words before.host).2) :=
    reaches_of_aside ⟨_, keeps_findProgram words before.host, rfl⟩
  cases runProgram_started ran with
  | unfound e found =>
      exact finds
  | refused descriptor e _ found executed =>
      exact Frame.trans finds (Shell.reaches_execute executed nofun)
  | ended descriptor ending _ found executed =>
      contradiction
  | launched descriptor pid launched found executed =>
      have launches :=
        Frame.trans finds (Shell.reaches_execute executed nofun)
      exact
        Frame.trans launches
          (reaches_of_aside
            (keeps_reportLaunch session descriptor pid launched))
  | untold descriptor pid launched found executed =>
      contradiction

/-- A line leads to a reached shell, unless it ends as a forked child. -/
theorem reaches_handleLine
    {number : Nat}
    {raw : Bytes}
    {before after : Shell}
    {result : LineResult}
    (ran : session.handleLine number raw before = (result, after))
    (goesOn : result.goesOn = true) :
    Reaches before after := by
  have takes : Quiet before.host (taken number raw before.host) :=
    Host.quiet_emit (fun _ => rfl) before.host
  have consults (words : List Text) :
      Reaches before
        (before.on
          (session.consulted number words (taken number raw before.host)).2) :=
    reaches_of_aside
      ⟨_, Frame.trans takes (keeps_consulted session number words _), rfl⟩
  cases handleLine_handled ran with
  | unread e read =>
      exact reaches_of_aside ⟨_, takes, rfl⟩
  | blank read =>
      exact reaches_of_aside ⟨_, takes, rfl⟩
  | failed words e read =>
      exact consults words
  | answered words flow read =>
      exact consults words
  | program words _ _ read started =>
      exact Frame.trans (consults words) (reaches_runProgram started goesOn)

/-- Before a line, the jobs that changed are collected. -/
theorem reaches_beforeLine (session : Session) (number : Nat) :
    Keeps Reaches (session.beforeLine number) := by
  have prompts : Keeps Quiet (session.prompt number).run :=
    keeps_prompt (fun _ => Host.quiet_emit fun _ => rfl)
      (fun _ => Host.quiet_emit fun _ => rfl) session
  exact keeps_beforeLine reaches_of_aside Shell.reaches_collect session prompts

/-- The shell with which a session reads its first line. -/
def begun (session : Session) (host : Host) : Shell :=
  { host :=
      (Host.note .debug
        (s!"jobsh: ready, interactive={session.terminal.isInteractive} " ++
          s!"pgid={session.terminal.group}") host).2 }

/--
The shells between the lines of a session, each with the number of the next line
and the lines that are left.
-/
inductive Between
    (session : Session)
    (start : Shell)
    (lines : List Bytes) :
    Nat → List Bytes → Shell → Prop
  | first : Between session start lines 0 lines start
  | next
      {number : Nat}
      {raw : Bytes}
      {rest : List Bytes}
      {before prompted after : Shell}
      {result : LineResult} :
      Between session start lines number (raw :: rest) before →
      session.beforeLine number before = (.ok (), prompted) →
      session.handleLine number raw prompted = (result, after) →
      result.goesOn = true →
      session.IsReported number result after →
      Between session start lines (number + 1) rest
        (session.reported number result after)

namespace Between

variable
  {start shell : Shell}
  {lines rest : List Bytes}
  {number : Nat}

/-- A session comes past the shells between its lines. -/
theorem runLines_eq
    (between : Between session start lines number rest shell)
    (trouble : Option Errno) :
    session.runLines trouble 0 lines start =
      session.runLines trouble number rest shell := by
  induction between with
  | first =>
      rfl
  | next _ prompts ran goesOn reports inductionHypothesis =>
      rw [inductionHypothesis]
      exact runLines_goesOn trouble _ prompts ran goesOn reports

theorem reaches
    (between : Between session start lines number rest shell) :
    Reaches start shell := by
  induction between with
  | first =>
      exact Frame.refl start
  | @next number raw rest before prompted after result _ prompting ran goesOn _
      inductionHypothesis =>
      have prompts :=
        Frame.trans inductionHypothesis
          ((reaches_beforeLine session number).ran prompting)
      have handles := Frame.trans prompts (reaches_handleLine ran goesOn)
      exact
        Frame.trans handles
          (reaches_of_aside (reported_aside session number result after))

end Between

/-- What a session does first is to run its lines. -/
theorem run_eq (session : Session) (input : Input) (host : Host) :
    session.run input { host := host } =
      session.runLines input.trouble? 0 input.lines (session.begun host) :=
  rfl

end Session

namespace Program

/--
Between any two lines of a program that starts with free slots and an empty
history, its shell is reached, with unique process numbers if they are distinct.
-/
theorem reached_between
    {settings : Settings}
    {host ready : Host}
    {setup : Setup}
    (slots : host.slots = SlotTable.empty)
    (history : host.history = [])
    (ran : setUp settings host = (.ok setup, ready))
    {lines rest : List Bytes}
    {number : Nat}
    {shell : Shell}
    (between :
      setup.session.Between (setup.session.begun ready) lines number rest
        shell) :
    Reached False shell ∧
      (shell.host.history.Distinct → Reached True shell) := by
  have sets : Quiet host ready := by
    have sets : Quiet host (setUp settings host).2 :=
      keeps_setUp settings host
    rwa [ran] at sets
  have begins : Quiet host (setup.session.begun ready).host :=
    Frame.trans sets (Host.keeps_note _ _ ready)
  have start : Reached False (setup.session.begun ready) :=
    .elsewhere _ (.fresh host slots history) begins
  have reached := between.reaches start
  exact ⟨reached, reached.of_distinct⟩

end Program
end JobShell
