import JobShell.Proofs.Session.Paths

namespace JobShell

/-!
# What whole sessions keep

A session launches and collects jobs, takes up lines and prompts. Whatever else
it does, an indifferent relation does not mind, so a relation that these four
sustain is kept by the whole session, however many lines it reads.
-/

namespace Session

/-- Launches, collections, lines and prompts of the session keep the relation. -/
structure Sustains
    (session : Session)
    (relation : Host → Host → Prop) :
    Prop where
  launch :
    ∀ descriptor : Descriptor,
      Keeps (OnHost relation) (Shell.execute session.terminal descriptor)
  collect : Keeps (OnHost relation) Shell.collect
  take : ∀ (number : Nat) (raw : Bytes), Ignores relation (.line number raw)
  prompt : ∀ number : Nat, Keeps relation (session.prompt number).run

section Beginning

variable
  {relation : Host → Host → Prop}
  [Telling relation]
  {shells : Shell → Shell → Prop}
  [Frame shells]
  (follows :
    ∀ {before after : Shell}, Aside relation before after → shells before after)
  (collects : Keeps shells Shell.collect)
  (session : Session)

include follows collects

/-- Reporting the jobs that changed keeps what collecting them keeps. -/
theorem keeps_reportJobs : Keeps shells session.reportJobs :=
  Keeps.bind collects fun jobs shell =>
    follows ((keeps_reportEach session jobs).aside shell)

/-- What comes before a line keeps what collecting and prompting keep. -/
theorem keeps_beforeLine
    {number : Nat}
    (prompts : Keeps relation (session.prompt number).run) :
    Keeps shells (session.beforeLine number) := by
  have prompting :
      Keeps shells
        (liftM (session.prompt number).run :
          ShellM (Except ShellError Unit)) :=
    fun shell => follows (prompts.aside shell)
  refine Keeps.bind (keeps_reportJobs follows collects session) fun told => ?_
  refine Keeps.ite (Keeps.bind prompting fun answer => ?_) (Keeps.pure _)
  cases answer with
  | ok shown =>
      exact Keeps.pure _
  | error e =>
      exact Keeps.pure _

end Beginning

section

variable {relation : Host → Host → Prop} [Indifferent relation]

namespace Sustains

variable {session : Session}

theorem runProgram
    (sustains : session.Sustains relation)
    (words : List Text) :
    Keeps (OnHost relation) (session.runProgram words) := by
  refine Keeps.bind (keeps_findProgram words).onHost fun found => ?_
  cases found with
  | error e =>
      exact Keeps.pure _
  | ok descriptor =>
      refine Keeps.bind (sustains.launch descriptor) fun launch => ?_
      cases launch with
      | refused e =>
          exact Keeps.pure _
      | ended ending =>
          exact Keeps.pure _
      | launched pid =>
          exact
            Keeps.bind
              (fun shell =>
                (keeps_reportLaunch session descriptor pid shell).onHost)
              fun _ => Keeps.ite (Keeps.pure _) (Keeps.pure _)

theorem handleLine
    (sustains : session.Sustains relation)
    (number : Nat)
    (raw : Bytes) :
    Keeps (OnHost relation) (session.handleLine number raw) := by
  have takes : Keeps relation (Host.emit (.line number raw)) :=
    sustains.take number raw
  refine Keeps.bind takes.onHost fun _ => ?_
  split
  · exact Keeps.pure _
  · exact Keeps.pure _
  · refine Keeps.bind (Host.keeps_note _ _).onHost fun _ => ?_
    refine Keeps.bind (keeps_runBuiltin session _).onHost fun answer => ?_
    split
    · exact Keeps.pure _
    · exact Keeps.pure _
    · exact sustains.runProgram _

theorem beforeLine
    (sustains : session.Sustains relation)
    (number : Nat) :
    Keeps (OnHost relation) (session.beforeLine number) :=
  keeps_beforeLine Aside.onHost sustains.collect session
    (sustains.prompt number)

/-- Line after line keeps the relation. -/
theorem course
    (sustains : session.Sustains relation)
    {trouble : Option Errno}
    {number : Nat}
    {lines : List Bytes}
    {before after : Shell}
    {result : SessionResult}
    (course : Course session trouble number lines before result after) :
    OnHost relation before after := by
  induction course with
  | unprompted e prompts =>
      exact (sustains.beforeLine _).ran prompts
  | unread prompts ends =>
      exact
        Frame.trans ((sustains.beforeLine _).ran prompts)
          ((keeps_endInput session trouble).ran ends).onHost
  | @left number raw rest before prompted after code prompts handles =>
      have noted :
          OnHost relation after
            (after.on
              (Host.note .debug s!"jobsh: exit {code}" after.host).2) :=
        Host.keeps_note _ _ after.host
      exact
        Frame.trans ((sustains.beforeLine _).ran prompts)
          (Frame.trans ((sustains.handleLine _ _).ran handles) noted)
  | parted ending prompts handles =>
      exact
        Frame.trans ((sustains.beforeLine _).ran prompts)
          ((sustains.handleLine _ _).ran handles)
  | @unreported number _ _ _ _ handled e prompts handles _ =>
      have reports :
          OnHost relation handled
            (session.reported number (.failed e) handled) :=
        (reported_aside session number (.failed e) handled).onHost
      exact
        Frame.trans ((sustains.beforeLine _).ran prompts)
          (Frame.trans ((sustains.handleLine _ _).ran handles) reports)
  | @goesOn number _ _ _ _ handled _ line _ prompts handles _ _ _
      inductionHypothesis =>
      have reports :
          OnHost relation handled (session.reported number line handled) :=
        (reported_aside session number line handled).onHost
      exact
        Frame.trans ((sustains.beforeLine _).ran prompts)
          (Frame.trans ((sustains.handleLine _ _).ran handles)
            (Frame.trans reports inductionHypothesis))

/-- A session keeps what it sustains, whether its input can be read or not. -/
theorem run
    (sustains : session.Sustains relation)
    (input : Input) :
    Keeps (OnHost relation) (session.run input) := by
  intro shell
  have opens : OnHost relation shell (session.opened shell) :=
    (opened_aside session shell).onHost
  exact Frame.trans opens (sustains.course (run_course rfl))

end Sustains

end

end Session
end JobShell
