import JobShell.Proofs.Host.Spares
import JobShell.Proofs.Host.Written
import JobShell.Proofs.Launch.Forks

namespace JobShell

/-!
# The steps of a child

A forked child goes through a fixed plan of steps: a group of its own, default
handlings, an empty mask, the file of its redirection in its place, and the
program. It either gets to the end of the plan, and is the program from then on,
or it stops at the first step that fails, says so and exits; if it cannot say so,
it panics. It does nothing else; in particular no signal is delivered to it.
-/

namespace Child

/-- The signals whose handlings a child resets, in their order. -/
def resets : History :=
  [.int, .quit, .tstp, .ttin, .ttou, .chld].map fun signal =>
    .call (.resetSignal signal) none

/-- The steps of a child, as the events that they add when they succeed. -/
def plan
    (redirection : Option Redirection)
    (program : Bytes)
    (arguments : List Bytes) :
    History :=
  [.call (.setGroup 0 0) none] ++ resets ++ [.call (.setMask false) none] ++
    (match redirection with
    | none => []
    | some ⟨.input, filename⟩ =>
        [.opened ⟨.input, filename⟩ none, .call (.duplicate 0) none]
    | some ⟨.output, filename⟩ =>
        [.opened ⟨.output, filename⟩ none, .call (.duplicate 1) none]) ++
    [.call (.execute program arguments) none]

/-- What the error of a call that fails in a child says about the call. -/
def context : Call → String
  | .setGroup _ _ => "setpgid"
  | .resetSignal _ | .setMask _ => "signal"
  | .duplicate _ => "dup2"
  | _ => "exec"

/-- What a step leaves in the history when it fails, and with which error. -/
inductive Fails : Event → Event → ShellError → Prop where
  | call (call : Call) (errno : Errno) :
      Fails (.call call none) (.call call (some errno))
        (.sys (context call) errno)
  | opening (redirection : Redirection) (e : FileError) :
      Fails (.opened redirection none) (.opened redirection (some e))
        (.io (Utf8.encode redirection.filename) e)

/-- The events of going through a plan, up to the first step that fails. -/
inductive Walks : History → History → Except ShellError Unit → Prop where
  | finished : Walks [] [] (.ok ())
  | step
      (step : Event)
      {rest events : History}
      {result : Except ShellError Unit} :
      Walks rest events result →
      Walks (step :: rest) (step :: events) result
  | failed {step failure : Event} {e : ShellError} (rest : History) :
      Fails step failure e →
      Walks (step :: rest) [failure] (.error e)

namespace Walks

variable {first second events later : History} {e : ShellError}

/-- A plan that is finished was gone through step by step. -/
theorem eq_of_ok (walks : Walks first events (.ok ())) : events = first := by
  generalize finished : (.ok () : Except ShellError Unit) = result at walks
  induction walks with
  | finished =>
      rfl
  | step step _ inductionHypothesis =>
      rw [inductionHypothesis finished]
  | failed =>
      contradiction

/-- A plan that is not finished was left at a step that failed. -/
theorem exists_of_error (walks : Walks first events (.error e)) :
    ∃ done step failure rest,
      first = done ++ step :: rest ∧
        Fails step failure e ∧
        events = done ++ [failure] := by
  generalize left : (.error e : Except ShellError Unit) = result at walks
  induction walks with
  | finished =>
      contradiction
  | step step _ inductionHypothesis =>
      obtain ⟨done, last, failure, rest, rfl, fails, rfl⟩ :=
        inductionHypothesis left
      exact ⟨step :: done, last, failure, rest, rfl, fails, rfl⟩
  | failed rest fails =>
      obtain rfl := Except.error.inj left
      exact ⟨[], _, _, rest, rfl, fails, rfl⟩

/-- One plan after another that is finished. -/
theorem append
    {result : Except ShellError Unit}
    (walks : Walks first events (.ok ()))
    (walksOn : Walks second later result) :
    Walks (first ++ second) (events ++ later) result := by
  obtain rfl := walks.eq_of_ok
  clear walks
  induction events with
  | nil =>
      exact walksOn
  | cons step rest inductionHypothesis =>
      exact .step step inductionHypothesis

/-- No plan is begun after one that is not finished. -/
theorem stay
    (walks : Walks first events (.error e))
    (second : History) :
    Walks (first ++ second) events (.error e) := by
  generalize left : (.error e : Except ShellError Unit) = result at walks ⊢
  induction walks with
  | finished =>
      contradiction
  | step step _ inductionHypothesis =>
      exact .step step (inductionHypothesis left)
  | failed rest fails =>
      exact .failed (rest ++ second) fails

end Walks

/-- What opening the file of a redirection does to the files. -/
inductive Opens (redirection : Redirection) (before : Workspace) :
    Workspace → Prop where
  /-- A file is opened for reading, and nothing changes. -/
  | read (found : Location × Entry) :
      redirection.direction = .input →
      before.stat (Utf8.encode redirection.filename) = .ok found →
      Opens redirection before before
  /-- There is no file, and an empty one is made. -/
  | created (directory : Location) (name : Bytes) :
      redirection.direction = .output →
      before.resolve .create (Utf8.encode redirection.filename) =
        .ok (.vacant directory name) →
      Opens redirection before
        { before with
          tree :=
            before.tree.put (directory ++ [name])
              (.file Workspace.createMode []) }
  /-- There is a file, and it is emptied. -/
  | emptied (place : Location) (mode : Nat) (data : Bytes) :
      redirection.direction = .output →
      before.resolve .create (Utf8.encode redirection.filename) =
        .ok (.found place) →
      before.tree.get? place = some (.file mode data) →
      Opens redirection before
        { before with tree := before.tree.put place (.file mode []) }

/-- Files change by being opened, and by nothing else that a child does. -/
inductive Files : History → Workspace → Workspace → Prop where
  | same (space : Workspace) : Files [] space space
  | opened
      {redirection : Redirection}
      {events : History}
      {before middle after : Workspace} :
      Opens redirection before middle →
      Files events middle after →
      Files (.opened redirection none :: events) before after
  | other
      {event : Event}
      {events : History}
      {before after : Workspace} :
      (∀ redirection, event ≠ .opened redirection none) →
      Files events before after →
      Files (event :: events) before after

theorem Files.append
    {first second : History}
    {before middle after : Workspace}
    (files : Files first before middle)
    (filesAfter : Files second middle after) :
    Files (first ++ second) before after := by
  induction files with
  | same space =>
      exact filesAfter
  | opened opens _ inductionHypothesis =>
      exact .opened opens (inductionHypothesis filesAfter)
  | other apart _ inductionHypothesis =>
      exact .other apart (inductionHypothesis filesAfter)

section

variable {first second : History} {action next : HostE Unit}

end

/-- What a child that cannot become its program says about it, by its name. -/
def excuse (name : Text) (e : ShellError) : Event :=
  .complaint
    ("jobsh: ".toList ++ name ++ ": ".toList ++ e.message.toList ++ ['\n'])

/-- How the run of a child goes, and how it ends. -/
inductive Ends
    (descriptor : Descriptor)
    (program : Bytes)
    (arguments : List Bytes) :
    History → Ending → Prop where
  /-- All steps succeed, the last of which makes it the program. -/
  | replaced :
      Ends descriptor program arguments
        (plan descriptor.redirection program arguments)
        (.replaced program arguments)
  /-- A step fails, and it exits at once. Its name is the first word as typed. -/
  | exited
      (done rest : History)
      (step failure : Event)
      (e : ShellError)
      (name : Text) :
      plan descriptor.redirection program arguments = done ++ step :: rest →
      Fails step failure e →
      descriptor.arguments.head? = some name →
      Ends descriptor program arguments
        (done ++ [failure, excuse name e]) (.exited 127)

section

variable
  {descriptor : Descriptor}
  {program : Bytes}
  {arguments : List Bytes}
  {host : Host}

end

end Child

namespace Host

end Host

namespace Shell

open Host (SameSpace Silent)

section

variable
  {descriptor : Descriptor}
  {program : Bytes}
  {arguments : List Bytes}
  {previous : Bool}
  {host : Host}

end

section

variable
  {terminal : Terminal}
  {descriptor : Descriptor}
  {before after : Shell}
  {ending : Ending}

end

end Shell
end JobShell
