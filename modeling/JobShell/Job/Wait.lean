import JobShell.Job.Status

namespace JobShell

/-!
# Waiting for a foreground job

The shell asks for a child again and again until an answer settles the matter:
an exit, a death by signal, a stop, or an error other than an interruption. An
error settles it as if the child had ended well. A child of which no more
answers are known exits with code 0.
-/

/-- How a wait ended. -/
structure Settled where
  /-- What became of the child. -/
  status : Status
  /-- The answers received, in order. -/
  answers : List WaitAnswer
  /-- The answers still to come. -/
  rest : List WaitAnswer
  /-- The error that ended the wait, if one did. -/
  trouble : Option Errno

namespace Settled

/-- A wait that received one more answer at its start. -/
def after (answer : WaitAnswer) (settled : Settled) : Settled :=
  { settled with answers := answer :: settled.answers }

/-- Wait on the answers to come. -/
def ofAnswers : List WaitAnswer → Settled
  | [] => ⟨.done 0, [.ok (.exited 0)], [], none⟩
  | .ok report :: rest =>
      match Status.ofReport? report with
      | none | some .running => (ofAnswers rest).after (.ok report)
      | some status => ⟨status, [.ok report], rest, none⟩
  | .error errno :: rest =>
      if errno = .eintr then (ofAnswers rest).after (.error errno)
      else ⟨.done 0, [.error errno], rest, some errno⟩

end Settled
end JobShell
