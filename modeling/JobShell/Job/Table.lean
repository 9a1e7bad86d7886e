import JobShell.Descriptor
import JobShell.Job.Status

namespace JobShell

/-!
# The job table

The jobs that run or are stopped, by process number. A job also has an index to
name it by: the least positive number that no job of the table has when the job
is added. Finished jobs leave the table.
-/

/-- A launched process. -/
structure Job where
  index : Nat
  descriptor : Descriptor
  status : Status
  deriving DecidableEq, Repr

namespace Job

/-- The job runs in the background. -/
def isBackground (job : Job) : Bool :=
  job.descriptor.background

/-- The job as it is shown to the user. -/
def text (job : Job) : String :=
  s!"[{job.index}] {job.descriptor.pid.getD 0} {job.status.text} " ++
    String.ofList job.descriptor.commandLine

end Job

/-- Jobs by process number. -/
structure JobTable where
  entries : List (Pid × Job) := []
  deriving DecidableEq, Repr

namespace JobTable

/-- The jobs of the table. -/
def jobs (table : JobTable) : List Job :=
  table.entries.map (·.2)

/-- The job of a process. -/
def get? (table : JobTable) (pid : Pid) : Option Job :=
  table.entries.lookup pid

/-- Put a job in place of one with the same process number. -/
def put (table : JobTable) (pid : Pid) (job : Job) : JobTable :=
  { entries := table.entries.filter (·.1 ≠ pid) ++ [(pid, job)] }

/-- Take the job of a process out of the table. -/
def remove (table : JobTable) (pid : Pid) : Option Job × JobTable :=
  (table.get? pid, { entries := table.entries.filter (·.1 ≠ pid) })

/--
The least number from `candidate` on that is not among `used`, found in at most
`tests` steps.
-/
def leastFree (used : List Nat) : Nat → Nat → Nat
  | 0, candidate => candidate
  | tests + 1, candidate =>
      if candidate ∈ used then leastFree used tests (candidate + 1)
      else candidate

/-- The index of the next job. -/
def freeIndex (table : JobTable) : Nat :=
  leastFree (table.jobs.map Job.index) table.entries.length 1

/--
Add a process as a running job. A process without a number is not added.
-/
def add (table : JobTable) (descriptor : Descriptor) : Option Nat × JobTable :=
  match descriptor.pid with
  | none => (none, table)
  | some pid =>
      let index := table.freeIndex
      (some index, table.put pid ⟨index, descriptor, .running⟩)

/--
Give the job of a process a new state. It is handed out if it finished, and
then it leaves the table, or if it stopped, and then it is in the background.
-/
def update
    (table : JobTable)
    (pid : Pid)
    (status : Status) :
    Option Job × JobTable :=
  match table.get? pid with
  | none => (none, table)
  | some job =>
      let changed := { job with status := status }
      match status with
      | .done _ | .killed _ => (some changed, (table.remove pid).2)
      | .running => (none, table.put pid changed)
      | .stopped _ =>
          let stopped :=
            { changed with
              descriptor := { changed.descriptor with background := true } }
          (some stopped, table.put pid stopped)

/-- Apply changes in order; the answer is the jobs handed out, in that order. -/
def updateAll (table : JobTable) : List (Pid × Status) → List Job × JobTable
  | [] => ([], table)
  | (pid, status) :: rest =>
      let (job, next) := table.update pid status
      let (jobs, last) := next.updateAll rest
      (job.toList ++ jobs, last)

/-- Jobs in the order of their indexes. -/
def sortByIndex (jobs : List Job) : List Job :=
  jobs.mergeSort fun a b => a.index ≤ b.index

end JobTable
end JobShell
