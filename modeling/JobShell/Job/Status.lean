import JobShell.System.Report

namespace JobShell

/-!
# Job status

Where a job stands: running, stopped, or finished in one of two ways.
-/

/-- The state of a job. -/
inductive Status where
  | running
  | stopped (signal : Signal)
  | done (code : Int)
  | killed (signal : Signal)
  deriving DecidableEq, Repr

namespace Status

/-- The job is over. -/
def isFinished : Status → Bool
  | done _ | killed _ => true
  | running | stopped _ => false

/-- The state that a report puts a job into, if it says anything about it. -/
def ofReport? : Report → Option Status
  | .exited code => some (done code)
  | .signaled signal _ => some (killed signal)
  | .stopped signal => some (stopped signal)
  | .continued => some running
  | .alive | .traced | .atSystemCall => none

/-- The state as it is shown to the user. -/
def text : Status → String
  | running => "running"
  | stopped _ => "stopped"
  | done code => if code = 0 then "done" else s!"exit {code}"
  | killed signal => s!"killed ({signal.name})"

end Status
end JobShell
