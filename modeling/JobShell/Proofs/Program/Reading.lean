import JobShell.Proofs.Host.Replay
import JobShell.Proofs.Program.Keeps

namespace JobShell

/-!
# What is read of a child

The shell reads a report in two ways: it waits for a foreground job and takes
the report as it comes, or the reaper marks a slot with it and the mark is read
when the slots are drained. Both ways tell the same of a child, and nothing
alike if there is nothing to tell. Whenever a program drains its slots, each mark
of a death or a stop can be read, so that it never has to make up a signal.
-/

/-- The reaper records what a wait would take, unless the child only goes on. -/
theorem Report.change?_eq (report : Report) :
    report.change? = (Status.ofReport? report).filter (· ≠ .running) := by
  cases report <;> rfl

theorem ChildEvent.pid_of_marking?
    {event : ChildEvent}
    {marking : Marking}
    (written : event.marking? = some marking) :
    marking.pid = event.pid := by
  obtain ⟨pid, answer⟩ := event
  cases answer with
  | error errno =>
      contradiction
  | ok report =>
      cases report <;> first | contradiction | (cases written; rfl)

/-- Markings of other processes do not show in the slot of a process. -/
theorem SlotTable.watch_markAll_of_apart
    {markings : List Marking}
    {pid : Pid}
    (apart : ∀ marking ∈ markings, marking.pid ≠ pid)
    (table : SlotTable) :
    (table.markAll markings).watch pid = table.watch pid := by
  induction markings generalizing table with
  | nil =>
      rfl
  | cons marking rest inductionHypothesis =>
      rw [List.forall_mem_cons] at apart
      rw [markAll_cons, inductionHypothesis apart.2]
      exact
        (watchIn_markFirst marking.pid marking.mark marking.detail table.slots
          pid).trans (if_neg apart.1.symm)

/-- A run marks the slot of a process with the only change that is reported. -/
theorem Reaped.watch_ofPending
    {slots : SlotTable}
    {pid : Pid}
    (held : slots.watch pid = some none)
    (report : Report)
    {earlier later : List ChildEvent}
    (goesOn : ∀ event ∈ earlier, event.endsRun = false)
    (apart : ∀ event ∈ earlier ++ later, event.pid ≠ pid) :
    (ofPending slots (earlier ++ ⟨pid, .ok report⟩ :: later)).slots.watch pid =
      some report.change? := by
  induction earlier generalizing slots with
  | nil =>
      have recorded :
          (slots.recordReport pid report).watch pid = some report.change? := by
        rw [SlotTable.watch_recordReport, held]
        cases report.change? <;> simp
      rw [SlotTable.recordReport_eq] at recorded
      rw [List.nil_append, ofPending_cons]
      cases ends : ChildEvent.endsRun ⟨pid, .ok report⟩ with
      | true =>
          obtain ⟨silent, -⟩ := ChildEvent.silent_of_endsRun _ ends
          rwa [silent] at recorded
      | false =>
          obtain ⟨taken, left, cut⟩ := exists_cut later
          rw [if_neg Bool.false_ne_true, after, ofPending_eq cut]
          dsimp only
          rw [SlotTable.watch_markAll_of_apart _ _, recorded]
          intro marking member
          obtain ⟨event, isTaken, written⟩ := List.mem_filterMap.mp member
          rw [ChildEvent.pid_of_marking? written]
          apply apart
          rw [List.nil_append, ← cut.whole]
          exact List.mem_append_left left isTaken
  | cons event rest inductionHypothesis =>
      rw [List.forall_mem_cons] at goesOn
      rw [List.cons_append, List.forall_mem_cons] at apart
      rw [List.cons_append, ofPending_cons, goesOn.1, if_neg Bool.false_ne_true,
        after]
      apply inductionHypothesis _ goesOn.2 apart.2
      rw [SlotTable.watch_markAll_of_apart _ _, held]
      intro marking member
      rw [ChildEvent.pid_of_marking? (Option.mem_toList.mp member)]
      exact apart.1

namespace Host

/-- What a run of the reaper and a draining tell of a process. -/
theorem statuses_reaped
    {host : Host}
    (wellFormed : host.slots.WellFormed)
    {pid : Pid}
    (valid : pid ≠ 0)
    (held : host.slots.watch pid = some none)
    {report : Report}
    {earlier later : List ChildEvent}
    (pending : host.pending = earlier ++ ⟨pid, .ok report⟩ :: later)
    (goesOn : ∀ event ∈ earlier, event.endsRun = false)
    (apart : ∀ event ∈ earlier ++ later, event.pid ≠ pid) :
    (reap host).2.slots.watch pid = some report.change? ∧
      SlotTable.statusesOf pid (drain (reap host).2).1 =
        report.change?.toList := by
  have watched : (reap host).2.slots.watch pid = some report.change? := by
    change (Reaped.ofPending host.slots host.pending).slots.watch pid = _
    rw [pending]
    exact Reaped.watch_ofPending held report goesOn apart
  have stays : (reap host).2.slots.WellFormed :=
    (reaping_ofPending host.slots host.pending).1 wellFormed
  refine ⟨watched, ?_⟩
  change SlotTable.statusesOf pid (reap host).2.slots.drain.1 = _
  rw [SlotTable.statusesOf_drained stays valid, watched]
  rfl

end Host

namespace Session

/-- Whatever a session does, the history tells what the slots hold. -/
theorem replays_sustains (session : Session) :
    session.Sustains Host.Replays where
  launch descriptor :=
    Shell.follows_execute Host.Replays session.terminal descriptor
  collect :=
    Shell.keeps_collect_of_drain Host.replays_drain
      fun _ => Host.Replays.emit rfl
  take _ _ := Host.Replays.emit rfl
  prompt _ :=
    keeps_prompt (fun _ => Host.Replays.emit rfl)
      (fun _ => Host.Replays.emit rfl) session

end Session

namespace Program

/--
A report that would end a wait for a child is handed out as the same state by a
draining after the reaper has run, if nothing else is told of the child; any
other report leaves its slot unmarked. However slots are claimed, marked and
drained, they stay legible: whenever a program drains them, each mark of a death
or a stop comes with the number of a signal.
-/
theorem run_reads_alike
    (date : String)
    (input : Session.Input)
    {start : Host}
    (legible : start.slots.Legible) :
    (∀ (host : Host) (pid : Pid) (report : Report)
          (earlier later : List ChildEvent),
        host.slots.WellFormed →
        pid ≠ 0 →
        host.slots.watch pid = some none →
        host.pending = earlier ++ ⟨pid, .ok report⟩ :: later →
        (∀ event ∈ earlier, event.endsRun = false) →
        (∀ event ∈ earlier ++ later, event.pid ≠ pid) →
        (∀ status,
          Status.ofReport? report = some status →
          status ≠ .running →
          SlotTable.statusesOf pid (Host.drain (Host.reap host).2).1 =
            [status]) ∧
          (Status.ofReport? report = none ∨
              Status.ofReport? report = some .running →
            (Host.reap host).2.slots.watch pid = some none)) ∧
      (∀ history, (start.slots.replay history).Legible) ∧
      ∃ added,
        (run date input start).2.history = start.history ++ added ∧
          (run date input start).2.slots = start.slots.replay added ∧
          ∀ earlier events later,
            added = earlier ++ .drained events :: later →
            events = (start.slots.replay earlier).drain.1 ∧
              (start.slots.replay earlier).Legible := by
  refine ⟨?_, SlotTable.legible_replay legible, ?_⟩
  · intro host pid report earlier later wellFormed valid held pending goesOn
      apart
    obtain ⟨watched, told⟩ :=
      Host.statuses_reaped wellFormed valid held pending goesOn apart
    rw [report.change?_eq] at watched told
    constructor
    · intro status read notRunning
      rw [told, read, Option.filter_some_pos (by simpa using notRunning)]
      rfl
    · rintro (nothing | runs)
      · rw [watched, nothing]
        rfl
      · rw [watched, runs]
        rfl
  · obtain ⟨added, grown, slots, fits⟩ :
        Host.Replays start (run date input start).2 :=
      keeps_run date input Session.replays_sustains start
    refine ⟨added, grown, slots, ?_⟩
    rintro earlier events later rfl
    obtain ⟨-, told, -⟩ := (SlotTable.fitsAll_append _ _ _).mp fits
    exact ⟨told, SlotTable.legible_replay legible earlier⟩

/-- A host with one child in the background, which is killed before the first line. -/
def bereaved : Host :=
  { slots := (SlotTable.empty.track 5).2
    script := { batches := [[⟨5, .ok (.signaled .kill true)⟩]] } }

/-- The same host, with reports that nobody has taken yet. -/
def bereavedOf (report : Report) : Host :=
  { bereaved with
    pending := [⟨6, .ok (.exited 0)⟩, ⟨5, .ok report⟩, ⟨7, .error .eintr⟩] }

/-- The event drains the slots of these events. -/
def drainsTo (told : List ReapEvent) : Event → Bool
  | .drained events => events = told
  | _ => false

/-- The child's death is told as it is; that it goes on is not told. -/
theorem run_reads_alike_killed :
    bereaved.slots.Legible ∧
      bereaved.slots.WellFormed ∧
      bereaved.slots.watch 5 = some none ∧
      SlotTable.statusesOf 5
          (Host.drain (Host.reap (bereavedOf (.signaled .kill true))).2).1 =
        [.killed .kill] ∧
      (Host.reap (bereavedOf .continued)).2.slots.watch 5 = some none ∧
      ∃ earlier later,
        (run "2026-01-01" (.ok []) bereaved).2.history =
            earlier ++ .drained [⟨5, .killed .kill⟩] :: later ∧
          (bereaved.slots.replay earlier).drain.1 = [⟨5, .killed .kill⟩] ∧
          (bereaved.slots.replay earlier).Legible := by
  have legible : bereaved.slots.Legible :=
    SlotTable.legible_track SlotTable.legible_empty 5
  have wellFormed : bereaved.slots.WellFormed :=
    SlotTable.track_wellFormed SlotTable.empty_wellFormed 5
  have held : bereaved.slots.watch 5 = some none := by decide +kernel
  obtain ⟨alike, -, added, grown, -, drainings⟩ :=
    run_reads_alike "2026-01-01" (.ok []) legible
  have parts (report : Report) :
      (bereavedOf report).pending =
        [⟨6, .ok (.exited 0)⟩] ++ ⟨5, .ok report⟩ :: [⟨7, .error .eintr⟩] :=
    rfl
  obtain ⟨told, -⟩ :=
    alike (bereavedOf (.signaled .kill true)) 5 _ _ _ wellFormed (by decide) held
      (parts _) (by decide) (by decide)
  obtain ⟨-, silent⟩ :=
    alike (bereavedOf .continued) 5 _ _ _ wellFormed (by decide) held (parts _)
      (by decide) (by decide)
  have tells :
      (run "2026-01-01" (.ok []) bereaved).2.history.any
          (drainsTo [⟨5, .killed .kill⟩]) =
        true := by
    decide +kernel
  generalize (run "2026-01-01" (.ok []) bereaved).2.history = history
    at grown tells ⊢
  obtain ⟨event, member, drains⟩ := List.any_eq_true.mp tells
  obtain ⟨earlier, later, split⟩ := List.append_of_mem member
  cases event with
  | drained events =>
      obtain rfl : events = [⟨5, .killed .kill⟩] := of_decide_eq_true drains
      have start : bereaved.history = [] := rfl
      rw [start, List.nil_append] at grown
      obtain ⟨answered, readable⟩ := drainings _ _ _ (grown.symm.trans split)
      exact
        ⟨legible, wellFormed, held, told _ rfl nofun, silent (.inr rfl), earlier,
          later, split, answered.symm, readable⟩
  | _ =>
      contradiction

end Program
end JobShell
