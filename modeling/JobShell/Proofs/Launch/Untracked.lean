import JobShell.Proofs.Job.Background
import JobShell.Proofs.Launch.Reached

namespace JobShell

/-!
# Jobs that no slot watches

A job in the background that is refused a slot leaves the table. A job in the
foreground that stops and is refused a slot does not: it stays in the table,
where nothing ever finds it finished. These are the only jobs in the table
without a slot, and they are there for good.
-/

/-- The process stopped while it was waited for, and was then refused a slot. -/
def History.Stranded (pid : Pid) (history : History) : Prop :=
  ∃ before signal between after,
    history =
        before ++ .call (.wait pid (.ok (.stopped signal))) none :: between ++
          .tracked pid false :: after ∧
      ∀ event ∈ between, event.forks pid = false

theorem History.Stranded.append
    {pid : Pid}
    {history : History}
    (stranded : History.Stranded pid history)
    (later : History) :
    History.Stranded pid (history ++ later) := by
  obtain ⟨before, signal, between, after, rfl, unforked⟩ := stranded
  exact ⟨before, signal, between, after ++ later, by simp, unforked⟩

namespace Standing

variable
  {pid : Pid}
  {before after standing : Standing}
  {event : Event}
  {history : History}

/-- A process without a slot is kept for good. -/
theorem Kept.forever
    (kept : Kept none before)
    (step : Step True pid before event after) :
    Kept none after := by
  cases drain : event.isDrain with
  | false =>
      exact (kept.step step drain (step.unforked (.inl kept.inTable))).1
  | true =>
      obtain ⟨batch, rfl⟩ := Event.eq_of_isDrain drain
      exact kept.drained step rfl

/-- A process that is halted stopped while it was waited for. -/
theorem Run.stopped_of_halted
    {unique : Prop}
    (run : Run unique pid unknown history standing)
    (halted : standing.phase = .halted) :
    ∃ before signal between,
      history =
          before ++ .call (.wait pid (.ok (.stopped signal))) none :: between ∧
        ∀ event ∈ between, event.forks pid = false := by
  induction run using induction_end with
  | nil =>
      simp [unknown] at halted
  | @snoc history before event after earlier step inductionHypothesis =>
      cases step with
      | halted watch signal =>
          exact ⟨history, signal, [], rfl, by simp⟩
      | changed phase inTable watch event status isOpen changed =>
          obtain rfl : phase = .halted := halted
          contradiction
      | other _ event apart =>
          obtain ⟨first, signal, between, rfl, unforked⟩ :=
            inductionHypothesis halted
          exact
            ⟨first, signal, between ++ [event], by simp,
              List.forall_mem_append.mpr
                ⟨unforked,
                  List.forall_mem_singleton.mpr (Event.of_not_concerns apart).1⟩⟩
      | _ =>
          contradiction

/-- A process without a slot in the table was stranded there. -/
theorem Run.stranded_of_kept
    (run : Run True pid unknown history standing)
    (kept : Kept none standing) :
    History.Stranded pid history := by
  induction run using induction_end with
  | nil =>
      have inTable := kept.inTable
      contradiction
  | @snoc history before event after earlier step inductionHypothesis =>
      obtain ⟨isOpen, inTable, unheld, keeps⟩ := kept
      cases step with
      | unwatched =>
          obtain ⟨first, signal, between, rfl, unforked⟩ :=
            earlier.stopped_of_halted rfl
          exact ⟨first, signal, between, [], by simp, unforked⟩
      | changed phase _ watch event status _ changed =>
          have none : watch = none := by simpa using unheld
          exact (inductionHypothesis ⟨isOpen, inTable, none, keeps⟩).append _
      | drained _ watch events told =>
          obtain rfl := inTable
          rcases watch with _ | _ | status
          · exact (inductionHypothesis ⟨rfl, rfl, rfl, rfl⟩).append _
          · contradiction
          · have goesOn : status.isFinished = false := by
              simpa [Phase.due] using keeps
            simp [SlotTable.afterDrain, goesOn] at unheld
      | collected _ watch due jobs handed =>
          simp only [Bool.and_eq_true, Bool.not_eq_true'] at inTable
          exact
            (inductionHypothesis ⟨rfl, inTable.1, unheld, inTable.2⟩).append _
      | other =>
          exact (inductionHypothesis ⟨isOpen, inTable, unheld, keeps⟩).append _
      | _ =>
          contradiction

/-- A process is forked again only by a fork. -/
theorem not_forked_of_step
    (idle : before.phase ≠ .forked)
    (unforked : event.forks pid = false)
    (step : Step True pid before event after) :
    after.phase ≠ .forked := by
  cases step with
  | forked =>
      simp [Event.forks] at unforked
  | waited =>
      contradiction
  | changed =>
      exact idle
  | other =>
      exact idle
  | _ =>
      simp

/-- A process that was stranded is kept without a slot from then on. -/
theorem Run.kept_of_stranded
    (run : Run True pid unknown history standing)
    (stranded : History.Stranded pid history) :
    Kept none standing := by
  obtain ⟨first, signal, between, later, rfl, unforked⟩ := stranded
  simp only [List.append_assoc, List.cons_append] at run
  obtain ⟨_, halted, firstRun, stops, run⟩ := run.around
  obtain ⟨_, _, betweenRun, refuses, laterRun⟩ := run.around
  have halts : halted.phase ≠ .forked := by simp [stops.of_stopped]
  have stopped := betweenRun.invariant not_forked_of_step unforked halts
  rcases refuses.of_refused with ⟨forked, -⟩ | ⟨-, rfl⟩
  · contradiction
  · exact
      laterRun.invariant (fun kept (_ : True) step => kept.forever step)
        (by simp) ⟨rfl, rfl, rfl, rfl⟩

end Standing

namespace Shell

/-- A job in the table has no slot exactly if it was stranded there. -/
theorem untracked_iff
    {shell : Shell}
    (reached : Reached True shell)
    {pid : Pid}
    (valid : pid ≠ 0) :
    ((shell.jobs.get? pid).isSome = true ∧
        shell.host.slots.holds pid = false) ↔
      History.Stranded pid shell.host.history := by
  have run := reached.run valid
  rw [SlotTable.holds_eq_isSome]
  constructor
  · rintro ⟨inTable, unheld⟩
    have none : shell.host.slots.watch pid = none := by simpa using unheld
    exact run.stranded_of_kept ⟨rfl, inTable, none, rfl⟩
  · intro stranded
    have kept := run.kept_of_stranded stranded
    have none : shell.host.slots.watch pid = none := kept.watch
    exact ⟨kept.inTable, by rw [none]; rfl⟩

/--
In a reached shell in which no process number is in use twice, every job in the
table has a slot, but for those that stopped in the foreground and were refused
one; a stranded job has none and never leaves the table. A slot is refused only
when other processes have them all.
-/
theorem reached_untracked
    {shell : Shell}
    (reached : Reached True shell) :
    (∀ pid,
      pid ≠ 0 →
      (((shell.jobs.get? pid).isSome = true ∧
          shell.host.slots.holds pid = false) ↔
        History.Stranded pid shell.host.history)) ∧
      ∀ (pid : Pid) (host : Host),
        (Host.track pid host).1 = false ↔
          host.slots.holds pid = false ∧
            ∀ slot ∈ host.slots.slots, slot.pid ≠ 0 := by
  refine ⟨fun pid valid => untracked_iff reached valid, fun pid host => ?_⟩
  rw [(Host.track_account pid host).1, SlotTable.track_eq_false_iff,
    SlotTable.holds_eq_isSome]
  simp

/-- A shell whose slots are all taken when a job in the foreground stops. -/
def crowded : Shell :=
  (play? true
    { host :=
        { handling := .reaper
          script := { waits := fun _ => [.ok (.stopped .tstp)] } } }
    (List.replicate 64 (.start true) ++ [.start false])).get
    (by decide +kernel)

theorem crowded_reached : Reached True crowded :=
  Reached.of_play? (fun _ => rfl)
    (.fresh
      { handling := .reaper
        script := { waits := fun _ => [.ok (.stopped .tstp)] } } rfl rfl)
    (Option.some_get _).symm

theorem crowded_unheld :
    (crowded.jobs.get? 1065).isSome = true ∧
      crowded.host.slots.holds 1065 = false := by
  decide +kernel

/-- A job that is stranded in the table. -/
theorem reached_untracked_crowded :
    Reached True crowded ∧ History.Stranded 1065 crowded.host.history := by
  obtain ⟨untracked, -⟩ := reached_untracked crowded_reached
  have valid : (1065 : Pid) ≠ 0 := by decide
  exact ⟨crowded_reached, (untracked 1065 valid).mp crowded_unheld⟩

/-- Not every job in the table of a reached shell has a slot. -/
theorem not_all_tracked :
    ¬∀ shell,
      Reached True shell →
      ∀ pid,
        pid ≠ 0 →
        (shell.jobs.get? pid).isSome = true →
        shell.host.slots.holds pid = true := by
  intro tracked
  have valid : (1065 : Pid) ≠ 0 := by decide
  obtain ⟨inTable, unheld⟩ := crowded_unheld
  have held : crowded.host.slots.holds 1065 = true :=
    tracked crowded crowded_reached 1065 valid inTable
  exact Bool.false_ne_true (unheld.symm.trans held)

end Shell
end JobShell
