import JobShell.Proofs.Host.Account
import JobShell.Proofs.Reaper.Replay

namespace JobShell

/-!
# The history tells what the slots hold

Whatever the host does, its slots are those before it, replayed by the events
that it adds to the history, and what it answered about slots fits them. Only
the reaper, asking for a slot and draining add events that touch slots.
-/

namespace Event

theorem touchesSlots_of_isPlain
    {event : Event}
    (plain : event.isPlain = true) :
    event.touchesSlots = false := by
  unfold isPlain at plain
  unfold touchesSlots
  split <;> simp_all

theorem touchesSlots_of_isMasking
    {event : Event}
    (masking : event.isMasking = true) :
    event.touchesSlots = false := by
  unfold isMasking at masking
  split at masking <;> first | rfl | contradiction

theorem touchesSlots_of_isTerminal
    {event : Event}
    (terminal : event.isTerminal = true) :
    event.touchesSlots = false := by
  unfold isTerminal at terminal
  split at terminal <;> first | rfl | contradiction

end Event

namespace Host

/-- The history grew by events that lead from the slots before to those after. -/
def Replays (before after : Host) : Prop :=
  ∃ added,
    after.history = before.history ++ added ∧
      after.slots = before.slots.replay added ∧
      before.slots.FitsAll added

namespace Replays

/-- The slots are the same, and what was added does not touch them. -/
theorem of_same
    {before after : Host}
    {added : History}
    (grown : after.history = before.history ++ added)
    (apart : ∀ event ∈ added, event.touchesSlots = false)
    (slots : after.slots = before.slots) :
    Replays before after := by
  obtain ⟨same, fits⟩ := SlotTable.replay_of_not_touches apart before.slots
  exact ⟨added, grown, slots.trans same.symm, fits⟩

theorem emit
    {event : Event}
    (apart : event.touchesSlots = false) :
    Ignores Replays event :=
  fun _ => of_same rfl (by simpa using apart) rfl

/-- One event that says how the slots changed. -/
theorem of_event
    {before after : Host}
    {event : Event}
    (grown : after.history = before.history ++ [event])
    (slots : after.slots = before.slots.after event)
    (fits : before.slots.Fits event) :
    Replays before after :=
  ⟨[event], grown, slots, fits, trivial⟩

end Replays

instance : Frame Replays where
  refl host := Replays.of_same (List.append_nil _).symm (by simp) rfl
  trans := by
    rintro first second third ⟨earlier, grown, slots, fits⟩
      ⟨later, grownLater, slotsLater, fitsLater⟩
    refine ⟨earlier ++ later, ?_, ?_, ?_⟩
    · rw [grownLater, grown, List.append_assoc]
    · rw [slotsLater, slots, SlotTable.replay_append]
    · rw [SlotTable.fitsAll_append, ← slots]
      exact ⟨fits, fitsLater⟩

/-- The reaper adds the answers that it wrote down. -/
theorem replays_reap : Keeps Replays reap := by
  intro host
  obtain ⟨taken, left, cut⟩ := exists_cut host.pending
  have ran := Reaped.ofPending_eq cut host.slots
  obtain ⟨replayed, fits⟩ :=
    SlotTable.replay_answers (answersOf taken) host.slots
  have written :
      (answersOf taken).filterMap (fun answer => answer.bind ChildEvent.marking?) =
        taken.filterMap ChildEvent.marking? := by
    unfold answersOf
    split <;> simp [List.filterMap_map]
  refine ⟨_, rfl, ?_, ?_⟩
  · change (Reaped.ofPending host.slots host.pending).slots = _
    rw [ran, replayed, written]
  · rw [ran]
    exact fits

theorem replays_track (pid : Pid) : Keeps Replays (track pid) := by
  intro host
  have claims
      {granted : Bool}
      (answered : (host.slots.track pid).1 = granted) :
      Replays host
        (emit (.tracked pid granted)
          { host with slots := (host.slots.track pid).2 }).2 :=
    Replays.of_event rfl rfl answered.symm
  cases answered : (host.slots.track pid).1 with
  | true =>
      simp only [track, run_bind, run_get, run_set, answered]
      exact claims answered
  | false =>
      simp only [track, run_bind, run_get, run_set, answered]
      exact Frame.trans (claims answered) (Replays.emit rfl _)

/-- A draining adds what it hands out. -/
theorem replays_drain : Keeps Replays drain :=
  fun _ => Replays.of_event rfl rfl rfl

instance : Launchable Replays where
  refl := Frame.refl
  trans := Frame.trans
  same history slots _ _ :=
    Replays.of_same (history.trans (List.append_nil _).symm) (by simp) slots
  plain _ plain := Replays.emit (Event.touchesSlots_of_isPlain plain)
  mask _ _ := Replays.of_same (List.append_nil _).symm (by simp) rfl
  masking _ masking := Replays.emit (Event.touchesSlots_of_isMasking masking)
  terminal _ terminal := Replays.emit (Event.touchesSlots_of_isTerminal terminal)
  reap := replays_reap
  fork host := by
    obtain ⟨-, grown, -, slots⟩ := fork_eq host
    exact Replays.of_same grown (by simp [Event.touchesSlots]) slots
  wait pid host := by
    obtain ⟨grown, -, slots⟩ := wait_eq pid host
    refine Replays.of_same grown (fun event member => ?_) slots
    obtain ⟨answer, -, rfl⟩ := List.mem_map.mp member
    rfl
  track := replays_track

end Host
end JobShell
