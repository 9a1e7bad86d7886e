import JobShell.Proofs.Host.Account

namespace JobShell

/-!
# What leaves slots, files and the terminal alone

Three relations for what a shell does before it launches anything, or when a
launch comes to nothing: only the history grew; the events that were added are
no work on slots, files or the terminal, and the same processes have slots; the
files are the same. The last two do not mind that signals are delivered.
-/

namespace Event

/--
The event claims a slot, opens the file of a redirection, or is a call about the
terminal, a recorded one included.
-/
def isWork : Event → Bool
  | .tracked _ _ => true
  | .opened _ _ => true
  | .call (.mark _) _ => true
  | event => event.isTerminal

theorem isWork_of_isMasking
    {event : Event}
    (masking : event.isMasking = true) :
    event.isWork = false := by
  unfold isMasking at masking
  split at masking
  · rfl
  · rfl
  · rfl
  · contradiction

end Event

namespace Host

/-- Only the history grew. -/
def Emits (before after : Host) : Prop :=
  ∃ added, after = { before with history := before.history ++ added }

/-- No slot was claimed or freed, no file opened and the terminal left alone. -/
structure Spares (before after : Host) : Prop where
  grows :
    ∃ added,
      after.history = before.history ++ added ∧
        ∀ event ∈ added, event.isWork = false
  holds : ∀ pid : Pid, after.slots.holds pid = before.slots.holds pid

/-- The files and the working directory are as they were. -/
def SameSpace (before after : Host) : Prop :=
  after.space = before.space

theorem emits_emit (event : Event) : Ignores Emits event :=
  fun _ => ⟨[event], rfl⟩

instance : Noting Emits where
  refl host := ⟨[], by simp⟩
  trans := by
    rintro first _ _ ⟨earlier, rfl⟩ ⟨later, rfl⟩
    exact ⟨earlier ++ later, by simp⟩
  note level message := emits_emit (.note level message)

namespace Spares

/-- The slots are the same, and what was added is no work. -/
theorem of_same
    {before after : Host}
    {added : History}
    (grown : after.history = before.history ++ added)
    (idle : ∀ event ∈ added, event.isWork = false)
    (slots : after.slots = before.slots) :
    Spares before after :=
  ⟨⟨added, grown, idle⟩, fun _ => by rw [slots]⟩

theorem emit
    {event : Event}
    (idle : event.isWork = false) :
    Ignores Spares event :=
  fun _ => of_same rfl (by simpa using idle) rfl

end Spares

instance : Deliverable Spares where
  refl host := Spares.of_same (List.append_nil _).symm (by simp) rfl
  trans := by
    intro first second third before after
    obtain ⟨earlier, grown, idle⟩ := before.grows
    obtain ⟨later, grownLater, idleLater⟩ := after.grows
    refine
      ⟨⟨earlier ++ later, ?_, List.forall_mem_append.mpr ⟨idle, idleLater⟩⟩,
        fun pid => (after.holds pid).trans (before.holds pid)⟩
    rw [grownLater, grown, List.append_assoc]
  note level message := Spares.emit rfl
  aside history slots _ _ _ :=
    Spares.of_same (history.trans (List.append_nil _).symm) (by simp) slots
  mask _ _ := Spares.of_same (List.append_nil _).symm (by simp) rfl
  masking _ masking := Spares.emit (Event.isWork_of_isMasking masking)
  reap := by
    intro host
    obtain ⟨-, holds, -⟩ := reaping_ofPending host.slots host.pending
    refine ⟨⟨_, rfl, ?_⟩, fun pid => ?_⟩
    · intro event member
      obtain ⟨answer, -, rfl⟩ := List.mem_map.mp member
      rfl
    · rw [SlotTable.holds_eq_isSome, SlotTable.holds_eq_isSome]
      exact holds pid

/-- A fork alone claims no slot. -/
theorem spares_fork : Keeps Spares fork := by
  intro host
  obtain ⟨-, grown, -, slots⟩ := fork_eq host
  exact Spares.of_same grown (by simp [Event.isWork, Event.isTerminal]) slots

instance : Deliverable SameSpace where
  refl _ := rfl
  trans before after := Eq.trans after before
  note _ _ _ := rfl
  aside _ _ _ _ space := space
  mask _ _ := rfl
  masking _ _ _ := rfl
  reap _ := rfl

theorem sameSpace_fork : Keeps SameSpace fork := by
  intro host
  change (fork host).2.space = host.space
  simp only [fork, run_bind, run_get]
  cases host.script.forks <;> rfl

end Host
end JobShell
