import JobShell.Proofs.Launch.Account

namespace JobShell

/-!
# The table and the slots stay sound

No call of a shell enters a job under another process number than its own, or
gives a process two slots. The handler and the terminal cannot do so either.
-/

/-- The slots stay well formed. -/
def Host.Tidy (before after : Host) : Prop :=
  before.slots.WellFormed → after.slots.WellFormed

/-- The shell stays sound. -/
def Shell.Tidy (before after : Shell) : Prop :=
  before.Sound → after.Sound

namespace Host

theorem tidy_of_slots
    {before after : Host}
    (slots : after.slots = before.slots) :
    Tidy before after := by
  intro wellFormed
  rwa [slots]

theorem tidy_drain : Keeps Tidy drain :=
  fun _ wellFormed => SlotTable.drain_wellFormed wellFormed

instance : Launchable Tidy where
  refl _ wellFormed := wellFormed
  trans before after wellFormed := after (before wellFormed)
  same _ slots _ _ := tidy_of_slots slots
  plain _ _ _ := tidy_of_slots rfl
  mask _ _ := tidy_of_slots rfl
  masking _ _ _ := tidy_of_slots rfl
  terminal _ _ _ := tidy_of_slots rfl
  reap host wellFormed :=
    (reaping_ofPending host.slots host.pending).1 wellFormed
  fork host := tidy_of_slots (fork_eq host).2.2.2
  wait pid host := tidy_of_slots (wait_eq pid host).2.2
  track pid host wellFormed := by
    rw [(track_account pid host).2.1]
    exact SlotTable.track_wellFormed wellFormed pid

end Host

namespace Shell

instance : Follows Host.Tidy Tidy where
  refl _ sound := sound
  trans before after sound := after (before sound)
  aside := by
    rintro before after ⟨host, tidy, rfl⟩ sound
    exact ⟨sound.keyed, tidy sound.wellFormed⟩
  add descriptor shell sound := by
    have enters : OnHost Host.Tidy shell (addJob descriptor shell).2 :=
      keeps_addJob descriptor shell
    refine ⟨?_, enters sound.wellFormed⟩
    rw [addJob_jobs]
    exact JobTable.add_keyed sound.keyed descriptor
  update pid status _ sound :=
    ⟨JobTable.update_keyed sound.keyed pid status, sound.wellFormed⟩
  remove pid _ sound :=
    ⟨JobTable.remove_keyed sound.keyed pid, sound.wellFormed⟩
  settle _ _ sound := ⟨sound.keyed, sound.wellFormed⟩

/-- A launch keeps the shell sound, however it goes. -/
theorem tidy_execute (terminal : Terminal) (descriptor : Descriptor) :
    Keeps Tidy (execute terminal descriptor) :=
  follows_execute Host.Tidy terminal descriptor

end Shell
end JobShell
