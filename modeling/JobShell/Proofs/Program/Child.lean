import JobShell.Proofs.Launch.Child
import JobShell.Proofs.Program.Keeps
import JobShell.Proofs.Session.Trail

namespace JobShell

/-!
# A program that becomes its child

A fork that answers as to a child makes the process of a program the child. The
rest of the run is then the child's, unless it panics: a run that ends as a child
has one such fork, and after it only the steps of the child, whatever lines and
undoing were still to come; a run that ends otherwise has none.
-/

open Host (Silent)

namespace Host

/-- What a run adds to the history, by how the process ended as a child, if so. -/
inductive Parts (before after : Host) : Option Ending → Prop where
  /-- The process stays what it is. -/
  | stays : Silent Event.isBirth before after → Parts before after none
  /-- It becomes the child of a command, whose steps come last. -/
  | leaves
      (descriptor : Descriptor)
      (opening steps : History)
      (space : Workspace)
      (ending : Ending) :
      descriptor.arguments ≠ [] →
      after.history =
        before.history ++ opening ++ .call (.fork .child) none :: steps →
      (∀ event ∈ opening, event.isBirth = false) →
      Child.Ends descriptor descriptor.program
        (descriptor.arguments.map Utf8.encode) steps ending →
      Child.Files steps space after.space →
      Parts before after (some ending)

namespace Parts

variable {first second third : Host} {ending : Option Ending}

theorem after_silent
    (silent : Silent Event.isBirth first second)
    (parts : Parts second third ending) :
    Parts first third ending := by
  cases parts with
  | stays silentToo =>
      exact .stays (silent.then_silent silentToo)
  | leaves descriptor opening steps space ending named history unborn ends
      files =>
      obtain ⟨events, grown, idle⟩ := silent.exists_events
      refine
        .leaves descriptor (events ++ opening) steps space ending named ?_ ?_
          ends files
      · rw [history, grown, List.append_assoc first.history]
      · have unbornToo : ∀ event ∈ events, event.isBirth = false := by
          simpa using List.filter_eq_nil_iff.mp idle
        exact List.forall_mem_append.mpr ⟨unbornToo, unborn⟩

theorem silent (parts : Parts first second none) :
    Silent Event.isBirth first second := by
  cases parts with
  | stays silent =>
      exact silent

/-- The history only grows. -/
theorem grows (parts : Parts first second ending) :
    first.history <+: second.history := by
  cases parts with
  | stays silent =>
      exact silent.grows
  | leaves _ opening steps _ _ _ history =>
      rw [history, List.append_assoc]
      exact List.prefix_append _ _

end Parts
end Host

namespace Shell

end Shell

namespace Session

variable {session : Session} {number : Nat}

end Session

namespace Program

/-- A child that cannot say why it fails ends as a program that panics. -/
example :
    let host : Host :=
      { script :=
          { forks := [.child]
            faults := fun syscall =>
              if syscall = .execv then [some .enoexec] else []
            complaints := [some .enospc] }
        space := { tree := { entries := [([[112]], .file 0o755 [])] } } }
    (run "2026-01-01" (.ok (Utf8.ofString "/p\n")) host).1.2 = .exit 101 := by
  decide +kernel

end Program
end JobShell
