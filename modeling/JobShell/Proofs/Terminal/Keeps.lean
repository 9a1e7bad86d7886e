import JobShell.Proofs.Host.Keeps
import JobShell.Terminal

namespace JobShell

/-!
# What the terminal's owner keeps

Handing the terminal over and taking it back are calls about the terminal and
messages, whoever answers for it, and whether they fail or not. So is claiming
it; waiting for it only asks for it.
-/

namespace Terminal

/-- The event asks who owns the terminal, or stops the shell's group. -/
def isAsking : Event → Bool
  | .call (.getOwner _) _ => true
  | .call (.killGroup _ _) _ => true
  | _ => false

theorem isTerminal_of_isAsking
    {event : Event}
    (asking : isAsking event = true) :
    event.isTerminal = true := by
  unfold isAsking at asking
  split at asking <;> first | rfl | contradiction

/-- A relation that does not mind calls that ask for the terminal. -/
class Asking (relation : Host → Host → Prop) : Prop
    extends Indifferent relation where
  ask : ∀ event : Event, isAsking event = true → Ignores relation event

instance
    (relation : Host → Host → Prop)
    [Unowned relation] :
    Asking relation where
  ask event asking := Unowned.terminal event (isTerminal_of_isAsking asking)

section Asking

variable {relation : Host → Host → Prop} [Asking relation]

theorem keeps_getOwner : Keeps relation Host.getOwner.run := by
  refine Keeps.bindE (Keeps.liftE Keeps.get) fun host => ?_
  refine
    Keeps.bindE (Host.keeps_demand (fun _ => Asking.ask _ rfl) _ _) fun _ => ?_
  refine Keeps.bindE (Keeps.liftE ?_) fun _ => Keeps.pure _
  exact
    Host.keeps_modify
      (fun _ => rfl) (fun _ => rfl) (fun _ => rfl) (fun _ => rfl)

/-- Waiting for the foreground asks, however often it has to. -/
theorem keeps_awaitForeground (answers : Nat) :
    Keeps relation (awaitForeground answers).run := by
  induction answers with
  | zero =>
      exact Keeps.bindE keeps_getOwner fun _ => Keeps.pure _
  | succ answers inductionHypothesis =>
      refine Keeps.bindE (Keeps.liftE Keeps.get) fun host => ?_
      refine Keeps.bindE keeps_getOwner fun owner => ?_
      split
      · exact Keeps.pure _
      · refine Keeps.bindE (Keeps.liftE (Host.keeps_note _ _)) fun _ => ?_
        exact
          Keeps.bindE (Host.keeps_demand (fun _ => Asking.ask _ rfl) _ _)
            fun _ => inductionHypothesis

end Asking

theorem keeps_leadGroup
    {relation : Host → Host → Prop}
    [Indifferent relation] :
    Keeps relation leadGroup.run := by
  refine Keeps.bindE (Keeps.liftE Keeps.get) fun host => ?_
  refine Keeps.bindE (Keeps.liftE (Host.keeps_setGroup _ _)) fun answer => ?_
  split
  · exact Keeps.pure _
  · exact Keeps.liftE (Host.keeps_note _ _)
  · exact Keeps.pure _

variable {relation : Host → Host → Prop} [Unowned relation]

theorem keeps_saveModes : Keeps relation saveModes := by
  have reads : Keeps relation Host.getModes := by
    refine Keeps.bind Keeps.get fun host => ?_
    refine
      Keeps.bind
        (Host.keeps_attempt (Host.ignores_terminal fun _ => rfl) _)
        fun fault => ?_
    cases fault with
    | none =>
        exact Keeps.pure _
    | some errno =>
        exact Keeps.pure _
  refine Keeps.bind reads fun answer => ?_
  cases answer with
  | ok modes =>
      exact Keeps.pure _
  | error errno =>
      exact Keeps.bind (Host.keeps_note _ _) fun _ => Keeps.pure _

theorem keeps_claim : Keeps relation claim.run := by
  refine Keeps.bindE (Keeps.liftE Keeps.get) fun host => ?_
  dsimp only
  split
  · exact
      Keeps.bindE (Keeps.liftE (Host.keeps_note _ _)) fun _ => Keeps.pure _
  · refine Keeps.bindE (keeps_awaitForeground _) fun _ => ?_
    refine Keeps.bindE Host.keeps_ignoreJobControl fun _ => ?_
    refine Keeps.bindE keeps_leadGroup fun _ => ?_
    refine Keeps.bindE (Keeps.liftE Keeps.get) fun host => ?_
    refine Keeps.bindE (Host.keeps_setOwner _) fun _ => ?_
    refine Keeps.bindE (Keeps.liftE keeps_saveModes) fun modes => ?_
    exact
      Keeps.bindE (Keeps.liftE (Host.keeps_note _ _)) fun _ => Keeps.pure _

/-- A computation whose failure is only logged. -/
theorem keeps_logged
    {action : HostE Unit}
    (keeps : Keeps relation action.run)
    (level : Level)
    (message : ShellError → String) :
    Keeps relation
      (do
        match ← action.run with
        | .ok () => return
        | .error e => Host.note level (message e) : HostM Unit) := by
  refine Keeps.bind keeps fun answer => ?_
  cases answer with
  | ok done =>
      exact Keeps.pure _
  | error e =>
      exact Host.keeps_note _ _

theorem keeps_restoreModes (terminal : Terminal) :
    Keeps relation terminal.restoreModes.run := by
  unfold restoreModes
  split
  · exact Host.keeps_setModes _
  · exact Keeps.pure _

theorem keeps_foreground (terminal : Terminal) (pid : Pid) :
    Keeps relation (terminal.foreground pid).run := by
  cases terminal with
  | detached group =>
      exact Keeps.pure _
  | claimed group modes =>
      exact
        Keeps.bindE (Keeps.liftE (Host.keeps_note _ _))
          fun _ => Host.keeps_setOwner pid
  | recorder fails failsToo =>
      refine
        Keeps.bindE (Keeps.liftE (Host.keeps_emit rfl)) fun _ => ?_
      split <;> exact Keeps.pure _

theorem keeps_reclaim (terminal : Terminal) :
    Keeps relation terminal.reclaim.run := by
  cases terminal with
  | detached group =>
      exact Keeps.pure _
  | claimed group modes =>
      refine Keeps.bindE (Keeps.liftE (Host.keeps_note _ _)) fun _ => ?_
      exact
        Keeps.bindE (Host.keeps_setOwner group)
          fun _ => keeps_restoreModes (.claimed group modes)
  | recorder failsToo fails =>
      refine
        Keeps.bindE (Keeps.liftE (Host.keeps_emit rfl)) fun _ => ?_
      split <;> exact Keeps.pure _

theorem keeps_handOver (terminal : Terminal) (pid : Pid) :
    Keeps relation (terminal.handOver pid) :=
  keeps_logged (keeps_foreground terminal pid) _ _

theorem keeps_takeBack (terminal : Terminal) :
    Keeps relation terminal.takeBack :=
  keeps_logged (keeps_reclaim terminal) _ _

theorem keeps_release (terminal : Terminal) :
    Keeps relation terminal.release :=
  keeps_logged (keeps_restoreModes terminal) _ _

end Terminal
end JobShell
