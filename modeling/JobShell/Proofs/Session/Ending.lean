import JobShell.Proofs.Host.Trail
import JobShell.Proofs.Session.Keeps

namespace JobShell

/-!
# The end of a session

A session handles the first of its lines, and then it ends: because a line leaves,
because there are no more, because its input or a prompt fails, or because the
process is over. `Handles` takes
a shell from line to line. Once the last line is handled, the session collects
jobs and tells the user about them at most; it takes up no line, and neither the
modes of the terminal nor what SIGCHLD does are set by it.
-/

open Host (Adds Silent)

namespace Event

/--
The event takes up a line, or sets the modes of the terminal or what SIGCHLD does.
-/
def isSetting : Event → Bool
  | .line _ _ => true
  | .call (.setModes _) _ => true
  | .call (.setHandling _) _ => true
  | _ => false

theorem not_isSetting_of_isMasking
    {event : Event}
    (masking : event.isMasking = true) :
    event.isSetting = false := by
  unfold isMasking at masking
  split at masking <;> first | rfl | contradiction

end Event

instance : Telling (Silent Event.isSetting) where
  note _ _ := Host.silent_emit_of_unchosen rfl
  aside history _ children _ _ :=
    Host.silent_of_same history (congrArg Prod.fst children)
  output _ := Host.silent_emit_of_unchosen rfl
  complaint _ := Host.silent_emit_of_unchosen rfl
  unwritten _ := Host.silent_emit_of_unchosen rfl

instance : Deliverable (Silent Event.isSetting) where
  note := Noting.note
  aside := Lenient.aside
  mask _ _ := Host.silent_of_same rfl rfl
  masking _ masking :=
    Host.silent_emit_of_unchosen (Event.not_isSetting_of_isMasking masking)
  reap := Host.silent_reap fun _ => rfl

namespace Session

/--
A session takes up lines, from the one with a number on, and handles each of them
after what comes before a line.
-/
inductive Handles (session : Session) :
    Nat → List Bytes → Shell → Shell → Prop where
  | none (number : Nat) (shell : Shell) : Handles session number [] shell shell
  | line
      {number : Nat}
      {raw : Bytes}
      {rest : List Bytes}
      {before prompted handled after : Shell}
      {result : LineResult} :
      session.beforeLine number before = (.ok (), prompted) →
      session.handleLine number raw prompted = (result, handled) →
      Handles session (number + 1) rest
        (session.reported number result handled) after →
      Handles session number (raw :: rest) before after

/-- Before a line, jobs are collected and the user is told, and nothing is set. -/
theorem beforeLine_sets_nothing (session : Session) (number : Nat) :
    Keeps (OnHost (Silent Event.isSetting)) (session.beforeLine number) := by
  have drains : Keeps (Silent Event.isSetting) Host.drain := by
    intro host
    have drained :
        (Host.drain host).2.history =
          host.history ++ [.drained host.slots.drain.1] :=
      rfl
    exact Host.silent_of_unchosen drained (by simp [Event.isSetting]) rfl
  have collects : Keeps (OnHost (Silent Event.isSetting)) Shell.collect :=
    Shell.keeps_collect_of_drain drains
      fun _ => Host.silent_emit_of_unchosen rfl
  have prompts : Keeps (Silent Event.isSetting) (session.prompt number).run :=
    keeps_prompt (fun _ => Host.silent_emit_of_unchosen rfl)
      (fun _ => Host.silent_emit_of_unchosen rfl) session
  exact keeps_beforeLine Aside.onHost collects session prompts

/-- A session handles the first of its lines, and sets nothing after them. -/
theorem handles_of_course
    {session : Session}
    {trouble : Option Errno}
    {number : Nat}
    {lines : List Bytes}
    {before after : Shell}
    {result : SessionResult}
    (course : Course session trouble number lines before result after) :
    ∃ count last,
      Handles session number (lines.take count) before last ∧
        Silent Event.isSetting last.host after.host := by
  have prompts
      {number : Nat}
      {before prompted : Shell}
      {answer : Except SessionResult Unit}
      (prompting : session.beforeLine number before = (answer, prompted)) :
      Silent Event.isSetting before.host prompted.host :=
    (beforeLine_sets_nothing session number).ran prompting
  induction course with
  | @unprompted number _ before _ e prompting =>
      exact ⟨0, before, .none number before, prompts prompting⟩
  | @unread number before prompted after _ prompting ends =>
      have closes : Silent Event.isSetting prompted.host after.host :=
        ((keeps_endInput session trouble).ran ends).onHost
      exact
        ⟨0, before, .none number before,
          (prompts prompting).then_silent closes⟩
  | @left number _ _ _ _ after code prompting ran =>
      have handles := Handles.line prompting ran (.none (number + 1) after)
      exact ⟨1, after, handles, Host.keeps_note _ _ after.host⟩
  | @parted number _ _ _ _ after ending prompting ran =>
      have handles := Handles.line prompting ran (.none (number + 1) after)
      exact ⟨1, after, handles, Adds.refl after.host⟩
  | @unreported number _ _ _ _ _ e prompting ran =>
      have handles := Handles.line prompting ran (.none (number + 1) _)
      exact ⟨1, _, handles, Adds.refl _⟩
  | goesOn prompting ran _ _ _ inductionHypothesis =>
      obtain ⟨count, last, handles, closes⟩ := inductionHypothesis
      exact ⟨count + 1, last, .line prompting ran handles, closes⟩

end Session
end JobShell
