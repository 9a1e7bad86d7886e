import JobShell.Proofs.Launch.Paths
import JobShell.Proofs.Terminal.Keeps

namespace JobShell

/-!
# What launches keep

The steps of a launch that an indifferent relation between hosts does not mind:
the job table is no part of the host, and entering a child changes no more than
its group and the log. A forked child makes plain calls only, until its signals
are unblocked. A relation that minds neither forks, waits nor slots is kept by
whole launches.
-/

/-- A relation between hosts as one between the shells on them. -/
def OnHost
    (relation : Host → Host → Prop)
    (before after : Shell) :
    Prop :=
  relation before.host after.host

instance
    (relation : Host → Host → Prop)
    [Frame relation] :
    Frame (OnHost relation) where
  refl shell := Frame.refl shell.host
  trans := by
    intro first second third before after
    have composed : relation first.host third.host :=
      Frame.trans before after
    exact composed

/-- A computation on the host, run by a shell. -/
theorem Keeps.onHost
    {relation : Host → Host → Prop}
    {action : HostM α}
    (keeps : Keeps relation action) :
    Keeps (OnHost relation) (liftM action : ShellM α) :=
  fun shell => keeps shell.host

/-- Only the host changed, as the relation says. -/
def Aside
    (relation : Host → Host → Prop)
    (before after : Shell) :
    Prop :=
  ∃ host, relation before.host host ∧ after = before.on host

instance
    (relation : Host → Host → Prop)
    [Frame relation] :
    Frame (Aside relation) where
  refl shell := ⟨shell.host, Frame.refl shell.host, rfl⟩
  trans := by
    rintro first second third ⟨host, before, rfl⟩ ⟨last, after, rfl⟩
    exact ⟨last, Frame.trans before after, rfl⟩

theorem Aside.onHost
    {relation : Host → Host → Prop}
    {before after : Shell}
    (aside : Aside relation before after) :
    OnHost relation before after := by
  obtain ⟨host, related, rfl⟩ := aside
  exact related

theorem Keeps.aside
    {relation : Host → Host → Prop}
    {action : HostM α}
    (keeps : Keeps relation action) :
    Keeps (Aside relation) (liftM action : ShellM α) :=
  fun shell => ⟨_, keeps shell.host, rfl⟩

namespace Child

section

variable {relation : Host → Host → Prop} [Signalled relation]

/-- Opening the file of a redirection is idle, whether it opens or not. -/
theorem keeps_openFile (redirection : Redirection) :
    Keeps relation (openFile redirection).run := by
  refine Keeps.bindE (Keeps.liftE (Host.keeps_nextFault _)) fun fault => ?_
  refine Keeps.bindE (Keeps.liftE Keeps.get) fun host => ?_
  split
  · exact
      Keeps.bindE (Keeps.liftE (Host.keeps_emit rfl))
        fun _ => Keeps.pure _
  · refine
      Keeps.bindE
        (Keeps.liftE
          (Host.keeps_modify
            (fun _ => rfl) (fun _ => rfl) (fun _ => rfl) (fun _ => rfl)))
        fun _ => ?_
    exact Keeps.liftE (Host.keeps_emit rfl)

theorem keeps_setUp
    (redirection : Option Redirection)
    (program : Bytes)
    (arguments : List Bytes) :
    Keeps relation (setUp redirection program arguments).run := by
  refine
    Keeps.bindE (Host.keeps_demand (Host.ignores_plain fun _ => rfl) _ _)
      fun _ => ?_
  refine Keeps.bindE Host.keeps_resetForChild fun _ => ?_
  have execs :
      Keeps relation
        (Host.demand "exec" .execv (.execute program arguments)).run :=
    Host.keeps_demand (Host.ignores_plain fun _ => rfl) _ _
  cases redirection with
  | none =>
      exact Keeps.bindE (Keeps.pure _) fun _ => execs
  | some redirection =>
      refine Keeps.bindE ?_ fun _ => execs
      exact
        Keeps.bindE (keeps_openFile redirection)
          fun _ => Host.keeps_demand (Host.ignores_plain fun _ => rfl) _ _

/-- A child leaves the terminal alone, and forks and waits for nobody. -/
theorem keeps_run
    (descriptor : Descriptor)
    (program : Bytes)
    (arguments : List Bytes) :
    Keeps relation (run descriptor program arguments) := by
  refine Keeps.bind (keeps_setUp _ _ _) fun answer => ?_
  cases answer with
  | ok done =>
      exact Keeps.pure _
  | error e =>
      dsimp only
      cases descriptor.arguments with
      | nil =>
          exact Keeps.pure _
      | cons name rest =>
          exact
            Keeps.bind (Host.keeps_complain _)
              fun _ => Keeps.ite (Keeps.pure _) (Keeps.pure _)

/-- A child that panics unblocks its signals, and no more. -/
theorem keeps_runChild
    (descriptor : Descriptor)
    (program : Bytes)
    (arguments : List Bytes)
    (previous : Bool) :
    Keeps relation (Shell.runChild descriptor program arguments previous) :=
  Keeps.bind (keeps_run _ _ _) fun _ =>
    Keeps.when (Host.keeps_unblock previous) (Keeps.pure _)

end

end Child

namespace Shell

section Steps

variable {relation : Host → Host → Prop} [Indifferent relation]

/-- A change of the jobs or of the last status leaves the host alone. -/
theorem keeps_modify
    {change : Shell → Shell}
    (host : ∀ shell, (change shell).host = shell.host) :
    Keeps (OnHost relation) (modify change : ShellM PUnit) := by
  intro shell
  change relation shell.host (change shell).host
  rw [host]
  exact Frame.refl _

theorem keeps_removeJob (pid : Pid) :
    Keeps (OnHost relation) (removeJob pid) :=
  fun _ => Frame.refl _

theorem keeps_updateJob (pid : Pid) (status : Status) :
    Keeps (OnHost relation) (updateJob pid status) :=
  keeps_modify fun _ => rfl

theorem keeps_addJob (descriptor : Descriptor) :
    Keeps (OnHost relation) (addJob descriptor) := by
  refine Keeps.bind Keeps.get fun shell => ?_
  dsimp only
  split
  · refine Keeps.bind (Host.keeps_note _ _).onHost fun _ => ?_
    exact Keeps.bind (keeps_modify fun _ => rfl) fun _ => Keeps.pure _
  · exact Keeps.bind (keeps_modify fun _ => rfl) fun _ => Keeps.pure _

theorem keeps_noteTrouble (pid : Pid) (trouble : Option Errno) :
    Keeps relation (noteTrouble pid trouble) := by
  unfold noteTrouble
  split
  · exact Keeps.pure _
  · exact Host.keeps_note _ _
  · exact Host.keeps_note _ _

/-- Entering a child into the table is a plain step. -/
theorem keeps_enter (descriptor : Descriptor) (pid : Pid) :
    Keeps (OnHost relation) (enter descriptor pid) := by
  refine Keeps.bind (Host.keeps_setGroup _ _).onHost fun fault => ?_
  cases fault with
  | none =>
      exact Keeps.bind (keeps_addJob _) fun _ => Keeps.pure _
  | some errno =>
      refine Keeps.bind (Host.keeps_note _ _).onHost fun _ => ?_
      exact Keeps.bind (keeps_addJob _) fun _ => Keeps.pure _

theorem entered_keeps
    (descriptor : Descriptor)
    (pid : Pid)
    (shell : Shell) :
    relation shell.host (entered descriptor pid shell).host :=
  keeps_enter descriptor pid shell

end Steps

/--
A relation between shells that follows one between hosts, and minds no change of
the jobs and of the last status.
-/
class Follows
    (relation : Host → Host → Prop)
    (shells : Shell → Shell → Prop) : Prop
    extends Frame shells where
  aside :
    ∀ {before after : Shell}, Aside relation before after → shells before after
  add : ∀ descriptor : Descriptor, Keeps shells (addJob descriptor)
  update :
    ∀ (pid : Pid) (status : Status), Keeps shells (updateJob pid status)
  remove : ∀ pid : Pid, Keeps shells (removeJob pid)
  settle :
    ∀ (shell : Shell) (status : Option Status),
      shells shell { shell with lastStatus := status }

instance
    (relation : Host → Host → Prop)
    [Indifferent relation] :
    Follows relation (OnHost relation) where
  aside := Aside.onHost
  add := keeps_addJob
  update := keeps_updateJob
  remove := keeps_removeJob
  settle shell _ := Frame.refl shell.host

section Launches

variable
  {relation : Host → Host → Prop}
  {shells : Shell → Shell → Prop}

/-- A computation on the host, run by a shell. -/
theorem Follows.lift
    [Follows relation shells]
    {action : HostM α}
    (keeps : Keeps relation action) :
    Keeps shells (liftM action : ShellM α) :=
  fun shell => Follows.aside (keeps.aside shell)

theorem follows_leaveInBackground
    [Indifferent relation]
    [follows : Follows relation shells]
    {pid : Pid}
    (tracks : Keeps relation (Host.track pid)) :
    Keeps shells (leaveInBackground pid) := by
  have forgets :
      Keeps shells
        (modify fun shell => { shell with lastStatus := none } :
          ShellM PUnit) :=
    fun shell => follows.settle shell none
  refine Keeps.bind (follows.lift tracks) fun granted => ?_
  dsimp only
  split
  · refine Keeps.bind (follows.lift (Host.keeps_note _ _)) fun _ => ?_
    exact Keeps.bind (follows.remove pid) fun _ => forgets
  · exact forgets

section Attending

variable (relation) [Attending relation] [follows : Follows relation shells]

include follows

theorem follows_waitForeground (pid : Pid) :
    Keeps shells (waitForeground pid) := by
  have updates (status : Status) :
      Keeps shells
        (do
          updateJob pid status
          return status : ShellM Status) :=
    Keeps.bind (follows.update pid status) fun _ => Keeps.pure _
  refine Keeps.bind (follows.lift (Attending.wait pid)) fun settled => ?_
  refine Keeps.bind (follows.lift (keeps_noteTrouble _ _)) fun _ => ?_
  refine Keeps.bind (follows.lift (Host.keeps_note _ _)) fun _ => ?_
  dsimp only
  split
  · refine Keeps.bind (follows.lift (Attending.track pid)) fun _ => ?_
    exact updates _
  · exact updates _

theorem follows_runInForeground (terminal : Terminal) (pid : Pid) :
    Keeps shells (runInForeground terminal pid) := by
  refine
    Keeps.bind (follows.lift (Terminal.keeps_handOver _ _)) fun _ => ?_
  refine Keeps.bind (follows_waitForeground relation pid) fun status => ?_
  refine Keeps.bind (follows.lift (Terminal.keeps_takeBack _)) fun _ => ?_
  exact fun shell => follows.settle shell (some status)

theorem follows_adopt
    (terminal : Terminal)
    (descriptor : Descriptor)
    (pid : Pid) :
    Keeps shells (adopt terminal descriptor pid) := by
  have adopts :
      Keeps shells
        (do
          let _ ←
            addJob { descriptor with pid := some pid, group := some pid }
          if descriptor.background then leaveInBackground pid
          else runInForeground terminal pid : ShellM Unit) := by
    refine Keeps.bind (follows.add _) fun _ => ?_
    split
    · have tracks : Keeps relation (Host.track pid) := Attending.track pid
      exact follows_leaveInBackground tracks
    · exact follows_runInForeground relation terminal pid
  refine Keeps.bind (follows.lift (Host.keeps_setGroup _ _)) fun fault => ?_
  cases fault with
  | none =>
      exact adopts
  | some errno =>
      exact Keeps.bind (follows.lift (Host.keeps_note _ _)) fun _ => adopts

end Attending

/-- Launching keeps the relation, however it goes. -/
theorem follows_execute
    (relation : Host → Host → Prop)
    [Launchable relation]
    [follows : Follows relation shells]
    (terminal : Terminal)
    (descriptor : Descriptor) :
    Keeps shells (execute terminal descriptor) := by
  unfold execute
  split
  · exact Keeps.pure _
  · exact Keeps.pure _
  · rename_i program arguments _ _
    refine Keeps.bind (follows.lift (Host.keeps_note _ _)) fun _ => ?_
    refine Keeps.bind (follows.lift Host.keeps_block) fun answer => ?_
    cases answer with
    | error errno =>
        exact Keeps.pure _
    | ok previous =>
        have unblocks : Keeps relation (Host.unblock previous) :=
          Host.keeps_unblock previous
        refine Keeps.bind (follows.lift Attending.fork) fun forked => ?_
        cases forked with
        | child =>
            exact
              Keeps.bind (follows.lift (Child.keeps_runChild _ _ _ previous))
                fun _ => Keeps.pure _
        | failed errno =>
            exact
              Keeps.bind (follows.lift unblocks) fun _ => Keeps.pure _
        | parent pid =>
            refine
              Keeps.bind (follows_adopt relation terminal descriptor pid)
                fun _ => ?_
            exact
              Keeps.bind (follows.lift unblocks) fun _ => Keeps.pure _

end Launches

/-- Collecting keeps what blocking, draining and unblocking keep. -/
theorem keeps_collect_of_drain
    {relation : Host → Host → Prop}
    [Deliverable relation]
    (drains : Keeps relation Host.drain)
    (collects : ∀ jobs : List Job, Ignores relation (.collected jobs)) :
    Keeps (OnHost relation) collect := by
  refine Keeps.bind Host.deliverable_block.onHost fun answer => ?_
  cases answer with
  | error errno =>
      exact
        Keeps.bind (Host.keeps_note _ _).onHost
          fun _ => Keeps.pure _
  | ok previous =>
      refine Keeps.bind drains.onHost fun events => ?_
      refine Keeps.bind (Host.deliverable_unblock previous).onHost fun _ => ?_
      exact fun shell => collects _ shell.host

/-- A launch that is refused changes only the host, as a failed fork may. -/
theorem aside_of_refused
    {relation : Host → Host → Prop}
    [Deliverable relation]
    (fails :
      ∀ {host : Host} {errno : Errno},
        (Host.fork host).1 = .failed errno →
        relation host (Host.fork host).2)
    {terminal : Terminal}
    {descriptor : Descriptor}
    {before after : Shell}
    {e : ShellError}
    (ran : execute terminal descriptor before = (.refused e, after)) :
    Aside relation before after := by
  have announces : relation before.host (announced descriptor before.host) :=
    Host.keeps_note _ _ before.host
  have blocks :
      relation before.host
        (Host.block (announced descriptor before.host)).2 :=
    Frame.trans announces (Host.deliverable_block _)
  cases execute_executed ran with
  | malformed e problem =>
      exact Frame.refl before
  | notBlocked errno unblocked blocking =>
      rw [blocking] at blocks
      exact ⟨unblocked, blocks, rfl⟩
  | notForked previous blocked errno blocking forked =>
      rw [blocking] at blocks
      have forks : relation before.host (Host.fork blocked).2 :=
        Frame.trans blocks (fails forked)
      exact ⟨_, Frame.trans forks (Host.deliverable_unblock previous _), rfl⟩

end Shell
end JobShell
