import JobShell.Program
import JobShell.Proofs.Session.Trail

namespace JobShell

/-!
# What whole programs keep

Around its session a program starts the log, claims the terminal, installs the
reaper and undoes both. A relation that minds neither the terminal nor what its
sessions do is kept from the settings to the exit code.
-/

namespace Program

theorem keeps_reportFatal
    {relation : Host → Host → Prop}
    [Telling relation]
    (name message : String)
    (e : ShellError) :
    Keeps relation (reportFatal name message e) :=
  Keeps.bind (Host.keeps_note _ _) fun _ =>
    Keeps.bind (Host.keeps_complain _) fun _ =>
      Keeps.ite (Keeps.pure _) (Keeps.pure _)

section Ways

variable
  {settings : Settings}
  {input : Session.Input}
  {host ready : Host}

/-- After a setup that fails, the program only says so. -/
theorem runAsProgram_unready
    {e : ShellError}
    (sets : setUp settings host = (.error e, ready)) :
    runAsProgram settings input host =
      (.exit
          (reportFatal settings.name "jobsh: setup failed: " e ready).1,
        (reportFatal settings.name "jobsh: setup failed: " e ready).2) := by
  unfold runAsProgram
  rw [run_bind, sets]
  rfl

/-- Otherwise it runs its session, and ends as that does. -/
theorem runAsProgram_played
    {setup : Setup}
    {result : SessionResult}
    {after : Shell}
    (sets : setUp settings host = (.ok setup, ready))
    (plays : setup.session.run input { host := ready } = (result, after)) :
    runAsProgram settings input host =
      conclude settings setup result after.host := by
  unfold runAsProgram runSession
  rw [run_bind, sets]
  dsimp only
  rw [run_bind, plays]

variable (settings) (setup : Setup)

/-- A program that is no child reports at most, and then undoes the setup. -/
theorem conclude_undoes
    (relation : Host → Host → Prop)
    [Telling relation]
    {result : SessionResult}
    {after : Shell}
    (stays : Session.Stays result after) :
    ∃ last,
      relation after.host last ∧
        (conclude settings setup result after.host).2 =
          (tearDown setup last).2 := by
  cases result with
  | exit code =>
      exact ⟨after.host, Frame.refl after.host, rfl⟩
  | failed e =>
      exact ⟨_, keeps_reportFatal settings.name "jobsh: " e after.host, rfl⟩
  | ended ending =>
      obtain ⟨rfl, -⟩ := stays ending rfl
      exact ⟨after.host, Frame.refl after.host, rfl⟩

end Ways

section Steps

variable {relation : Host → Host → Prop} [Indifferent relation]

/-- Opening the log changes files only, and a failure is only reported. -/
theorem keeps_startLog (settings : Settings) (date : String) :
    Keeps relation (startLog settings date) := by
  intro host
  simp only [startLog, run_bind, run_get, run_set]
  have opens :
      relation host
        { host with space := (openLog settings date host.space).2 } :=
    Indifferent.same rfl rfl rfl rfl
  apply Frame.trans opens
  cases (openLog settings date host.space).1 with
  | error e =>
      exact Keeps.bind (Host.keeps_complain _) (fun _ => Keeps.pure _) _
  | ok file =>
      exact Keeps.bind (Host.keeps_note _ _) (fun _ => Keeps.pure _) _

/-- The end of a program keeps what undoing the setup keeps. -/
theorem keeps_conclude
    {setup : Setup}
    (settings : Settings)
    (undoes : Keeps relation (tearDown setup))
    (result : SessionResult) :
    Keeps relation (conclude settings setup result) := by
  cases result with
  | exit code =>
      exact Keeps.bind undoes fun _ => Keeps.pure _
  | failed e =>
      refine Keeps.bind (keeps_reportFatal _ _ e) fun _ => ?_
      exact Keeps.bind undoes fun _ => Keeps.pure _
  | ended ending =>
      exact Keeps.ite (Keeps.bind undoes fun _ => Keeps.pure _) (Keeps.pure _)

/-- A program keeps what its setup, its session and the end of it keep. -/
theorem runAsProgram_keeps
    {settings : Settings}
    {host : Host}
    (input : Session.Input)
    (sets : relation host (setUp settings host).2)
    (sustains :
      ∀ setup : Setup,
        (setUp settings host).1 = .ok setup →
        setup.session.Sustains relation)
    (undoes :
      ∀ setup : Setup,
        (setUp settings host).1 = .ok setup →
        Keeps relation (tearDown setup)) :
    relation host (runAsProgram settings input host).2 := by
  unfold runAsProgram
  rw [run_bind]
  apply Frame.trans sets
  cases answered : (setUp settings host).1 with
  | error e =>
      exact keeps_reportFatal settings.name "jobsh: setup failed: " e _
  | ok setup =>
      have plays : Keeps relation (runSession setup.session input) :=
        fun host => (sustains setup answered).run input { host := host }
      exact
        Keeps.bind plays (keeps_conclude settings (undoes setup answered)) _

end Steps

section Unowned

variable {relation : Host → Host → Prop} [Unowned relation]

theorem keeps_setUp (settings : Settings) :
    Keeps relation (setUp settings) := by
  refine Keeps.bind Terminal.keeps_claim fun claimed => ?_
  cases claimed with
  | error e =>
      exact Keeps.pure _
  | ok terminal =>
      refine Keeps.bind Host.keeps_installReaper fun installed => ?_
      cases installed with
      | error e =>
          exact
            Keeps.bind (Terminal.keeps_release terminal) fun _ => Keeps.pure _
      | ok previous =>
          exact Keeps.bind Keeps.get fun host => Keeps.pure _

theorem keeps_tearDown (setup : Setup) : Keeps relation (tearDown setup) :=
  Keeps.bind (Terminal.keeps_release _) fun _ => Host.keeps_removeReaper _

/-- A whole program keeps what all its possible sessions sustain. -/
theorem keeps_run
    (date : String)
    (input : Session.Input)
    (sustains : ∀ session : Session, session.Sustains relation) :
    Keeps relation (run date input) := by
  have starts (settings : Settings) :
      Keeps relation
        (do
          let started ← startLog settings date
          if started.2 then
            Host.note .debug
              ("jobsh: config loaded, logs in " ++
                Utf8.shown settings.logDirectory)
            let result ← runAsProgram settings input
            return (started.1, result)
          else return (started.1, .exit Ending.panicCode)
          : HostM (Option Logger × ProgramResult)) := by
    refine Keeps.bind (keeps_startLog settings date) fun started => ?_
    refine Keeps.ite (Keeps.bind (Host.keeps_note _ _) fun _ => ?_) (Keeps.pure _)
    refine Keeps.bind (fun host => ?_) fun result => Keeps.pure _
    exact
      runAsProgram_keeps input (keeps_setUp settings host)
        (fun setup _ => sustains setup.session)
        (fun setup _ => keeps_tearDown setup)
  intro host
  have loads :
      relation host { host with space := (Settings.load host.space).2 } :=
    Indifferent.same rfl rfl rfl rfl
  exact Frame.trans loads (starts (Settings.load host.space).1 _)

end Unowned

end Program
end JobShell
