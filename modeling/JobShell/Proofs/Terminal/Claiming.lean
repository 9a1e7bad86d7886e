import JobShell.Proofs.Terminal.Trail

namespace JobShell

/-!
# Claiming the terminal call by call

To claim the terminal is to go through a plan of calls, which is known from the
start: the owners that the terminal will name, the signals to ignore, the group
to lead and to give the terminal to, the modes to read. Each call of the plan ends
as the faults of its kind say. The plan is left at the first call that fails and
is not tolerated; nothing is called after it, and its error is the answer.
-/

open Host (Adds Silent)

namespace Event

/-- The event is more than a message, a complaint or output, written or not. -/
def isAct : Event → Bool
  | .note _ _ => false
  | .complaint _ => false
  | .output _ => false
  | .unwritten _ => false
  | _ => true

end Event

instance : Terminal.Watching Event.isAct where
  note _ _ := Host.silent_emit_of_unchosen rfl
  terminal event terminal := by
    unfold Event.isTerminal at terminal
    unfold Event.isAct
    split <;> simp_all

namespace Host

/-- How the calls of each kind end, in their order. -/
abbrev Faults := Syscall → List (Option Errno)

namespace Faults

/-- The error of the next call of a kind, if it fails. -/
def next (faults : Faults) (syscall : Syscall) : Option Errno :=
  (faults syscall).head?.join

/-- What is left after a call of a kind. -/
def drop (faults : Faults) (syscall : Syscall) : Faults :=
  fun other =>
    if other = syscall then (faults syscall).tail else faults other

theorem drop_of_ne
    {syscall other : Syscall}
    (different : syscall ≠ other)
    (faults : Faults) :
    faults.drop syscall other = faults other :=
  if_neg different.symm

end Faults

/-- A call that is planned. -/
structure Step where
  syscall : Syscall
  call : Call
  /-- What its failure is an error of. -/
  context : String
  /-- The failures that are no error. -/
  tolerates : Errno → Bool := fun _ => false

/--
The events of going through a plan, up to the first call whose failure is not
tolerated, and the faults that are left then.
-/
inductive Proceeds :
    Faults → List Step → History → Except ShellError Unit → Faults →
      Prop where
  | finished (faults : Faults) : Proceeds faults [] [] (.ok ()) faults
  /-- The call succeeds, or its failure is tolerated. -/
  | passed
      (step : Step)
      {faults left : Faults}
      {rest : List Step}
      {events : History}
      {result : Except ShellError Unit} :
      (∀ errno,
        faults.next step.syscall = some errno → step.tolerates errno = true) →
      Proceeds (faults.drop step.syscall) rest events result left →
      Proceeds faults (step :: rest)
        (.call step.call (faults.next step.syscall) :: events) result left
  /-- The call fails. -/
  | failed
      (step : Step)
      {faults : Faults}
      (rest : List Step)
      (errno : Errno) :
      faults.next step.syscall = some errno →
      step.tolerates errno = false →
      Proceeds faults (step :: rest) [.call step.call (some errno)]
        (.error (.sys step.context errno)) (faults.drop step.syscall)

namespace Proceeds

variable
  {faults between left : Faults}
  {first second : List Step}
  {events later : History}
  {result : Except ShellError Unit}

/-- One plan after another that is finished. -/
theorem append
    (proceeds : Proceeds faults first events (.ok ()) between)
    (proceedsOn : Proceeds between second later result left) :
    Proceeds faults (first ++ second) (events ++ later) result left := by
  generalize finished : (.ok () : Except ShellError Unit) = answer at proceeds
  induction proceeds with
  | finished faults =>
      exact proceedsOn
  | passed step tolerated _ inductionHypothesis =>
      exact .passed step tolerated (inductionHypothesis proceedsOn finished)
  | failed =>
      contradiction

/-- No plan is begun after one that is not finished. -/
theorem stay
    {e : ShellError}
    (proceeds : Proceeds faults first events (.error e) left)
    (second : List Step) :
    Proceeds faults (first ++ second) events (.error e) left := by
  generalize failure : (.error e : Except ShellError Unit) = answer
    at proceeds ⊢
  induction proceeds with
  | finished faults =>
      contradiction
  | passed step tolerated _ inductionHypothesis =>
      exact .passed step tolerated (inductionHypothesis failure)
  | failed step rest errno fails fatal =>
      exact .failed step (rest ++ second) errno fails fatal

/-- Who finishes two plans finishes the first, and then the second. -/
theorem exists_of_append
    (proceeds : Proceeds faults (first ++ second) events (.ok ()) left) :
    ∃ earlier later between,
      Proceeds faults first earlier (.ok ()) between ∧
        Proceeds between second later (.ok ()) left ∧
        events = earlier ++ later := by
  induction first generalizing faults events with
  | nil =>
      exact ⟨[], events, faults, .finished faults, proceeds, rfl⟩
  | cons step rest inductionHypothesis =>
      cases proceeds with
      | passed _ tolerated proceeds =>
          obtain ⟨earlier, later, between, before, after, rfl⟩ :=
            inductionHypothesis proceeds
          exact
            ⟨_, later, between, .passed step tolerated before, after, rfl⟩

/-- A call that tolerates no failure and is passed succeeds. -/
theorem next_eq_none
    {step : Step}
    (strict : ∀ errno, step.tolerates errno = false)
    (tolerated :
      ∀ errno,
        faults.next step.syscall = some errno → step.tolerates errno = true) :
    faults.next step.syscall = none := by
  rw [Option.eq_none_iff_forall_ne_some]
  intro errno fails
  have fatal := strict errno
  rw [tolerated errno fails] at fatal
  contradiction

/-- Who finishes a plan that tolerates nothing has no failure. -/
theorem eq_map_of_strict
    (proceeds : Proceeds faults first events (.ok ()) left)
    (strict : ∀ step ∈ first, ∀ errno, step.tolerates errno = false) :
    events = first.map fun step => .call step.call none := by
  generalize finished : (.ok () : Except ShellError Unit) = answer at proceeds
  induction proceeds with
  | finished faults =>
      rfl
  | @passed step faults _ rest _ _ tolerated _ inductionHypothesis =>
      obtain ⟨strictHere, strictLater⟩ := List.forall_mem_cons.mp strict
      rw [next_eq_none strictHere tolerated,
        inductionHypothesis strictLater finished, List.map_cons]
  | failed =>
      contradiction

/-- Who does not finish a plan has finished what is before the call that fails. -/
theorem exists_of_error
    {e : ShellError}
    (proceeds : Proceeds faults first events (.error e) left) :
    ∃ done step rest earlier between errno,
      first = done ++ step :: rest ∧
        Proceeds faults done earlier (.ok ()) between ∧
        Faults.next between step.syscall = some errno ∧
        step.tolerates errno = false ∧
        events = earlier ++ [.call step.call (some errno)] ∧
        e = .sys step.context errno := by
  generalize failure : (.error e : Except ShellError Unit) = answer at proceeds
  induction proceeds with
  | finished faults =>
      contradiction
  | passed step tolerated _ inductionHypothesis =>
      obtain
        ⟨done, last, rest, earlier, between, errno, rfl, passes, fails, fatal,
          rfl, answered⟩ := inductionHypothesis failure
      exact
        ⟨step :: done, last, rest, _, between, errno, rfl,
          .passed step tolerated passes, fails, fatal, rfl, answered⟩
  | @failed step faults rest errno fails fatal =>
      obtain rfl := Except.error.inj failure
      exact
        ⟨[], step, rest, [], faults, errno, rfl, .finished faults, fails,
          fatal, rfl, rfl⟩

/-- Calls of other kinds leave the faults of a kind alone. -/
theorem unused
    {syscall : Syscall}
    (proceeds : Proceeds faults first events result left)
    (unused : ∀ step ∈ first, step.syscall ≠ syscall) :
    left syscall = faults syscall := by
  induction proceeds with
  | finished faults =>
      rfl
  | passed step _ _ inductionHypothesis =>
      obtain ⟨other, others⟩ := List.forall_mem_cons.mp unused
      rw [inductionHypothesis others, Faults.drop_of_ne other]
  | failed step rest errno =>
      exact Faults.drop_of_ne (unused step List.mem_cons_self) _

end Proceeds

/--
A run makes the calls of a plan and fails as it does; when it succeeds, its answer
and the host are as ensured.
-/
structure Makes
    (plan : List Step)
    (ensured : α → Host → Prop)
    (before : Host)
    (ran : Except ShellError α × Host) :
    Prop where
  proceeds :
    ∃ events,
      Proceeds before.script.faults plan events (ran.1.map fun _ => ())
          ran.2.script.faults ∧
        Adds Event.isAct events before ran.2
  ensures : ∀ answer, ran.1 = .ok answer → ensured answer ran.2

/-- The process, its group and the modes of the terminal are what they were. -/
structure Same (before after : Host) : Prop where
  pid : after.pid = before.pid
  group : after.group = before.group
  modes : after.modes = before.modes

theorem Same.trans
    {first second third : Host}
    (before : Same first second)
    (after : Same second third) :
    Same first third where
  pid := after.pid.trans before.pid
  group := after.group.trans before.group
  modes := after.modes.trans before.modes

section Making

variable
  {plan later : List Step}
  {between : α → Host → Prop}
  {ensured : β → Host → Prop}
  {host : Host}

/-- What is ensured can be weakened. -/
theorem Makes.imp
    {weaker : α → Host → Prop}
    {ran : Except ShellError α × Host}
    (makes : Makes plan between host ran)
    (implies : ∀ answer after, between answer after → weaker answer after) :
    Makes plan weaker host ran where
  proceeds := makes.proceeds
  ensures answer answered := implies answer _ (makes.ensures answer answered)

/-- What is no act is no part of a plan. -/
theorem makes_silent
    {after : Host}
    {answer : β}
    (silent : Silent Event.isAct host after)
    (faults : after.script.faults = host.script.faults)
    (ensures : ensured answer after) :
    Makes [] ensured host (.ok answer, after) where
  proceeds := by
    refine ⟨[], ?_, silent⟩
    rw [faults]
    exact .finished _
  ensures := by
    rintro _ ⟨⟩
    exact ensures

/-- One plan after the other, unless the first is not finished. -/
theorem Makes.bind
    {first : HostE α}
    {next : α → HostE β}
    (makes : Makes plan between host (first.run host))
    (makesNext :
      ∀ answer after,
        between answer after →
        (∀ syscall,
          (∀ step ∈ plan, step.syscall ≠ syscall) →
          after.script.faults syscall = host.script.faults syscall) →
        Makes later ensured after ((next answer).run after)) :
    Makes (plan ++ later) ensured host ((first >>= next).run host) := by
  obtain ⟨events, proceeds, adds⟩ := makes.proceeds
  have ensures := makes.ensures
  cases ran : first.run host with
  | mk result after =>
      rw [ran] at proceeds adds ensures
      cases result with
      | error e =>
          rw [run_bind_error (congrArg Prod.fst ran), ran]
          exact ⟨⟨events, proceeds.stay later, adds⟩, nofun⟩
      | ok answer =>
          rw [run_bind_ok (congrArg Prod.fst ran), ran]
          have goesOn :=
            makesNext answer after (ensures answer rfl)
              fun _ unused => proceeds.unused unused
          obtain ⟨further, proceedsOn, addsOn⟩ := goesOn.proceeds
          exact
            ⟨⟨events ++ further, proceeds.append proceedsOn,
              adds.trans addsOn⟩, goesOn.ensures⟩

end Making

theorem dropFault_faults (script : Script) (syscall : Syscall) :
    (script.dropFault syscall).faults = Faults.drop script.faults syscall := by
  funext other
  unfold Script.dropFault Faults.drop
  cases faults : script.faults syscall with
  | nil =>
      dsimp only
      split
      · rename_i same
        rw [same, faults, List.tail_nil]
      · rfl
  | cons fault rest =>
      rfl

/-- A call takes the next fault of its kind, and answers with it. -/
theorem attempt_faults (syscall : Syscall) (call : Call) (host : Host) :
    (attempt syscall call host).2.script.faults =
      Faults.drop host.script.faults syscall :=
  dropFault_faults host.script syscall

/-- The owners of the terminal that are to come are not touched by a call. -/
theorem attempt_owners (syscall : Syscall) (call : Call) (host : Host) :
    (attempt syscall call host).2.script.owners = host.script.owners := by
  change (host.script.dropFault syscall).owners = host.script.owners
  unfold Script.dropFault
  split <;> rfl

theorem adds_call
    {fault : Option Errno}
    {syscall : Syscall}
    {host : Host}
    (falls : Faults.next host.script.faults syscall = fault)
    (call : Call) :
    Adds Event.isAct [.call call fault] host
      (attempt syscall call host).2 := by
  rw [← falls]
  exact adds_attempt Event.isAct syscall call host

section Attempting

variable
  {ensured : α → Host → Prop}
  {step : Step}
  {host after : Host}

/-- A call that succeeds, or whose failure is tolerated, is a plan of its own. -/
theorem makes_passed
    {answer : α}
    (tolerated :
      ∀ errno,
        Faults.next host.script.faults step.syscall = some errno →
        step.tolerates errno = true)
    (silent :
      Silent Event.isAct (attempt step.syscall step.call host).2 after)
    (faults :
      after.script.faults =
        (attempt step.syscall step.call host).2.script.faults)
    (ensures : ensured answer after) :
    Makes [step] ensured host (.ok answer, after) where
  proceeds := by
    refine ⟨_, ?_, (adds_call rfl step.call).then_silent silent⟩
    rw [faults, attempt_faults]
    exact .passed step tolerated (.finished _)
  ensures := by
    rintro _ ⟨⟩
    exact ensures

/-- So is a call that fails. -/
theorem makes_failed
    {errno : Errno}
    (fails : Faults.next host.script.faults step.syscall = some errno)
    (fatal : step.tolerates errno = false)
    (silent :
      Silent Event.isAct (attempt step.syscall step.call host).2 after)
    (faults :
      after.script.faults =
        (attempt step.syscall step.call host).2.script.faults) :
    Makes [step] ensured host (.error (.sys step.context errno), after) where
  proceeds := by
    refine ⟨_, ?_, (adds_call fails step.call).then_silent silent⟩
    rw [faults, attempt_faults]
    exact .failed step [] errno fails fatal
  ensures := nofun

end Attempting

/-- A call that must succeed is a plan of its own. -/
theorem makes_demand
    (context : String)
    (syscall : Syscall)
    (call : Call)
    (host : Host) :
    Makes
      [{ syscall := syscall, call := call, context := context }]
      (fun _ after =>
        Same host after ∧ after.script.owners = host.script.owners)
      host ((demand context syscall call).run host) := by
  have ends :
      (attempt syscall call host).1 = Faults.next host.script.faults syscall :=
    rfl
  rw [demand_run, ends]
  cases falls : Faults.next host.script.faults syscall with
  | none =>
      exact
        makes_passed (by simp [falls]) (Adds.refl _) rfl
          ⟨⟨rfl, rfl, rfl⟩, attempt_owners syscall call host⟩
  | some errno =>
      exact makes_failed falls rfl (Adds.refl _) rfl

/-- A message is no part of a plan. -/
theorem makes_note (level : Level) (message : String) (host : Host) :
    Makes []
      (fun _ after =>
        Same host after ∧ after.script.owners = host.script.owners)
      host ((liftM (note level message) : HostE Unit).run host) :=
  makes_silent (keeps_note level message host) rfl ⟨⟨rfl, rfl, rfl⟩, rfl⟩

/-- Calls for the members of a list are a plan, if each is a step. -/
theorem makes_forM
    {step : α → Step}
    {action : α → HostE PUnit}
    (each :
      ∀ item host,
        Makes [step item] (fun _ => Same host) host ((action item).run host))
    (items : List α)
    (host : Host) :
    Makes (items.map step) (fun _ => Same host) host
      ((items.forM action).run host) := by
  induction items generalizing host with
  | nil =>
      exact makes_silent (Adds.refl host) rfl ⟨rfl, rfl, rfl⟩
  | cons item rest inductionHypothesis =>
      rw [List.map_cons, ← List.singleton_append]
      refine (each item host).bind fun _ after same _ => ?_
      exact (inductionHypothesis after).imp fun _ _ => same.trans

end Host

namespace Terminal

open Host (Step Makes Proceeds Faults Same)

/-- Ask who owns the terminal. -/
def asking (owner : Pid) : Step :=
  { syscall := .tcgetpgrp, call := .getOwner owner, context := "tcgetpgrp" }

/-- Stop the shell's group. -/
def stopping (group : Pid) : Step :=
  { syscall := .killpg, call := .killGroup group .ttin, context := "kill" }

/-- Ignore a signal. -/
def ignoring (signal : Signal) : Step :=
  { syscall := .signal, call := .ignoreSignal signal, context := "signal" }

/-- Lead a group; a session leader does already. -/
def leading (pid : Pid) : Step :=
  { syscall := .setpgid
    call := .setGroup pid pid
    context := "setpgid"
    tolerates := fun errno => errno = .eperm }

/-- Take the terminal for a group. -/
def giving (group : Pid) : Step :=
  { syscall := .tcsetpgrp, call := .setOwner group, context := "tcsetpgrp" }

/-- Read the modes; the shell does without them. -/
def reading (modes : Modes) : Step :=
  { syscall := .tcgetattr
    call := .getModes modes
    context := "tcgetattr"
    tolerates := fun _ => true }

/-- The owners that are named before the group is. -/
def others (group : Pid) (owners : List Pid) : List Pid :=
  owners.takeWhile fun owner => owner ≠ group

/-- Wait for the foreground: stop at each other owner, and ask again. -/
def waiting (group : Pid) (owners : List Pid) : List Step :=
  (others group owners).flatMap (fun owner => [asking owner, stopping group]) ++
    [asking group]

/-- The group of the shell once it has tried to lead one. -/
def ledGroup (host : Host) : Pid :=
  match Faults.next host.script.faults .setpgid with
  | none => host.pid
  | some _ => host.group

/-- The calls of claiming the terminal. -/
def claimPlan (host : Host) : List Step :=
  waiting host.group host.script.owners ++
    (Signal.jobControl.map ignoring ++
      ([leading host.pid] ++ [giving (ledGroup host), reading host.modes]))

/-- The owner that the terminal names next. -/
def nextOwner (host : Host) : Pid :=
  host.script.owners.headD host.group

/-- The shell does not wait if its own group is named next, or nobody is. -/
theorem waiting_of_mine
    {host : Host}
    (mine : nextOwner host = host.group) :
    waiting host.group host.script.owners =
      [asking (nextOwner host)] ++ [] := by
  cases owners : host.script.owners with
  | nil =>
      simp [waiting, others, nextOwner, owners]
  | cons owner rest =>
      have own : owner = host.group := by
        simpa [nextOwner, owners] using mine
      simp [waiting, others, nextOwner, owners, own]

theorem waiting_of_other
    {group owner : Pid}
    (different : owner ≠ group)
    (owners : List Pid) :
    waiting group (owner :: owners) =
      [asking owner] ++ ([] ++ ([stopping group] ++ waiting group owners)) := by
  simp [waiting, others, different]

/-- To ask is one call, whose answer is taken from the script. -/
theorem makes_getOwner (host : Host) :
    Makes [asking (nextOwner host)]
      (fun owner after =>
        owner = nextOwner host ∧
          Same host after ∧ after.script.owners = host.script.owners.tail)
      host (Host.getOwner.run host) := by
  have run :
      Host.getOwner.run host =
        (do
          Host.demand "tcgetpgrp" .tcgetpgrp (.getOwner (nextOwner host))
          modify fun host =>
            { host with
              script := { host.script with owners := host.script.owners.tail } }
          return nextOwner host : HostE Pid).run host :=
    rfl
  have asks :=
    Host.makes_demand "tcgetpgrp" .tcgetpgrp (.getOwner (nextOwner host)) host
  rw [run, ← List.append_nil [asking (nextOwner host)]]
  refine asks.bind fun _ after ⟨same, kept⟩ _ => ?_
  exact
    Host.makes_silent (Host.silent_of_same rfl rfl) rfl
      ⟨rfl, ⟨same.pid, same.group, same.modes⟩, congrArg List.tail kept⟩

/-- The shell waits until its group is named, and stops at each other answer. -/
theorem makes_awaitForeground
    (answers : Nat)
    (host : Host)
    (toCome : host.script.owners.length = answers) :
    Makes (waiting host.group host.script.owners) (fun _ => Same host) host
      ((awaitForeground answers).run host) := by
  -- Each round takes one of the owners to come; after them the shell's group is
  -- named, so as many rounds as there are owners, and one more, are enough.
  induction answers generalizing host with
  | zero =>
      have mine : nextOwner host = host.group := by
        simp [nextOwner, List.length_eq_zero_iff.mp toCome]
      rw [waiting_of_mine mine]
      refine (makes_getOwner host).bind fun _ after ⟨_, same, _⟩ _ => ?_
      exact Host.makes_silent (Adds.refl after) rfl same
  | succ answers inductionHypothesis =>
      by_cases mine : nextOwner host = host.group
      · rw [waiting_of_mine mine]
        refine (makes_getOwner host).bind fun _ asked ⟨isNext, same, _⟩ _ => ?_
        rw [if_pos (isNext.trans mine)]
        exact Host.makes_silent (Adds.refl asked) rfl same
      · obtain ⟨owner, rest, owners⟩ :=
          List.exists_cons_of_length_eq_add_one toCome
        have named : owner = nextOwner host := by simp [nextOwner, owners]
        rw [owners, named, waiting_of_other mine]
        refine
          (makes_getOwner host).bind fun _ asked ⟨isNext, same, left⟩ _ => ?_
        rw [if_neg fun own => mine (isNext.symm.trans own)]
        refine
          (Host.makes_note _ _ asked).bind
            fun _ told ⟨sameTold, leftTold⟩ _ => ?_
        refine
          (Host.makes_demand _ _ _ told).bind
            fun _ stopped ⟨sameStopped, leftStopped⟩ _ => ?_
        have isSame := (same.trans sameTold).trans sameStopped
        have remain : stopped.script.owners = rest := by
          rw [leftStopped, leftTold, left, owners, List.tail_cons]
        have fewer : rest.length = answers := by
          simpa [owners] using toCome
        have again := inductionHypothesis stopped (by rw [remain, fewer])
        rw [remain, isSame.group] at again
        exact again.imp fun _ _ => isSame.trans

/-- The host once the shell has tried to lead a group. -/
def led (host : Host) : Host :=
  { (Host.attempt .setpgid (.setGroup host.pid host.pid) host).2 with
    group := ledGroup host }

/-- Moving the shell into a group of its own is one call. -/
theorem setGroup_run (host : Host) :
    Host.setGroup host.pid host.pid host =
      (Faults.next host.script.faults .setpgid, led host) := by
  have called :
      Host.attempt .setpgid (.setGroup host.pid host.pid) host =
        (Faults.next host.script.faults .setpgid,
          (Host.attempt .setpgid (.setGroup host.pid host.pid) host).2) :=
    rfl
  unfold Host.setGroup led ledGroup
  rw [run_bind, called]
  cases Faults.next host.script.faults .setpgid with
  | none =>
      exact congrArg (Prod.mk none) (if_pos rfl)
  | some errno =>
      rfl

/-- The shell goes on if it leads a group, or if it is a session leader. -/
theorem leadGroup_run (host : Host) :
    leadGroup.run host =
      match Faults.next host.script.faults .setpgid with
      | none => (.ok (), led host)
      | some .eperm =>
          (.ok (),
            (Host.note .debug "jobsh: already a session leader" (led host)).2)
      | some errno => (.error (.sys "setpgid" errno), led host) := by
  have leads :
      (liftM (Host.setGroup host.pid host.pid) :
        HostE (Option Errno)).run host =
        (.ok (Faults.next host.script.faults .setpgid), led host) := by
    change (Except.ok (Host.setGroup _ _ host).1, (Host.setGroup _ _ host).2) = _
    rw [setGroup_run]
  have read : ((getThe Host : HostE Host).run host).1 = .ok host := rfl
  unfold leadGroup
  rw [run_bind_ok read]
  change (_ >>= _ : HostE Unit).run host = _
  rw [run_bind_ok (congrArg Prod.fst leads), leads]
  rcases Faults.next host.script.faults .setpgid with _ | errno
  · rfl
  · cases errno <;> rfl

/-- The shell leads a group afterwards, unless the system does not let it. -/
theorem makes_leadGroup (host : Host) :
    Makes [leading host.pid]
      (fun _ after => after.group = ledGroup host ∧ after.modes = host.modes)
      host (leadGroup.run host) := by
  have leads :
      Silent Event.isAct
        (Host.attempt .setpgid (.setGroup host.pid host.pid) host).2
        (led host) :=
    Host.silent_of_same rfl rfl
  have tells :
      Silent Event.isAct (led host)
        (Host.note .debug "jobsh: already a session leader" (led host)).2 :=
    Host.keeps_note _ _ (led host)
  rw [leadGroup_run]
  split
  · rename_i succeeds
    exact
      Host.makes_passed (by simp [leading, succeeds]) leads rfl ⟨rfl, rfl⟩
  · rename_i leader
    exact
      Host.makes_passed (by simp [leading, leader])
        (leads.then_silent tells) rfl ⟨rfl, rfl⟩
  · rename_i errno other fails
    exact Host.makes_failed fails (decide_eq_false other) leads rfl

/-- The modes are read by one call, and only logged if they cannot be. -/
theorem makes_saveModes (host : Host) :
    Makes [reading host.modes]
      (fun modes after =>
        modes = saved host.modes (Faults.next host.script.faults .tcgetattr) ∧
          after.group = host.group)
      host ((liftM saveModes : HostE (Option Modes)).run host) := by
  change Makes _ _ _ (Except.ok (saveModes host).1, (saveModes host).2)
  have called :
      Host.attempt .tcgetattr (.getModes host.modes) host =
        (Faults.next host.script.faults .tcgetattr,
          (Host.attempt .tcgetattr (.getModes host.modes) host).2) :=
    rfl
  unfold saveModes Host.getModes
  simp only [run_bind, run_get]
  rw [called]
  cases Faults.next host.script.faults .tcgetattr with
  | none =>
      exact
        Host.makes_passed (fun _ _ => rfl) (Adds.refl _) rfl ⟨rfl, rfl⟩
  | some errno =>
      exact
        Host.makes_passed (fun _ _ => rfl) (Host.keeps_note _ _ _) rfl
          ⟨rfl, rfl⟩

/-- The terminal is given to the shell's group, and then the modes are read. -/
theorem makes_takeOver (host : Host) :
    Makes ([giving host.group] ++ [reading host.modes])
      (fun terminal after =>
        terminal =
            claimed host.group
              (saved host.modes (Faults.next host.script.faults .tcgetattr)) ∧
          after.group = host.group)
      host (takeOver.run host) := by
  have run :
      takeOver.run host =
        (do
          Host.setOwner host.group
          let modes ← saveModes
          Host.note .debug s!"jobsh: terminal claimed by group {host.group}"
          return claimed host.group modes : HostE Terminal).run host := by
    have read :
        (getThe Host : HostE Host).run host = (.ok host, host) := rfl
    unfold takeOver
    rw [run_bind_ok (congrArg Prod.fst read), read]
  have gives :=
    Host.makes_demand "tcsetpgrp" .tcsetpgrp (.setOwner host.group) host
  rw [run]
  refine gives.bind fun _ owning ⟨same, _⟩ unused => ?_
  have reads :
      Faults.next owning.script.faults .tcgetattr =
        Faults.next host.script.faults .tcgetattr := by
    unfold Faults.next
    rw [unused .tcgetattr (by simp)]
  have saves := makes_saveModes owning
  rw [reads, same.modes, same.group, ← List.append_nil [_]] at saves
  refine saves.bind fun modes after ⟨isSaved, sameGroup⟩ _ => ?_
  exact
    Host.makes_silent (Host.keeps_note _ _ after) rfl
      ⟨by rw [isSaved], sameGroup⟩

/-- The terminal that a claim answers with when it succeeds. -/
def claimedTerminal (host : Host) : Terminal :=
  claimed (ledGroup host)
    (saved host.modes (Faults.next host.script.faults .tcgetattr))

/-- To wait is to ask and to stop. -/
theorem of_mem_waiting
    {group : Pid}
    {owners : List Pid}
    {step : Step}
    (member : step ∈ waiting group owners) :
    (∃ owner, step = asking owner) ∨ step = stopping group := by
  rcases List.mem_append.mp member with others | last
  · obtain ⟨owner, -, member⟩ := List.mem_flatMap.mp others
    simp only [List.mem_cons, List.not_mem_nil, or_false] at member
    rcases member with asks | stops
    · exact .inl ⟨owner, asks⟩
    · exact .inr stops
  · exact .inl ⟨group, List.mem_singleton.mp last⟩

theorem waiting_unused
    {syscall : Syscall}
    (notAsked : .tcgetpgrp ≠ syscall)
    (notStopped : .killpg ≠ syscall)
    (group : Pid)
    (owners : List Pid) :
    ∀ step ∈ waiting group owners, step.syscall ≠ syscall := by
  intro step member
  rcases of_mem_waiting member with ⟨owner, rfl⟩ | rfl
  · exact notAsked
  · exact notStopped

/-- Waiting and ignoring take no faults of other kinds than their own. -/
theorem unspent
    (syscall : Syscall)
    {before between after : Faults}
    {group : Pid}
    {owners : List Pid}
    (notAsked : .tcgetpgrp ≠ syscall)
    (notStopped : .killpg ≠ syscall)
    (notIgnored : .signal ≠ syscall)
    (waits :
      (∀ step ∈ waiting group owners, step.syscall ≠ syscall) →
      between syscall = before syscall)
    (ignores :
      (∀ step ∈ Signal.jobControl.map ignoring, step.syscall ≠ syscall) →
      after syscall = between syscall) :
    after.next syscall = before.next syscall := by
  have ignored := ignores (by simpa [ignoring] using fun _ _ => notIgnored)
  have waited := waits (waiting_unused notAsked notStopped _ _)
  unfold Faults.next
  rw [ignored, waited]

theorem waiting_strict (group : Pid) (owners : List Pid) :
    ∀ step ∈ waiting group owners,
      ∀ errno, step.tolerates errno = false := by
  intro step member errno
  rcases of_mem_waiting member with ⟨owner, rfl⟩ | rfl <;> rfl

theorem makes_claim
    {host : Host}
    (isTerminal : host.stdinIsTerminal = true) :
    Makes (claimPlan host)
      (fun terminal after =>
        terminal = claimedTerminal host ∧ after.group = ledGroup host)
      host (claim.run host) := by
  have ignores (waited : Host) :
      Makes (Signal.jobControl.map ignoring) (fun _ => Same waited) waited
        (Host.ignoreJobControl.run waited) :=
    Host.makes_forM
      (fun signal host =>
        (Host.makes_demand "signal" .signal (.ignoreSignal signal) host).imp
          fun _ _ => And.left)
      Signal.jobControl waited
  rw [claim_run isTerminal]
  refine
    (makes_awaitForeground _ host rfl).bind fun _ waited same spares => ?_
  refine (ignores waited).bind fun _ ignored sameStill sparesStill => ?_
  replace same := same.trans sameStill
  have leads := makes_leadGroup ignored
  have sameGroup : ledGroup ignored = ledGroup host := by
    unfold ledGroup
    rw [
      unspent .setpgid nofun nofun nofun (spares .setpgid)
        (sparesStill .setpgid),
      same.pid, same.group]
  rw [same.pid, same.modes, sameGroup] at leads
  refine leads.bind fun _ led ⟨group, modes⟩ sparesLast => ?_
  have unread :
      Faults.next led.script.faults .tcgetattr =
        Faults.next host.script.faults .tcgetattr := by
    rw [
      ← unspent .tcgetattr nofun nofun nofun (spares .tcgetattr)
        (sparesStill .tcgetattr)]
    unfold Faults.next
    rw [sparesLast .tcgetattr (by simp [leading])]
  have takes := makes_takeOver led
  rwa [group, modes, unread] at takes

/-- The calls of a claim that succeeds. -/
def claimTrail (host : Host) : History :=
  (others host.group host.script.owners).flatMap
      (fun owner =>
        [.call (.getOwner owner) none,
          .call (.killGroup host.group .ttin) none]) ++
    .call (.getOwner host.group) none ::
    Signal.jobControl.map (fun signal => .call (.ignoreSignal signal) none) ++
    [.call (.setGroup host.pid host.pid)
        (Faults.next host.script.faults .setpgid),
      .call (.setOwner (ledGroup host)) none,
      .call (.getModes host.modes)
        (Faults.next host.script.faults .tcgetattr)]

/-- Who finishes the plan of a claim has led a group, or is a session leader. -/
theorem claimTrail_of_proceeds
    {host : Host}
    {events : History}
    {left : Faults}
    (proceeds :
      Proceeds host.script.faults (claimPlan host) events (.ok ()) left) :
    events = claimTrail host ∧
      ∀ errno,
        Faults.next host.script.faults .setpgid = some errno →
        errno = .eperm := by
  obtain ⟨waited, further, between, waits, proceedsOn, rfl⟩ :=
    proceeds.exists_of_append
  obtain ⟨ignored, last, unled, ignores, leads, rfl⟩ :=
    proceedsOn.exists_of_append
  have waitedAll :
      waited =
        (waiting host.group host.script.owners).map fun step =>
          .call step.call none :=
    waits.eq_map_of_strict (waiting_strict _ _)
  have ignoredAll :
      ignored =
        (Signal.jobControl.map ignoring).map fun step =>
          .call step.call none :=
    ignores.eq_map_of_strict (by simp [ignoring])
  cases leads with
  | passed _ tolerated gives =>
      cases gives with
      | passed _ given reads =>
          cases reads with
          | passed _ read finished =>
              cases finished
              have gave := Proceeds.next_eq_none (fun _ => rfl) given
              have led :
                  Faults.next unled .setpgid =
                    Faults.next host.script.faults .setpgid :=
                unspent .setpgid nofun nofun nofun waits.unused
                  ignores.unused
              have wasRead :
                  Faults.next
                      ((unled.drop (leading host.pid).syscall).drop
                        (giving (ledGroup host)).syscall)
                      (reading host.modes).syscall =
                    Faults.next host.script.faults .tcgetattr :=
                unspent .tcgetattr nofun nofun nofun waits.unused
                  ignores.unused
              constructor
              · rw [gave, wasRead, waitedAll, ignoredAll]
                simp [claimTrail, waiting, List.map_flatMap, asking, stopping,
                  ignoring, leading, giving, reading, led]
              · intro errno fails
                rw [← led] at fails
                exact of_decide_eq_true (tolerated errno fails)

/--
With a terminal, whatever its owners and whichever calls fail: the shell goes
through the plan of a claim. It asks until its own group is named, and signals its
group once for each other answer. It fails exactly if a call fails that must not,
with the error of the first such call, and calls nothing after it; a session leader
that cannot be moved and modes that cannot be read are tolerated. If it succeeds,
all calls of the plan were made: the signals of job control are ignored before the
one call that gives the terminal away, and that call gives it to the group in which
the shell is once it has tried to lead one, whatever became of that. This is the
group that the terminal is given back to from then on, with the modes that were
read, if they were.
-/
theorem claim_firstFailure
    {host : Host}
    (isTerminal : host.stdinIsTerminal = true) :
    ∃ events left,
      Proceeds host.script.faults (claimPlan host) events
          ((claim.run host).1.map fun _ => ()) left ∧
        Adds Event.isAct events host (claim.run host).2 ∧
        (∀ e,
          (claim.run host).1 = .error e →
          ∃ done step rest earlier between errno,
            claimPlan host = done ++ step :: rest ∧
              Proceeds host.script.faults done earlier (.ok ()) between ∧
              Faults.next between step.syscall = some errno ∧
              step.tolerates errno = false ∧
              events = earlier ++ [.call step.call (some errno)] ∧
              e = .sys step.context errno) ∧
        ∀ terminal,
          (claim.run host).1 = .ok terminal →
          events = claimTrail host ∧
            (∀ errno,
              Faults.next host.script.faults .setpgid = some errno →
              errno = .eperm) ∧
            (claim.run host).2.group = ledGroup host ∧
            terminal = claimedTerminal host ∧
            ∀ later,
              ∃ taken restored,
                Adds Event.isAct
                  (reclaiming (ledGroup host)
                    (saved host.modes
                      (Faults.next host.script.faults .tcgetattr))
                    taken restored)
                  later (terminal.reclaim.run later).2 := by
  have makes := makes_claim isTerminal
  obtain ⟨events, proceeds, adds⟩ := makes.proceeds
  refine ⟨events, _, proceeds, adds, ?_, ?_⟩
  · intro e failed
    rw [failed] at proceeds
    exact proceeds.exists_of_error
  · intro terminal claimed
    rw [claimed] at proceeds
    obtain ⟨trail, onlyLeaders⟩ := claimTrail_of_proceeds proceeds
    obtain ⟨rfl, group⟩ := makes.ensures terminal claimed
    refine ⟨trail, onlyLeaders, group, rfl, fun later => ?_⟩
    exact claimed_reclaim Event.isAct _ _ later

/--
A host whose terminal belongs to two other groups before it is the shell's, with a
session leader in another group than its own, and without modes to read.
-/
def contested : Host :=
  { stdinIsTerminal := true
    group := 400
    script :=
      { owners := [7, 9, 400, 8]
        faults := fun syscall =>
          match syscall with
          | .setpgid => [some .eperm]
          | .tcgetattr => [some .enotty]
          | _ => [] } }

/-- The contested terminal is claimed for the group of the shell, without modes. -/
theorem claim_firstFailure_contested :
    contested.stdinIsTerminal = true ∧
      (claim.run contested).1 = .ok (claimed 400 none) ∧
      Adds Event.isAct
        [.call (.getOwner 7) none, .call (.killGroup 400 .ttin) none,
          .call (.getOwner 9) none, .call (.killGroup 400 .ttin) none,
          .call (.getOwner 400) none,
          .call (.ignoreSignal .int) none, .call (.ignoreSignal .quit) none,
          .call (.ignoreSignal .tstp) none, .call (.ignoreSignal .ttin) none,
          .call (.ignoreSignal .ttou) none,
          .call (.setGroup 500 500) (some .eperm),
          .call (.setOwner 400) none,
          .call (.getModes {}) (some .enotty)]
        contested (claim.run contested).2 ∧
      ∀ later,
        ∃ taken restored,
          Adds Event.isAct (reclaiming 400 none taken restored)
            later ((claimed 400 none).reclaim.run later).2 := by
  have isTerminal : contested.stdinIsTerminal = true := rfl
  have succeeds : (claim.run contested).1 = .ok (claimed 400 none) :=
    ok_of_toOption (by decide +kernel)
  obtain ⟨events, left, -, adds, -, claims⟩ := claim_firstFailure isTerminal
  obtain ⟨rfl, -, -, -, reclaims⟩ := claims _ succeeds
  exact ⟨isTerminal, succeeds, adds, reclaims⟩

end Terminal
end JobShell
