import JobShell.Host.Basic

namespace JobShell

/-!
# What computations keep

`Keeps` lifts a relation between two states to the computations that relate the
state before them to the state after them. A relation that does not mind plain
events, such as messages and calls about groups, is kept by most of what a shell
does; one that does not mind masks and deliveries either is kept by whatever
makes signals arrive. A development about histories picks its relation, proves
it `Indifferent`, `Signalled` or `Reapable`, and then has to look only at the few
computations that do more. A relation that minds plain events or files can still
be `Noting`, `Lenient` or `Deliverable`.
-/

theorem run_bind
    (first : StateM State α)
    (next : α → StateM State β)
    (state : State) :
    (first >>= next) state = next (first state).1 (first state).2 :=
  rfl

theorem run_pure (answer : α) (state : State) :
    (pure answer : StateM State α) state = (answer, state) :=
  rfl

theorem run_get (state : State) :
    (get : StateM State State) state = (state, state) :=
  rfl

theorem run_set (state other : State) :
    (set other : StateM State PUnit) state = (⟨⟩, other) :=
  rfl

/-- After a success the next computation goes on. -/
theorem run_bind_ok
    {first : HostE α}
    {next : α → HostE β}
    {host : Host}
    {answer : α}
    (answered : (first.run host).1 = .ok answer) :
    (first >>= next).run host = (next answer).run (first.run host).2 := by
  change ExceptT.bindCont next (first.run host).1 (first.run host).2 = _
  rw [answered]
  rfl

/-- After a failure nothing goes on. -/
theorem run_bind_error
    {first : HostE α}
    {next : α → HostE β}
    {host : Host}
    {e : ShellError}
    (answered : (first.run host).1 = .error e) :
    (first >>= next).run host = (.error e, (first.run host).2) := by
  change ExceptT.bindCont next (first.run host).1 (first.run host).2 = _
  rw [answered]
  rfl

/-- A result that has an answer is a success. -/
theorem ok_of_toOption
    {result : Except ε α}
    {answer : α}
    (answered : result.toOption = some answer) :
    result = .ok answer := by
  cases result with
  | error e =>
      contradiction
  | ok other =>
      rw [Option.some.inj answered]

/-- A run whose result has an answer succeeds with it. -/
theorem run_of_toOption
    {ran : Except ε α × State}
    {answer : α}
    (answered : ran.1.toOption = some answer) :
    ran = (.ok answer, ran.2) := by
  rw [← ok_of_toOption answered]

/-- Every run of the computation relates the state before it to the one after. -/
def Keeps
    (relation : State → State → Prop)
    (action : StateM State α) :
    Prop :=
  ∀ state, relation state (action state).2

/-- A relation that computations can be composed along. -/
class Frame (relation : State → State → Prop) : Prop where
  refl : ∀ state, relation state state
  trans :
    ∀ {first second third},
      relation first second →
      relation second third →
      relation first third

namespace Keeps

/-- A run with a known outcome relates the state before it to the outcome. -/
theorem ran
    {relation : State → State → Prop}
    {action : StateM State α}
    {before after : State}
    {answer : α}
    (keeps : Keeps relation action)
    (ran : action before = (answer, after)) :
    relation before after := by
  have related := keeps before
  rwa [ran] at related

section StateOnly

variable {State : Type} {relation : State → State → Prop} [Frame relation]

/-- An answer alone changes nothing. -/
theorem pure (answer : α) :
    Keeps relation (Pure.pure answer : StateM State α) :=
  fun state => Frame.refl state

/-- One computation after the other. -/
theorem bind
    {first : StateM State α}
    {next : α → StateM State β}
    (firstKeeps : Keeps relation first)
    (nextKeeps : ∀ answer, Keeps relation (next answer)) :
    Keeps relation (first >>= next) :=
  fun state =>
    Frame.trans (firstKeeps state) (nextKeeps _ _)

/-- A computation under a condition, and then another. -/
theorem when
    {condition : Prop}
    [Decidable condition]
    {first : StateM State PUnit}
    {next : StateM State α}
    (firstKeeps : Keeps relation first)
    (nextKeeps : Keeps relation next) :
    Keeps relation
      (if condition then do
        first
        next
      else next) := by
  split
  · exact bind firstKeeps fun _ => nextKeeps
  · exact nextKeeps

omit [Frame relation] in
/-- A choice between two computations. -/
theorem ite
    {condition : Prop}
    [Decidable condition]
    {first second : StateM State α}
    (firstKeeps : Keeps relation first)
    (secondKeeps : Keeps relation second) :
    Keeps relation (if condition then first else second) := by
  split
  · exact firstKeeps
  · exact secondKeeps

/-- Reading the state changes nothing. -/
theorem get : Keeps relation (MonadState.get : StateM State State) :=
  fun state => Frame.refl state

/-- A computation for each member of a list. -/
theorem forM
    {action : α → StateM State PUnit}
    (each : ∀ item, Keeps relation (action item))
    (items : List α) :
    Keeps relation (items.forM action) := by
  induction items with
  | nil =>
      exact pure _
  | cons item rest inductionHypothesis =>
      exact bind (each item) (fun _ => inductionHypothesis)

end StateOnly

section Failing

variable {relation : Host → Host → Prop} [Frame relation]

/-- One computation after the other, unless the first fails. -/
theorem bindE
    {first : HostE α}
    {next : α → HostE β}
    (firstKeeps : Keeps relation first.run)
    (nextKeeps : ∀ answer, Keeps relation (next answer).run) :
    Keeps relation (first >>= next).run := by
  intro host
  cases answered : (first.run host).1 with
  | error e =>
      rw [run_bind_error answered]
      exact firstKeeps host
  | ok answer =>
      rw [run_bind_ok answered]
      exact Frame.trans (firstKeeps host) (nextKeeps answer _)

omit [Frame relation] in
/-- A computation that cannot fail, among those that can. -/
theorem liftE
    {action : HostM α}
    (keeps : Keeps relation action) :
    Keeps relation (liftM action : HostE α).run :=
  keeps

/-- A computation for each member of a list, up to the first failure. -/
theorem forME
    {action : α → HostE PUnit}
    (each : ∀ item, Keeps relation (action item).run)
    (items : List α) :
    Keeps relation (items.forM action).run := by
  induction items with
  | nil =>
      exact pure _
  | cons item rest inductionHypothesis =>
      exact bindE (each item) (fun _ => inductionHypothesis)

end Failing

end Keeps

namespace Event

/--
The event is a message, output, or a call about groups, handlings and files.
-/
def isPlain : Event → Bool
  | .call (.fork _) _ => false
  | .call (.wait _ _) _ => false
  | .call (.waitAny _) _ => false
  | .call .blockChild _ => false
  | .call (.setMask _) _ => false
  | .call .deliver _ => false
  | .call (.getOwner _) _ => false
  | .call (.setOwner _) _ => false
  | .call (.getModes _) _ => false
  | .call (.setModes _) _ => false
  | .call (.killGroup _ _) _ => false
  | .prompt _ _ => false
  | .unprompted _ _ => false
  | .line _ _ => false
  | .tracked _ _ => false
  | .drained _ => false
  | .collected _ => false
  | _ => true

/-- The event is a call about the mask, failed or not, or the reaper starts. -/
def isMasking : Event → Bool
  | .call .blockChild _ => true
  | .call (.setMask _) _ => true
  | .call .deliver _ => true
  | _ => false

/-- The event is a call about the terminal, failed or not. -/
def isTerminal : Event → Bool
  | .call (.getOwner _) _ => true
  | .call (.setOwner _) _ => true
  | .call (.getModes _) _ => true
  | .call (.setModes _) _ => true
  | .call (.killGroup _ _) _ => true
  | _ => false

end Event

/-- The relation does not mind the event. -/
def Ignores
    (relation : Host → Host → Prop)
    (event : Event) :
    Prop :=
  Keeps relation (Host.emit event)

/-- What a script answers to forks, and to waiting for each child. -/
def Script.children (script : Script) : List ForkAnswer × (Pid → List WaitAnswer) :=
  (script.forks, script.waits)

/-- A relation that does not mind messages in the log. -/
class Noting (relation : Host → Host → Prop) : Prop
    extends Frame relation where
  note :
    ∀ (level : Level) (message : String), Ignores relation (.note level message)

/--
A relation that minds neither messages in the log nor changes of the host
outside its history, its slots, its mask, its files and the answers to forks and
to waiting.
-/
class Lenient (relation : Host → Host → Prop) : Prop
    extends Noting relation where
  aside :
    ∀ {before after : Host},
      after.history = before.history →
      after.slots = before.slots →
      after.script.children = before.script.children →
      after.blocked = before.blocked →
      after.space = before.space →
      relation before after

/-- A lenient relation that minds no line for the user, written or not. -/
class Telling (relation : Host → Host → Prop) : Prop
    extends Lenient relation where
  output : ∀ bytes : Bytes, Ignores relation (.output bytes)
  complaint : ∀ text : Text, Ignores relation (.complaint text)
  unwritten : ∀ errno : Errno, Ignores relation (.unwritten errno)

/-- A relation that is kept while signals are blocked, delivered and unblocked. -/
class Deliverable (relation : Host → Host → Prop) : Prop
    extends Lenient relation where
  mask :
    ∀ (host : Host) (blocked : Bool),
      relation host { host with blocked := blocked }
  masking : ∀ event : Event, event.isMasking = true → Ignores relation event
  reap : Keeps relation Host.reap

/--
A relation that minds neither plain events nor changes of the host outside its
history, its slots, its mask and the answers to forks and to waiting.
-/
class Indifferent (relation : Host → Host → Prop) : Prop
    extends Frame relation where
  same :
    ∀ {before after : Host},
      after.history = before.history →
      after.slots = before.slots →
      after.script.children = before.script.children →
      after.blocked = before.blocked →
      relation before after
  plain : ∀ event : Event, event.isPlain = true → Ignores relation event

/-- A relation that is kept whenever the mask changes or a signal arrives. -/
class Signalled (relation : Host → Host → Prop) : Prop
    extends Indifferent relation where
  deliver : Keeps relation Host.deliver
  block : Keeps relation Host.block
  setMask : ∀ blocked : Bool, Keeps relation (Host.setMask blocked)

/-- A relation that minds neither the mask nor the reaper. -/
class Reapable (relation : Host → Host → Prop) : Prop
    extends Indifferent relation where
  mask :
    ∀ (host : Host) (blocked : Bool),
      relation host { host with blocked := blocked }
  masking : ∀ event : Event, event.isMasking = true → Ignores relation event
  reap : Keeps relation Host.reap

instance
    (relation : Host → Host → Prop)
    [Indifferent relation] :
    Lenient relation where
  note level message := Indifferent.plain (.note level message) rfl
  aside history slots children mask _ :=
    Indifferent.same history slots children mask

instance
    (relation : Host → Host → Prop)
    [Indifferent relation] :
    Telling relation where
  output bytes := Indifferent.plain (.output bytes) rfl
  complaint text := Indifferent.plain (.complaint text) rfl
  unwritten errno := Indifferent.plain (.unwritten errno) rfl

instance
    (relation : Host → Host → Prop)
    [Reapable relation] :
    Deliverable relation where
  mask := Reapable.mask
  masking := Reapable.masking
  reap := Reapable.reap

/-- A relation that does not mind calls about the terminal. -/
class Unowned (relation : Host → Host → Prop) : Prop
    extends Indifferent relation where
  terminal : ∀ event : Event, event.isTerminal = true → Ignores relation event

/-- A relation that does not mind what is done about a child. -/
class Attending (relation : Host → Host → Prop) : Prop
    extends Unowned relation where
  fork : Keeps relation Host.fork
  wait : ∀ pid : Pid, Keeps relation (Host.wait pid)
  track : ∀ pid : Pid, Keeps relation (Host.track pid)

/-- A relation that minds nothing that a launch does to the host. -/
class Launchable (relation : Host → Host → Prop) : Prop
    extends Reapable relation, Attending relation

namespace Host

theorem keeps_note
    {relation : Host → Host → Prop}
    [Noting relation]
    (level : Level)
    (message : String) :
    Keeps relation (note level message) :=
  Noting.note level message

section Lenient

variable {relation : Host → Host → Prop} [Lenient relation]

/-- The next error of a call is taken from the script. -/
theorem keeps_nextFault (syscall : Syscall) :
    Keeps relation (nextFault syscall) := by
  intro host
  have script :
      (host.script.dropFault syscall).children = host.script.children := by
    unfold Script.dropFault
    split <;> rfl
  exact Lenient.aside rfl rfl script rfl rfl

/-- How a prompt ends is taken from the script. -/
theorem keeps_nextPrompt : Keeps relation nextPrompt :=
  fun _ => Lenient.aside rfl rfl rfl rfl rfl

/-- A call whose event is not minded. -/
theorem keeps_attempt
    {call : Call}
    (ignored : ∀ fault, Ignores relation (.call call fault))
    (syscall : Syscall) :
    Keeps relation (attempt syscall call) := by
  refine Keeps.bind (keeps_nextFault syscall) fun fault => ?_
  exact Keeps.bind (ignored fault) fun _ => Keeps.pure _

theorem keeps_demand
    {call : Call}
    (ignored : ∀ fault, Ignores relation (.call call fault))
    (context : String)
    (syscall : Syscall) :
    Keeps relation (demand context syscall call).run := by
  refine
    Keeps.bindE (Keeps.liftE (keeps_attempt ignored syscall)) fun fault => ?_
  cases fault with
  | none =>
      exact Keeps.pure _
  | some errno =>
      exact Keeps.pure _

end Lenient

section Telling

variable {relation : Host → Host → Prop} [Telling relation]

theorem keeps_writeLine
    {written : Event}
    (ignored : Ignores relation written)
    (fault : Option Errno) :
    Keeps relation (writeLine fault written) := by
  cases fault with
  | none =>
      exact Keeps.bind ignored fun _ => Keeps.pure _
  | some errno =>
      exact Keeps.bind (Telling.unwritten errno) fun _ => Keeps.pure _

theorem keeps_printLine (text : Text) :
    Keeps relation (printLine text) :=
  Keeps.bind (fun _ => Lenient.aside rfl rfl rfl rfl rfl)
    fun fault => keeps_writeLine (Telling.output _) fault

theorem keeps_complain (text : Text) :
    Keeps relation (complain text) :=
  Keeps.bind (fun _ => Lenient.aside rfl rfl rfl rfl rfl)
    fun fault => keeps_writeLine (Telling.complaint _) fault

end Telling

section Indifferent

variable {relation : Host → Host → Prop} [Indifferent relation]

/-- A change of the host that an indifferent relation does not mind. -/
theorem keeps_modify
    {change : Host → Host}
    (history : ∀ host, (change host).history = host.history)
    (slots : ∀ host, (change host).slots = host.slots)
    (children : ∀ host, (change host).script.children = host.script.children)
    (mask : ∀ host, (change host).blocked = host.blocked) :
    Keeps relation (modify change : HostM PUnit) :=
  fun host =>
    Indifferent.same (history host) (slots host) (children host) (mask host)

theorem keeps_emit
    {event : Event}
    (plain : event.isPlain = true) :
    Keeps relation (emit event) :=
  Indifferent.plain event plain

/-- A plain call is not minded, failed or not. -/
theorem ignores_plain
    {call : Call}
    (plain : ∀ fault, (Event.call call fault).isPlain = true) :
    ∀ fault, Ignores relation (.call call fault) :=
  fun fault => Indifferent.plain _ (plain fault)

theorem keeps_ignoreJobControl : Keeps relation ignoreJobControl.run :=
  Keeps.forME
    (fun _ => keeps_demand (ignores_plain fun _ => rfl) _ _) _

theorem keeps_setHandling (handling : Handling) :
    Keeps relation (setHandling handling) := by
  refine Keeps.bind Keeps.get fun host => ?_
  refine
    Keeps.bind (keeps_attempt (ignores_plain fun _ => rfl) _) fun fault => ?_
  cases fault with
  | none =>
      exact
        Keeps.bind
          (keeps_modify
            (fun _ => rfl) (fun _ => rfl) (fun _ => rfl) (fun _ => rfl))
          (fun _ => Keeps.pure _)
  | some errno =>
      exact Keeps.pure _

theorem keeps_installReaper : Keeps relation installReaper.run := by
  refine Keeps.bindE (Keeps.liftE (keeps_setHandling _)) fun answer => ?_
  cases answer with
  | error errno =>
      exact Keeps.pure _
  | ok previous =>
      exact Keeps.bindE (Keeps.liftE (keeps_note _ _)) (fun _ => Keeps.pure _)

theorem keeps_removeReaper (previous : Handling) :
    Keeps relation (removeReaper previous) := by
  refine Keeps.bind (keeps_setHandling previous) fun answer => ?_
  cases answer with
  | error errno =>
      exact keeps_note _ _
  | ok previous =>
      exact Keeps.pure _

theorem keeps_setGroup (pid group : Pid) :
    Keeps relation (setGroup pid group) := by
  refine
    Keeps.bind (keeps_attempt (ignores_plain fun _ => rfl) _) fun fault => ?_
  cases fault with
  | none =>
      exact
        Keeps.bind
          (keeps_modify
            (fun _ => by split <;> rfl)
            (fun _ => by split <;> rfl)
            (fun _ => by split <;> rfl)
            (fun _ => by split <;> rfl))
          (fun _ => Keeps.pure _)
  | some errno =>
      exact Keeps.pure _

end Indifferent

/-- A delivery lowers the signal, and then the reaper runs. -/
theorem deliver_eq (host : Host) :
    (deliver host).2 =
      if host.canDeliver then
        (reap (emit (.call .deliver none) { host with raised := false }).2).2
      else host := by
  change
    ((if host.canDeliver then do
        set { host with raised := false }
        emit (.call .deliver none)
        let _ ← reap
        return
      else Pure.pure () : HostM Unit) host).2 = _
  split <;> rfl

section Delivering

variable {relation : Host → Host → Prop} [Lenient relation]

/-- Signals are raised without being minded, if their delivery is not. -/
theorem raiseChild_of_deliver
    (delivers : Keeps relation deliver)
    (events : List ChildEvent) :
    Keeps relation (raiseChild events) := by
  intro host
  have raised :
      relation host
        { host with pending := host.pending ++ events, raised := true } :=
    Lenient.aside rfl rfl rfl rfl rfl
  exact Frame.trans raised (delivers _)

theorem nextBatch_of_deliver
    (delivers : Keeps relation deliver) :
    Keeps relation nextBatch := by
  intro host
  simp only [nextBatch, run_bind, run_get]
  cases host.script.batches with
  | nil =>
      exact Frame.refl host
  | cons batch rest =>
      have taken :
          relation host
            { host with script := { host.script with batches := rest } } :=
        Lenient.aside rfl rfl rfl rfl rfl
      apply Frame.trans taken
      simp only [run_bind, run_set]
      cases batch.isEmpty with
      | true =>
          exact Frame.refl _
      | false =>
          exact raiseChild_of_deliver delivers batch _

/-- Undoing a blocking does no more than setting the mask, and notes. -/
theorem unblock_of_setMask
    {previous : Bool}
    (sets : Keeps relation (setMask previous)) :
    Keeps relation (unblock previous) := by
  refine Keeps.bind sets fun fault => ?_
  cases fault with
  | none =>
      exact Keeps.pure _
  | some errno =>
      exact keeps_note _ _

end Delivering

section Deliverable

variable {relation : Host → Host → Prop} [Deliverable relation]

theorem deliverable_deliver : Keeps relation deliver := by
  intro host
  rw [deliver_eq]
  split
  · have lowered : relation host { host with raised := false } :=
      Lenient.aside rfl rfl rfl rfl rfl
    have delivers : Keeps relation (emit (.call .deliver none)) :=
      Deliverable.masking _ rfl
    exact Frame.trans (Frame.trans lowered (delivers _)) (Deliverable.reap _)
  · exact Frame.refl host

theorem deliverable_block : Keeps relation block := by
  refine Keeps.bind (nextBatch_of_deliver deliverable_deliver) fun _ => ?_
  refine Keeps.bind Keeps.get fun host => ?_
  refine
    Keeps.bind (keeps_attempt (fun _ => Deliverable.masking _ rfl) _)
      fun fault => ?_
  cases fault with
  | none =>
      exact
        Keeps.bind (fun host => Deliverable.mask host true)
          fun _ => Keeps.pure _
  | some errno =>
      exact Keeps.pure _

theorem deliverable_setMask (blocked : Bool) :
    Keeps relation (setMask blocked) := by
  refine
    Keeps.bind (keeps_attempt (fun _ => Deliverable.masking _ rfl) _)
      fun fault => ?_
  cases fault with
  | none =>
      refine Keeps.bind (fun host => Deliverable.mask host blocked) fun _ => ?_
      exact Keeps.bind deliverable_deliver (fun _ => Keeps.pure _)
  | some errno =>
      exact Keeps.pure _

theorem deliverable_unblock (previous : Bool) :
    Keeps relation (unblock previous) :=
  unblock_of_setMask (deliverable_setMask previous)

end Deliverable

instance
    (relation : Host → Host → Prop)
    [Reapable relation] :
    Signalled relation where
  deliver := deliverable_deliver
  block := deliverable_block
  setMask := deliverable_setMask

section Signalled

variable {relation : Host → Host → Prop} [Signalled relation]

theorem keeps_raiseChild (events : List ChildEvent) :
    Keeps relation (raiseChild events) :=
  raiseChild_of_deliver Signalled.deliver events

theorem keeps_block : Keeps relation block :=
  Signalled.block

theorem keeps_setMask (blocked : Bool) :
    Keeps relation (setMask blocked) :=
  Signalled.setMask blocked

theorem keeps_unblock (previous : Bool) :
    Keeps relation (unblock previous) :=
  unblock_of_setMask (keeps_setMask previous)

theorem keeps_resetForChild : Keeps relation resetForChild.run := by
  refine Keeps.bindE (Keeps.forME (fun signal => ?_) _) fun _ => ?_
  · refine
      Keeps.bindE (keeps_demand (ignores_plain fun _ => rfl) _ _) fun _ => ?_
    split
    · exact
        keeps_modify
          (fun _ => rfl) (fun _ => rfl) (fun _ => rfl) (fun _ => rfl)
    · exact Keeps.pure _
  · refine Keeps.bindE (Keeps.liftE (keeps_setMask false)) fun fault => ?_
    cases fault with
    | none =>
        exact Keeps.pure _
    | some errno =>
        exact Keeps.pure _

end Signalled

section Unowned

variable {relation : Host → Host → Prop} [Unowned relation]

/-- A call about the terminal is not minded, failed or not. -/
theorem ignores_terminal
    {call : Call}
    (terminal : ∀ fault, (Event.call call fault).isTerminal = true) :
    ∀ fault, Ignores relation (.call call fault) :=
  fun fault => Unowned.terminal _ (terminal fault)

theorem keeps_setOwner (group : Pid) :
    Keeps relation (setOwner group).run :=
  keeps_demand (ignores_terminal fun _ => rfl) _ _

theorem keeps_setModes (modes : Modes) :
    Keeps relation (setModes modes).run := by
  refine
    Keeps.bindE (keeps_demand (ignores_terminal fun _ => rfl) _ _) fun _ => ?_
  exact
    keeps_modify (fun _ => rfl) (fun _ => rfl) (fun _ => rfl) (fun _ => rfl)

end Unowned

/-- Forking answers from the script, or with a fresh child. -/
theorem fork_eq (host : Host) :
    (fork host).1 =
        host.script.forks.headD (.parent host.nextChild) ∧
      (fork host).2.history =
        host.history ++
          [.call (.fork (host.script.forks.headD (.parent host.nextChild)))
            none] ∧
      (fork host).2.script.forks = host.script.forks.tail ∧
      (fork host).2.slots = host.slots := by
  simp only [fork, run_bind, run_get]
  cases answers : host.script.forks with
  | nil =>
      exact ⟨rfl, rfl, answers, rfl⟩
  | cons answer rest =>
      exact ⟨rfl, rfl, rfl, rfl⟩

/-- Waiting for a child adds the answers that were received. -/
theorem wait_eq (pid : Pid) (host : Host) :
    (wait pid host).2.history =
        host.history ++
          (wait pid host).1.answers.map (fun answer =>
            .call (.wait pid answer) none) ∧
      (wait pid host).2.script.forks = host.script.forks ∧
      (wait pid host).2.slots = host.slots := by
  change
    (host.afterWait pid (wait pid host).1).history = _ ∧
      (host.afterWait pid (wait pid host).1).script.forks = _ ∧
      (host.afterWait pid (wait pid host).1).slots = _
  unfold afterWait
  split <;> exact ⟨rfl, rfl, rfl⟩

end Host
end JobShell
