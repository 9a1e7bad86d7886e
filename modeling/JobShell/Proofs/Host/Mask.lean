import JobShell.Proofs.Host.Keeps

namespace JobShell

/-!
# The mask along a history

Blocking SIGCHLD and setting the mask are calls, so a history tells at each of
its events whether SIGCHLD is blocked. A history is guarded if the shell claims
slots, drains them and waits for children only while SIGCHLD is blocked, and the
reaper runs only while it is not. No reaper then runs between a blocking and the
next setting of the mask.

As long as the mask stays as it is, there are two kinds of stretches: outside,
the reaper may run, and the shell leaves slots and children alone; inside, the
shell may do all its work, and no signal is delivered. What happens inside is
guarded because SIGCHLD is blocked when it begins.
-/

namespace Event

/-- Whether SIGCHLD is blocked after the event. -/
def mask (blocked : Bool) : Event → Bool
  | .call .blockChild none => true
  | .call (.setMask next) none => next
  | _ => blocked

/-- The shell claims a slot, drains the slots or waits for a child. -/
def isSlotWork : Event → Bool
  | .tracked _ _ => true
  | .drained _ => true
  | .call (.wait _ _) _ => true
  | _ => false

/-- The reaper starts, or asks for any child that changed. -/
def isReaping : Event → Bool
  | .call .deliver _ => true
  | .call (.waitAny _) _ => true
  | _ => false

/-- SIGCHLD is blocked. -/
def isBlocking : Event → Bool
  | .call .blockChild none => true
  | _ => false

/-- The mask is set. -/
def isRestoring : Event → Bool
  | .call (.setMask _) none => true
  | _ => false

/-- The event fails to set the mask. -/
def isRestoreFault : Event → Bool
  | .call (.setMask _) (some _) => true
  | _ => false

/-- The event is plain, or the reaper's while SIGCHLD is not blocked. -/
def isOutside (blocked : Bool) (event : Event) : Bool :=
  event.isPlain || (event.isReaping && !blocked)

/-- The event is neither the reaper's nor about the mask. -/
def isInside (_ : Bool) (event : Event) : Bool :=
  !event.isReaping && !event.isMasking

/-- The event happens while SIGCHLD is blocked, or while it is not, as it must. -/
structure Guarded (blocked : Bool) (event : Event) : Prop where
  work : event.isSlotWork = true → blocked = true
  reaping : event.isReaping = true → blocked = false

theorem isSlotWork_of_isPlain
    {event : Event}
    (plain : event.isPlain = true) :
    event.isSlotWork = false := by
  unfold isPlain at plain
  unfold isSlotWork
  split <;> simp_all

theorem isSlotWork_of_isTerminal
    {event : Event}
    (terminal : event.isTerminal = true) :
    event.isSlotWork = false := by
  unfold isTerminal at terminal
  split at terminal <;> first | rfl | contradiction

theorem isInside_of_isPlain
    {event : Event}
    (plain : event.isPlain = true)
    (blocked : Bool) :
    event.isInside blocked = true := by
  cases event with
  | call call fault =>
      cases call with
      | wait child answer =>
          contradiction
      | waitAny event =>
          contradiction
      | blockChild =>
          contradiction
      | setMask next =>
          contradiction
      | deliver =>
          contradiction
      | _ =>
          rfl
  | _ =>
      rfl

theorem isInside_of_isTerminal
    {event : Event}
    (terminal : event.isTerminal = true)
    (blocked : Bool) :
    event.isInside blocked = true := by
  unfold isTerminal at terminal
  split at terminal <;> first | rfl | contradiction

theorem mask_of_isBlocking
    {event : Event}
    (blocking : event.isBlocking = true)
    (blocked : Bool) :
    event.mask blocked = true := by
  unfold isBlocking at blocking
  split at blocking
  · rfl
  · contradiction

/-- What is not about the mask leaves it as it is. -/
theorem mask_of_isMasking
    {event : Event}
    (apart : event.isMasking = false)
    (blocked : Bool) :
    event.mask blocked = blocked := by
  unfold mask
  split
  · contradiction
  · contradiction
  · rfl

theorem mask_of_isInside
    {event : Event}
    {blocked : Bool}
    (inside : event.isInside blocked = true) :
    event.mask blocked = blocked := by
  obtain ⟨-, apart⟩ : event.isReaping = false ∧ event.isMasking = false := by
    simpa [isInside] using inside
  exact mask_of_isMasking apart blocked

theorem guarded_of_isInside
    {event : Event}
    {blocked : Bool}
    (inside : event.isInside blocked = true)
    (work : event.isSlotWork = true → blocked = true) :
    event.Guarded blocked where
  work := work
  reaping reaping := by
    simp [isInside, reaping] at inside

theorem mask_of_isOutside
    {event : Event}
    {blocked : Bool}
    (outside : event.isOutside blocked = true) :
    event.mask blocked = blocked := by
  rcases Bool.or_eq_true_iff.mp outside with plain | reaper
  · exact mask_of_isInside (isInside_of_isPlain plain blocked)
  · obtain ⟨reaping, -⟩ := Bool.and_eq_true_iff.mp reaper
    unfold isReaping at reaping
    split at reaping <;> first | rfl | contradiction

theorem guarded_of_isOutside
    {event : Event}
    {blocked : Bool}
    (outside : event.isOutside blocked = true) :
    event.Guarded blocked := by
  rcases Bool.or_eq_true_iff.mp outside with plain | reaper
  · apply guarded_of_isInside (isInside_of_isPlain plain blocked)
    simp [isSlotWork_of_isPlain plain]
  · obtain ⟨reaping, unblocked⟩ := Bool.and_eq_true_iff.mp reaper
    refine ⟨fun work => ?_, fun _ => by simpa using unblocked⟩
    unfold isReaping at reaping
    split at reaping <;> contradiction

end Event

namespace History

/-- Whether SIGCHLD is blocked after a history. -/
def maskFrom (blocked : Bool) (history : History) : Bool :=
  history.foldl Event.mask blocked

/-- Each event is guarded by the mask as it is then. -/
def Guarded (blocked : Bool) : History → Prop
  | [] => True
  | event :: rest =>
      event.Guarded blocked ∧ Guarded (event.mask blocked) rest

theorem maskFrom_append
    (blocked : Bool)
    (first second : History) :
    maskFrom blocked (first ++ second) =
      maskFrom (maskFrom blocked first) second :=
  List.foldl_append

/-- A history is guarded if its parts are, each from the mask it begins with. -/
theorem guarded_append
    (blocked : Bool)
    (first second : History) :
    Guarded blocked (first ++ second) ↔
      Guarded blocked first ∧ Guarded (maskFrom blocked first) second := by
  induction first generalizing blocked with
  | nil =>
      simp [Guarded, maskFrom]
  | cons event rest inductionHypothesis =>
      simp only [List.cons_append, Guarded, inductionHypothesis, and_assoc]
      rfl

/-- Events that leave the mask as it is are guarded together if each is. -/
theorem guarded_of_steady
    {blocked : Bool}
    {events : History}
    (steady :
      ∀ event ∈ events,
        event.Guarded blocked ∧ event.mask blocked = blocked) :
    Guarded blocked events ∧ maskFrom blocked events = blocked := by
  induction events with
  | nil =>
      exact ⟨trivial, rfl⟩
  | cons event rest inductionHypothesis =>
      obtain ⟨guarded, same⟩ := steady event (by simp)
      obtain ⟨later, kept⟩ :=
        inductionHypothesis fun other member => steady other (by simp [member])
      unfold Guarded
      refine ⟨⟨guarded, ?_⟩, ?_⟩
      · rwa [same]
      · change maskFrom (event.mask blocked) rest = blocked
        rwa [same]

/-- So are events from outside. -/
theorem guarded_of_outside
    {blocked : Bool}
    {events : History}
    (outside : ∀ event ∈ events, event.isOutside blocked = true) :
    Guarded blocked events ∧ maskFrom blocked events = blocked :=
  guarded_of_steady fun event member =>
    ⟨Event.guarded_of_isOutside (outside event member),
      Event.mask_of_isOutside (outside event member)⟩

/-- While SIGCHLD is blocked, no reaper runs until the mask is set. -/
theorem Guarded.undisturbed
    {events : History}
    (guarded : Guarded true events)
    (unrestored : ∀ event ∈ events, event.isRestoring = false) :
    ∀ event ∈ events, event.isReaping = false := by
  induction events with
  | nil =>
      simp
  | cons event rest inductionHypothesis =>
      obtain ⟨first, later⟩ := guarded
      have still : event.mask true = true := by
        have unset : event.isRestoring = false := unrestored event (by simp)
        unfold Event.mask
        split
        · rfl
        · contradiction
        · rfl
      rw [still] at later
      intro other member
      rcases List.mem_cons.mp member with rfl | isLater
      · rw [Bool.eq_false_iff]
        intro reaping
        have unblocked : true = false := first.reaping reaping
        contradiction
      · apply inductionHypothesis later _ other isLater
        exact fun next isLater => unrestored next (by simp [isLater])

/-- So no reaper runs between a blocking and the next setting of the mask. -/
theorem Guarded.between
    {blocked : Bool}
    {before inner after : History}
    {block : Event}
    (guarded : Guarded blocked (before ++ block :: inner ++ after))
    (blocking : block.isBlocking = true)
    (unrestored : ∀ event ∈ inner, event.isRestoring = false) :
    ∀ event ∈ inner, event.isReaping = false := by
  rw [List.append_assoc] at guarded
  obtain ⟨-, -, later⟩ := (guarded_append _ _ _).mp guarded
  rw [Event.mask_of_isBlocking blocking] at later
  have inside : Guarded true inner := ((guarded_append _ _ _).mp later).1
  exact inside.undisturbed unrestored

end History

namespace Host

/-- The history grew by allowed events, and the mask is as it was. -/
structure Steady
    (allowed : Bool → Event → Bool)
    (before after : Host) :
    Prop where
  grows :
    ∃ added,
      after.history = before.history ++ added ∧
        ∀ event ∈ added, allowed before.blocked event = true
  mask : after.blocked = before.blocked

/-- A choice of events that allows plain ones. -/
class Permits (allowed : Bool → Event → Bool) : Prop where
  plain :
    ∀ (blocked : Bool) (event : Event),
      event.isPlain = true →
      allowed blocked event = true

instance : Permits Event.isOutside where
  plain _ event plain := by
    simp [Event.isOutside, plain]

instance : Permits Event.isInside where
  plain blocked _ plain := Event.isInside_of_isPlain plain blocked

namespace Steady

variable {allowed : Bool → Event → Bool}

/-- One allowed event. -/
theorem emit
    {event : Event}
    (isAllowed : ∀ blocked, allowed blocked event = true) :
    Ignores (Steady allowed) event := by
  intro host
  refine ⟨⟨[event], rfl, ?_⟩, rfl⟩
  intro other member
  obtain rfl := List.mem_singleton.mp member
  exact isAllowed host.blocked

end Steady

instance (allowed : Bool → Event → Bool) : Frame (Steady allowed) where
  refl host := ⟨⟨[], by simp, by simp⟩, rfl⟩
  trans := by
    intro first second third before after
    obtain ⟨earlier, grown, isAllowed⟩ := before.grows
    obtain ⟨later, grownLater, isAllowedLater⟩ := after.grows
    rw [before.mask] at isAllowedLater
    refine ⟨⟨earlier ++ later, ?_, ?_⟩, after.mask.trans before.mask⟩
    · rw [grownLater, grown, List.append_assoc]
    · intro event member
      rcases List.mem_append.mp member with isEarlier | isLater
      · exact isAllowed event isEarlier
      · exact isAllowedLater event isLater

instance
    (allowed : Bool → Event → Bool)
    [Permits allowed] :
    Indifferent (Steady allowed) where
  same history _ _ mask := ⟨⟨[], by simp [history], by simp⟩, mask⟩
  plain event plain :=
    Steady.emit fun blocked => Permits.plain blocked event plain

/-- The reaper may have run, and the shell left slots and children alone. -/
abbrev Outside : Host → Host → Prop :=
  Steady Event.isOutside

/-- The shell may have done any work, and no signal was delivered. -/
abbrev Inside : Host → Host → Prop :=
  Steady Event.isInside

/-- A delivery is a stretch of the reaper's. -/
theorem outside_deliver : Keeps Outside deliver := by
  intro host
  rw [deliver_eq]
  split
  · rename_i delivers
    have unblocked : host.blocked = false := by
      unfold canDeliver at delivers
      cases blocked : host.blocked with
      | false =>
          rfl
      | true =>
          simp [blocked] at delivers
    refine ⟨⟨_, List.append_assoc _ _ _, ?_⟩, rfl⟩
    intro event member
    have reaping : event.isReaping = true := by
      rcases List.mem_cons.mp member with rfl | answered
      · rfl
      · obtain ⟨answer, -, rfl⟩ := List.mem_map.mp answered
        rfl
    simp [Event.isOutside, reaping, unblocked]
  · exact Frame.refl host

/-- A signal that is raised while SIGCHLD is blocked only pends. -/
theorem raiseChild_of_blocked
    {host : Host}
    (blocked : host.blocked = true)
    (events : List ChildEvent) :
    (raiseChild events host).2 =
      { host with pending := host.pending ++ events, raised := true } := by
  change
    (deliver
      { host with pending := host.pending ++ events, raised := true }).2 = _
  rw [deliver_eq]
  simp [canDeliver, blocked]

/-- A call leaves the mask as it is, and adds itself. -/
theorem attempt_eq (syscall : Syscall) (call : Call) (host : Host) :
    (attempt syscall call host).2.history =
        host.history ++ [.call call (attempt syscall call host).1] ∧
      (attempt syscall call host).2.blocked = host.blocked :=
  ⟨rfl, rfl⟩

/--
Before SIGCHLD is blocked, the reaper may run. The blocking then succeeds and
tells the mask before it, or it fails and leaves the mask as it is.
-/
theorem block_eq (host : Host) :
    ∃ opening fault,
      (block host).2.history =
          host.history ++ opening ++ [.call .blockChild fault] ∧
        (∀ event ∈ opening, event.isOutside host.blocked = true) ∧
        (block host).2.blocked = (fault.isNone || host.blocked) ∧
        (block host).1 =
          match fault with
          | none => .ok host.blocked
          | some errno => .error errno := by
  have batched : Outside host (nextBatch host).2 :=
    nextBatch_of_deliver outside_deliver host
  obtain ⟨opening, grown, outside⟩ := batched.grows
  obtain ⟨called, same⟩ :=
    attempt_eq .sigprocmask .blockChild (nextBatch host).2
  rw [grown] at called
  rw [batched.mask] at same
  refine
    ⟨opening, (attempt .sigprocmask .blockChild (nextBatch host).2).1, ?_⟩
  simp only [block, run_bind, run_get]
  cases answered :
      (attempt .sigprocmask .blockChild (nextBatch host).2).1 with
  | none =>
      rw [answered] at called
      refine ⟨called, outside, rfl, ?_⟩
      exact congrArg Except.ok batched.mask
  | some errno =>
      rw [answered] at called
      exact ⟨called, outside, same, rfl⟩

/-- A blocking that succeeds blocks SIGCHLD. -/
theorem blocked_of_block
    {host blocked : Host}
    {previous : Bool}
    (blocking : block host = (.ok previous, blocked)) :
    blocked.blocked = true := by
  obtain ⟨opening, fault, -, -, mask, answered⟩ := block_eq host
  rw [blocking] at mask answered
  cases fault with
  | none =>
      exact mask
  | some errno =>
      contradiction

/--
Once the mask is set, the reaper runs if it can. If it cannot be set, it is as
it was.
-/
theorem setMask_eq (next : Bool) (host : Host) :
    ∃ fault closing,
      (setMask next host).2.history =
          host.history ++ .call (.setMask next) fault :: closing ∧
        (∀ event ∈ closing,
          event.isOutside (setMask next host).2.blocked = true) ∧
        (setMask next host).2.blocked =
            (if fault.isNone then next else host.blocked) ∧
        (setMask next host).1 = fault := by
  obtain ⟨called, same⟩ := attempt_eq .sigprocmask (.setMask next) host
  cases answered : (attempt .sigprocmask (.setMask next) host).1 with
  | none =>
      rw [answered] at called
      let set : Host :=
        { (attempt .sigprocmask (.setMask next) host).2 with blocked := next }
      have runs : setMask next host = (none, (deliver set).2) := by
        simp only [setMask, run_bind, answered]
        rfl
      have delivers : Outside set (deliver set).2 := outside_deliver set
      obtain ⟨closing, grown, outside⟩ := delivers.grows
      rw [runs]
      refine ⟨none, closing, ?_, ?_, delivers.mask, rfl⟩
      · change (deliver set).2.history = _
        rw [grown]
        change (attempt .sigprocmask (.setMask next) host).2.history ++ _ = _
        rw [called, List.append_assoc]
        rfl
      · rwa [← delivers.mask] at outside
  | some errno =>
      rw [answered] at called
      have runs :
          setMask next host =
            (some errno, (attempt .sigprocmask (.setMask next) host).2) := by
        simp only [setMask, run_bind, answered]
        rfl
      rw [runs]
      exact ⟨some errno, [], called, by simp, same, rfl⟩

/-- Undoing a blocking sets the mask, or only logs that it cannot. -/
theorem unblock_eq (previous : Bool) (host : Host) :
    ∃ fault closing,
      (unblock previous host).2.history =
          host.history ++ .call (.setMask previous) fault :: closing ∧
        (∀ event ∈ closing,
          event.isOutside (unblock previous host).2.blocked = true) ∧
        (unblock previous host).2.blocked =
          if fault.isNone then previous else host.blocked := by
  obtain ⟨fault, closing, grown, outside, same, answered⟩ :=
    setMask_eq previous host
  cases fault with
  | none =>
      have runs : (unblock previous host).2 = (setMask previous host).2 := by
        simp only [unblock, run_bind, answered]
        rfl
      rw [runs]
      exact ⟨none, closing, grown, outside, same⟩
  | some errno =>
      let message :=
        s!"jobsh: cannot restore signal mask: {errno.callText}"
      have runs :
          (unblock previous host).2 =
            (note .warn message (setMask previous host).2).2 := by
        simp only [unblock, run_bind, answered]
        rfl
      have notes :
          Outside (setMask previous host).2
            (note .warn message (setMask previous host).2).2 :=
        keeps_note .warn message _
      obtain ⟨later, grownLater, outsideLater⟩ := notes.grows
      rw [← notes.mask] at outside outsideLater
      rw [runs]
      refine ⟨some errno, closing ++ later, ?_, ?_, notes.mask.trans same⟩
      · rw [grownLater, grown, List.append_assoc]
        rfl
      · intro event member
        rcases List.mem_append.mp member with isEarlier | isLater
        · exact outside event isEarlier
        · exact outsideLater event isLater

instance : Unowned Inside where
  terminal _ terminal :=
    Steady.emit fun blocked => Event.isInside_of_isTerminal terminal blocked

theorem inside_fork : Keeps Inside fork := by
  intro host
  obtain ⟨-, grown, -⟩ := fork_eq host
  refine ⟨⟨_, grown, ?_⟩, ?_⟩
  · intro event member
    obtain rfl := List.mem_singleton.mp member
    rfl
  · simp only [fork, run_bind, run_get]
    cases host.script.forks with
    | nil =>
        rfl
    | cons answer rest =>
        rfl

theorem inside_wait (pid : Pid) : Keeps Inside (wait pid) := by
  intro host
  obtain ⟨grown, -⟩ := wait_eq pid host
  refine ⟨⟨_, grown, ?_⟩, ?_⟩
  · intro event member
    obtain ⟨answer, -, rfl⟩ := List.mem_map.mp member
    rfl
  · change (host.afterWait pid (wait pid host).1).blocked = host.blocked
    unfold afterWait
    split <;> rfl

theorem inside_track (pid : Pid) : Keeps Inside (track pid) := by
  intro host
  have claims :
      Inside host { host with slots := (host.slots.track pid).2 } :=
    ⟨⟨[], by simp, by simp⟩, rfl⟩
  have answers :
      Keeps Inside
        (do
          emit (.tracked pid (host.slots.track pid).1)
          if !(host.slots.track pid).1 then
            note .warn s!"jobsh: job table full, {pid} will not be reported"
          return (host.slots.track pid).1 : HostM Bool) := by
    refine Keeps.bind (Steady.emit fun _ => rfl) fun _ => ?_
    split
    · exact Keeps.bind (keeps_note _ _) fun _ => Keeps.pure _
    · exact Keeps.pure _
  exact Frame.trans claims (answers _)

instance : Attending Inside where
  fork := inside_fork
  wait := inside_wait
  track := inside_track

theorem inside_drain : Keeps Inside drain := by
  intro host
  refine ⟨⟨[.drained host.slots.drain.1], rfl, ?_⟩, rfl⟩
  intro event member
  obtain rfl := List.mem_singleton.mp member
  rfl

/-- The history grew by guarded events, and tells the mask after them. -/
def Masked (before after : Host) : Prop :=
  ∃ added,
    after.history = before.history ++ added ∧
      History.Guarded before.blocked added ∧
      after.blocked = History.maskFrom before.blocked added

theorem masked_of_outside
    {before after : Host}
    (outside : Outside before after) :
    Masked before after := by
  obtain ⟨added, grown, isOutside⟩ := outside.grows
  obtain ⟨guarded, same⟩ := History.guarded_of_outside isOutside
  exact ⟨added, grown, guarded, outside.mask.trans same.symm⟩

/-- Whatever the shell does while SIGCHLD is blocked is guarded. -/
theorem masked_of_inside
    {before after : Host}
    (inside : Inside before after)
    (blocked : before.blocked = true) :
    Masked before after := by
  obtain ⟨added, grown, isInside⟩ := inside.grows
  obtain ⟨guarded, same⟩ :=
    History.guarded_of_steady fun event member =>
      ⟨Event.guarded_of_isInside (isInside event member) fun _ => blocked,
        Event.mask_of_isInside (isInside event member)⟩
  exact ⟨added, grown, guarded, inside.mask.trans same.symm⟩

/-- An event that is no work on slots is guarded, whatever the mask is. -/
theorem masked_emit
    {event : Event}
    (inside : ∀ blocked, event.isInside blocked = true)
    (idle : event.isSlotWork = false) :
    Ignores Masked event := by
  intro host
  have guarded : event.Guarded host.blocked :=
    Event.guarded_of_isInside (inside host.blocked) (by simp [idle])
  have same : event.mask host.blocked = host.blocked :=
    Event.mask_of_isInside (inside host.blocked)
  exact ⟨[event], rfl, ⟨guarded, trivial⟩, same.symm⟩

instance : Frame Masked where
  refl host := masked_of_outside (Frame.refl host)
  trans := by
    rintro first second third
      ⟨earlier, grown, guarded, told⟩ ⟨later, grownLater, guardedLater, toldLater⟩
    rw [told] at guardedLater toldLater
    refine ⟨earlier ++ later, ?_, ?_, ?_⟩
    · rw [grownLater, grown, List.append_assoc]
    · exact
        (History.guarded_append _ earlier later).mpr ⟨guarded, guardedLater⟩
    · rw [toldLater, History.maskFrom_append]

instance : Indifferent Masked where
  same history slots children mask :=
    masked_of_outside (Indifferent.same history slots children mask)
  plain event plain host :=
    masked_of_outside (Indifferent.plain event plain host)

theorem masked_block : Keeps Masked block := by
  intro host
  obtain ⟨opening, fault, grown, outside, mask, -⟩ := block_eq host
  obtain ⟨guarded, same⟩ := History.guarded_of_outside outside
  refine ⟨opening ++ [.call .blockChild fault], ?_, ?_, ?_⟩
  · rw [grown, List.append_assoc]
  · apply (History.guarded_append _ _ _).mpr
    exact ⟨guarded, ⟨nofun, nofun⟩, trivial⟩
  · rw [History.maskFrom_append, same, mask]
    cases fault <;> rfl

theorem masked_setMask (next : Bool) : Keeps Masked (setMask next) := by
  intro host
  obtain ⟨fault, closing, grown, outside, mask, -⟩ := setMask_eq next host
  obtain ⟨guarded, same⟩ := History.guarded_of_outside outside
  have told :
      (Event.call (.setMask next) fault).mask host.blocked =
        (setMask next host).2.blocked := by
    rw [mask]
    cases fault <;> rfl
  refine ⟨_, grown, ⟨⟨nofun, nofun⟩, ?_⟩, ?_⟩
  · rwa [told]
  · change
      _ =
        History.maskFrom
          ((Event.call (.setMask next) fault).mask host.blocked) closing
    rw [told, same]

instance : Signalled Masked where
  deliver host := masked_of_outside (outside_deliver host)
  block := masked_block
  setMask := masked_setMask

instance : Unowned Masked where
  terminal _ terminal :=
    masked_emit (Event.isInside_of_isTerminal terminal)
      (Event.isSlotWork_of_isTerminal terminal)

end Host
end JobShell
