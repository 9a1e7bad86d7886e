import JobShell.Proofs.Reaper.Watch
import Mathlib.Data.Finset.Card

namespace JobShell

/-!
# The register behind the slots

The slots stand for a register of at most as many processes as there are slots,
each with the incident that was recorded last, if one is pending. Which slot a
process has, and what a free slot was used for, shows in no answer.
-/

/-- What the reaper records of a process. -/
inductive Incident where
  | exited (code : Int)
  | signaled (number : Int)
  | stopped (number : Int)
  deriving DecidableEq, Repr

namespace Incident

/-- The incident that a mark and a number stand for. -/
def ofMark? (mark : Mark) (detail : Int) : Option Incident :=
  match mark with
  | .none => none
  | .exited => some (.exited detail)
  | .signaled => some (.signaled detail)
  | .stopped => some (.stopped detail)

/-- The process is over. -/
def isEnd : Incident → Bool
  | exited _ | signaled _ => true
  | stopped _ => false

/-- The state that the shell is told. -/
def status : Incident → Status
  | exited code => .done code
  | signaled number =>
      match Signal.ofNumber? number with
      | some signal => .killed signal
      | none => .done (128 + number)
  | stopped number => .stopped ((Signal.ofNumber? number).getD .stop)

theorem isFinished_status (incident : Incident) :
    incident.status.isFinished = incident.isEnd := by
  cases incident with
  | exited code =>
      rfl
  | signaled number =>
      simp only [status]
      cases Signal.ofNumber? number <;> rfl
  | stopped number =>
      rfl

end Incident

/-- The incident that a slot is marked with. -/
def Slot.incident? (slot : Slot) : Option Incident :=
  Incident.ofMark? slot.mark slot.detail

theorem Slot.status?_eq (slot : Slot) :
    slot.status? = slot.incident?.map Incident.status := by
  obtain ⟨pid, mark, detail⟩ := slot
  cases mark with
  | signaled =>
      simp only [status?, incident?, Incident.ofMark?, Option.map_some,
        Incident.status]
      cases Signal.ofNumber? detail <;> rfl
  | _ =>
      rfl

/-- Processes, no more than there are slots, and their pending incidents. -/
structure Register where
  keys : Finset Pid
  pending : Pid → Option Incident
  bounded : keys.card ≤ SlotTable.capacity
  absent : ∀ pid ∉ keys, pending pid = none

namespace Register

/-- The register without processes. -/
def empty : Register where
  keys := ∅
  pending _ := none
  bounded := Nat.zero_le _
  absent _ _ := rfl

/-- Enter a process with nothing pending, unless it is there or there is no room. -/
def track (register : Register) (pid : Pid) : Bool × Register :=
  if pid ∈ register.keys then (true, register)
  else if room : register.keys.card < SlotTable.capacity then
    (true,
      { register with
        keys := insert pid register.keys
        bounded := (Finset.card_insert_le pid register.keys).trans room
        absent := fun other outside =>
          register.absent other fun inside =>
            outside (Finset.mem_insert_of_mem inside) })
  else (false, register)

/-- Replace what is pending for a process; one that is not there is ignored. -/
def record
    (register : Register)
    (pid : Pid)
    (incident? : Option Incident) :
    Register :=
  if known : pid ∈ register.keys then
    { register with
      pending := Function.update register.pending pid incident?
      absent := fun other outside => by
        have apart : other ≠ pid := fun same => outside (same ▸ known)
        rw [Function.update_of_ne apart]
        exact register.absent other outside }
  else register

/-- Hand out what is pending, and strike off the processes that are over. -/
def drain (register : Register) : (Pid → Option Incident) × Register :=
  (register.pending,
    { keys :=
        register.keys.filter fun pid =>
          (register.pending pid).any Incident.isEnd = false
      pending := fun _ => none
      bounded := (Finset.card_filter_le _ _).trans register.bounded
      absent := fun _ _ => rfl })

end Register

namespace SlotTable

/-- An operation on slots, or on a register. -/
inductive Operation where
  | track (pid : Pid)
  | record (pid : Pid) (mark : Mark) (detail : Int)
  | drain
  deriving DecidableEq, Repr

/-- The answer to an operation. -/
inductive Answer (Handed : Type) where
  | granted (given : Bool)
  | recorded
  | drained (handed : Handed)
  deriving DecidableEq, Repr

namespace Operation

/-- The process that an operation is about. -/
def pid? : Operation → Option Pid
  | track pid | record pid _ _ => some pid
  | drain => none

/-- Perform an operation on slots. -/
def onSlots
    (operation : Operation)
    (table : SlotTable) :
    Answer (List ReapEvent) × SlotTable :=
  match operation with
  | track pid => (.granted (table.track pid).1, (table.track pid).2)
  | record pid mark detail => (.recorded, table.record pid mark detail)
  | drain => (.drained table.drain.1, table.drain.2)

/-- Perform an operation on a register. -/
def onRegister
    (operation : Operation)
    (register : Register) :
    Answer (Pid → Option Incident) × Register :=
  match operation with
  | track pid => (.granted (register.track pid).1, (register.track pid).2)
  | record pid mark detail =>
      (.recorded, register.record pid (Incident.ofMark? mark detail))
  | drain => (.drained register.drain.1, register.drain.2)

/-- The answers to operations one after the other, and the state after them. -/
def performAll
    {State Handed : Type}
    (perform : Operation → State → Answer Handed × State) :
    List Operation → State → List (Answer Handed) × State
  | [], state => ([], state)
  | operation :: rest, state =>
      let (answer, next) := perform operation state
      let (answers, last) := performAll perform rest next
      (answer :: answers, last)

end Operation

/-- Slots and a register answer alike: each pending incident is told once. -/
inductive Answer.Agrees :
    Answer (List ReapEvent) → Answer (Pid → Option Incident) → Prop where
  | granted (given : Bool) :
      Agrees (.granted given) (.granted given)
  | recorded :
      Agrees .recorded .recorded
  | drained
      {events : List ReapEvent}
      {handed : Pid → Option Incident}
      (once :
        ∀ pid,
          statusesOf pid events = ((handed pid).map Incident.status).toList) :
      Agrees (.drained events) (.drained handed)

/-- The slots stand for the register. -/
structure Represents (table : SlotTable) (register : Register) : Prop where
  wellFormed : table.WellFormed
  free : ∀ slot ∈ table.slots, slot.pid = 0 → slot.mark = .none
  keys :
    ∀ pid,
      pid ∈ register.keys ↔ pid ≠ 0 ∧ ∃ slot ∈ table.slots, slot.pid = pid
  pending :
    ∀ slot ∈ table.slots,
      slot.pid ≠ 0 → register.pending slot.pid = slot.incident?

theorem represents_empty : Represents empty Register.empty where
  wellFormed := empty_wellFormed
  free := by simp [empty]
  keys := by simp [empty, Register.empty, capacity, eq_comm]
  pending := by simp [empty]

/-- Claiming takes one free slot. -/
theorem claim?_split
    {pid : Pid}
    {slots claimed : List Slot}
    (claims : claim? pid slots = some claimed) :
    ∃ before slot after,
      slots = before ++ slot :: after ∧
        slot.pid = 0 ∧
        claimed = before ++ { slot with pid := pid, mark := .none } :: after := by
  induction slots generalizing claimed with
  | nil =>
      simp [claim?] at claims
  | cons first rest inductionHypothesis =>
      rw [claim?] at claims
      split at claims
      · rename_i free
        obtain rfl := Option.some.inj claims
        exact ⟨[], first, rest, rfl, free, rfl⟩
      · obtain ⟨later, claimsLater, rfl⟩ := Option.map_eq_some_iff.mp claims
        obtain ⟨before, slot, after, rfl, free, rfl⟩ :=
          inductionHypothesis claimsLater
        exact ⟨first :: before, slot, after, rfl, free, rfl⟩

/-- Marking changes one slot of the process. -/
theorem markFirst_split
    {pid : Pid}
    {slots : List Slot}
    (held : ∃ slot ∈ slots, slot.pid = pid)
    (mark : Mark)
    (detail : Int) :
    ∃ before slot after,
      slots = before ++ slot :: after ∧
        slot.pid = pid ∧
        markFirst pid mark detail slots =
          before ++ { slot with mark := mark, detail := detail } :: after := by
  induction slots with
  | nil =>
      simp at held
  | cons first rest inductionHypothesis =>
      rw [markFirst]
      split
      · rename_i here
        exact ⟨[], first, rest, rfl, here, rfl⟩
      · rename_i elsewhere
        have later : ∃ slot ∈ rest, slot.pid = pid := by
          simpa [elsewhere] using held
        obtain ⟨before, slot, after, rfl, same, marked⟩ :=
          inductionHypothesis later
        rw [marked]
        exact ⟨first :: before, slot, after, rfl, same, rfl⟩

theorem markFirst_of_unheld
    {pid : Pid}
    {slots : List Slot}
    (unheld : ∀ slot ∈ slots, slot.pid ≠ pid)
    (mark : Mark)
    (detail : Int) :
    markFirst pid mark detail slots = slots := by
  induction slots with
  | nil =>
      rfl
  | cons first rest inductionHypothesis =>
      simp only [List.forall_mem_cons] at unheld
      rw [markFirst, if_neg unheld.1, inductionHypothesis unheld.2]

/-- Draining tells of no process without a number. -/
theorem statusesOf_zero (table : SlotTable) :
    statusesOf 0 table.drain.1 = [] := by
  have valid : ∀ slot : Slot, ∀ event ∈ slot.drain.1, event.pid ≠ 0 := by
    intro slot event told
    by_cases free : slot.pid = 0
    · simp [drain_free free] at told
    · rw [drain_taken free] at told
      obtain ⟨status, -, rfl⟩ := Option.map_eq_some_iff.mp told
      exact free
  simp only [statusesOf, SlotTable.drain, List.map_eq_nil_iff,
    List.filter_eq_nil_iff, decide_eq_true_eq]
  intro event member
  obtain ⟨slot, -, told⟩ := List.mem_filterMap.mp member
  exact valid slot event told

/-- A drained slot is unmarked. -/
theorem mark_drain
    {slot : Slot}
    (unmarked : slot.pid = 0 → slot.mark = .none) :
    slot.drain.2.mark = .none := by
  by_cases free : slot.pid = 0
  · rw [drain_free free]
    exact unmarked free
  · rw [drain_taken free]

/-- A process keeps its slot unless it is over. -/
theorem drain_pid_eq_iff
    {slot : Slot}
    {pid : Pid}
    (valid : pid ≠ 0) :
    slot.drain.2.pid = pid ↔
      slot.pid = pid ∧ slot.incident?.any Incident.isEnd = false := by
  by_cases free : slot.pid = 0
  · rw [drain_free free]
    simp [free, valid.symm]
  · have ends :
        slot.status?.any Status.isFinished =
          slot.incident?.any Incident.isEnd := by
      rw [slot.status?_eq]
      cases slot.incident? with
      | none =>
          rfl
      | some incident =>
          exact incident.isFinished_status
    rw [drain_taken free]
    dsimp only
    rw [ends]
    cases slot.incident?.any Incident.isEnd with
    | true =>
        simp [valid.symm]
    | false =>
        simp

/-- Beside a slot that is taken no slot has its process. -/
theorem WellFormed.apart
    {before after : List Slot}
    {slot : Slot}
    (wellFormed : WellFormed ⟨before ++ slot :: after⟩)
    (taken : slot.pid ≠ 0) :
    ∀ other ∈ before ++ after, other.pid ≠ slot.pid := by
  have distinct := wellFormed.distinct
  simp only [List.map_append, List.map_cons, List.pairwise_append,
    List.pairwise_cons, List.mem_map, List.mem_cons] at distinct
  obtain ⟨-, ⟨later, -⟩, earlier⟩ := distinct
  intro other member same
  rcases List.mem_append.mp member with first | second
  · apply taken
    rw [← same]
    exact earlier other.pid ⟨other, first, rfl⟩ slot.pid (.inl rfl) same
  · exact taken (later other.pid ⟨other, second, rfl⟩ same.symm)

namespace Represents

variable
  {table : SlotTable}
  {register : Register}

theorem holds_iff
    (represents : Represents table register)
    {pid : Pid}
    (valid : pid ≠ 0) :
    table.holds pid = true ↔ pid ∈ register.keys := by
  rw [represents.keys]
  simp [holds, valid]

/-- There is room in the register exactly if a slot is free. -/
theorem room_iff (represents : Represents table register) :
    register.keys.card < capacity ↔ ∃ slot ∈ table.slots, slot.pid = 0 := by
  let taken := (table.slots.map Slot.pid).filter (· ≠ 0)
  have keys : register.keys = taken.toFinset := by
    ext pid
    rw [represents.keys]
    simp [taken, and_comm]
  have nodup : taken.Nodup := by
    have distinct := represents.wellFormed.distinct.filter (· ≠ 0)
    refine distinct.imp_of_mem fun first second apart same => ?_
    exact (of_decide_eq_true (List.mem_filter.mp first).2) (apart same)
  rw [keys, List.toFinset_card_of_nodup nodup,
    ← represents.wellFormed.length, ← List.length_map Slot.pid,
    List.length_filter_lt_length_iff_exists]
  simp

theorem track
    (represents : Represents table register)
    {pid : Pid}
    (valid : pid ≠ 0) :
    (table.track pid).1 = (register.track pid).1 ∧
      Represents (table.track pid).2 (register.track pid).2 := by
  have wellFormed := track_wellFormed represents.wellFormed pid
  unfold SlotTable.track at wellFormed ⊢
  unfold Register.track
  by_cases known : pid ∈ register.keys
  · rw [if_pos ((represents.holds_iff valid).mpr known), if_pos known]
    exact ⟨rfl, represents⟩
  · have unheld := mt (represents.holds_iff valid).mp known
    rw [if_neg unheld] at wellFormed ⊢
    rw [if_neg known]
    cases claims : claim? pid table.slots with
    | none =>
        have full : ¬ register.keys.card < capacity := by
          rw [represents.room_iff]
          simpa using (claim?_eq_none_iff pid table.slots).mp claims
        rw [dif_neg full]
        exact ⟨rfl, represents⟩
    | some claimed =>
        rw [claims] at wellFormed
        obtain ⟨before, slot, after, split, free, rfl⟩ := claim?_split claims
        have room : register.keys.card < capacity := by
          rw [represents.room_iff]
          exact ⟨slot, by simp [split], free⟩
        rw [dif_pos room]
        have frees := represents.free
        have keys := represents.keys
        have pending := represents.pending
        rw [split] at frees keys pending
        simp only [List.forall_mem_append, List.forall_mem_cons] at frees
        simp only [List.forall_mem_append, List.forall_mem_cons] at pending
        refine ⟨rfl, wellFormed, ?_, fun other => ?_, ?_⟩
        · simp only [List.forall_mem_append, List.forall_mem_cons]
          exact ⟨frees.1, fun _ => trivial, frees.2.2⟩
        · rw [Finset.mem_insert, keys]
          simp only [List.mem_append, List.mem_cons, or_and_right, exists_or,
            exists_eq_left, free]
          grind
        · simp only [List.forall_mem_append, List.forall_mem_cons]
          exact
            ⟨pending.1, fun _ => register.absent pid known, pending.2.2⟩

theorem record
    (represents : Represents table register)
    {pid : Pid}
    (valid : pid ≠ 0)
    (mark : Mark)
    (detail : Int) :
    Represents (table.record pid mark detail)
      (register.record pid (Incident.ofMark? mark detail)) := by
  have wellFormed := record_wellFormed represents.wellFormed pid mark detail
  have pids := map_pid_markFirst pid mark detail table.slots
  unfold SlotTable.record at wellFormed ⊢
  unfold Register.record
  by_cases known : pid ∈ register.keys
  · rw [dif_pos known]
    obtain ⟨-, held⟩ := (represents.keys pid).mp known
    obtain ⟨before, slot, after, split, rfl, marked⟩ :=
      markFirst_split held mark detail
    have frees := represents.free
    have pending := represents.pending
    have apart : ∀ other ∈ before ++ after, other.pid ≠ slot.pid := by
      apply WellFormed.apart _ valid
      rw [← split]
      exact represents.wellFormed
    rw [split] at frees pending
    rw [marked] at wellFormed ⊢
    simp only [List.forall_mem_append, List.forall_mem_cons] at frees
    simp only [List.forall_mem_append, List.forall_mem_cons] at pending
    simp only [List.forall_mem_append] at apart
    refine ⟨wellFormed, ?_, fun other => ?_, ?_⟩
    · simp only [List.forall_mem_append, List.forall_mem_cons]
      exact ⟨frees.1, fun free => absurd free valid, frees.2.2⟩
    · rw [represents.keys, split]
      simp only [List.mem_append, List.mem_cons, or_and_right, exists_or,
        exists_eq_left]
    · simp only [List.forall_mem_append, List.forall_mem_cons]
      refine ⟨fun other member taken => ?_, fun _ => ?_, fun other member taken => ?_⟩
      · rw [Function.update_of_ne (apart.1 other member)]
        exact pending.1 other member taken
      · exact Function.update_self ..
      · rw [Function.update_of_ne (apart.2 other member)]
        exact pending.2.2 other member taken
  · rw [dif_neg known]
    have unheld : ∀ slot ∈ table.slots, slot.pid ≠ pid := by
      intro slot member same
      exact known ((represents.keys pid).mpr ⟨valid, slot, member, same⟩)
    rw [markFirst_of_unheld unheld]
    exact represents

/-- The slot that is seen of a process is marked with what is pending for it. -/
theorem join_watch
    (represents : Represents table register)
    {pid : Pid}
    (valid : pid ≠ 0) :
    (table.watch pid).join = (register.pending pid).map Incident.status := by
  unfold watch watchIn
  cases found : table.slots.find? (·.pid = pid) with
  | none =>
      have unknown : pid ∉ register.keys := by
        rw [represents.keys]
        simpa [valid] using found
      rw [register.absent pid unknown]
      rfl
  | some slot =>
      have member := List.mem_of_find?_eq_some found
      obtain rfl : slot.pid = pid := by
        simpa using List.find?_some found
      rw [represents.pending slot member valid]
      exact slot.status?_eq

/-- A slot is drained of its mark, and freed if its process is over. -/
theorem drain
    (represents : Represents table register) :
    (∀ pid,
        statusesOf pid table.drain.1 =
          ((register.drain.1 pid).map Incident.status).toList) ∧
      Represents table.drain.2 register.drain.2 := by
  refine ⟨fun pid => ?_, drain_wellFormed represents.wellFormed, ?_, ?_, ?_⟩
  · by_cases valid : pid = 0
    · subst valid
      have unknown : (0 : Pid) ∉ register.keys := by
        simp [represents.keys]
      have none := register.absent 0 unknown
      simp [statusesOf_zero, Register.drain, none]
    · rw [statusesOf_drained represents.wellFormed valid,
        represents.join_watch valid]
      rfl
  · simp only [SlotTable.drain, List.forall_mem_map]
    intro slot member _
    exact mark_drain (represents.free slot member)
  · intro pid
    simp only [Register.drain, Finset.mem_filter, represents.keys,
      SlotTable.drain, List.mem_map, exists_exists_and_eq_and]
    constructor
    · rintro ⟨⟨valid, slot, member, rfl⟩, goesOn⟩
      rw [represents.pending slot member valid] at goesOn
      exact ⟨valid, slot, member, (drain_pid_eq_iff valid).mpr ⟨rfl, goesOn⟩⟩
    · rintro ⟨valid, slot, member, kept⟩
      obtain ⟨rfl, goesOn⟩ := (drain_pid_eq_iff valid).mp kept
      rw [← represents.pending slot member valid] at goesOn
      exact ⟨⟨valid, slot, member, rfl⟩, goesOn⟩
  · simp only [SlotTable.drain, List.forall_mem_map]
    intro slot member _
    have unmarked := mark_drain (represents.free slot member)
    simp [Register.drain, Slot.incident?, unmarked, Incident.ofMark?]

end Represents

theorem Represents.perform
    {table : SlotTable}
    {register : Register}
    (represents : Represents table register)
    {operation : Operation}
    (valid : ∀ pid ∈ operation.pid?, 0 < pid) :
    Answer.Agrees (operation.onSlots table).1 (operation.onRegister register).1 ∧
      Represents (operation.onSlots table).2
        (operation.onRegister register).2 := by
  cases operation with
  | track pid =>
      obtain ⟨same, after⟩ := represents.track (valid pid rfl).ne'
      refine ⟨?_, after⟩
      simp only [Operation.onSlots, Operation.onRegister, same]
      exact .granted _
  | record pid mark detail =>
      exact ⟨.recorded, represents.record (valid pid rfl).ne' mark detail⟩
  | drain =>
      obtain ⟨once, after⟩ := represents.drain
      exact ⟨.drained once, after⟩

/-- Slots that stand for a register go on to answer as the register does. -/
theorem Represents.performAll
    {table : SlotTable}
    {register : Register}
    (represents : Represents table register)
    {operations : List Operation}
    (valid : ∀ operation ∈ operations, ∀ pid ∈ operation.pid?, 0 < pid) :
    List.Forall₂ Answer.Agrees
        (Operation.performAll Operation.onSlots operations table).1
        (Operation.performAll Operation.onRegister operations register).1 ∧
      Represents
        (Operation.performAll Operation.onSlots operations table).2
        (Operation.performAll Operation.onRegister operations register).2 := by
  induction operations generalizing table register with
  | nil =>
      exact ⟨.nil, represents⟩
  | cons operation rest inductionHypothesis =>
      simp only [List.forall_mem_cons] at valid
      obtain ⟨agrees, next⟩ := represents.perform valid.1
      obtain ⟨agreeLater, after⟩ := inductionHypothesis next valid.2
      exact ⟨.cons agrees agreeLater, after⟩

/--
Slots that were all free answer every sequence of operations as an empty
register does, and stand for the register that is left.
-/
theorem performAll_represents
    {operations : List Operation}
    (valid : ∀ operation ∈ operations, ∀ pid ∈ operation.pid?, 0 < pid) :
    List.Forall₂ Answer.Agrees
        (Operation.performAll Operation.onSlots operations empty).1
        (Operation.performAll Operation.onRegister operations Register.empty).1 ∧
      Represents
        (Operation.performAll Operation.onSlots operations empty).2
        (Operation.performAll Operation.onRegister operations Register.empty).2 :=
  represents_empty.performAll valid

/-- A process that stops and ends, and a second one in the slot that it leaves. -/
def reusing : List Operation :=
  [.track 5, .record 5 .stopped 20, .drain, .record 5 .exited 3,
    .record 6 .exited 0, .drain, .track 6, .drain]

theorem performAll_represents_reusing :
    (Operation.performAll Operation.onSlots reusing empty).1 =
        [.granted true, .recorded, .drained [⟨5, .stopped .tstp⟩], .recorded,
          .recorded, .drained [⟨5, .done 3⟩], .granted true, .drained []] ∧
      List.Forall₂ Answer.Agrees
        (Operation.performAll Operation.onSlots reusing empty).1
        (Operation.performAll Operation.onRegister reusing Register.empty).1 ∧
      Represents
        (Operation.performAll Operation.onSlots reusing empty).2
        (Operation.performAll Operation.onRegister reusing Register.empty).2 :=
  ⟨by decide, performAll_represents (by decide)⟩

end SlotTable
end JobShell
