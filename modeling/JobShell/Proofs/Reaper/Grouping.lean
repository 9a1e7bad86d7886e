import JobShell.Proofs.Host.Keeps

namespace JobShell

/-!
# Order and grouping of child events

The reaper writes one marking for each exit, death or stop into the first slot
of the child, and skips what else it is told. Markings of different children
commute, so the slots depend only on the markings of each child in their order.
How the events are cut into runs of the reaper, and which interruptions come
between them, does not show.
-/

/-- What the reaper writes into the slot of a process. -/
structure Marking where
  pid : Pid
  mark : Mark
  detail : Int
  deriving DecidableEq, Repr

namespace ChildEvent

/-- What the reaper writes for an event; it writes nothing for most. -/
def marking? (event : ChildEvent) : Option Marking :=
  match event.answer with
  | .ok (.exited code) => some ⟨event.pid, .exited, code⟩
  | .ok (.signaled signal _) => some ⟨event.pid, .signaled, signal.number⟩
  | .ok (.stopped signal) => some ⟨event.pid, .stopped, signal.number⟩
  | .ok _ | .error _ => none

/-- The reaper counts the answer: it is a report, and of something that changed. -/
def isCounted (event : ChildEvent) : Bool :=
  match event.answer with
  | .ok .alive => false
  | .ok _ => true
  | .error _ => false

/-- The reaper asks no further after this answer. -/
def endsRun (event : ChildEvent) : Bool :=
  match event.answer with
  | .ok .alive => true
  | .ok _ => false
  | .error errno => errno != .eintr

/-- An answer that ends a run is neither written down nor counted. -/
theorem silent_of_endsRun
    (event : ChildEvent)
    (ends : event.endsRun = true) :
    event.marking? = none ∧ event.isCounted = false := by
  obtain ⟨pid, answer⟩ := event
  cases answer with
  | ok report =>
      cases report <;> first | exact ⟨rfl, rfl⟩ | contradiction
  | error errno =>
      exact ⟨rfl, rfl⟩

end ChildEvent

/-- One run of the reaper takes all these events: none but the last ends it. -/
def Spent (batch : List ChildEvent) : Prop :=
  ∀ event ∈ batch.dropLast, event.endsRun = false

instance (batch : List ChildEvent) : Decidable (Spent batch) :=
  inferInstanceAs (Decidable (∀ event ∈ batch.dropLast, event.endsRun = false))

theorem spent_cons (event : ChildEvent) (rest : List ChildEvent) :
    Spent (event :: rest) ↔
      (rest = [] ∨ event.endsRun = false) ∧ Spent rest := by
  cases rest with
  | nil =>
      simp [Spent]
  | cons next later =>
      simp [Spent]

/-- One run of the reaper takes the first part of what is pending. -/
structure Cut (pending taken left : List ChildEvent) : Prop where
  whole : taken ++ left = pending
  spent : Spent taken
  /-- Something is left only behind an answer that ends the run. -/
  ended : left = [] ∨ ∃ last ∈ taken.getLast?, last.endsRun = true

/-- What is pending falls into what a run takes and what it leaves. -/
theorem exists_cut (pending : List ChildEvent) :
    ∃ taken left, Cut pending taken left := by
  induction pending with
  | nil =>
      exact ⟨[], [], rfl, by simp [Spent], .inl rfl⟩
  | cons event rest inductionHypothesis =>
      cases ends : event.endsRun with
      | true =>
          exact ⟨[event], rest, rfl, by simp [Spent], .inr ⟨event, rfl, ends⟩⟩
      | false =>
          obtain ⟨taken, left, rfl, spent, ended⟩ := inductionHypothesis
          refine
            ⟨event :: taken, left, rfl,
              (spent_cons event taken).mpr ⟨.inr ends, spent⟩,
              ended.imp_right ?_⟩
          rintro ⟨last, member, endsLast⟩
          refine ⟨last, ?_, endsLast⟩
          rw [List.getLast?_cons, Option.mem_def.mp member]
          rfl

/-- The answers of a run that takes these events. -/
def answersOf (taken : List ChildEvent) : List (Option ChildEvent) :=
  taken.map some ++ if taken.any ChildEvent.endsRun then [] else [none]

/-- What the reaper writes for one child, in order. -/
def markingsOf (pid : Pid) (events : List ChildEvent) : List Marking :=
  (events.filterMap ChildEvent.marking?).filter (·.pid = pid)

namespace SlotTable

/-- Write one marking. -/
def mark (table : SlotTable) (marking : Marking) : SlotTable :=
  table.record marking.pid marking.mark marking.detail

/-- Write markings one after the other. -/
def markAll (table : SlotTable) (markings : List Marking) : SlotTable :=
  markings.foldl mark table

@[simp] theorem markAll_nil (table : SlotTable) : table.markAll [] = table :=
  rfl

@[simp] theorem markAll_cons
    (table : SlotTable)
    (marking : Marking)
    (rest : List Marking) :
    table.markAll (marking :: rest) = (table.mark marking).markAll rest :=
  rfl

@[simp] theorem markAll_append
    (table : SlotTable)
    (earlier later : List Marking) :
    table.markAll (earlier ++ later) = (table.markAll earlier).markAll later :=
  List.foldl_append

theorem markFirst_comm
    {first second : Pid}
    (apart : first ≠ second)
    (mark other : Mark)
    (detail number : Int)
    (slots : List Slot) :
    markFirst first mark detail (markFirst second other number slots) =
      markFirst second other number (markFirst first mark detail slots) := by
  induction slots with
  | nil =>
      rfl
  | cons slot rest inductionHypothesis =>
      by_cases isFirst : slot.pid = first
      · simp [markFirst, isFirst, apart]
      · by_cases isSecond : slot.pid = second
        · simp [markFirst, isSecond, apart.symm]
        · simp [markFirst, isFirst, isSecond, inductionHypothesis]

theorem mark_comm
    {first second : Marking}
    (apart : first.pid ≠ second.pid)
    (table : SlotTable) :
    (table.mark first).mark second = (table.mark second).mark first := by
  simp only [mark, record]
  rw [markFirst_comm apart]

/-- A marking may be written before those of other children. -/
theorem markAll_mark
    {marking : Marking}
    {others : List Marking}
    (apart : ∀ other ∈ others, other.pid ≠ marking.pid)
    (table : SlotTable) :
    (table.markAll others).mark marking =
      (table.mark marking).markAll others := by
  induction others generalizing table with
  | nil =>
      rfl
  | cons other rest inductionHypothesis =>
      rw [List.forall_mem_cons] at apart
      rw [markAll_cons, markAll_cons, inductionHypothesis apart.2,
        mark_comm apart.1]

/--
Markings that are the same for each child, in the same order, leave the same
slots. The first marking of one list is the first one of its child in the other,
and moves to the front of it.
-/
theorem markAll_eq_of_same
    {markings others : List Marking}
    (same :
      ∀ pid,
        markings.filter (·.pid = pid) = others.filter (·.pid = pid))
    (table : SlotTable) :
    table.markAll markings = table.markAll others := by
  induction markings generalizing others table with
  | nil =>
      have none : others = [] := by
        rw [List.eq_nil_iff_forall_not_mem]
        intro other member
        have kept : other ∈ others.filter (·.pid = other.pid) := by
          simp [member]
        rw [← same] at kept
        contradiction
      rw [none]
  | cons marking rest inductionHypothesis =>
      have own := same marking.pid
      rw [List.filter_cons_of_pos (by simp)] at own
      obtain ⟨before, after, rfl, apart, -, followed⟩ :=
        List.filter_eq_cons_iff.mp own.symm
      have others : ∀ other ∈ before, other.pid ≠ marking.pid := by
        simpa using apart
      have same (pid : Pid) :
          rest.filter (·.pid = pid) =
            (before ++ after).filter (·.pid = pid) := by
        by_cases isOwn : marking.pid = pid
        · subst isOwn
          rw [List.filter_append, followed, List.filter_eq_nil_iff.mpr apart]
          rfl
        · have whole := same pid
          simpa [List.filter_cons, isOwn] using whole
      rw [markAll_cons, inductionHypothesis same, markAll_append,
        markAll_append, markAll_cons, markAll_mark others]

end SlotTable

/-- A report is recorded as its marking. -/
theorem SlotTable.recordReport_eq
    (table : SlotTable)
    (pid : Pid)
    (report : Report) :
    table.recordReport pid report =
      table.markAll (ChildEvent.marking? ⟨pid, .ok report⟩).toList := by
  cases report <;> rfl

namespace Reaped

/-- One answer to the reaper, and what is left of the run. -/
theorem ofPending_cons
    (event : ChildEvent)
    (rest : List ChildEvent)
    (slots : SlotTable) :
    ofPending slots (event :: rest) =
      if event.endsRun then ⟨0, [some event], slots, rest⟩
      else
        (ofPending (slots.markAll event.marking?.toList) rest).after event
          (if event.isCounted then 1 else 0) := by
  obtain ⟨pid, answer⟩ := event
  cases answer with
  | ok report =>
      cases report <;> rfl
  | error errno =>
      cases errno <;> rfl

/--
A run takes the events up to the end of it, counts and writes what they tell,
and leaves the others. It asks once more if nothing ended it before.
-/
theorem ofPending_eq
    {pending taken left : List ChildEvent}
    (cut : Cut pending taken left)
    (slots : SlotTable) :
    ofPending slots pending =
      { count := taken.countP ChildEvent.isCounted
        answers := answersOf taken
        slots := slots.markAll (taken.filterMap ChildEvent.marking?)
        rest := left } := by
  obtain ⟨rfl, spent, ended⟩ := cut
  induction taken generalizing slots with
  | nil =>
      obtain rfl : left = [] := by simpa using ended
      rfl
  | cons event rest inductionHypothesis =>
      rw [spent_cons] at spent
      rw [List.cons_append, ofPending_cons]
      cases ends : event.endsRun with
      | true =>
          obtain ⟨silent, uncounted⟩ := event.silent_of_endsRun ends
          obtain rfl : rest = [] := by simpa [ends] using spent.1
          simp [answersOf, ends, silent, uncounted]
      | false =>
          have endedLater :
              left = [] ∨ ∃ last ∈ rest.getLast?, last.endsRun = true := by
            cases rest with
            | nil =>
                simpa [ends] using ended
            | cons next later =>
                simpa using ended
          rw [if_neg Bool.false_ne_true, inductionHypothesis _ spent.2 endedLater]
          cases marked : event.marking? with
          | none =>
              simp [after, answersOf, ends, marked, List.countP_cons]
          | some marking =>
              simp [after, answersOf, ends, marked, List.countP_cons]

/-- A run that takes all events writes all their markings. -/
theorem ofPending_of_spent
    {batch : List ChildEvent}
    (spent : Spent batch)
    (slots : SlotTable) :
    (ofPending slots batch).slots =
        slots.markAll (batch.filterMap ChildEvent.marking?) ∧
      (ofPending slots batch).rest = [] := by
  have cut : Cut batch batch [] :=
    ⟨List.append_nil batch, spent, .inl rfl⟩
  rw [ofPending_eq cut]
  exact ⟨rfl, rfl⟩

end Reaped

namespace Host

/-- SIGCHLD is delivered as soon as it is raised, and nothing is left to take. -/
structure Attentive (host : Host) : Prop where
  handling : host.handling = .reaper
  unblocked : host.blocked = false
  asParent : host.inChild = false
  lowered : host.raised = false
  nothing : host.pending = []

/-- What happens to children, with one run of the reaper for each batch. -/
def raiseEach (batches : List (List ChildEvent)) : HostM Unit :=
  batches.forM raiseChild

/-- One run of the reaper writes the markings, and adds to the history. -/
theorem raiseChild_of_attentive
    {host : Host}
    (attentive : host.Attentive)
    {batch : List ChildEvent}
    (spent : Spent batch) :
    ∃ history,
      (raiseChild batch host).2 =
        { host with
          slots := host.slots.markAll (batch.filterMap ChildEvent.marking?)
          history := history } := by
  obtain ⟨handling, unblocked, asParent, lowered, nothing⟩ := attentive
  obtain ⟨marked, taken⟩ := Reaped.ofPending_of_spent spent host.slots
  let raised : Host := { host with pending := batch, raised := true }
  have runs : (raiseChild batch host).2 = (deliver raised).2 := by
    change
      (deliver
        { host with pending := host.pending ++ batch, raised := true }).2 = _
    rw [nothing]
    rfl
  have delivers : raised.canDeliver = true := by
    simp [canDeliver, raised, unblocked, handling, asParent]
  rw [runs, deliver_eq, if_pos delivers]
  let called : Host :=
    (emit (.call .deliver none) { raised with raised := false }).2
  have reaped :
      (reap called).2 =
        { host with
          pending := (Reaped.ofPending host.slots batch).rest
          raised := false
          slots := (Reaped.ofPending host.slots batch).slots
          history := (reap called).2.history } :=
    rfl
  refine ⟨(reap called).2.history, ?_⟩
  rw [← marked, reaped, taken, ← nothing, ← lowered]

/-- So do any number of runs. -/
theorem raiseEach_of_attentive
    {host : Host}
    (attentive : host.Attentive)
    {batches : List (List ChildEvent)}
    (spent : ∀ batch ∈ batches, Spent batch) :
    ∃ history,
      (raiseEach batches host).2 =
        { host with
          slots :=
            host.slots.markAll (batches.flatten.filterMap ChildEvent.marking?)
          history := history } := by
  induction batches generalizing host with
  | nil =>
      exact ⟨host.history, rfl⟩
  | cons batch rest inductionHypothesis =>
      rw [List.forall_mem_cons] at spent
      obtain ⟨history, first⟩ := raiseChild_of_attentive attentive spent.1
      have stays :
          ({ host with
            slots := host.slots.markAll (batch.filterMap ChildEvent.marking?)
            history := history } : Host).Attentive :=
        ⟨attentive.handling, attentive.unblocked, attentive.asParent,
          attentive.lowered, attentive.nothing⟩
      obtain ⟨whole, later⟩ := inductionHypothesis stays spent.2
      refine ⟨whole, ?_⟩
      have runs :
          (raiseEach (batch :: rest) host).2 =
            (raiseEach rest (raiseChild batch host).2).2 :=
        rfl
      rw [runs, first, later, List.flatten_cons, List.filterMap_append,
        SlotTable.markAll_append]

end Host
end JobShell
