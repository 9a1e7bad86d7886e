import JobShell.Reaper.Slots

namespace JobShell

/-!
# The slot of one process

Seen from one process the table is a single place: it has no slot, or one that
is unmarked, or one marked with a change. Claiming, marking and draining are
described by what they do to that place. This needs that no process has two
slots, which every operation keeps.
-/

namespace Report

/-- The state that the handler marks a slot with, if the report marks one. -/
def change? : Report → Option Status
  | .exited code => some (.done code)
  | .signaled signal _ => some (.killed signal)
  | .stopped signal => some (.stopped signal)
  | .continued | .alive | .traced | .atSystemCall => none

end Report

theorem Signal.ofNumber?_number (signal : Signal) :
    ofNumber? signal.number = some signal := by
  cases signal <;> decide

namespace SlotTable

/-- The slot of a process among others, with the change it is marked with. -/
def watchIn (pid : Pid) (slots : List Slot) : Option (Option Status) :=
  (slots.find? (·.pid = pid)).map Slot.status?

/-- The slot of a process, with the change it is marked with. -/
def watch (table : SlotTable) (pid : Pid) : Option (Option Status) :=
  watchIn pid table.slots

/-- The slots are as many as there are, and no process has two of them. -/
structure WellFormed (table : SlotTable) : Prop where
  length : table.slots.length = capacity
  distinct :
    (table.slots.map Slot.pid).Pairwise fun first second =>
      first = second → first = 0

theorem watchIn_cons (pid : Pid) (slot : Slot) (rest : List Slot) :
    watchIn pid (slot :: rest) =
      if slot.pid = pid then some slot.status? else watchIn pid rest := by
  simp only [watchIn, List.find?_cons]
  by_cases same : slot.pid = pid
  · simp [same]
  · simp [same]

theorem watchIn_eq_none_iff (pid : Pid) (slots : List Slot) :
    watchIn pid slots = none ↔ ∀ slot ∈ slots, slot.pid ≠ pid := by
  simp [watchIn]

theorem holds_eq_isSome (table : SlotTable) (pid : Pid) :
    table.holds pid = (table.watch pid).isSome := by
  rw [Bool.eq_iff_iff]
  simp [holds, watch, watchIn]

theorem claim?_eq_none_iff (pid : Pid) (slots : List Slot) :
    claim? pid slots = none ↔ ∀ slot ∈ slots, slot.pid ≠ 0 := by
  induction slots with
  | nil =>
      simp [claim?]
  | cons slot rest inductionHypothesis =>
      rw [claim?]
      by_cases free : slot.pid = 0
      · simp [free]
      · simp [free, inductionHypothesis]

/-- Claiming gives the process an unmarked slot and changes no other process. -/
theorem watchIn_claim?
    {pid : Pid}
    {slots claimed : List Slot}
    (claims : claim? pid slots = some claimed)
    (unheld : watchIn pid slots = none)
    {other : Pid}
    (valid : other ≠ 0) :
    watchIn other claimed =
      if other = pid then some none else watchIn other slots := by
  induction slots generalizing claimed with
  | nil =>
      simp [claim?] at claims
  | cons slot rest inductionHypothesis =>
      rw [watchIn_cons] at unheld
      rw [claim?] at claims
      by_cases free : slot.pid = 0
      · simp only [free, if_true, Option.some.injEq] at claims
        subst claims
        rw [watchIn_cons, watchIn_cons, free]
        by_cases same : other = pid
        · simp [same, Slot.status?]
        · simp [same, Ne.symm same, valid.symm]
      · simp only [free, if_false, Option.map_eq_some_iff] at claims
        obtain ⟨claimed, claims, rfl⟩ := claims
        by_cases held : slot.pid = pid
        · simp [held] at unheld
        · simp only [held, if_false] at unheld
          rw [watchIn_cons, watchIn_cons,
            inductionHypothesis claims unheld]
          by_cases here : slot.pid = other
          · simp [← here, held]
          · simp [here]

/-- A slot that is granted was there, or is fresh; nothing else changes. -/
theorem watch_track
    {table : SlotTable}
    {pid : Pid}
    (granted : (table.track pid).1 = true)
    {other : Pid}
    (valid : other ≠ 0) :
    (table.track pid).2.watch other =
      if other = pid then some ((table.watch pid).getD none)
      else table.watch other := by
  unfold track at granted ⊢
  cases held : table.holds pid with
  | true =>
      rw [holds_eq_isSome, Option.isSome_iff_exists] at held
      obtain ⟨mark, watched⟩ := held
      by_cases same : other = pid
      · simp [same, watched]
      · simp [same]
  | false =>
      have unheld : table.watch pid = none := by
        simpa [holds_eq_isSome] using held
      cases claims : claim? pid table.slots with
      | none =>
          simp [held, claims] at granted
      | some claimed =>
          simp only [unheld, Option.getD_none]
          exact watchIn_claim? claims unheld valid

/-- A slot is refused when the process has none and all are taken. -/
theorem track_eq_false_iff (table : SlotTable) (pid : Pid) :
    (table.track pid).1 = false ↔
      table.watch pid = none ∧ ∀ slot ∈ table.slots, slot.pid ≠ 0 := by
  unfold track
  rw [← claim?_eq_none_iff pid]
  cases held : table.holds pid with
  | true =>
      rw [holds_eq_isSome, Option.isSome_iff_exists] at held
      obtain ⟨mark, watched⟩ := held
      simp [watched]
  | false =>
      have unheld : table.watch pid = none := by
        simpa [holds_eq_isSome] using held
      cases claims : claim? pid table.slots <;> simp [unheld]

/-- A refusal changes nothing. -/
theorem track_refused
    {table : SlotTable}
    {pid : Pid}
    (refused : (table.track pid).1 = false) :
    (table.track pid).2 = table := by
  unfold track at refused ⊢
  split
  · rfl
  · split
    · simp_all
    · rfl

theorem watchIn_markFirst
    (pid : Pid)
    (mark : Mark)
    (detail : Int)
    (slots : List Slot)
    (other : Pid) :
    watchIn other (markFirst pid mark detail slots) =
      if other = pid then
        (watchIn pid slots).map fun _ =>
          ({ pid := pid, mark := mark, detail := detail } : Slot).status?
      else watchIn other slots := by
  induction slots with
  | nil =>
      simp [markFirst, watchIn]
  | cons slot rest inductionHypothesis =>
      rw [markFirst]
      by_cases here : slot.pid = pid
      · rw [if_pos here, watchIn_cons, watchIn_cons, watchIn_cons]
        by_cases same : other = pid
        · simp [here, same, Slot.status?]
        · simp [here, same, Ne.symm same]
      · rw [if_neg here, watchIn_cons, watchIn_cons, watchIn_cons,
          inductionHypothesis]
        by_cases same : other = pid
        · simp [here, same]
        · simp [same]

/-- A report marks the slot of its process with the change it tells. -/
theorem watch_recordReport
    (table : SlotTable)
    (pid : Pid)
    (report : Report)
    (other : Pid) :
    (table.recordReport pid report).watch other =
      match report.change? with
      | some status =>
          if other = pid then (table.watch pid).map fun _ => some status
          else table.watch other
      | none => table.watch other := by
  have marked (mark : Mark) (detail : Int) :=
    watchIn_markFirst pid mark detail table.slots other
  cases report with
  | exited code =>
      exact marked .exited code
  | signaled signal core =>
      have killed := marked .signaled signal.number
      simp only [Slot.status?, Signal.ofNumber?_number] at killed
      exact killed
  | stopped signal =>
      have stopped := marked .stopped signal.number
      simp only [Slot.status?, Signal.ofNumber?_number,
        Option.getD_some] at stopped
      exact stopped
  | continued =>
      rfl
  | alive =>
      rfl
  | traced =>
      rfl
  | atSystemCall =>
      rfl

/-- A report gives nobody a slot, and takes nobody's. -/
theorem isSome_watch_recordReport
    (table : SlotTable)
    (pid : Pid)
    (report : Report)
    (other : Pid) :
    ((table.recordReport pid report).watch other).isSome =
      (table.watch other).isSome := by
  rw [watch_recordReport]
  split
  · split
    · rename_i same
      simp [same]
    · rfl
  · rfl

/-- No mark stands for a process that runs. -/
theorem status?_ne_running (slot : Slot) : slot.status? ≠ some .running := by
  unfold Slot.status?
  cases slot.mark with
  | signaled =>
      dsimp only
      split <;> simp
  | _ =>
      simp

theorem join_watch_ne_running (table : SlotTable) (pid : Pid) :
    (table.watch pid).join ≠ some .running := by
  intro runs
  obtain ⟨slot, _, marked⟩ :=
    Option.map_eq_some_iff.mp (Option.join_eq_some_iff.mp runs)
  exact status?_ne_running slot marked

/-- What draining leaves of a slot: nothing once its process is finished. -/
def afterDrain : Option (Option Status) → Option (Option Status)
  | some (some status) => if status.isFinished then none else some none
  | some none => some none
  | none => none

/-- The states that events tell of one process. -/
def statusesOf (pid : Pid) (events : List ReapEvent) : List Status :=
  (events.filter (·.pid = pid)).map ReapEvent.status

theorem drain_free
    {slot : Slot}
    (free : slot.pid = 0) :
    slot.drain = (none, slot) := by
  simp [Slot.drain, free]

/-- Draining a slot that is taken. -/
theorem drain_taken
    {slot : Slot}
    (taken : slot.pid ≠ 0) :
    slot.drain =
      (slot.status?.map (ReapEvent.mk slot.pid),
        { slot with
          mark := .none
          pid := if slot.status?.any Status.isFinished then 0 else slot.pid }) := by
  unfold Slot.drain
  rw [if_neg taken]
  cases slot.status? <;> rfl

theorem watchIn_drain
    {slots : List Slot}
    (distinct :
      (slots.map Slot.pid).Pairwise fun first second =>
        first = second → first = 0)
    {pid : Pid}
    (valid : pid ≠ 0) :
    watchIn pid (slots.map (·.drain.2)) = afterDrain (watchIn pid slots) := by
  induction slots with
  | nil =>
      rfl
  | cons slot rest inductionHypothesis =>
      simp only [List.map_cons, List.pairwise_cons, List.mem_map,
        forall_exists_index, and_imp, forall_apply_eq_imp_iff₂] at distinct
      obtain ⟨apart, distinct⟩ := distinct
      rw [List.map_cons, watchIn_cons, watchIn_cons,
        inductionHypothesis distinct]
      by_cases free : slot.pid = 0
      · simp [drain_free free, free, Ne.symm valid]
      · rw [drain_taken free]
        by_cases here : slot.pid = pid
        · have elsewhere : watchIn pid rest = none := by
            rw [watchIn_eq_none_iff]
            intro other member same
            exact free (apart other member (here.trans same.symm))
          rw [elsewhere, if_pos here]
          cases marked : slot.status? with
          | none =>
              simp [afterDrain, Slot.status?, here]
          | some status =>
              cases finished : status.isFinished with
              | true =>
                  simp [afterDrain, finished, Ne.symm valid]
              | false =>
                  simp [afterDrain, finished, Slot.status?, here]
        · rw [if_neg here, if_neg]
          dsimp only
          split
          · exact Ne.symm valid
          · exact here

theorem statusesOf_drain
    {slots : List Slot}
    (distinct :
      (slots.map Slot.pid).Pairwise fun first second =>
        first = second → first = 0)
    {pid : Pid}
    (valid : pid ≠ 0) :
    statusesOf pid (slots.filterMap (·.drain.1)) =
      (watchIn pid slots).join.toList := by
  induction slots with
  | nil =>
      rfl
  | cons slot rest inductionHypothesis =>
      simp only [List.map_cons, List.pairwise_cons, List.mem_map,
        forall_exists_index, and_imp, forall_apply_eq_imp_iff₂] at distinct
      obtain ⟨apart, distinct⟩ := distinct
      have later := inductionHypothesis distinct
      rw [List.filterMap_cons, watchIn_cons]
      by_cases free : slot.pid = 0
      · simp [drain_free free, free, Ne.symm valid, later]
      · rw [drain_taken free]
        by_cases here : slot.pid = pid
        · have elsewhere : watchIn pid rest = none := by
            rw [watchIn_eq_none_iff]
            intro other member same
            exact free (apart other member (here.trans same.symm))
          rw [elsewhere] at later
          rw [if_pos here]
          cases slot.status? with
          | none =>
              simpa using later
          | some status =>
              simpa [statusesOf, here] using later
        · rw [if_neg here]
          cases slot.status? with
          | none =>
              exact later
          | some status =>
              simpa [statusesOf, here] using later

theorem watch_empty {pid : Pid} (valid : pid ≠ 0) :
    empty.watch pid = none := by
  simp [watch, watchIn, empty, Ne.symm valid]

theorem length_claim?
    {pid : Pid}
    {slots claimed : List Slot}
    (claims : claim? pid slots = some claimed) :
    claimed.length = slots.length := by
  induction slots generalizing claimed with
  | nil =>
      simp [claim?] at claims
  | cons slot rest inductionHypothesis =>
      rw [claim?] at claims
      split at claims
      · obtain rfl := Option.some.inj claims
        rfl
      · obtain ⟨later, claimsLater, rfl⟩ := Option.map_eq_some_iff.mp claims
        simp [inductionHypothesis claimsLater]

/-- A claimed table holds the processes it held, and the one it was claimed for. -/
theorem mem_claim?
    {pid : Pid}
    {slots claimed : List Slot}
    (claims : claim? pid slots = some claimed)
    {slot : Slot}
    (member : slot ∈ claimed) :
    slot ∈ slots ∨ slot.pid = pid := by
  induction slots generalizing claimed with
  | nil =>
      simp [claim?] at claims
  | cons first rest inductionHypothesis =>
      rw [claim?] at claims
      split at claims
      · obtain rfl := Option.some.inj claims
        rcases List.mem_cons.mp member with rfl | later
        · exact .inr rfl
        · exact .inl (List.mem_cons_of_mem _ later)
      · obtain ⟨later, claimsLater, rfl⟩ := Option.map_eq_some_iff.mp claims
        rcases List.mem_cons.mp member with rfl | member
        · exact .inl (List.mem_cons_self ..)
        · rcases inductionHypothesis claimsLater member with old | new
          · exact .inl (List.mem_cons_of_mem _ old)
          · exact .inr new

theorem distinct_claim?
    {pid : Pid}
    {slots claimed : List Slot}
    (claims : claim? pid slots = some claimed)
    (unheld : ∀ slot ∈ slots, slot.pid ≠ pid)
    (distinct :
      (slots.map Slot.pid).Pairwise fun first second =>
        first = second → first = 0) :
    (claimed.map Slot.pid).Pairwise fun first second =>
      first = second → first = 0 := by
  induction slots generalizing claimed with
  | nil =>
      simp [claim?] at claims
  | cons slot rest inductionHypothesis =>
      simp only [List.map_cons, List.pairwise_cons, List.mem_map,
        forall_exists_index, and_imp, forall_apply_eq_imp_iff₂] at distinct
      obtain ⟨apart, distinct⟩ := distinct
      rw [claim?] at claims
      split at claims
      · obtain rfl := Option.some.inj claims
        simp only [List.map_cons, List.pairwise_cons, List.mem_map,
          forall_exists_index, and_imp, forall_apply_eq_imp_iff₂]
        refine ⟨fun other member same => ?_, distinct⟩
        exact absurd same.symm (unheld other (by simp [member]))
      · rename_i taken
        obtain ⟨later, claimsLater, rfl⟩ := Option.map_eq_some_iff.mp claims
        simp only [List.map_cons, List.pairwise_cons, List.mem_map,
          forall_exists_index, and_imp, forall_apply_eq_imp_iff₂]
        refine ⟨fun other member same => ?_, ?_⟩
        · rcases mem_claim? claimsLater member with old | new
          · exact apart other old same
          · exact absurd (same.trans new) (unheld slot (by simp))
        · exact
            inductionHypothesis claimsLater
              (fun other member => unheld other (by simp [member])) distinct

theorem track_wellFormed
    {table : SlotTable}
    (wellFormed : table.WellFormed)
    (pid : Pid) :
    (table.track pid).2.WellFormed := by
  unfold track
  split
  · exact wellFormed
  · rename_i held
    split
    · rename_i claimed claims
      have unheld : ∀ slot ∈ table.slots, slot.pid ≠ pid := by
        simpa [holds] using held
      exact
        ⟨(length_claim? claims).trans wellFormed.length,
          distinct_claim? claims unheld wellFormed.distinct⟩
    · exact wellFormed

theorem map_pid_markFirst
    (pid : Pid)
    (mark : Mark)
    (detail : Int)
    (slots : List Slot) :
    (markFirst pid mark detail slots).map Slot.pid = slots.map Slot.pid := by
  induction slots with
  | nil =>
      rfl
  | cons slot rest inductionHypothesis =>
      rw [markFirst]
      split
      · rfl
      · simp [inductionHypothesis]

theorem record_wellFormed
    {table : SlotTable}
    (wellFormed : table.WellFormed)
    (pid : Pid)
    (mark : Mark)
    (detail : Int) :
    (table.record pid mark detail).WellFormed := by
  have pids := map_pid_markFirst pid mark detail table.slots
  refine ⟨?_, ?_⟩
  · have lengths := congrArg List.length pids
    simp only [List.length_map] at lengths
    exact lengths.trans wellFormed.length
  · change (List.map _ (markFirst pid mark detail table.slots)).Pairwise _
    rw [pids]
    exact wellFormed.distinct

theorem recordReport_wellFormed
    {table : SlotTable}
    (wellFormed : table.WellFormed)
    (pid : Pid)
    (report : Report) :
    (table.recordReport pid report).WellFormed := by
  have marked := record_wellFormed wellFormed pid
  cases report with
  | exited code =>
      exact marked .exited code
  | signaled signal core =>
      exact marked .signaled signal.number
  | stopped signal =>
      exact marked .stopped signal.number
  | continued =>
      exact wellFormed
  | alive =>
      exact wellFormed
  | traced =>
      exact wellFormed
  | atSystemCall =>
      exact wellFormed

/-- A drained slot keeps its process or has none. -/
theorem drain_pid (slot : Slot) :
    slot.drain.2.pid = slot.pid ∨ slot.drain.2.pid = 0 := by
  by_cases free : slot.pid = 0
  · simp [drain_free free]
  · rw [drain_taken free]
    dsimp only
    split <;> simp

theorem drain_wellFormed
    {table : SlotTable}
    (wellFormed : table.WellFormed) :
    table.drain.2.WellFormed where
  length := by simpa [drain] using wellFormed.length
  distinct := by
    have distinct := wellFormed.distinct
    simp only [List.pairwise_map] at distinct
    simp only [drain, List.map_map, List.pairwise_map, Function.comp_apply]
    apply distinct.imp
    intro first second apart same
    rcases drain_pid first with kept | freed
    · rcases drain_pid second with keptToo | freedToo
      · rw [kept, keptToo] at same
        rw [kept]
        exact apart same
      · exact same.trans freedToo
    · exact freed

theorem watch_drain
    {table : SlotTable}
    (wellFormed : table.WellFormed)
    {pid : Pid}
    (valid : pid ≠ 0) :
    table.drain.2.watch pid = afterDrain (table.watch pid) :=
  watchIn_drain wellFormed.distinct valid

/-- Draining tells what the slot of a process is marked with. -/
theorem statusesOf_drained
    {table : SlotTable}
    (wellFormed : table.WellFormed)
    {pid : Pid}
    (valid : pid ≠ 0) :
    statusesOf pid table.drain.1 = (table.watch pid).join.toList :=
  statusesOf_drain wellFormed.distinct valid

/-- Draining tells of no process twice. -/
theorem nodup_drained
    {table : SlotTable}
    (wellFormed : table.WellFormed) :
    (table.drain.1.map ReapEvent.pid).Nodup := by
  have told : ∀ slot : Slot, ∀ event ∈ slot.drain.1,
      event.pid = slot.pid ∧ slot.pid ≠ 0 := by
    intro slot event told
    by_cases free : slot.pid = 0
    · simp [drain_free free] at told
    · rw [drain_taken free] at told
      obtain ⟨status, -, rfl⟩ := Option.map_eq_some_iff.mp told
      exact ⟨rfl, free⟩
  have distinct := wellFormed.distinct
  rw [List.pairwise_map] at distinct
  rw [List.nodup_iff_pairwise_ne, List.pairwise_map]
  refine distinct.filterMap _ fun first second apart => ?_
  intro event drained other drainedToo same
  obtain ⟨own, taken⟩ := told first event drained
  obtain ⟨ownToo, -⟩ := told second other drainedToo
  exact taken (apart (own.symm.trans (same.trans ownToo)))

theorem drained_ne_running
    {table : SlotTable}
    {event : ReapEvent}
    (member : event ∈ table.drain.1) :
    event.status ≠ .running := by
  obtain ⟨slot, -, drained⟩ := List.mem_filterMap.mp member
  by_cases free : slot.pid = 0
  · simp [drain_free free] at drained
  · rw [drain_taken free] at drained
    obtain ⟨status, marked, rfl⟩ := Option.map_eq_some_iff.mp drained
    rintro rfl
    exact status?_ne_running slot marked

theorem empty_wellFormed : WellFormed empty where
  length := by simp [empty]
  distinct := by
    simp [empty, List.pairwise_replicate]

end SlotTable
end JobShell
