import JobShell.Proofs.Host.Keeps

namespace JobShell

/-!
# Lines that are written

The process panics when a line for the user cannot be written. A computation
that writes lines stops at the first of them that is not, and answers so. In a
history in which every line was written, its answer is therefore known.
-/

/-- A history in which every line was written began as one. -/
theorem History.Written.of_prefix
    {earlier later : History}
    (written : later.Written)
    (grows : earlier <+: later) :
    earlier.Written :=
  fun event member => written event (grows.subset member)

/-- The answer of the computation is no only where a line was not written. -/
def Tells
    (history : State → History)
    (action : StateM State Bool) :
    Prop :=
  ∀ state, (history (action state).2).Written → (action state).1 = true

namespace Tells

variable {history : State → History} {action : StateM State Bool}

/-- After a no, a line was not written. -/
theorem unwritten
    {state : State}
    (tells : Tells history action)
    (told : (action state).1 = false) :
    ¬ (history (action state).2).Written := by
  intro written
  rw [tells state written] at told
  contradiction

/-- What a computation goes on to answer is then known, too. -/
theorem answer
    {yes no : α}
    {state : State}
    (tells : Tells history action)
    (written :
      (history
        ((do
          if ← action then return yes
          else return no : StateM State α) state).2).Written) :
    (do
      if ← action then return yes
      else return no : StateM State α) state = (yes, (action state).2) := by
  rw [run_bind] at written ⊢
  have told : (action state).1 = true := by
    apply tells state
    cases told : (action state).1 with
    | true | false =>
        rw [told] at written
        exact written
  rw [told]
  rfl

/-- Without a line there is none that is not written. -/
theorem silence : Tells history (pure true) :=
  fun _ _ => rfl

/-- What is done before the lines does not matter. -/
theorem after
    {next : α → StateM State Bool}
    (first : StateM State α)
    (tells : ∀ answer, Tells history (next answer)) :
    Tells history (first >>= next) :=
  fun _ => tells _ _

theorem ite
    {condition : Prop}
    [Decidable condition]
    {first second : StateM State Bool}
    (tells : Tells history first)
    (tellsToo : Tells history second) :
    Tells history (if condition then first else second) := by
  split
  · exact tells
  · exact tellsToo

/-- Lines after others are written only where the others were. -/
theorem both
    {first second : StateM State Bool}
    (tells : Tells history first)
    (tellsToo : Tells history second) :
    Tells history
      (do
        if ← first then second
        else return false) := by
  intro state written
  rw [run_bind] at written ⊢
  cases told : (first state).1 with
  | true =>
      rw [told] at written
      exact tellsToo _ written
  | false =>
      rw [told] at written
      have wrote : (first state).1 = true := tells state written
      rw [told] at wrote
      contradiction

end Tells

namespace Host

theorem tells_writeLine (fault : Option Errno) (event : Event) :
    Tells Host.history (writeLine fault event) := by
  intro host written
  cases fault with
  | none =>
      rfl
  | some errno =>
      have wrote : (Event.unwritten errno).isUnwritten = false :=
        written _ (List.mem_append_right _ (List.mem_singleton.mpr rfl))
      contradiction

theorem tells_printLine (text : Text) :
    Tells Host.history (printLine text) :=
  Tells.after nextNotice fun fault => tells_writeLine fault _

theorem tells_complain (text : Text) :
    Tells Host.history (complain text) :=
  Tells.after nextComplaint fun fault => tells_writeLine fault _

end Host
end JobShell
