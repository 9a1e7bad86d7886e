import JobShell.Builtin.Default
import JobShell.Proofs.Host.Keeps

namespace JobShell

/-!
# Careful built-ins

A built-in is careful if it leaves the files and the working directory alone
whenever it fails. What holds of all built-ins of a table still does when it is
extended by another of the kind, so the built-ins of a new shell are all careful.
-/

/-- The files and the working directory of a console are as they were. -/
def Console.SameSpace (before after : Console) : Prop :=
  after.space = before.space

instance : Frame Console.SameSpace where
  refl _ := rfl
  trans before after := Eq.trans after before

/-- Writing does not touch the files, whether the sink takes the text or not. -/
theorem keeps_writeText (text : Text) :
    Keeps Console.SameSpace (writeText text) :=
  fun _ => rfl

theorem keeps_writeTexts (texts : List Text) :
    Keeps Console.SameSpace (writeTexts texts) := by
  induction texts with
  | nil =>
      exact Keeps.pure _
  | cons text rest inductionHypothesis =>
      refine Keeps.bind (keeps_writeText text) fun answer => ?_
      cases answer with
      | error e =>
          exact Keeps.pure _
      | ok done =>
          exact inductionHypothesis

namespace Builtin

/-- A failure leaves the files and the working directory alone. -/
def Careful (handler : Handler) : Prop :=
  ∀ (listing : List (Text × Text)) (words : List Text) (console : Console)
      (e : ShellError),
    (handler listing words console).1 = .error e →
    (handler listing words console).2.space = console.space

/-- A built-in that never touches the files is careful. -/
theorem careful_of_keeps
    {handler : Handler}
    (keeps :
      ∀ listing words, Keeps Console.SameSpace (handler listing words)) :
    Careful handler :=
  fun listing words console _ _ => keeps listing words console

theorem careful_help : Careful help := by
  refine careful_of_keeps fun listing _ => ?_
  refine Keeps.bind (keeps_writeTexts _) fun answer => ?_
  cases answer <;> exact Keeps.pure _

theorem careful_leave : Careful leave := by
  refine careful_of_keeps fun _ words => ?_
  unfold leave
  split
  · exact Keeps.pure _
  · split <;> exact Keeps.pure _

theorem careful_showDirectory : Careful showDirectory := by
  refine careful_of_keeps fun _ _ => ?_
  refine Keeps.bind Keeps.get fun console => ?_
  split
  · exact Keeps.pure _
  · refine Keeps.bind (keeps_writeText _) fun answer => ?_
    cases answer <;> exact Keeps.pure _

/-- The working directory changes only with success. -/
theorem careful_changeDirectory : Careful changeDirectory := by
  intro listing words console e failed
  unfold changeDirectory at failed ⊢
  rw [run_bind, run_get] at failed ⊢
  dsimp only at failed ⊢
  cases moving :
      console.space.changeDirectory
        (Utf8.encode (console.space.expandTilde (words[1]?.getD ['~']))) with
  | error other =>
      rfl
  | ok moved =>
      rw [moving] at failed
      contradiction

end Builtin

namespace BuiltinTable

/-- Every built-in of the table is careful. -/
def Careful (table : BuiltinTable) : Prop :=
  ∀ builtin ∈ table.entries, Builtin.Careful builtin.handler

theorem forall_register
    {table : BuiltinTable}
    {builtin : Builtin}
    {p : Handler → Prop}
    (all : ∀ other ∈ table.entries, p other.handler)
    (new : p builtin.handler) :
    ∀ other ∈ (table.register builtin).entries, p other.handler := by
  intro other member
  rcases List.mem_append.mp member with kept | added
  · exact all other (List.mem_filter.mp kept).1
  · rwa [List.mem_singleton.mp added]

/-- The built-ins of a new shell are these four, and one of them has two names. -/
theorem forall_default
    {p : Handler → Prop}
    (help : p Builtin.help)
    (leave : p Builtin.leave)
    (showDirectory : p Builtin.showDirectory)
    (changeDirectory : p Builtin.changeDirectory) :
    ∀ builtin ∈ BuiltinTable.default.entries, p builtin.handler := by
  have empty : ∀ builtin ∈ ({} : BuiltinTable).entries, p builtin.handler :=
    fun _ member => absurd member List.not_mem_nil
  exact
    forall_register
      (forall_register
        (forall_register (forall_register (forall_register empty help) help) leave)
        showDirectory)
      changeDirectory

/-- The built-ins of a new shell are careful. -/
theorem careful_default : BuiltinTable.default.Careful :=
  forall_default Builtin.careful_help Builtin.careful_leave
    Builtin.careful_showDirectory Builtin.careful_changeDirectory

theorem mem_of_select?
    {table : BuiltinTable}
    {words : List Text}
    {builtin : Builtin}
    (selected : table.select? words = some builtin) :
    builtin ∈ table.entries := by
  obtain ⟨name, -, found⟩ := Option.bind_eq_some_iff.mp selected
  exact List.mem_of_find?_eq_some found

end BuiltinTable
end JobShell
