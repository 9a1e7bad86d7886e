import JobShell.Files.Search
import JobShell.Line.Command
import JobShell.Line.Quoting
import JobShell.System.Report

namespace JobShell

/-!
# Process descriptors

A descriptor is a command whose program has been found: everything needed to
launch it, and its process number once it runs. A name that is a file as typed
is used as typed; a name without a slash is otherwise looked up in the search
path.
-/

/-- A command ready to be launched. -/
structure Descriptor where
  /-- The path of the program. -/
  program : Bytes
  /-- The arguments, the name as typed first. -/
  arguments : List Text
  redirection : Option Redirection
  background : Bool
  pid : Option Pid
  group : Option Pid
  deriving DecidableEq, Repr

namespace Descriptor

/-- A command and its program. -/
def ofCommand (program : Bytes) (command : Command) : Descriptor :=
  { program := program
    arguments := command.arguments
    redirection := command.redirection
    background := command.background
    pid := none
    group := none }

/-- The command line as it could be typed again. -/
def commandLine (descriptor : Descriptor) : Text :=
  Quoting.join descriptor.arguments

/-- The program as the system takes it. -/
def systemProgram (descriptor : Descriptor) : Except ShellError Bytes :=
  checkNul descriptor.program

/-- The arguments as the system takes them. -/
def systemArguments (descriptor : Descriptor) : Except ShellError (List Bytes) :=
  descriptor.arguments.mapM fun argument => checkNul (Utf8.encode argument)

/-- Arguments are handed over one by one, up to the first that cannot be. -/
theorem mapM_checkNul_cons (argument : Text) (rest : List Text) :
    ((argument :: rest).mapM fun argument => checkNul (Utf8.encode argument)) =
      match checkNul (Utf8.encode argument) with
      | .error e => .error e
      | .ok first =>
          (rest.mapM fun argument => checkNul (Utf8.encode argument)).map
            (first :: ·) := by
  rw [List.mapM_cons]
  cases checkNul (Utf8.encode argument) with
  | error e =>
      rfl
  | ok first =>
      cases rest.mapM fun argument => checkNul (Utf8.encode argument) <;> rfl

theorem mapM_checkNul_of_noNul
    {arguments : List Text}
    (noNul : ∀ argument ∈ arguments, 0 ∉ Utf8.encode argument) :
    (arguments.mapM fun argument => checkNul (Utf8.encode argument)) =
      .ok (arguments.map Utf8.encode) := by
  induction arguments with
  | nil =>
      rfl
  | cons argument rest inductionHypothesis =>
      have first : checkNul (Utf8.encode argument) = .ok _ :=
        checkNul_eq_ok_iff.mpr ⟨noNul argument (by simp), rfl⟩
      have others :=
        inductionHypothesis fun other member => noNul other (by simp [member])
      rw [mapM_checkNul_cons, first, others]
      rfl

theorem mapM_checkNul_of_nul
    {arguments : List Text}
    {argument : Text}
    (member : argument ∈ arguments)
    (nul : 0 ∈ Utf8.encode argument) :
    ∃ position,
      (arguments.mapM fun argument => checkNul (Utf8.encode argument)) =
        .error (.nul position) := by
  induction member with
  | head rest =>
      rw [mapM_checkNul_cons, checkNul, if_pos nul]
      exact ⟨_, rfl⟩
  | @tail other rest member inductionHypothesis =>
      obtain ⟨position, refused⟩ := inductionHypothesis
      rw [mapM_checkNul_cons, refused]
      cases checked : checkNul (Utf8.encode other) with
      | error e =>
          obtain ⟨earlier, rfl⟩ := checkNul_error checked
          exact ⟨earlier, rfl⟩
      | ok first =>
          exact ⟨position, rfl⟩

/-- Arguments are handed over as they are, unless one holds a NUL byte. -/
theorem systemArguments_cases (descriptor : Descriptor) :
    ((∀ argument ∈ descriptor.arguments, 0 ∉ Utf8.encode argument) ∧
        descriptor.systemArguments =
          .ok (descriptor.arguments.map Utf8.encode)) ∨
      (∃ argument ∈ descriptor.arguments, 0 ∈ Utf8.encode argument) ∧
        ∃ position, descriptor.systemArguments = .error (.nul position) := by
  by_cases noNul : ∀ argument ∈ descriptor.arguments, 0 ∉ Utf8.encode argument
  · exact .inl ⟨noNul, mapM_checkNul_of_noNul noNul⟩
  · obtain ⟨argument, member, nul⟩ :
        ∃ argument ∈ descriptor.arguments, 0 ∈ Utf8.encode argument := by
      simpa using noNul
    exact .inr ⟨⟨argument, member, nul⟩, mapM_checkNul_of_nul member nul⟩

theorem systemArguments_eq_ok_iff
    {descriptor : Descriptor}
    {handed : List Bytes} :
    descriptor.systemArguments = .ok handed ↔
      (∀ argument ∈ descriptor.arguments, 0 ∉ Utf8.encode argument) ∧
        descriptor.arguments.map Utf8.encode = handed := by
  rcases descriptor.systemArguments_cases with
    ⟨noNul, answered⟩ | ⟨⟨argument, member, nul⟩, position, answered⟩
  · rw [answered]
    exact ⟨fun same => ⟨noNul, Except.ok.inj same⟩, fun same => by rw [same.2]⟩
  · rw [answered]
    exact ⟨nofun, fun same => absurd nul (same.1 argument member)⟩

theorem systemArguments_error
    {descriptor : Descriptor}
    {e : ShellError}
    (refused : descriptor.systemArguments = .error e) :
    ∃ position, e = .nul position := by
  rcases descriptor.systemArguments_cases with
    ⟨-, answered⟩ | ⟨-, position, answered⟩
  · rw [answered] at refused
    contradiction
  · rw [answered] at refused
    exact ⟨position, (Except.error.inj refused).symm⟩

/-- The program that a command's name stands for. -/
def resolveProgram?
    (space : Workspace)
    (searchPath : Option Bytes)
    (name : Text) :
    Option Bytes :=
  let typed := Utf8.encode name
  if space.isFile typed then some typed
  else if '/' ∈ name then none
  else Search.find? space typed searchPath

/-- The path of a program that is found holds no NUL byte. -/
theorem noNul_of_resolveProgram?
    {space : Workspace}
    {searchPath : Option Bytes}
    {name : Text}
    {program : Bytes}
    (found : resolveProgram? space searchPath name = some program) :
    0 ∉ program := by
  unfold resolveProgram? at found
  dsimp only at found
  split at found
  · rename_i isFile
    obtain rfl := Option.some.inj found
    exact Workspace.noNul_of_isFile isFile
  · split at found
    · contradiction
    · obtain ⟨path, -, searched⟩ := Option.bind_eq_some_iff.mp found
      exact Workspace.noNul_of_isExecutable (List.find?_some searched)

/--
The descriptor of the command that words make. There is none for no words and
for a name that no program has.
-/
def build
    (space : Workspace)
    (searchPath : Option Bytes)
    (words : List Text) :
    Except ShellError (Option Descriptor) :=
  (Command.ofWords? words).map fun found =>
    found.bind fun command =>
      (resolveProgram? space searchPath command.name).map (ofCommand · command)

/-- A descriptor is built of a command and the program its name stands for. -/
theorem build_eq_some_iff
    {space : Workspace}
    {searchPath : Option Bytes}
    {words : List Text}
    {descriptor : Descriptor} :
    build space searchPath words = .ok (some descriptor) ↔
      ∃ command program,
        Command.ofWords? words = .ok (some command) ∧
          resolveProgram? space searchPath command.name = some program ∧
          ofCommand program command = descriptor := by
  unfold build
  rcases Command.ofWords? words with e | _ | command <;> simp [Except.map]

end Descriptor
end JobShell
