import JobShell.Proofs.Files.Programs
import JobShell.Proofs.Line.Positions

namespace JobShell

/-!
# What is built

A descriptor is built of the command that words make and of the program that its
name stands for, and of nothing less. Words that make no command fail whatever
the files are; a name that stands for no program builds nothing; otherwise the
descriptor has all that the command says. Its program and its name can be handed
to the system, because a path with a NUL byte names no file, so that only the
arguments behind the name may be refused.
-/

/-- The path below a directory ends as it was spelled. -/
theorem Path.suffix_join (directory path : Bytes) :
    path <:+ Path.join directory path := by
  unfold Path.join
  split
  · exact List.suffix_rfl
  · split
    · exact List.suffix_append _ _
    · exact (List.suffix_cons _ _).trans (List.suffix_append _ _)

/-- Only no words at all make no command. -/
theorem Command.ofWords?_eq_none_iff
    {words : List Text} :
    ofWords? words = .ok none ↔ words = [] := by
  constructor
  · intro read
    cases words with
    | nil =>
        rfl
    | cons name rest =>
        rcases ofWords?_outcome name rest with
          ⟨_, -, answered⟩ | ⟨_, -, -, answered⟩ <;>
          rw [answered] at read <;> cases read
  · rintro rfl
    rfl

namespace Descriptor

variable
  {space : Workspace}
  {searchPath : Option Bytes}

/-- A name stands for nothing if it is no file and cannot be found. -/
theorem resolveProgram?_eq_none_iff
    {name : Text} :
    resolveProgram? space searchPath name = none ↔
      (∀ mode, ¬ space.FileAt (Utf8.encode name) mode) ∧
        ('/' ∈ name ∨
          Search.find? space (Utf8.encode name) searchPath = none) := by
  simp only [Option.eq_none_iff_forall_ne_some, ne_eq,
    resolveProgram?_eq_some_iff]
  constructor
  · intro nothing
    have untyped : ∀ mode, ¬ space.FileAt (Utf8.encode name) mode :=
      fun mode typed => nothing _ (.inl ⟨⟨mode, typed⟩, rfl⟩)
    refine ⟨untyped, ?_⟩
    by_cases slash : '/' ∈ name
    · exact .inl slash
    · exact
        .inr fun program search =>
          nothing program (.inr ⟨untyped, slash, search⟩)
  · rintro ⟨untyped, hopeless⟩ program
      (⟨⟨mode, typed⟩, -⟩ | ⟨-, unslashed, search⟩)
    · exact untyped mode typed
    · rcases hopeless with slash | unfound
      · exact unslashed slash
      · exact unfound program search

/-- The path of the program ends with the name, as typed or found. -/
theorem suffix_of_resolveProgram?
    {name : Text}
    {program : Bytes}
    (resolved : resolveProgram? space searchPath name = some program) :
    Utf8.encode name <:+ program := by
  rcases resolveProgram?_eq_some_iff.mp resolved with
    ⟨-, rfl⟩ | ⟨-, -, search⟩
  · exact List.suffix_rfl
  · cases searchPath with
    | none =>
        contradiction
    | some path =>
        obtain ⟨-, entry, -, -, rfl, -, -⟩ :=
          Search.find?_eq_some_iff.mp search
        exact Path.suffix_join entry _

theorem build_eq_error_iff
    {words : List Text}
    {e : ShellError} :
    build space searchPath words = .error e ↔
      Command.ofWords? words = .error e := by
  unfold build
  rcases Command.ofWords? words with other | _ | command <;> simp [Except.map]

theorem build_eq_none_iff
    {words : List Text} :
    build space searchPath words = .ok none ↔
      words = [] ∨
        ∃ command,
          Command.ofWords? words = .ok (some command) ∧
            resolveProgram? space searchPath command.name = none := by
  rw [← Command.ofWords?_eq_none_iff]
  unfold build
  rcases Command.ofWords? words with other | _ | command <;> simp [Except.map]

/-- What is built has the program and what the command says, and no process yet. -/
theorem ofCommand_eq_iff
    {program : Bytes}
    {command : Command}
    {descriptor : Descriptor} :
    ofCommand program command = descriptor ↔
      descriptor.program = program ∧
        descriptor.arguments = command.arguments ∧
        descriptor.redirection = command.redirection ∧
        descriptor.background = command.background ∧
        descriptor.pid = none ∧
        descriptor.group = none := by
  constructor
  · rintro rfl
    exact ⟨rfl, rfl, rfl, rfl, rfl, rfl⟩
  · rintro ⟨rfl, arguments, redirection, background, pid, group⟩
    cases descriptor
    simp_all [ofCommand]

/-- The name of a command that is built is handed over as it is. -/
theorem noNul_of_build
    {words : List Text}
    {descriptor : Descriptor}
    (built : build space searchPath words = .ok (some descriptor)) :
    0 ∉ descriptor.program ∧
      ∃ name rest,
        descriptor.arguments = name :: rest ∧ 0 ∉ Utf8.encode name := by
  obtain ⟨command, program, found, resolved, rfl⟩ := build_eq_some_iff.mp built
  obtain ⟨rest, arguments⟩ := Command.arguments_of_ofWords? found
  have noNul := noNul_of_resolveProgram? resolved
  exact
    ⟨noNul, command.name, rest, arguments,
      fun nul => noNul ((suffix_of_resolveProgram? resolved).subset nul)⟩

/-- Arguments are refused exactly if one of them holds a NUL byte. -/
theorem systemArguments_error_iff
    {descriptor : Descriptor} :
    (∃ e, descriptor.systemArguments = .error e) ↔
      ∃ argument ∈ descriptor.arguments, 0 ∈ Utf8.encode argument := by
  rcases descriptor.systemArguments_cases with
    ⟨noNul, answered⟩ | ⟨nul, position, answered⟩
  · rw [answered]
    refine ⟨nofun, ?_⟩
    rintro ⟨argument, member, nul⟩
    exact absurd nul (noNul argument member)
  · exact ⟨fun _ => nul, fun _ => ⟨_, answered⟩⟩

/--
Whatever the words, the search path and the files are: building fails exactly as
reading the words does, and the files have no say in it. It answers with nothing
exactly for no words, and for a command whose name is no regular file as typed
and cannot be searched for, because it has a slash, or is not found. In all other
cases it answers with one whole descriptor, whose program is the name as typed if
that is a regular file, and then whatever the search path, and else what the
search finds. That program can be handed to the system, and so can the arguments,
unless one behind the first holds a NUL byte.
-/
theorem build_complete
    (space : Workspace)
    (searchPath : Option Bytes)
    (words : List Text) :
    (∀ e,
        build space searchPath words = .error e ↔
          Command.ofWords? words = .error e) ∧
      (build space searchPath words = .ok none ↔
        words = [] ∨
          ∃ command,
            Command.ofWords? words = .ok (some command) ∧
              (∀ mode, ¬ space.FileAt (Utf8.encode command.name) mode) ∧
              ('/' ∈ command.name ∨
                Search.find? space (Utf8.encode command.name) searchPath =
                  none)) ∧
      (∀ descriptor,
        build space searchPath words = .ok (some descriptor) ↔
          ∃ command,
            Command.ofWords? words = .ok (some command) ∧
              ((∃ mode, space.FileAt (Utf8.encode command.name) mode) ∧
                  descriptor.program = Utf8.encode command.name ∨
                (∀ mode, ¬ space.FileAt (Utf8.encode command.name) mode) ∧
                  '/' ∉ command.name ∧
                  Search.find? space (Utf8.encode command.name) searchPath =
                    some descriptor.program) ∧
              descriptor.arguments = command.arguments ∧
              descriptor.redirection = command.redirection ∧
              descriptor.background = command.background ∧
              descriptor.pid = none ∧
              descriptor.group = none) ∧
      (∀ command mode otherPath,
        Command.ofWords? words = .ok (some command) →
        space.FileAt (Utf8.encode command.name) mode →
        build space otherPath words = build space searchPath words) ∧
      ∀ descriptor,
        build space searchPath words = .ok (some descriptor) →
        descriptor.systemProgram = .ok descriptor.program ∧
          ((∃ e, descriptor.systemArguments = .error e) ↔
            ∃ argument ∈ descriptor.arguments.tail,
              0 ∈ Utf8.encode argument) := by
  refine ⟨fun e => build_eq_error_iff, ?_, fun descriptor => ?_, ?_, ?_⟩
  · simp only [build_eq_none_iff, resolveProgram?_eq_none_iff]
  · simp only [build_eq_some_iff, ofCommand_eq_iff,
      resolveProgram?_eq_some_iff]
    constructor
    · rintro ⟨command, program, found, resolved, rfl, parts⟩
      exact ⟨command, found, resolved, parts⟩
    · rintro ⟨command, found, resolved, parts⟩
      exact ⟨command, _, found, resolved, rfl, parts⟩
  · intro command mode otherPath found typed
    have resolves (path : Option Bytes) :
        resolveProgram? space path command.name =
          some (Utf8.encode command.name) :=
      resolveProgram?_eq_some_iff.mpr (.inl ⟨⟨mode, typed⟩, rfl⟩)
    have builds (path : Option Bytes) :
        build space path words =
          .ok (some (ofCommand (Utf8.encode command.name) command)) :=
      build_eq_some_iff.mpr ⟨command, _, found, resolves path, rfl⟩
    rw [builds otherPath, builds searchPath]
  · intro descriptor built
    obtain ⟨noNul, name, rest, arguments, named⟩ := noNul_of_build built
    refine ⟨checkNul_eq_ok_iff.mpr ⟨noNul, rfl⟩, ?_⟩
    rw [systemArguments_error_iff, arguments]
    simp [named]

/-- The program `t` with an argument that is a NUL character. -/
def unspeakable : Descriptor :=
  { hidden with arguments := [['t'], ['\x00']] }

/-- What is built whatever the search path, and has an argument that is refused. -/
theorem build_complete_unspeakable :
    veiled.FileAt (Utf8.encode ['t']) 0o644 ∧
      build veiled (some [98]) [['t'], ['\x00'], ['&']] =
        .ok (some { unspeakable with background := true }) ∧
      build veiled none [['t'], ['\x00'], ['&']] =
        build veiled (some [98]) [['t'], ['\x00'], ['&']] ∧
      unspeakable.systemProgram = .ok [116] ∧
      ∃ e, unspeakable.systemArguments = .error e := by
  have typed : veiled.FileAt (Utf8.encode ['t']) 0o644 :=
    ⟨[[116]], [], Workspace.stat_eq_file_iff.mp rfl⟩
  have read :
      Command.ofWords? [['t'], ['\x00'], ['&']] =
        .ok (some ⟨['t'], [['t'], ['\x00']], none, true⟩) :=
    rfl
  obtain ⟨-, -, builds, unmoved, handed⟩ :=
    build_complete veiled (some [98]) [['t'], ['\x00'], ['&']]
  have built :
      build veiled (some [98]) [['t'], ['\x00'], ['&']] =
        .ok (some { unspeakable with background := true }) :=
    (builds _).mpr
      ⟨_, read, .inl ⟨⟨_, typed⟩, rfl⟩, rfl, rfl, rfl, rfl, rfl⟩
  obtain ⟨program, arguments⟩ := handed _ built
  exact
    ⟨typed, built, unmoved _ _ none read typed, program,
      arguments.mpr ⟨['\x00'], by decide, by decide⟩⟩

end Descriptor
end JobShell
