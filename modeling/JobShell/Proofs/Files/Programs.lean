import JobShell.Proofs.Files.Search
import JobShell.Proofs.Line.Arguments

namespace JobShell

/-!
# Which programs can be run

A command's program is the file that its name is as typed, or else what the
search path gives. The search looks for an execute bit, but the name as typed is
taken for any regular file. So the program of a descriptor is always a regular
file, and it can be run unless the name as typed is a file without an execute
bit, which then stands in front of all that the search path has.
-/

namespace Descriptor

variable
  {space : Workspace}
  {searchPath : Option Bytes}

/-- A name that is a file as typed stands for itself, others are searched for. -/
theorem resolveProgram?_eq_some_iff
    {name : Text}
    {program : Bytes} :
    resolveProgram? space searchPath name = some program ↔
      (∃ mode, space.FileAt (Utf8.encode name) mode) ∧
          program = Utf8.encode name ∨
        (∀ mode, ¬ space.FileAt (Utf8.encode name) mode) ∧
          '/' ∉ name ∧
          Search.find? space (Utf8.encode name) searchPath = some program := by
  unfold resolveProgram?
  dsimp only
  by_cases typed : space.isFile (Utf8.encode name) = true
  · rw [if_pos typed]
    rw [Workspace.isFile_iff] at typed
    have notUntyped : ¬ ∀ mode, ¬ space.FileAt (Utf8.encode name) mode := by
      simpa using typed
    simp [typed, notUntyped, eq_comm]
  · rw [if_neg typed]
    rw [Workspace.isFile_iff] at typed
    have untyped : ∀ mode, ¬ space.FileAt (Utf8.encode name) mode := by
      simpa using typed
    simp [untyped]

/-- The program that a name stands for is a regular file. -/
theorem isFile_of_resolveProgram?
    {name : Text}
    {program : Bytes}
    (resolved : resolveProgram? space searchPath name = some program) :
    ∃ mode, space.FileAt program mode := by
  rcases resolveProgram?_eq_some_iff.mp resolved with
    ⟨typed, rfl⟩ | ⟨-, -, search⟩
  · exact typed
  · exact (Search.runnable_of_find? search).isFile

/-- It can be run unless the name as typed is a file that cannot. -/
theorem runnable_of_resolveProgram?_iff
    {name : Text}
    {program : Bytes}
    (resolved : resolveProgram? space searchPath name = some program) :
    space.Runnable program ↔
      ∀ mode,
        space.FileAt (Utf8.encode name) mode →
        mode &&& 0o111 ≠ 0 := by
  rcases resolveProgram?_eq_some_iff.mp resolved with
    ⟨⟨mode, typed⟩, rfl⟩ | ⟨untyped, -, search⟩
  · rw [Workspace.runnable_iff typed]
    constructor
    · intro executable other typedToo
      rwa [← typed.unique typedToo]
    · exact fun executable => executable mode typed
  · exact
      ⟨fun _ mode typed => absurd typed (untyped mode),
        fun _ => Search.runnable_of_find? search⟩

/--
The program of a descriptor that is built is a regular file. It can be run
exactly if the name as typed is no regular file without an execute bit: a
regular file of that name, whether it can be run or not, is the program whatever
the search path has, and otherwise the program is what the search finds.
-/
theorem build_runnable_iff
    {words : List Text}
    {descriptor : Descriptor}
    (built : build space searchPath words = .ok (some descriptor)) :
    ∃ name,
      words.head? = some name ∧
        (∃ mode, space.FileAt descriptor.program mode) ∧
        (space.Runnable descriptor.program ↔
          ∀ mode,
            space.FileAt (Utf8.encode name) mode →
            mode &&& 0o111 ≠ 0) ∧
        ((∃ mode, space.FileAt (Utf8.encode name) mode) ∧
            descriptor.program = Utf8.encode name ∨
          (∀ mode, ¬ space.FileAt (Utf8.encode name) mode) ∧
            '/' ∉ name ∧
            Search.find? space (Utf8.encode name) searchPath =
              some descriptor.program) := by
  obtain ⟨command, program, found, resolved, rfl⟩ := build_eq_some_iff.mp built
  obtain ⟨first, -⟩ := Command.ordinary_of_ofWords? found
  exact
    ⟨command.name, first, isFile_of_resolveProgram? resolved,
      runnable_of_resolveProgram?_iff resolved,
      resolveProgram?_eq_some_iff.mp resolved⟩

/-- A file that nobody may execute, and a program of the same name in `b`. -/
def veiled : Workspace :=
  { tree :=
      { entries :=
          [([[116]], .file 0o644 []), ([[98]], .directory),
            ([[98], [116]], .file 0o755 [])] } }

/-- The program `t`, with `b` as search path. -/
def hidden : Descriptor :=
  { program := [116]
    arguments := [['t']]
    redirection := none
    background := false
    pid := none
    group := none }

theorem build_veiled : build veiled (some [98]) [['t']] = .ok (some hidden) :=
  build_eq_some_iff.mpr
    ⟨⟨['t'], [['t']], none, false⟩, [116], rfl, by decide +kernel, rfl⟩

/-- The file is the program that is built, although `b` has one to run. -/
theorem build_runnable_iff_hidden :
    build veiled (some [98]) [['t']] = .ok (some hidden) ∧
      veiled.FileAt (Utf8.encode ['t']) 0o644 ∧
      Search.find? veiled [116] (some [98]) = some [98, 47, 116] ∧
      ¬ veiled.Runnable hidden.program := by
  have typed : veiled.FileAt (Utf8.encode ['t']) 0o644 :=
    ⟨[[116]], [], Workspace.stat_eq_file_iff.mp rfl⟩
  obtain ⟨name, first, -, runnable, -⟩ := build_runnable_iff build_veiled
  obtain rfl := Option.some.inj first
  refine ⟨build_veiled, typed, by decide +kernel, fun runs => ?_⟩
  exact runnable.mp runs 0o644 typed rfl

/-- Not all that is built can be run. -/
theorem not_all_runnable :
    ¬ ∀ (space : Workspace) (searchPath : Option Bytes) (words : List Text)
        (descriptor : Descriptor),
        build space searchPath words = .ok (some descriptor) →
        space.Runnable descriptor.program := by
  intro all
  have runs := all veiled (some [98]) [['t']] hidden build_veiled
  exact absurd runs (by decide +kernel)

end Descriptor
end JobShell
