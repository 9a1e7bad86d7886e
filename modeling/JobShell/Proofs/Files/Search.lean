import JobShell.Files.Search
import JobShell.Proofs.Files.Naming

namespace JobShell

/-!
# The first match on a search path

The entries of a search path are what stands between its colons. An entry serves
a command if it is not empty and the command below it names a regular file with
an execute bit, links followed. The search finds the command below the first
entry that serves it. So a path made of two is searched one after the other, and
what is found on a path is found on every path that goes on from it.
-/

/-- The fields of a byte string are what stands between the separators. -/
theorem fields_eq_splitOn (separator : UInt8) (bytes : Bytes) :
    fields separator bytes = bytes.splitOn separator := by
  induction bytes with
  | nil =>
      rfl
  | cons byte rest inductionHypothesis =>
      rw [fields, List.splitOn_cons_eq_if_modifyHead, inductionHypothesis]
      simp only [beq_iff_eq]
      cases parts : rest.splitOn separator with
      | nil =>
          exact absurd parts (List.splitOn_ne_nil separator rest)
      | cons first later =>
          rfl

namespace Search

/-- An entry of a search path has a program for a command. -/
structure Serves (space : Workspace) (command entry : Bytes) : Prop where
  nonempty : entry ≠ []
  runnable : space.Runnable (Path.join entry command)

theorem serves_iff
    {space : Workspace}
    {command entry : Bytes} :
    entry ≠ [] ∧ space.isExecutable (Path.join entry command) = true ↔
      Serves space command entry := by
  rw [Workspace.isExecutable_iff]
  exact
    ⟨fun serves => ⟨serves.1, serves.2⟩,
      fun serves => ⟨serves.nonempty, serves.runnable⟩⟩

instance (space : Workspace) (command entry : Bytes) :
    Decidable (Serves space command entry) :=
  decidable_of_iff _ serves_iff

variable {space : Workspace} {command : Bytes}

/-- The search finds the command below the first entry that serves it. -/
theorem find?_eq (path : Bytes) :
    find? space command (some path) =
      ((path.splitOn colon).find? fun entry =>
        decide (Serves space command entry)).map
        (Path.join · command) := by
  simp only [find?, Option.bind_some, candidates, directories,
    fields_eq_splitOn, List.find?_map, List.find?_filter]
  congr 2
  funext entry
  rw [decide_eq_decide, ← serves_iff]
  simp

theorem find?_colon (path more : Bytes) :
    find? space command (some (path ++ colon :: more)) =
      (find? space command (some path)).or (find? space command (some more)) := by
  simp only [find?_eq, List.splitOn_append_cons_self, List.find?_append,
    Option.map_or]

theorem find?_eq_some_iff
    {path found : Bytes} :
    find? space command (some path) = some found ↔
      ∃ earlier entry later,
        path.splitOn colon = earlier ++ entry :: later ∧
          found = Path.join entry command ∧
          Serves space command entry ∧
          ∀ other ∈ earlier, ¬ Serves space command other := by
  rw [find?_eq, Option.map_eq_some_iff]
  simp only [List.find?_eq_some_iff_append, decide_eq_true_eq,
    Bool.not_eq_eq_eq_not, Bool.not_true, decide_eq_false_iff_not]
  constructor
  · rintro ⟨entry, ⟨serves, earlier, later, split, others⟩, rfl⟩
    exact ⟨earlier, entry, later, split, rfl, serves, others⟩
  · rintro ⟨earlier, entry, later, split, rfl, serves, others⟩
    exact ⟨entry, ⟨serves, earlier, later, split, others⟩, rfl⟩

theorem find?_eq_none_iff
    {path : Bytes} :
    find? space command (some path) = none ↔
      ∀ entry ∈ path.splitOn colon, ¬ Serves space command entry := by
  simp [find?_eq]

/-- What is found can be run. -/
theorem runnable_of_find?
    {searchPath : Option Bytes}
    {found : Bytes}
    (search : find? space command searchPath = some found) :
    space.Runnable found := by
  cases searchPath with
  | none =>
      contradiction
  | some path =>
      obtain ⟨-, entry, -, -, rfl, serves, -⟩ := find?_eq_some_iff.mp search
      exact serves.runnable

/--
A search on a path made of two goes through the first and then, if nothing is
found, through the second. It finds the command below an entry that serves it,
while no earlier entry does; it finds nothing exactly without a path, or on a
path of which no entry serves the command. So what is found on a path is exactly
what is found on all paths that go on from it.
-/
theorem find?_firstMatch (space : Workspace) (command : Bytes) :
    (∀ path more : Bytes,
        find? space command (some (path ++ colon :: more)) =
          (find? space command (some path)).or
            (find? space command (some more))) ∧
      (∀ path found : Bytes,
        find? space command (some path) = some found ↔
          ∃ earlier entry later,
            path.splitOn colon = earlier ++ entry :: later ∧
              found = Path.join entry command ∧
              Serves space command entry ∧
              ∀ other ∈ earlier, ¬ Serves space command other) ∧
      find? space command none = none ∧
      (∀ path : Bytes,
        find? space command (some path) = none ↔
          ∀ entry ∈ path.splitOn colon, ¬ Serves space command entry) ∧
      ∀ path found : Bytes,
        find? space command (some path) = some found ↔
          ∀ more : Bytes,
            find? space command (some (path ++ colon :: more)) = some found := by
  refine
    ⟨find?_colon, fun _ _ => find?_eq_some_iff, rfl, fun _ => find?_eq_none_iff,
      fun path found => ?_⟩
  simp only [find?_colon]
  constructor
  · intro search more
    rw [search, Option.some_or]
  · intro always
    -- What goes on may be one empty entry, which serves nothing.
    have nothing : find? space command (some []) = none :=
      find?_eq_none_iff.mpr (by simpa using fun serves => serves.nonempty rfl)
    have search := always []
    rwa [nothing, Option.or_none] at search

/--
Directories `a` with a file that nobody may execute, `b` with a directory and
`c` with a link to a program, all of one name.
-/
def shadowed : Workspace :=
  { tree :=
      { entries :=
          [([[97]], .directory), ([[97], [116]], .file 0o644 []),
            ([[98]], .directory), ([[98], [116]], .directory),
            ([[99]], .directory), ([[99], [116]], .link [46, 46, 47, 112]),
            ([[112]], .file 0o700 [])] } }

/-- On the path `a::b:c` the link in the last directory is found. -/
theorem find?_firstMatch_linked :
    find? shadowed [116] (some [97, 58, 58, 98, 58, 99]) =
        some [99, 47, 116] ∧
      (∃ earlier entry later,
        List.splitOn colon [97, 58, 58, 98, 58, 99] =
            earlier ++ entry :: later ∧
          [99, 47, 116] = Path.join entry [116] ∧
          Serves shadowed [116] entry ∧
          ∀ other ∈ earlier, ¬ Serves shadowed [116] other) ∧
      find? shadowed [116] (some ([97, 58, 58, 98, 58, 99] ++ colon :: [46])) =
        some [99, 47, 116] ∧
      (∀ entry ∈ List.splitOn colon [97, 58, 58, 98],
        ¬ Serves shadowed [116] entry) ∧
      find? shadowed [116] (some [97, 58, 58, 98]) = none := by
  obtain ⟨-, first, -, missing, kept⟩ := find?_firstMatch shadowed [116]
  have found :
      find? shadowed [116] (some [97, 58, 58, 98, 58, 99]) =
        some [99, 47, 116] := by
    decide +kernel
  have unserved :
      ∀ entry ∈ List.splitOn colon [97, 58, 58, 98],
        ¬ Serves shadowed [116] entry := by
    decide +kernel
  exact
    ⟨found, (first _ _).mp found, (kept _ _).mp found [46], unserved,
      (missing _).mpr unserved⟩

end Search
end JobShell
