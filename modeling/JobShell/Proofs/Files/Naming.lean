import JobShell.Files.Workspace

namespace JobShell

/-!
# What a path names

Names lead from place to place: a dot stays, two dots go up, a directory is
entered, and a link is left for the path that it holds, with the names behind it
to follow. A file ends the way, unless a directory is asked for. Finding a path
answers exactly the place that the path leads to over at most forty links.
-/

namespace FileTree

/-- An entry stands under a proper name in a directory. -/
structure Holds
    (tree : FileTree)
    (place : Location)
    (name : Bytes)
    (entry : Entry) :
    Prop where
  notHere : name ≠ Path.here
  notAbove : name ≠ Path.above
  inDirectory : tree.isDirectory place = true
  short : name.length ≤ Path.maxName
  stands : tree.get? (place ++ [name]) = some entry

/-- Where a path starts that is read at a place. -/
def origin (place : Location) (path : Bytes) : Location :=
  if Path.isAbsolute path then [] else place

/-- A directory is asked for behind a link. -/
def linkSlash (target : Bytes) (rest : List Bytes) (slash : Bool) : Bool :=
  slash || (rest = [] && Path.endsWithSlash target)

/--
Names lead from a place to a goal over a number of links. With `slash` a
directory is asked for at the end.
-/
inductive Leads (tree : FileTree) :
    Nat → Location → List Bytes → Bool → Location → Prop
  | arrived {place : Location} {slash : Bool} :
      Leads tree 0 place [] slash place
  | here
      {links : Nat}
      {place goal : Location}
      {rest : List Bytes}
      {slash : Bool} :
      Leads tree links place rest slash goal →
      Leads tree links place (Path.here :: rest) slash goal
  | above
      {links : Nat}
      {place goal : Location}
      {rest : List Bytes}
      {slash : Bool} :
      Leads tree links place.dropLast rest slash goal →
      Leads tree links place (Path.above :: rest) slash goal
  | entered
      {links : Nat}
      {place goal : Location}
      {name : Bytes}
      {rest : List Bytes}
      {slash : Bool} :
      tree.Holds place name .directory →
      Leads tree links (place ++ [name]) rest slash goal →
      Leads tree links place (name :: rest) slash goal
  | file
      {place : Location}
      {name data : Bytes}
      {mode : Nat} :
      tree.Holds place name (.file mode data) →
      Leads tree 0 place [name] false (place ++ [name])
  | linked
      {links : Nat}
      {place goal : Location}
      {name target : Bytes}
      {rest : List Bytes}
      {slash : Bool} :
      tree.Holds place name (.link target) →
      Leads tree links (origin place target) (Path.names target ++ rest)
        (linkSlash target rest slash) goal →
      Leads tree (links + 1) place (name :: rest) slash goal

variable
  {tree : FileTree}
  {place goal : Location}
  {names : List Bytes}
  {slash : Bool}

/-- A step of a walk to an entry that stands under the next name. -/
theorem walkNames_held
    {jump : Jump}
    {name : Bytes}
    {rest : List Bytes}
    {entry : Entry}
    (held : tree.Holds place name entry) :
    walkNames tree .follow jump place (name :: rest) slash =
      match entry with
      | .directory => walkNames tree .follow jump (place ++ [name]) rest slash
      | .file .. =>
          if rest = [] ∧ slash = false then .ok (.found (place ++ [name]))
          else .error .enotdir
      | .link target => jump place target rest slash := by
  obtain ⟨notHere, notAbove, inDirectory, short, stands⟩ := held
  rw [walkNames, if_neg notHere, if_neg notAbove, if_neg (by simp),
    if_neg (by simp [inDirectory]), if_neg (Nat.not_lt.mpr short), stands]
  cases entry <;> simp

/-- A walk over no more links than it may follow comes to the goal. -/
theorem Leads.walks
    {links : Nat}
    (leads : tree.Leads links place names slash goal)
    {bound : Nat}
    (enough : links ≤ bound) :
    tree.walk .follow bound place names slash = .ok (.found goal) := by
  -- However many links may be followed, names are walked alike.
  have walk_eq (bound : Nat) :
      ∃ jump, tree.walk .follow bound = walkNames tree .follow jump := by
    cases bound <;> exact ⟨_, rfl⟩
  induction leads generalizing bound with
  | arrived =>
      obtain ⟨jump, walks⟩ := walk_eq bound
      rw [walks, walkNames]
  | here _ inductionHypothesis =>
      have later := inductionHypothesis enough
      obtain ⟨jump, walks⟩ := walk_eq bound
      rw [walks] at later ⊢
      rwa [walkNames, if_pos rfl]
  | above _ inductionHypothesis =>
      have later := inductionHypothesis enough
      obtain ⟨jump, walks⟩ := walk_eq bound
      rw [walks] at later ⊢
      rwa [walkNames, if_neg (by decide), if_pos rfl]
  | entered held _ inductionHypothesis =>
      have later := inductionHypothesis enough
      obtain ⟨jump, walks⟩ := walk_eq bound
      rw [walks] at later ⊢
      rwa [walkNames_held held]
  | file held =>
      obtain ⟨jump, walks⟩ := walk_eq bound
      rw [walks, walkNames_held held]
      rfl
  | linked held _ inductionHypothesis =>
      obtain ⟨fewer, rfl⟩ := Nat.exists_eq_add_of_lt enough
      have later := inductionHypothesis (Nat.le_add_right _ fewer)
      rw [walk, walkNames_held held]
      exact later

/-- A walk goes on at a proper name only if an entry stands under it. -/
theorem held_of_walkNames
    {jump : Jump}
    {name : Bytes}
    {rest : List Bytes}
    (notHere : name ≠ Path.here)
    (notAbove : name ≠ Path.above)
    (walked :
      walkNames tree .follow jump place (name :: rest) slash =
        .ok (.found goal)) :
    ∃ entry, tree.Holds place name entry := by
  rw [walkNames, if_neg notHere, if_neg notAbove, if_neg (by simp)] at walked
  by_cases inDirectory : tree.isDirectory place = true
  · rw [if_neg (by simp [inDirectory])] at walked
    by_cases short : name.length ≤ Path.maxName
    · rw [if_neg (Nat.not_lt.mpr short)] at walked
      cases stands : tree.get? (place ++ [name]) with
      | none =>
          rw [stands] at walked
          dsimp only at walked
          split at walked <;> cases walked
      | some entry =>
          exact ⟨entry, notHere, notAbove, inDirectory, short, stands⟩
    · rw [if_pos (Nat.not_le.mp short)] at walked
      contradiction
  · rw [if_pos inDirectory] at walked
    contradiction

/-- What a walk comes to is led to, if that holds behind each link. -/
theorem leads_of_walkNames
    {jump : Jump}
    {bound : Nat}
    (jumps :
      ∀ (place : Location) (target : Bytes) (rest : List Bytes) (slash : Bool),
        jump place target rest slash = .ok (.found goal) →
        ∃ links < bound,
          tree.Leads links (origin place target) (Path.names target ++ rest)
            (linkSlash target rest slash) goal)
    (walked :
      walkNames tree .follow jump place names slash = .ok (.found goal)) :
    ∃ links ≤ bound, tree.Leads links place names slash goal := by
  induction names generalizing place with
  | nil =>
      cases walked
      exact ⟨0, Nat.zero_le _, .arrived⟩
  | cons name rest inductionHypothesis =>
      by_cases isHere : name = Path.here
      · subst isHere
        rw [walkNames, if_pos rfl] at walked
        obtain ⟨links, few, leads⟩ := inductionHypothesis walked
        exact ⟨links, few, .here leads⟩
      by_cases isAbove : name = Path.above
      · subst isAbove
        rw [walkNames, if_neg isHere, if_pos rfl] at walked
        obtain ⟨links, few, leads⟩ := inductionHypothesis walked
        exact ⟨links, few, .above leads⟩
      obtain ⟨entry, held⟩ := held_of_walkNames isHere isAbove walked
      rw [walkNames_held held] at walked
      cases entry with
      | directory =>
          obtain ⟨links, few, leads⟩ := inductionHypothesis walked
          exact ⟨links, few, .entered held leads⟩
      | file mode data =>
          dsimp only at walked
          split at walked
          · rename_i last
            obtain ⟨rfl, rfl⟩ := last
            cases walked
            exact ⟨0, Nat.zero_le _, .file held⟩
          · contradiction
      | link target =>
          obtain ⟨links, fewer, leads⟩ := jumps _ _ _ _ walked
          exact ⟨links + 1, fewer, .linked held leads⟩

theorem leads_of_walk
    {bound : Nat}
    (walked : tree.walk .follow bound place names slash = .ok (.found goal)) :
    ∃ links ≤ bound, tree.Leads links place names slash goal := by
  induction bound generalizing place names slash with
  | zero =>
      refine leads_of_walkNames (fun _ _ _ _ jumped => ?_) walked
      contradiction
  | succ bound inductionHypothesis =>
      refine leads_of_walkNames (fun place target rest slash jumped => ?_) walked
      obtain ⟨links, few, leads⟩ := inductionHypothesis jumped
      exact ⟨links, Nat.lt_succ_of_le few, leads⟩

/-- A walk comes to a place exactly if the names lead there over few enough links. -/
theorem walk_eq_found_iff
    {bound : Nat} :
    tree.walk .follow bound place names slash = .ok (.found goal) ↔
      ∃ links ≤ bound, tree.Leads links place names slash goal :=
  ⟨leads_of_walk, fun ⟨_, enough, leads⟩ => leads.walks enough⟩

end FileTree

namespace Workspace

variable {space : Workspace} {path : Bytes}

/-- A path names a place, links followed. -/
structure Names
    (space : Workspace)
    (path : Bytes)
    (goal : Location) :
    Prop where
  noNul : 0 ∉ path
  nonempty : path ≠ []
  short : path.length ≤ Path.maxLength
  leads :
    ∃ links ≤ FileTree.maxLinks,
      space.tree.Leads links (FileTree.origin space.directory path)
        (Path.names path) (Path.endsWithSlash path) goal

theorem resolve_eq_found_iff
    {goal : Location} :
    space.resolve .follow path = .ok (.found goal) ↔ space.Names path goal := by
  unfold resolve FileTree.resolve
  constructor
  · intro resolved
    split at resolved
    · contradiction
    split at resolved
    · contradiction
    split at resolved
    · contradiction
    rename_i noNul nonempty short
    refine ⟨noNul, nonempty, Nat.not_lt.mp short, FileTree.walk_eq_found_iff.mp ?_⟩
    cases walked :
      space.tree.walk .follow FileTree.maxLinks
        (FileTree.origin space.directory path) (Path.names path)
        (Path.endsWithSlash path) with
    | error e =>
        rw [FileTree.origin] at walked
        rw [walked] at resolved
        contradiction
    | ok spot =>
        rw [FileTree.origin] at walked
        rw [walked] at resolved
        cases resolved
        rfl
  · rintro ⟨noNul, nonempty, short, leads⟩
    rw [if_neg noNul, if_neg nonempty, if_neg (Nat.not_lt.mpr short)]
    have walked := FileTree.walk_eq_found_iff.mpr leads
    rw [FileTree.origin] at walked
    rw [walked]
    rfl

/-- A path names at most one place. -/
theorem Names.unique
    {goal other : Location}
    (names : space.Names path goal)
    (namesToo : space.Names path other) :
    goal = other := by
  have resolved := resolve_eq_found_iff.mpr names
  rw [resolve_eq_found_iff.mpr namesToo] at resolved
  cases resolved
  rfl

/-- A path names a regular file with these permission bits. -/
def FileAt (space : Workspace) (path : Bytes) (mode : Nat) : Prop :=
  ∃ place data,
    space.Names path place ∧ space.tree.get? place = some (.file mode data)

/-- A path names a regular file that somebody may execute. -/
def Runnable (space : Workspace) (path : Bytes) : Prop :=
  ∃ mode, space.FileAt path mode ∧ mode &&& 0o111 ≠ 0

/-- What is at a path is a file exactly if the path names one. -/
theorem stat_eq_file_iff
    {place : Location}
    {mode : Nat}
    {data : Bytes} :
    space.stat path = .ok (place, .file mode data) ↔
      space.Names path place ∧
        space.tree.get? place = some (.file mode data) := by
  rw [← resolve_eq_found_iff]
  unfold stat
  cases space.resolve .follow path with
  | error e =>
      simp
  | ok spot =>
      cases spot with
      | vacant directory name =>
          simp
      | found goal =>
          simp only [Except.ok.injEq, Prod.mk.injEq, Spot.found.injEq]
          constructor
          · rintro ⟨rfl, stands⟩
            cases entry : space.tree.get? goal with
            | none =>
                simp [entry] at stands
            | some other =>
                simpa [entry] using stands
          · rintro ⟨rfl, stands⟩
            simp [stands]

theorem FileAt.unique
    {mode other : Nat}
    (file : space.FileAt path mode)
    (fileToo : space.FileAt path other) :
    mode = other := by
  obtain ⟨place, data, names, stands⟩ := file
  obtain ⟨placeToo, dataToo, namesToo, standsToo⟩ := fileToo
  obtain rfl := names.unique namesToo
  rw [stands] at standsToo
  cases standsToo
  rfl

theorem isFile_iff : space.isFile path = true ↔ ∃ mode, space.FileAt path mode := by
  unfold isFile FileAt
  simp only [← stat_eq_file_iff]
  cases space.stat path with
  | error e =>
      simp
  | ok found =>
      obtain ⟨place, entry⟩ := found
      cases entry <;> simp

theorem isExecutable_iff : space.isExecutable path = true ↔ space.Runnable path := by
  unfold isExecutable Runnable FileAt
  simp only [← stat_eq_file_iff]
  cases space.stat path with
  | error e =>
      simp
  | ok found =>
      obtain ⟨place, entry⟩ := found
      cases entry <;> simp

instance (space : Workspace) (path : Bytes) : Decidable (space.Runnable path) :=
  decidable_of_iff _ isExecutable_iff

theorem Runnable.isFile
    (runnable : space.Runnable path) :
    ∃ mode, space.FileAt path mode := by
  obtain ⟨mode, file, -⟩ := runnable
  exact ⟨mode, file⟩

/-- A path is runnable exactly if it names a file, and one that may be executed. -/
theorem runnable_iff
    {mode : Nat}
    (file : space.FileAt path mode) :
    space.Runnable path ↔ mode &&& 0o111 ≠ 0 := by
  constructor
  · rintro ⟨other, fileToo, executable⟩
    rwa [file.unique fileToo]
  · exact fun executable => ⟨mode, file, executable⟩

end Workspace
end JobShell
