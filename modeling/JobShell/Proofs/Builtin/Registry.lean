import JobShell.Builtin.Default
import JobShell.Builtin.Simple
import JobShell.Proofs.Host.Keeps
import Mathlib.Data.List.Induction

namespace JobShell

/-!
# The table as a registry

Registering entries one after the other leaves, of each name, the entry that was
registered last, and leaves them in the order of these last registrations. So a
name selects the entry that was registered last under it, and the help listing
has one line for each name.
-/

namespace Sink

/-- The sink has room for a number of bytes. -/
def HasRoom (sink : Sink) (count : Nat) : Prop :=
  ∀ room, sink.room = some room → count ≤ room

/-- The sink once it has taken bytes. -/
def taken (sink : Sink) (bytes : Bytes) : Sink :=
  { written := sink.written ++ bytes
    room := sink.room.map (· - bytes.length) }

theorem taken_nil (sink : Sink) : sink.taken [] = sink := by
  cases sink with
  | mk written room =>
      cases room <;> simp [taken]

theorem taken_append (sink : Sink) (first second : Bytes) :
    sink.taken (first ++ second) = (sink.taken first).taken second := by
  cases sink with
  | mk written room =>
      cases room <;> simp [taken, Nat.sub_sub]

variable {sink : Sink} {first second : Bytes}

/-- A sink with room for all bytes takes them. -/
theorem write_eq (hasRoom : sink.HasRoom first.length) :
    sink.write first = (.ok (), sink.taken first) := by
  cases sink with
  | mk written room =>
      cases room with
      | none =>
          rfl
      | some room =>
          have fits : first.length ≤ room := hasRoom room rfl
          simp [write, taken, fits, List.take_of_length_le fits]

theorem HasRoom.left
    (hasRoom : sink.HasRoom (first ++ second).length) :
    sink.HasRoom first.length := by
  intro room isRoom
  have fits := hasRoom room isRoom
  rw [List.length_append] at fits
  omega

/-- Bytes that are taken leave room for the others. -/
theorem HasRoom.right
    (hasRoom : sink.HasRoom (first ++ second).length) :
    (sink.taken first).HasRoom second.length := by
  intro left isLeft
  obtain ⟨room, isRoom, rfl⟩ := Option.map_eq_some_iff.mp isLeft
  have fits := hasRoom room isRoom
  rw [List.length_append] at fits
  omega

end Sink

/-- Texts that a sink has room for are all written. -/
theorem writeTexts_eq
    {texts : List Text}
    {console : Console}
    (hasRoom : console.sink.HasRoom (Utf8.encode texts.flatten).length) :
    writeTexts texts console =
      (.ok (),
        { console with sink := console.sink.taken (Utf8.encode texts.flatten) }) := by
  induction texts generalizing console with
  | nil =>
      have nothing : console.sink.taken (Utf8.encode []) = console.sink :=
        Sink.taken_nil console.sink
      rw [List.flatten_nil, nothing]
      rfl
  | cons text rest inductionHypothesis =>
      have parts :
          Utf8.encode (text :: rest).flatten =
            Utf8.encode text ++ Utf8.encode rest.flatten :=
        List.flatMap_append
      rw [parts] at hasRoom ⊢
      have writes :
          writeText text console =
            (.ok (),
              { console with
                sink := console.sink.taken (Utf8.encode text) }) := by
        unfold writeText
        rw [Sink.write_eq hasRoom.left]
      have left :
          ({ console with
              sink := console.sink.taken (Utf8.encode text) } :
            Console).sink.HasRoom (Utf8.encode rest.flatten).length :=
        hasRoom.right
      have later := inductionHypothesis left
      have first :
          writeTexts (text :: rest) console =
            writeTexts rest
              { console with
                sink := console.sink.taken (Utf8.encode text) } := by
        rw [writeTexts, run_bind, writes]
      rw [first, later, Sink.taken_append]

namespace BuiltinTable

/-- The names of entries. -/
def names (entries : List Builtin) : List Text :=
  entries.map Builtin.name

/-- The table after registrations, in their order. -/
def registerAll
    (table : BuiltinTable)
    (registrations : List Builtin) :
    BuiltinTable :=
  registrations.foldl register table

/-- The registrations that no later one replaces, in their order. -/
def standing : List Builtin → List Builtin
  | [] => []
  | builtin :: later =>
      if builtin.name ∈ names later then standing later
      else builtin :: standing later

/-- The last registration under a name. -/
def latest? (registrations : List Builtin) (name : Text) : Option Builtin :=
  (registrations.filter (·.name = name)).getLast?

section Standing

variable {registrations : List Builtin}

theorem mem_names_standing
    {name : Text} :
    name ∈ names (standing registrations) ↔ name ∈ names registrations := by
  induction registrations with
  | nil =>
      rfl
  | cons builtin later inductionHypothesis =>
      unfold standing
      split
      · rename_i replaced
        rw [inductionHypothesis]
        constructor
        · exact List.mem_cons_of_mem _
        · intro member
          rcases List.mem_cons.mp member with rfl | isLater
          · exact replaced
          · exact isLater
      · simp only [names, List.map_cons, List.mem_cons] at inductionHypothesis ⊢
        rw [inductionHypothesis]

/-- No two of them have one name. -/
theorem nodup_standing (registrations : List Builtin) :
    (names (standing registrations)).Nodup := by
  induction registrations with
  | nil =>
      exact List.nodup_nil
  | cons builtin later inductionHypothesis =>
      unfold standing
      split
      · exact inductionHypothesis
      · rename_i unreplaced
        exact
          List.nodup_cons.mpr
            ⟨fun member => unreplaced (mem_names_standing.mp member),
              inductionHypothesis⟩

/-- Entries of different names all stand. -/
theorem standing_of_nodup
    (distinct : (names registrations).Nodup) :
    standing registrations = registrations := by
  induction registrations with
  | nil =>
      rfl
  | cons builtin later inductionHypothesis =>
      obtain ⟨unreplaced, others⟩ :
          builtin.name ∉ names later ∧ (names later).Nodup :=
        List.nodup_cons.mp distinct
      rw [standing, if_neg unreplaced, inductionHypothesis others]

/-- One more registration replaces the one of its name, and goes to the end. -/
theorem standing_snoc (registrations : List Builtin) (builtin : Builtin) :
    standing (registrations ++ [builtin]) =
      (standing registrations).filter (·.name ≠ builtin.name) ++ [builtin] := by
  induction registrations with
  | nil =>
      rfl
  | cons other later inductionHypothesis =>
      have replaced :
          other.name ∈ names (later ++ [builtin]) ↔
            other.name ∈ names later ∨ other.name = builtin.name := by
        simp [names]
      simp only [List.cons_append, standing, inductionHypothesis, replaced]
      by_cases isLater : other.name ∈ names later
      · simp [isLater]
      · by_cases same : other.name = builtin.name
        · rw [if_pos (.inr same), if_neg isLater]
          simp [same]
        · simp [isLater, same]

/-- Among those that stand, a name finds the last registration under it. -/
theorem find?_standing (registrations : List Builtin) (name : Text) :
    (standing registrations).find? (·.name = name) =
      latest? registrations name := by
  induction registrations using List.reverseRecOn with
  | nil =>
      rfl
  | append_singleton earlier builtin inductionHypothesis =>
      rw [standing_snoc, List.find?_append, latest?, List.filter_append]
      by_cases same : builtin.name = name
      · have unfound :
            ((standing earlier).filter (·.name ≠ builtin.name)).find?
              (·.name = name) = none := by
          simp [List.find?_eq_none, same]
        rw [unfound]
        simp [same]
      · have kept :
            ((standing earlier).filter (·.name ≠ builtin.name)).find?
                (·.name = name) =
              (standing earlier).find? (·.name = name) := by
          rw [List.find?_filter]
          congr 1
          funext other
          by_cases isName : other.name = name <;> simp [isName, Ne.symm same]
        rw [kept, inductionHypothesis]
        simp [latest?, same]

theorem latest?_eq_none_iff
    {name : Text} :
    latest? registrations name = none ↔ name ∉ names registrations := by
  simp [latest?, names]

end Standing

/-- Registrations leave what stands of them and of the entries before them. -/
theorem entries_registerAll
    {start : BuiltinTable}
    (distinct : (names start.entries).Nodup)
    (registrations : List Builtin) :
    (start.registerAll registrations).entries =
      standing (start.entries ++ registrations) := by
  induction registrations using List.reverseRecOn with
  | nil =>
      rw [List.append_nil, standing_of_nodup distinct]
      rfl
  | append_singleton earlier builtin inductionHypothesis =>
      rw [← List.append_assoc, standing_snoc, ← inductionHypothesis,
        registerAll, List.foldl_append]
      rfl

theorem nodup_default : (names default.entries).Nodup := by
  decide

/-- The first word selects the entry that runs; without one nothing happens. -/
theorem dispatch_cons
    (table : BuiltinTable)
    (name : Text)
    (rest : List Text)
    (console : Console) :
    table.dispatch (name :: rest) console =
      match table.lookup? name with
      | none => (none, console)
      | some builtin =>
          (builtin.handler table.listing (name :: rest) console).map some id := by
  have selects : table.select? (name :: rest) = table.lookup? name := rfl
  unfold dispatch
  rw [selects]
  cases table.lookup? name <;> rfl

/-- The lines that list entries. -/
def helpText (entries : List Builtin) : Text :=
  entries.flatMap fun builtin =>
    builtin.name ++ " - ".toList ++ builtin.description ++ ['\n']

/-- The listing is written as it is if the sink has room for it. -/
theorem help_eq
    {table : BuiltinTable}
    {console : Console}
    (hasRoom :
      console.sink.HasRoom (Utf8.encode (helpText table.entries)).length)
    (words : List Text) :
    Builtin.help table.listing words console =
      (.ok .resume,
        { console with
          sink :=
            console.sink.taken (Utf8.encode (helpText table.entries)) }) := by
  have text :
      (table.listing.map Builtin.helpLine).flatten = helpText table.entries := by
    rw [listing, List.map_map, helpText, List.flatMap_def]
    rfl
  rw [← text] at hasRoom ⊢
  unfold Builtin.help
  rw [run_bind, writeTexts_eq hasRoom]
  rfl

/--
A table as registrations onto a table at the start leave it: of each name the
last registration, in the order of these.
-/
structure LastWins
    (start : BuiltinTable)
    (registrations : List Builtin)
    (table : BuiltinTable) :
    Prop where
  distinct : (names table.entries).Nodup
  order : table.entries = standing (start.entries ++ registrations)
  latest :
    ∀ name,
      table.lookup? name = latest? (start.entries ++ registrations) name
  absent :
    ∀ name,
      table.lookup? name = none ↔
        name ∉ names start.entries ∧ name ∉ names registrations
  /-- The last registration under the first word sees all words. -/
  runs :
    ∀ name rest console builtin,
      latest? (start.entries ++ registrations) name = some builtin →
      table.dispatch (name :: rest) console =
        (builtin.handler table.listing (name :: rest) console).map some id
  unanswered :
    ∀ name rest console,
      (table.dispatch (name :: rest) console).1 = none ↔
        name ∉ names start.entries ∧ name ∉ names registrations
  untouched :
    ∀ name rest console,
      name ∉ names start.entries →
      name ∉ names registrations →
      table.dispatch (name :: rest) console = (none, console)
  wordless : ∀ console, table.dispatch [] console = (none, console)
  helps :
    ∀ words console,
      console.sink.HasRoom (Utf8.encode (helpText table.entries)).length →
      Builtin.help table.listing words console =
        (.ok .resume,
          { console with
            sink :=
              console.sink.taken (Utf8.encode (helpText table.entries)) })

/--
Whatever is registered, and however often, onto the empty table or that of a new
shell: names stay distinct, each stands for its last registration, and the table
has the order of these. A line whose first word is such a name runs that entry,
other words and no words at all run nothing and change nothing, and the help
listing has one line for each entry.
-/
theorem registerAll_lastWins
    {start : BuiltinTable}
    (isNew : start = {} ∨ start = default)
    (registrations : List Builtin) :
    LastWins start registrations (start.registerAll registrations) := by
  have distinct : (names start.entries).Nodup := by
    rcases isNew with rfl | rfl
    · exact List.nodup_nil
    · exact nodup_default
  have order := entries_registerAll distinct registrations
  have latest (name : Text) :
      (start.registerAll registrations).lookup? name =
        latest? (start.entries ++ registrations) name := by
    rw [lookup?, order, find?_standing]
  have absent (name : Text) :
      (start.registerAll registrations).lookup? name = none ↔
        name ∉ names start.entries ∧ name ∉ names registrations := by
    rw [latest, latest?_eq_none_iff, names, List.map_append, List.mem_append,
      not_or]
    rfl
  have unanswered (name : Text) (rest : List Text) (console : Console) :
      ((start.registerAll registrations).dispatch (name :: rest) console).1 =
          none ↔
        name ∉ names start.entries ∧ name ∉ names registrations := by
    rw [← absent, dispatch_cons]
    cases (start.registerAll registrations).lookup? name with
    | none =>
        exact ⟨fun _ => rfl, fun _ => rfl⟩
    | some builtin =>
        exact ⟨nofun, nofun⟩
  refine
    { distinct := ?_
      order := order
      latest := latest
      absent := absent
      runs := fun name rest console builtin isLatest => ?_
      unanswered := unanswered
      untouched := fun name rest console unlisted unregistered => ?_
      wordless := fun _ => rfl
      helps := fun words _ hasRoom => help_eq hasRoom words }
  · rw [order]
    exact nodup_standing _
  · rw [dispatch_cons, latest, isLatest]
  · rw [dispatch_cons, (absent name).mpr ⟨unlisted, unregistered⟩]

/-- Registrations that replace `exit`, twice, and add `x`. -/
def replacements : List Builtin :=
  [⟨"exit".toList, "leave with a count".toList, Builtin.leaveWithCount⟩,
    ⟨"x".toList, "refuse".toList, Builtin.refuse⟩,
    ⟨"exit".toList, "stay".toList, Builtin.refuse⟩]

/-- Of the registrations of `exit` the last one counts, and it is listed last. -/
theorem registerAll_lastWins_replaced :
    names (default.registerAll replacements).entries =
        ["help".toList, "?".toList, "pwd".toList, "cd".toList, "x".toList,
          "exit".toList] ∧
      (default.registerAll replacements).dispatch ["exit".toList]
          { space := {} } =
        (some (.error (.commandNotFound "exit".toList)), { space := {} }) ∧
      ((default.registerAll replacements).dispatch ["ls".toList]
          { space := {} }).1 = none ∧
      (Builtin.help (({} : BuiltinTable).registerAll replacements).listing []
          { space := {}, sink := { room := some 24 } }).2.sink.written =
        Utf8.ofString "x - refuse\nexit - stay\n" := by
  have wins := registerAll_lastWins (.inr rfl) replacements
  have winsAlone := registerAll_lastWins (.inl rfl) replacements
  refine ⟨?_, ?_, ?_, ?_⟩
  · rw [wins.order]
    rfl
  · rw [wins.runs _ _ _ ⟨"exit".toList, "stay".toList, Builtin.refuse⟩ rfl]
    rfl
  · exact (wins.unanswered _ _ _).mpr ⟨by decide, by decide⟩
  · rw [winsAlone.helps, winsAlone.order]
    · decide
    · rw [winsAlone.order]
      rintro room ⟨⟩
      decide

end BuiltinTable
end JobShell
