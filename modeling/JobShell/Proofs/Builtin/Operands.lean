import JobShell.Proofs.Host.Keeps
import JobShell.Session

namespace JobShell

/-!
# Operators after built-ins

A built-in is selected before anyone looks for operators, so it sees them as
words. The built-ins of a new shell look at no word but the second: operators
after it go unnoticed, but after a name alone the first operator stands where
the operand would. Then `exit` refuses it as a number, and `cd` goes to a
directory of that name.
-/

/--
Operators that a line may end with, by the first of them: `&`, or one of `<` and
`>` with its file, and perhaps `&` after it.
-/
inductive Trailing : Text → List Text → Prop where
  | background : Trailing ampersand [ampersand]
  | redirected (direction : Direction) (filename : Text) :
      Trailing direction.word [direction.word, filename]
  | both (direction : Direction) (filename : Text) :
      Trailing direction.word [direction.word, filename, ampersand]

namespace Trailing

variable {operator : Text} {suffix : List Text}

/-- The first of the words is the operator. -/
theorem starts (trailing : Trailing operator suffix) :
    ∃ rest, suffix = operator :: rest := by
  cases trailing <;> exact ⟨_, rfl⟩

theorem named (trailing : Trailing operator suffix) :
    operator = ['&'] ∨ operator = ['<'] ∨ operator = ['>'] := by
  cases trailing with
  | background =>
      exact .inl rfl
  | redirected direction filename =>
      cases direction <;> simp [Direction.word]
  | both direction filename =>
      cases direction <;> simp [Direction.word]

/-- An operator is no numeral. -/
theorem parse32?_eq (trailing : Trailing operator suffix) :
    Integer.parse32? operator = none := by
  rcases trailing.named with rfl | rfl | rfl <;> rfl

/-- An operator is not short for the home directory. -/
theorem expandTilde_eq
    (trailing : Trailing operator suffix)
    (space : Workspace) :
    space.expandTilde operator = operator := by
  rcases trailing.named with rfl | rfl | rfl <;> rfl

end Trailing

namespace Builtin

/-- A built-in that looks at no word but the second. -/
def Unary (handler : Handler) : Prop :=
  ∀ (listing : List (Text × Text)) (words others : List Text),
    words[1]? = others[1]? →
    handler listing words = handler listing others

theorem unary_help : Unary help :=
  fun _ _ _ _ => rfl

theorem unary_leave : Unary leave := by
  intro listing words others same
  simp only [leave, same]

theorem unary_showDirectory : Unary showDirectory :=
  fun _ _ _ _ => rfl

theorem unary_changeDirectory : Unary changeDirectory := by
  intro listing words others same
  simp only [changeDirectory, same]

end Builtin

namespace BuiltinTable

/-- Every built-in of the table looks at no word but the second. -/
def Unary (table : BuiltinTable) : Prop :=
  ∀ builtin ∈ table.entries, Builtin.Unary builtin.handler

theorem unary_default : default.Unary := by
  intro builtin member
  have entries :
      default.entries.map Builtin.handler =
        [Builtin.help, Builtin.help, Builtin.leave, Builtin.showDirectory,
          Builtin.changeDirectory] :=
    rfl
  have handled := List.mem_map_of_mem (f := Builtin.handler) member
  rw [entries] at handled
  have cases :
      builtin.handler = Builtin.help ∨ builtin.handler = Builtin.leave ∨
        builtin.handler = Builtin.showDirectory ∨
        builtin.handler = Builtin.changeDirectory := by
    simpa using handled
  rcases cases with same | same | same | same <;> rw [same]
  · exact Builtin.unary_help
  · exact Builtin.unary_leave
  · exact Builtin.unary_showDirectory
  · exact Builtin.unary_changeDirectory

/-- Words that agree in the first two places are dispatched alike. -/
theorem Unary.dispatch_eq
    {table : BuiltinTable}
    (unary : table.Unary)
    {words others : List Text}
    (first : words.head? = others.head?)
    (second : words[1]? = others[1]?) :
    table.dispatch words = table.dispatch others := by
  have selects : table.select? words = table.select? others := by
    rw [select?, first, ← select?]
  unfold dispatch
  rw [selects]
  split
  · rfl
  · rename_i builtin selected
    obtain ⟨name, -, found⟩ := Option.bind_eq_some_iff.mp selected
    have member : builtin ∈ table.entries := List.mem_of_find?_eq_some found
    rw [unary builtin member table.listing words others second]

/-- A built-in of a new shell is selected by its name. -/
theorem name_of_select?
    {words : List Text}
    {builtin : Builtin}
    (selected : default.select? words = some builtin) :
    ∃ rest,
      words = builtin.name :: rest ∧
        builtin.name ∈
          ["help".toList, "?".toList, "exit".toList, "pwd".toList,
            "cd".toList] := by
  obtain ⟨name, first, found⟩ := Option.bind_eq_some_iff.mp selected
  have same : builtin.name = name := by
    simpa using List.find?_some found
  obtain ⟨rest, rfl⟩ := List.head?_eq_some_iff.mp first
  have names :
      default.entries.map Builtin.name =
        ["help".toList, "?".toList, "exit".toList, "pwd".toList,
          "cd".toList] :=
    rfl
  refine ⟨rest, by rw [same], ?_⟩
  rw [← names]
  exact List.mem_map_of_mem (List.mem_of_find?_eq_some found)

variable {operator : Text} {suffix : List Text}

/-- Alone, `exit` leaves with 0; with an operator, it fails. -/
theorem dispatch_exit
    (trailing : Trailing operator suffix)
    (console : Console) :
    default.dispatch ["exit".toList] console =
        (some (.ok (.exit 0)), console) ∧
      default.dispatch ["exit".toList, operator] console =
        (some (.error (.builtin "exit"
          (String.ofList operator ++ ": numeric argument required"))),
          console) := by
  have answers :
      Builtin.leave default.listing ["exit".toList, operator] =
        pure (.error (.builtin "exit"
          (String.ofList operator ++ ": numeric argument required"))) := by
    simp [Builtin.leave, trailing.parse32?_eq]
  have dispatches :
      default.dispatch ["exit".toList, operator] console =
        Prod.map some id
          (Builtin.leave default.listing ["exit".toList, operator] console) :=
    rfl
  rw [dispatches, answers]
  exact ⟨rfl, rfl⟩

/-- The directory is changed, or the failure names the directory as typed. -/
theorem dispatch_cd (rest : List Text) (console : Console) :
    default.dispatch ("cd".toList :: rest) console =
      match console.space.changeDirectory
          (Utf8.encode (console.space.expandTilde (rest.head?.getD ['~']))) with
      | .error e =>
          (some (.error (.builtin "cd"
            (String.ofList (rest.head?.getD ['~']) ++ ": " ++ e.text))), console)
      | .ok moved => (some (.ok .resume), { console with space := moved }) := by
  have dispatches :
      default.dispatch ("cd".toList :: rest) console =
        Prod.map some id
          (Builtin.changeDirectory default.listing ("cd".toList :: rest)
            console) :=
    rfl
  have second : ("cd".toList :: rest)[1]? = rest.head? := by
    cases rest <;> rfl
  rw [dispatches, Builtin.changeDirectory, run_bind, run_get, second]
  dsimp only
  cases console.space.changeDirectory
    (Utf8.encode (console.space.expandTilde (rest.head?.getD ['~']))) <;> rfl

/-- With an operator, `cd` does the same as alone if it goes to the same place. -/
theorem dispatch_cd_iff
    (trailing : Trailing operator suffix)
    (console : Console) :
    default.dispatch ["cd".toList, operator] console =
        default.dispatch ["cd".toList] console ↔
      ∃ moved,
        console.space.changeDirectory (Utf8.encode operator) = .ok moved ∧
          console.space.changeDirectory
              (Utf8.encode (console.space.expandTilde ['~'])) =
            .ok moved := by
  have messages (first second : String) :
      String.ofList operator ++ ": " ++ first ≠ "~: " ++ second := by
    intro same
    have characters := congrArg (fun text => text.toList.head?) same
    rcases trailing.named with rfl | rfl | rfl <;> simp at characters
  rw [dispatch_cd, dispatch_cd]
  simp only [List.head?_cons, List.head?_nil, Option.getD_some,
    Option.getD_none, trailing.expandTilde_eq]
  change (_ : Option (Except ShellError Flow) × Console) = _ ↔ _
  cases console.space.changeDirectory (Utf8.encode operator) with
  | error e =>
      cases console.space.changeDirectory
        (Utf8.encode (console.space.expandTilde ['~'])) <;> simp [messages]
  | ok there =>
      cases console.space.changeDirectory
          (Utf8.encode (console.space.expandTilde ['~'])) with
      | error other =>
          simp
      | ok home =>
          simp [eq_comm]

/-- An operator makes a difference to `exit` alone, and mostly to `cd`. -/
theorem dispatch_operator_iff
    {name : Text}
    (named :
      name ∈
        ["help".toList, "?".toList, "exit".toList, "pwd".toList, "cd".toList])
    (trailing : Trailing operator suffix)
    (console : Console) :
    default.dispatch [name, operator] console =
        default.dispatch [name] console ↔
      name ≠ "exit".toList ∧
        (name = "cd".toList →
          ∃ moved,
            console.space.changeDirectory (Utf8.encode operator) = .ok moved ∧
              console.space.changeDirectory
                  (Utf8.encode (console.space.expandTilde ['~'])) =
                .ok moved) := by
  have names :
      name = "help".toList ∨ name = "?".toList ∨ name = "exit".toList ∨
        name = "pwd".toList ∨ name = "cd".toList := by
    simpa using named
  rcases names with rfl | rfl | rfl | rfl | rfl
  · exact iff_of_true rfl ⟨by decide, fun same => absurd same (by decide)⟩
  · exact iff_of_true rfl ⟨by decide, fun same => absurd same (by decide)⟩
  · obtain ⟨leaves, fails⟩ := dispatch_exit trailing console
    rw [leaves, fails]
    exact iff_of_false nofun fun different => different.1 rfl
  · exact iff_of_true rfl ⟨by decide, fun same => absurd same (by decide)⟩
  · rw [dispatch_cd_iff trailing console]
    exact ⟨fun moved => ⟨by decide, fun _ => moved⟩, fun both => both.2 rfl⟩

/-- A line's built-in does to the files and the output what is dispatched. -/
theorem runBuiltin_eq_of_dispatch
    {session : Session}
    {words others : List Text}
    {host : Host}
    (selects :
      session.builtins.select? words = session.builtins.select? others)
    (dispatches :
      session.builtins.dispatch words { space := host.space } =
        session.builtins.dispatch others { space := host.space }) :
    session.runBuiltin words host = session.runBuiltin others host := by
  unfold Session.runBuiltin
  unfold dispatch at dispatches
  rw [selects] at dispatches ⊢
  cases selected : session.builtins.select? others with
  | none =>
      rfl
  | some builtin =>
      rw [selected] at dispatches
      obtain ⟨answers, consoles⟩ := Prod.mk.inj dispatches
      have same :
          builtin.handler session.builtins.listing words
              { space := host.space } =
            builtin.handler session.builtins.listing others
              { space := host.space } :=
        Prod.ext (Option.some.inj answers) consoles
      have noted (message : String) :
          (Host.note .debug message host).2.space = host.space :=
        rfl
      simp only [run_bind, run_get, noted, same]

/--
Whatever the files and the working directory are, operators after the words of a
built-in of a new shell change nothing about what it answers, writes and does,
exactly if the words are not `exit` alone, and, where they are `cd` alone, the
home directory goes by the name of the first operator. For the first operator
after a name alone stands where the operand would, and later words count for
nothing. What holds of the words dispatched holds of a line with them.
-/
theorem dispatch_trailing
    {words : List Text}
    (selected : (default.select? words).isSome = true)
    (trailing : Trailing operator suffix)
    (console : Console) :
    (default.dispatch (words ++ suffix) console =
          default.dispatch words console ↔
        words ≠ ["exit".toList] ∧
          (words = ["cd".toList] →
            ∃ moved,
              console.space.changeDirectory (Utf8.encode operator) =
                  .ok moved ∧
                console.space.changeDirectory
                    (Utf8.encode (console.space.expandTilde ['~'])) =
                  .ok moved)) ∧
      (words.length = 1 →
        default.dispatch (words ++ suffix) console =
          default.dispatch (words ++ [operator]) console) ∧
      ∀ (session : Session) (host : Host),
        session.builtins = default →
        console = { space := host.space } →
        default.dispatch (words ++ suffix) console =
          default.dispatch words console →
        session.runBuiltin (words ++ suffix) host =
          session.runBuiltin words host := by
  obtain ⟨builtin, selects⟩ := Option.isSome_iff_exists.mp selected
  obtain ⟨rest, rfl, named⟩ := name_of_select? selects
  obtain ⟨later, rfl⟩ := trailing.starts
  generalize builtin.name = name at named
  have stands :
      default.dispatch ([name] ++ operator :: later) =
        default.dispatch [name, operator] :=
    unary_default.dispatch_eq rfl rfl
  refine ⟨?_, fun alone => ?_, fun session host isDefault sees same => ?_⟩
  · cases rest with
    | nil =>
        rw [stands, dispatch_operator_iff named trailing]
        simp
    | cons operand others =>
        have same :
            default.dispatch (name :: operand :: others ++ operator :: later) =
              default.dispatch (name :: operand :: others) :=
          unary_default.dispatch_eq rfl rfl
        rw [same]
        simp
  · obtain rfl : rest = [] := by simpa using alone
    rw [stands]
    rfl
  · subst sees
    rw [← isDefault] at same
    exact runBuiltin_eq_of_dispatch rfl same

/-- A console whose output takes one more write. -/
def crampedConsole : Console :=
  { space := {}
    sink := { room := some 1 } }

/-- What `pwd` writes before the sink is full does not depend on a redirection. -/
theorem dispatch_trailing_full :
    (default.select? ["pwd".toList]).isSome = true ∧
      Trailing ['>'] [['>'], ['f'], ['&']] ∧
      default.dispatch (["pwd".toList] ++ [['>'], ['f'], ['&']])
          crampedConsole =
        default.dispatch ["pwd".toList] crampedConsole := by
  have selected : (default.select? ["pwd".toList]).isSome = true := by
    rfl
  have trailing : Trailing ['>'] [['>'], ['f'], ['&']] := .both .output ['f']
  obtain ⟨same, -, -⟩ :=
    dispatch_trailing selected trailing crampedConsole
  exact
    ⟨selected, trailing,
      same.mpr ⟨by decide, fun isCd => absurd isCd (by decide)⟩⟩

/-- With an `&` after it, `exit` does not leave. -/
theorem not_all_unnoticed :
    ¬ ∀ (words suffix : List Text) (operator : Text) (console : Console),
        (default.select? words).isSome = true →
        (∀ word ∈ words, isOperator word = false) →
        Trailing operator suffix →
        default.dispatch (words ++ suffix) console =
          default.dispatch words console := by
  intro all
  have same :=
    all ["exit".toList] [['&']] ['&'] { space := {} } rfl
      (by decide) .background
  obtain ⟨leaves, fails⟩ :=
    dispatch_exit .background { space := {} }
  have different := fails.symm.trans (same.trans leaves)
  exact absurd (congrArg Prod.fst different) (by simp)

end BuiltinTable
end JobShell
