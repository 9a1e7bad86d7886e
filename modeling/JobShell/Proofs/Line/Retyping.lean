import JobShell.Descriptor
import JobShell.Line.Quoting
import JobShell.Proofs.Line.Roles

namespace JobShell

/-!
# Typing words again

Words that are written as a line come back when the line is read, under exact
conditions. A backslash never comes back, because it keeps its meaning between
single quotes; and white space comes back only in a word that is written in
quotes.
-/

open Words

namespace Quoting

/-- A word that comes back when it is written on a line. -/
structure Retypable (limit : Nat) (word : Text) : Prop where
  nonempty : word ≠ []
  fits : byteSize word ≤ limit
  unescaped : '\\' ∉ word
  /-- It is written in quotes, or it does not need them. -/
  unbroken : (∃ c ∈ word, c ∈ special) ∨ ∀ c ∈ word, isBlank c = false

/-- How often a backslash follows another one. -/
def doubled : Text → Nat
  | [] => 0
  | c :: rest =>
      (if c = '\\' ∧ rest.head? = some '\\' then 1 else 0) + doubled rest

theorem doubled_le_cons (c : Char) (rest : Text) :
    doubled rest ≤ doubled (c :: rest) :=
  Nat.le_add_left _ _

theorem doubled_cons_ne
    {c : Char}
    (other : c ≠ '\\')
    (rest : Text) :
    doubled (c :: rest) = doubled rest := by
  simp [doubled, other]

/-- A text that ends before anything but a backslash has its own doublings. -/
theorem doubled_append
    (first : Text)
    {second : Text}
    (apart : second.head? ≠ some '\\') :
    doubled (first ++ second) = doubled first + doubled second := by
  induction first with
  | nil =>
      simp [doubled]
  | cons c rest inductionHypothesis =>
      have next :
          (rest ++ second).head? = some '\\' ↔ rest.head? = some '\\' := by
        cases rest <;> simp [apart]
      rw [List.cons_append, doubled, doubled, inductionHypothesis, Nat.add_assoc]
      simp only [next]

/-- A word that holds backslashes has one that follows no other. -/
theorem doubled_add_le_count (word : Text) :
    doubled word + (if '\\' ∈ word then 1 else 0) ≤ word.count '\\' := by
  induction word with
  | nil =>
      simp [doubled]
  | cons c rest inductionHypothesis =>
      by_cases backslash : c = '\\'
      · subst backslash
        -- The first backslash is followed by another only if there is another.
        have follows : rest.head? = some '\\' → '\\' ∈ rest :=
          List.mem_of_head?
        simp only [doubled, true_and, List.mem_cons, true_or, if_true,
          List.count_cons_self]
        split at inductionHypothesis
        · split <;> omega
        · rename_i none
          rw [if_neg fun next => none (follows next)]
          omega
      · rw [doubled_cons_ne backslash, List.count_cons_of_ne backslash]
        simpa [Ne.symm backslash] using inductionHypothesis

/-- A backslash comes back only where it follows another one. -/
theorem count_literals_le (mode : Mode) (line : Text) :
    (literals (roles mode line)).count '\\' ≤ doubled line := by
  induction mode, line using roles_induction with
  | nil mode =>
      simp [roles, literals]
  | trailing mode =>
      simp [roles, literals]
  | escaped mode c rest inductionHypothesis =>
      by_cases backslash : c = '\\'
      · subst backslash
        have later := doubled_le_cons '\\' rest
        simp only [roles, literals, List.count_cons_self, doubled,
          List.head?_cons, and_self, if_true]
        omega
      · simp only [roles, literals, List.count_cons_of_ne backslash]
        calc
          (literals (roles mode rest)).count '\\' ≤ doubled rest :=
            inductionHypothesis
          _ ≤ doubled (c :: rest) := doubled_le_cons _ _
          _ ≤ doubled ('\\' :: c :: rest) := doubled_le_cons _ _
  | cons mode c rest unescaped inductionHypothesis =>
      rw [roles_cons unescaped, doubled_cons_ne unescaped]
      rcases literals_read c mode (roles (read c mode).2 rest) with kept | gone
      · rw [kept, List.count_cons_of_ne unescaped]
        exact inductionHypothesis
      · rw [gone]
        exact inductionHypothesis

/-- Quoting puts no two backslashes together. -/
theorem doubled_quote (word : Text) : doubled (quote word) = doubled word := by
  have quoted :
      doubled (word.flatMap quoteChar) = doubled word ∧
        (word.flatMap quoteChar).head? = word.head? := by
    induction word with
    | nil =>
        exact ⟨rfl, rfl⟩
    | cons c rest inductionHypothesis =>
        obtain ⟨same, first⟩ := inductionHypothesis
        by_cases single : c = '\x27'
        · subst single
          simp [quoteChar, doubled, same]
        · simp [quoteChar, single, doubled, same, first]
  obtain ⟨same, -⟩ := quoted
  unfold quote enclose
  split
  · have closing : ['\x27'].head? ≠ some '\\' := by decide
    rw [doubled_append _ closing, doubled_cons_ne (by decide), same]
    rfl
  · rfl

/-- A space keeps the backslashes of a word apart from those after it. -/
theorem doubled_join_cons (word : Text) (rest : List Text) :
    doubled (join (word :: rest)) = doubled word + doubled (join rest) := by
  cases rest with
  | nil =>
      simp [join, doubled_quote, doubled]
  | cons next later =>
      rw [join, doubled_append _ (by simp), doubled_cons_ne (by decide),
        doubled_quote]
      simp

/-- Each word with backslashes has one that follows no other. -/
theorem doubled_join_le (words : List Text) :
    doubled (join words) + words.countP ('\\' ∈ ·) ≤
      words.flatten.count '\\' := by
  induction words with
  | nil =>
      simp [join, doubled]
  | cons word rest inductionHypothesis =>
      have own := doubled_add_le_count word
      simp only [doubled_join_cons, List.countP_cons, decide_eq_true_eq,
        List.flatten_cons, List.count_append]
      omega

/-- Words that come back hold no backslash. -/
theorem unescaped_of_flatten
    {words : List Text}
    (same : literals (roles .plain (join words)) = words.flatten) :
    ∀ word ∈ words, '\\' ∉ word := by
  have back : words.flatten.count '\\' ≤ doubled (join words) := by
    rw [← same]
    exact count_literals_le .plain (join words)
  have none : words.countP ('\\' ∈ ·) = 0 := by
    have lost := doubled_join_le words
    omega
  simpa [List.countP_eq_zero] using none

/-- The roles of what a character is written as between single quotes. -/
def quotedRoles (c : Char) : List Role :=
  if c = '\x27' then [.dropped, .dropped, .literal c, .dropped]
  else [.literal c]

/-- The roles of what a word is written as. -/
def writtenRoles (word : Text) : List Role :=
  if word = [] ∨ word.any special.contains then
    .dropped :: word.flatMap quotedRoles ++ [.dropped]
  else word.map fun c => if isBlank c then .separator else .literal c

/-- Between single quotes all but backslashes stands for itself. -/
theorem roles_quoted
    {word : Text}
    (unescaped : '\\' ∉ word)
    (rest : Text) :
    roles .single (word.flatMap quoteChar ++ rest) =
      word.flatMap quotedRoles ++ roles .single rest := by
  induction word with
  | nil =>
      rfl
  | cons c word inductionHypothesis =>
      simp only [List.mem_cons, not_or] at unescaped
      obtain ⟨plain, later⟩ := unescaped
      by_cases single : c = '\x27'
      · subst single
        simp [quoteChar, quotedRoles, roles, Words.read,
          inductionHypothesis later]
      · simp only [List.flatMap_cons, quoteChar, quotedRoles, single, if_false,
          List.cons_append, List.nil_append]
        rw [roles_cons (Ne.symm plain)]
        simp [Words.read, single, inductionHypothesis later]

/-- Outside quotes a word without special characters breaks at white space only. -/
theorem roles_unquoted
    {word : Text}
    (ordinary : ∀ c ∈ word, c ∉ special)
    (rest : Text) :
    roles .plain (word ++ rest) =
      (word.map fun c => if isBlank c then .separator else .literal c) ++
        roles .plain rest := by
  induction word with
  | nil =>
      rfl
  | cons c word inductionHypothesis =>
      have other := ordinary c (List.mem_cons_self ..)
      have later := inductionHypothesis fun d member =>
        ordinary d (List.mem_cons_of_mem c member)
      have among : ['\\', '\x27', '\x22'] ⊆ special := by
        decide
      rw [List.cons_append, roles_plain fun member => other (among member), later]
      rfl

/-- A word without backslashes has its own roles, whatever follows it. -/
theorem roles_quote
    {word : Text}
    (unescaped : '\\' ∉ word)
    (rest : Text) :
    roles .plain (quote word ++ rest) =
      writtenRoles word ++ roles .plain rest := by
  unfold quote writtenRoles enclose
  split
  · have opens : roles .plain ('\x27' :: (word.flatMap quoteChar ++ '\x27' :: rest)) =
        .dropped :: roles .single (word.flatMap quoteChar ++ '\x27' :: rest) := by
      rw [roles_cons (by decide)]
      rfl
    have closes : roles .single ('\x27' :: rest) = .dropped :: roles .plain rest := by
      rw [roles_cons (by decide)]
      rfl
    simp only [List.cons_append, List.append_assoc, List.nil_append]
    rw [opens, roles_quoted unescaped, closes]
  · rename_i ordinary
    apply roles_unquoted
    intro c member special
    exact ordinary (.inr (by simpa using ⟨c, member, special⟩))

/-- The roles of a line of words: a separator stands between two of them. -/
theorem roles_join
    {words : List Text}
    (unescaped : ∀ word ∈ words, '\\' ∉ word) :
    roles .plain (join words) =
      [Role.separator].intercalate (words.map writtenRoles) := by
  induction words with
  | nil =>
      rfl
  | cons word rest inductionHypothesis =>
      simp only [List.forall_mem_cons] at unescaped
      obtain ⟨own, others⟩ := unescaped
      cases rest with
      | nil =>
          simpa [join, roles] using roles_quote own []
      | cons next later =>
          rw [join, roles_quote own, roles_blank (by decide),
            inductionHypothesis others]
          · simp
          · simp

/-- What is read of a word as it is written. -/
def retyped (word : Text) : Text :=
  literals (writtenRoles word)

theorem literals_map_quotedRoles (word : Text) :
    literals (word.flatMap quotedRoles) = word := by
  induction word with
  | nil =>
      rfl
  | cons c rest inductionHypothesis =>
      rw [List.flatMap_cons, literals_append, inductionHypothesis]
      by_cases single : c = '\x27'
      · simp [quotedRoles, single, literals]
      · simp [quotedRoles, single, literals]

theorem literals_map_separated (word : Text) :
    literals (word.map fun c => if isBlank c then .separator else .literal c) =
      word.filter (!isBlank ·) := by
  induction word with
  | nil =>
      rfl
  | cons c rest inductionHypothesis =>
      by_cases blank : isBlank c = true
      · simpa [blank, literals] using inductionHypothesis
      · simpa [blank, literals] using inductionHypothesis

theorem retyped_eq (word : Text) :
    retyped word =
      if word = [] ∨ word.any special.contains then word
      else word.filter (!isBlank ·) := by
  unfold retyped writtenRoles
  split
  · rw [List.cons_append, literals, literals_append, literals_map_quotedRoles]
    simp [literals]
  · exact literals_map_separated word

theorem length_retyped_le (word : Text) :
    (retyped word).length ≤ word.length := by
  rw [retyped_eq]
  split
  · exact Nat.le_refl _
  · exact List.length_filter_le _ _

/-- A word comes back exactly if it is unbroken. -/
theorem retyped_eq_self_iff
    {word : Text}
    (nonempty : word ≠ []) :
    retyped word = word ↔
      (∃ c ∈ word, c ∈ special) ∨ ∀ c ∈ word, isBlank c = false := by
  rw [retyped_eq]
  split
  · rename_i quoted
    have special : ∃ c ∈ word, c ∈ special := by
      simpa [nonempty] using quoted
    exact iff_of_true rfl (.inl special)
  · rename_i ordinary
    simp_all [List.filter_eq_self]

theorem literals_intercalate (words : List Text) :
    literals ([Role.separator].intercalate (words.map writtenRoles)) =
      words.flatMap retyped := by
  induction words with
  | nil =>
      rfl
  | cons word rest inductionHypothesis =>
      cases rest with
      | nil =>
          simp [retyped]
      | cons next later =>
          simp only [List.map_cons, List.intercalate_cons_cons,
            List.append_assoc, literals_append, List.singleton_append,
            literals] at inductionHypothesis ⊢
          rw [inductionHypothesis]
          rfl

variable {shrink : Text → Text}

theorem length_flatMap_le
    (shrinks : ∀ word, (shrink word).length ≤ word.length)
    (words : List Text) :
    (words.flatMap shrink).length ≤ words.flatten.length := by
  induction words with
  | nil =>
      exact Nat.le_refl _
  | cons word rest inductionHypothesis =>
      have own := shrinks word
      simp only [List.flatMap_cons, List.flatten_cons, List.length_append]
      omega

/-- If words lose characters only, and none in all, then each stays as it is. -/
theorem eq_of_flatMap_eq
    (shrinks : ∀ word, (shrink word).length ≤ word.length)
    {words : List Text}
    (same : words.flatMap shrink = words.flatten) :
    ∀ word ∈ words, shrink word = word := by
  induction words with
  | nil =>
      simp
  | cons word rest inductionHypothesis =>
      have own := shrinks word
      have others := length_flatMap_le shrinks rest
      have lengths := congrArg List.length same
      simp only [List.flatMap_cons, List.flatten_cons] at same lengths
      simp only [List.length_append] at lengths
      obtain ⟨first, second⟩ := List.append_inj same (by omega)
      simpa [first] using inductionHypothesis second

/-- An unbroken word is written without a separator. -/
theorem separator_not_mem_writtenRoles
    {word : Text}
    (unbroken :
      (∃ c ∈ word, c ∈ special) ∨ ∀ c ∈ word, isBlank c = false) :
    .separator ∉ writtenRoles word := by
  unfold writtenRoles
  split
  · simp only [List.mem_cons, List.mem_append, List.mem_flatMap, quotedRoles]
    grind
  · rename_i ordinary
    have plain : ∀ c ∈ word, isBlank c = false := by
      apply unbroken.resolve_left
      simpa using (not_or.mp ordinary).2
    simp only [List.mem_map, not_exists]
    rintro c ⟨member, separates⟩
    simp [plain c member] at separates

/-- Words that have their own roles are read as they are. -/
theorem wordsOf_intercalate
    {words : List Text}
    (whole :
      ∀ word ∈ words,
        word ≠ [] ∧
          ((∃ c ∈ word, c ∈ special) ∨ ∀ c ∈ word, isBlank c = false)) :
    wordsOf ([Role.separator].intercalate (words.map writtenRoles)) = words := by
  induction words with
  | nil =>
      rfl
  | cons word rest inductionHypothesis =>
      simp only [List.forall_mem_cons] at whole
      obtain ⟨⟨nonempty, unbroken⟩, others⟩ := whole
      have joined := separator_not_mem_writtenRoles unbroken
      have same : literals (writtenRoles word) = word :=
        (retyped_eq_self_iff nonempty).mpr unbroken
      have alone : consNonempty word [] = [word] := if_neg nonempty
      cases rest with
      | nil =>
          rw [List.map_singleton, List.intercalate_singleton,
            wordsOf_joined joined, same, alone]
      | cons next later =>
          rw [List.map_cons, List.map_cons, List.intercalate_cons_cons,
            List.append_assoc, List.singleton_append, wordsOf_append,
            wordsOf_joined joined, same, alone, ← List.map_cons,
            inductionHypothesis others, List.singleton_append]

/-- Words written as a line come back exactly if each of them does. -/
theorem split_join_iff
    {limit : Nat}
    {words : List Text} :
    split limit (join words) = .ok words ↔
      ∀ word ∈ words, Retypable limit word := by
  rw [split_eq_ok_iff]
  constructor
  · rintro ⟨same, fit⟩ word member
    have nonempty : ∀ word ∈ words, word ≠ [] := fun word member =>
      ne_nil_of_mem_wordsOf (same ▸ member)
    have characters : literals (roles .plain (join words)) = words.flatten := by
      rw [← flatten_wordsOf, same]
    have unescaped := unescaped_of_flatten characters
    rw [roles_join unescaped, literals_intercalate] at characters
    have kept := eq_of_flatMap_eq length_retyped_le characters word member
    exact
      { nonempty := nonempty word member
        fits := fit word member
        unescaped := unescaped word member
        unbroken := (retyped_eq_self_iff (nonempty word member)).mp kept }
  · intro retypable
    have unescaped : ∀ word ∈ words, '\\' ∉ word := fun word member =>
      (retypable word member).unescaped
    rw [roles_join unescaped]
    refine ⟨wordsOf_intercalate fun word member => ?_, fun word member => ?_⟩
    · exact ⟨(retypable word member).nonempty, (retypable word member).unbroken⟩
    · exact (retypable word member).fits

/-- Space, tab and newline are quoted themselves, so they never break a word. -/
theorem unbroken_iff
    {word : Text}
    (unescaped : '\\' ∉ word) :
    ((∃ c ∈ word, c ∈ special) ∨ ∀ c ∈ word, isBlank c = false) ↔
      ((∃ c ∈ word, isBlank c = true ∧ c ∉ [' ', '\t', '\n']) →
        ∃ c ∈ word, c ∈ special ∧ c ≠ '\\') := by
  have common : [' ', '\t', '\n'] ⊆ special := by
    decide
  constructor
  · rintro (⟨c, member, isSpecial⟩ | unblank) ⟨d, blankMember, blank, -⟩
    · refine ⟨c, member, isSpecial, ?_⟩
      rintro rfl
      exact unescaped member
    · rw [unblank d blankMember] at blank
      contradiction
  · intro quoted
    refine Decidable.or_iff_not_imp_left.mpr fun ordinary c member => ?_
    refine Bool.eq_false_iff.mpr fun blank => ordinary ?_
    by_cases isCommon : c ∈ [' ', '\t', '\n']
    · exact ⟨c, member, common isCommon⟩
    · obtain ⟨d, specialMember, isSpecial, -⟩ :=
        quoted ⟨c, member, blank, isCommon⟩
      exact ⟨d, specialMember, isSpecial⟩

/--
Words written as a line come back exactly if none is empty, too long or holds a
backslash, and each with white space other than space, tab and newline holds a
character that makes it be written in quotes.
-/
theorem tokenize_join_iff (words : List Text) :
    tokenize (join words) = .ok words ↔
      ∀ word ∈ words,
        word ≠ [] ∧
          (Utf8.encode word).length ≤ 4095 ∧
          '\\' ∉ word ∧
          ((∃ c ∈ word, isBlank c = true ∧ c ∉ [' ', '\t', '\n']) →
            ∃ c ∈ word, c ∈ special ∧ c ≠ '\\') := by
  unfold tokenize defaultLimit
  rw [split_join_iff]
  refine forall₂_congr fun word member => ?_
  rw [length_encode]
  constructor
  · rintro ⟨nonempty, fits, unescaped, unbroken⟩
    exact ⟨nonempty, fits, unescaped, (unbroken_iff unescaped).mp unbroken⟩
  · rintro ⟨nonempty, fits, unescaped, quoted⟩
    exact ⟨nonempty, fits, unescaped, (unbroken_iff unescaped).mpr quoted⟩

end Quoting

/-- A command's arguments are words that it was read from. -/
theorem Command.mem_of_ofWords?
    {words : List Text}
    {command : Command}
    (found : Command.ofWords? words = .ok (some command))
    {argument : Text}
    (member : argument ∈ command.arguments) :
    argument ∈ words := by
  cases words with
  | nil =>
      cases found
  | cons name rest =>
      have arguments : command.arguments =
          name :: rest.takeWhile (!isOperator ·) := by
        simp only [Command.ofWords?, Reader.next, Reader.ofWords] at found
        generalize Reader.readOperator (name :: rest).getLast?
          (rest.dropWhile (!isOperator ·)) = ending at found
        obtain ⟨_ | _, _⟩ := ending
        · cases found
        · cases found
          rfl
      rw [arguments] at member
      rcases List.mem_cons.mp member with rfl | later
      · exact List.mem_cons_self ..
      · exact List.mem_cons_of_mem name ((List.takeWhile_sublist _).subset later)

namespace Descriptor

/-- A descriptor's arguments are words that it was built from. -/
theorem mem_of_build
    {space : Workspace}
    {searchPath : Option Bytes}
    {words : List Text}
    {descriptor : Descriptor}
    (built : build space searchPath words = .ok (some descriptor))
    {argument : Text}
    (member : argument ∈ descriptor.arguments) :
    argument ∈ words := by
  obtain ⟨command, program, found, -, rfl⟩ := build_eq_some_iff.mp built
  exact Command.mem_of_ofWords? found member

/--
The command line of a built descriptor is read as its arguments exactly if none
of them holds a backslash, and each with white space is written in quotes.
-/
theorem tokenize_commandLine_iff
    {line : Text}
    {space : Workspace}
    {searchPath : Option Bytes}
    {words : List Text}
    {descriptor : Descriptor}
    (split : tokenize line = .ok words)
    (built : build space searchPath words = .ok (some descriptor)) :
    tokenize descriptor.commandLine = .ok descriptor.arguments ↔
      ∀ argument ∈ descriptor.arguments,
        '\\' ∉ argument ∧
          ((∃ c ∈ argument, c ∈ Quoting.special) ∨
            ∀ c ∈ argument, isBlank c = false) := by
  unfold tokenize commandLine
  rw [Quoting.split_join_iff]
  constructor
  · intro retypable argument member
    exact ⟨(retypable argument member).unescaped,
      (retypable argument member).unbroken⟩
  · intro plain argument member
    obtain ⟨nonempty, fits⟩ := of_mem_split split (mem_of_build built member)
    exact
      { nonempty := nonempty
        fits := fits
        unescaped := (plain argument member).1
        unbroken := (plain argument member).2 }

/-- Files with one program, `/p`. -/
def lone : Workspace :=
  { tree := { entries := [([[112]], .file 0o755 [])] } }

/-- Words with spaces and single quotes are read again. -/
theorem tokenize_commandLine_quoted :
    tokenize "/p 'two words' it\\'s".toList =
        .ok ["/p".toList, "two words".toList, "it's".toList] ∧
      ∃ descriptor,
        build lone none ["/p".toList, "two words".toList, "it's".toList] =
            .ok (some descriptor) ∧
          descriptor.commandLine = "/p 'two words' 'it'\\''s'".toList ∧
          tokenize descriptor.commandLine = .ok descriptor.arguments := by
  have split :
      tokenize "/p 'two words' it\\'s".toList =
        .ok ["/p".toList, "two words".toList, "it's".toList] := by
    rfl
  have built :
      build lone none ["/p".toList, "two words".toList, "it's".toList] =
        .ok (some (ofCommand [47, 112]
          { name := "/p".toList
            arguments := ["/p".toList, "two words".toList, "it's".toList]
            redirection := none
            background := false })) :=
    build_eq_some_iff.mpr ⟨_, [47, 112], rfl, by decide +kernel, rfl⟩
  refine ⟨split, _, built, by decide +kernel, ?_⟩
  apply (tokenize_commandLine_iff split built).mpr
  have unbroken : "/p".toList.all (!isBlank ·) = true := by decide +kernel
  intro argument member
  have cases :
      argument = "/p".toList ∨
        argument = "two words".toList ∨ argument = "it's".toList := by
    simpa [ofCommand] using member
  rcases cases with rfl | rfl | rfl
  · exact ⟨by decide +kernel, .inr (by simpa using unbroken)⟩
  · exact ⟨by decide +kernel, .inl ⟨' ', by decide +kernel⟩⟩
  · exact ⟨by decide +kernel, .inl ⟨'\x27', by decide +kernel⟩⟩

/-- A backslash between single quotes is not read again. -/
theorem not_all_retyped :
    ¬ ∀ (line : Text) (space : Workspace) (searchPath : Option Bytes)
        (words : List Text) (descriptor : Descriptor),
        tokenize line = .ok words →
        build space searchPath words = .ok (some descriptor) →
        tokenize descriptor.commandLine = .ok descriptor.arguments := by
  intro all
  let descriptor : Descriptor :=
    ofCommand [47, 112]
      { name := "/p".toList
        arguments := ["/p".toList, "a\\b".toList]
        redirection := none
        background := false }
  have built :
      build lone none ["/p".toList, "a\\b".toList] = .ok (some descriptor) :=
    build_eq_some_iff.mpr ⟨_, [47, 112], rfl, by decide +kernel, rfl⟩
  have back :=
    all "/p a\\\\b".toList lone none ["/p".toList, "a\\b".toList] descriptor
      rfl built
  have lost :
      tokenize "/p 'a\\b'".toList = .ok ["/p".toList, "ab".toList] := by
    rfl
  exact absurd (Except.ok.inj (back.symm.trans lost)) (by decide +kernel)

end Descriptor
end JobShell
