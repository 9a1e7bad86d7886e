import JobShell.Line.Words

namespace JobShell

/-!
# The roles of a line's characters

Whether a character of a line is dropped, separates words or stands for itself
depends on the characters before it only, and not on how long words may be. The
words of a line are read off the roles of its characters; the limit decides
whether they are accepted.
-/

namespace Words

/-- What a character does on a line. -/
inductive Role where
  /-- It is a quote or a backslash that stands for something else. -/
  | dropped
  /-- It ends a word. -/
  | separator
  /-- It is part of a word. -/
  | literal (c : Char)
  deriving DecidableEq, Repr

/-- What a character other than a backslash does, and the mode after it. -/
def read (c : Char) : Mode → Role × Mode
  | .plain =>
      if c = '\x27' then (.dropped, .single)
      else if c = '\x22' then (.dropped, .double)
      else if isBlank c then (.separator, .plain)
      else (.literal c, .plain)
  | .single =>
      if c = '\x27' then (.dropped, .plain) else (.literal c, .single)
  | .double =>
      if c = '\x22' then (.dropped, .plain) else (.literal c, .double)

/-- The roles of the characters of a line, from a mode on. -/
def roles : Mode → Text → List Role
  | _, [] => []
  | _, ['\\'] => [.dropped]
  | mode, '\\' :: c :: rest => .dropped :: .literal c :: roles mode rest
  | mode, c :: rest => (read c mode).1 :: roles (read c mode).2 rest

theorem roles_cons
    {c : Char}
    (unescaped : c ≠ '\\')
    (mode : Mode)
    (rest : Text) :
    roles mode (c :: rest) = (read c mode).1 :: roles (read c mode).2 rest := by
  rw [roles] <;> simp [unescaped]

/-- Outside quotes, what is no quote or backslash separates words or is part of one. -/
theorem roles_plain
    {c : Char}
    (ordinary : c ∉ ['\\', '\x27', '\x22'])
    (rest : Text) :
    roles .plain (c :: rest) =
      (if isBlank c then .separator else .literal c) :: roles .plain rest := by
  simp only [List.mem_cons, List.not_mem_nil, or_false, not_or] at ordinary
  obtain ⟨unescaped, single, double⟩ := ordinary
  rw [roles_cons unescaped]
  by_cases blank : isBlank c = true
  · simp [read, single, double, blank]
  · simp [read, single, double, blank]

theorem roles_blank
    {c : Char}
    (blank : isBlank c = true)
    (rest : Text) :
    roles .plain (c :: rest) = .separator :: roles .plain rest := by
  have ordinary : c ∉ ['\\', '\x27', '\x22'] := by
    simp only [List.mem_cons, List.not_mem_nil, or_false]
    rintro (rfl | rfl | rfl) <;> contradiction
  rw [roles_plain ordinary, if_pos blank]

/-- Induction along the roles of a line: a backslash goes with the next character. -/
@[elab_as_elim]
theorem roles_induction
    {motive : Mode → Text → Prop}
    (nil : ∀ mode, motive mode [])
    (trailing : ∀ mode, motive mode ['\\'])
    (escaped :
      ∀ mode c rest, motive mode rest → motive mode ('\\' :: c :: rest))
    (cons :
      ∀ mode c rest,
        c ≠ '\\' →
        motive (read c mode).2 rest →
        motive mode (c :: rest))
    (mode : Mode)
    (line : Text) :
    motive mode line := by
  induction mode, line using roles.induct with
  | case1 mode =>
      exact nil mode
  | case2 mode =>
      exact trailing mode
  | case3 mode c rest inductionHypothesis =>
      exact escaped mode c rest inductionHypothesis
  | case4 mode c rest alone before inductionHypothesis =>
      refine cons mode c rest (fun backslash => ?_) inductionHypothesis
      cases rest with
      | nil =>
          exact alone backslash rfl
      | cons next later =>
          exact before next later backslash rfl

/-- The rest of the first word that roles make up, and the words after it. -/
def collect : List Role → Text × List Text
  | [] => ([], [])
  | .dropped :: rest => collect rest
  | .separator :: rest => ([], consNonempty (collect rest).1 (collect rest).2)
  | .literal c :: rest => (c :: (collect rest).1, (collect rest).2)

/-- The words that roles make up. -/
def wordsOf (roles : List Role) : List Text :=
  consNonempty (collect roles).1 (collect roles).2

/-- The characters that are part of a word. -/
def literals : List Role → Text
  | [] => []
  | .literal c :: rest => c :: literals rest
  | .dropped :: rest | .separator :: rest => literals rest

/-- How many bytes a word takes. -/
def byteSize : Text → Nat
  | [] => 0
  | c :: word => c.utf8Size + byteSize word

@[simp] theorem byteSize_nil : byteSize [] = 0 :=
  rfl

@[simp] theorem byteSize_cons (c : Char) (word : Text) :
    byteSize (c :: word) = c.utf8Size + byteSize word :=
  rfl

/-- The bytes are those of the word in UTF-8. -/
theorem length_encode (word : Text) :
    (Utf8.encode word).length = byteSize word := by
  induction word with
  | nil =>
      rfl
  | cons c rest inductionHypothesis =>
      simp only [Utf8.encode, List.flatMap_cons, List.length_append,
        String.length_utf8EncodeChar, byteSize_cons] at inductionHypothesis ⊢
      rw [inductionHypothesis]

theorem flatten_consNonempty (word : Text) (words : List Text) :
    (consNonempty word words).flatten = word ++ words.flatten := by
  unfold consNonempty
  split
  · rename_i empty
    simp [empty]
  · rfl

/-- Of the characters in words none is lost, and none is added. -/
theorem flatten_wordsOf (roles : List Role) :
    (wordsOf roles).flatten = literals roles := by
  unfold wordsOf
  rw [flatten_consNonempty]
  induction roles with
  | nil =>
      rfl
  | cons role rest inductionHypothesis =>
      cases role with
      | dropped =>
          exact inductionHypothesis
      | separator =>
          simpa [collect, literals, flatten_consNonempty] using
            inductionHypothesis
      | literal c =>
          simpa [collect, literals] using inductionHypothesis

theorem literals_append (first second : List Role) :
    literals (first ++ second) = literals first ++ literals second := by
  induction first with
  | nil =>
      rfl
  | cons role rest inductionHypothesis =>
      cases role <;> simp [literals, inductionHypothesis]

/-- A character is itself part of a word, or nothing is. -/
theorem literals_read (c : Char) (mode : Mode) (rest : List Role) :
    literals ((read c mode).1 :: rest) = c :: literals rest ∨
      literals ((read c mode).1 :: rest) = literals rest := by
  fun_cases read c mode <;> simp [literals]

theorem mem_consNonempty
    {word other : Text}
    {words : List Text} :
    other ∈ consNonempty word words ↔
      (other = word ∧ word ≠ []) ∨ other ∈ words := by
  unfold consNonempty
  split
  · rename_i empty
    simp [empty]
  · rename_i nonempty
    simp [nonempty]

theorem filter_cons_eq_consNonempty (word : Text) (words : List Text) :
    (word :: words).filter (· ≠ []) =
      consNonempty word (words.filter (· ≠ [])) := by
  unfold consNonempty
  split
  · rename_i empty
    simp [empty]
  · rename_i nonempty
    simp [nonempty]

theorem collect_eq (roles : List Role) :
    ∃ first later,
      roles.splitOn .separator = first :: later ∧
        collect roles =
          (literals first, (later.map literals).filter (· ≠ [])) := by
  induction roles with
  | nil =>
      exact ⟨[], [], rfl, rfl⟩
  | cons role rest inductionHypothesis =>
      obtain ⟨first, later, parts, collected⟩ := inductionHypothesis
      rw [List.splitOn_cons_eq_if_modifyHead, parts]
      cases role with
      | dropped =>
          exact ⟨.dropped :: first, later, rfl, collected⟩
      | separator =>
          refine ⟨[], first :: later, rfl, ?_⟩
          rw [List.map_cons, filter_cons_eq_consNonempty, collect, collected,
            literals]
      | literal c =>
          refine ⟨.literal c :: first, later, rfl, ?_⟩
          rw [collect, collected, literals]

/-- Words are what stands between separators, where anything is left of it. -/
theorem wordsOf_eq (roles : List Role) :
    wordsOf roles =
      ((roles.splitOn .separator).map literals).filter (· ≠ []) := by
  obtain ⟨first, later, parts, collected⟩ := collect_eq roles
  rw [wordsOf, collected, parts, List.map_cons, filter_cons_eq_consNonempty]

/-- No word reaches over a separator. -/
theorem wordsOf_append (first second : List Role) :
    wordsOf (first ++ .separator :: second) =
      wordsOf first ++ wordsOf second := by
  simp only [wordsOf_eq, List.splitOn_append_cons_self, List.map_append,
    List.filter_append]

/-- What separates no words is at most one word. -/
theorem wordsOf_joined
    {roles : List Role}
    (joined : .separator ∉ roles) :
    wordsOf roles = consNonempty (literals roles) [] := by
  rw [wordsOf_eq, List.splitOn_eq_singleton joined, List.map_singleton,
    filter_cons_eq_consNonempty, List.filter_nil]

/-- No word is empty, whatever the roles. -/
theorem ne_nil_of_mem_wordsOf
    {roles : List Role}
    {word : Text}
    (member : word ∈ wordsOf roles) :
    word ≠ [] := by
  rw [wordsOf_eq] at member
  simpa using (List.mem_filter.mp member).2

/-- A word that is begun with some bytes, and the words after it, fit. -/
def Fits (limit size : Nat) (found : Text × List Text) : Prop :=
  size + byteSize found.1 ≤ limit ∧
    ∀ word ∈ found.2, byteSize word ≤ limit

instance (limit size : Nat) (found : Text × List Text) :
    Decidable (Fits limit size found) :=
  inferInstanceAs (Decidable (_ ∧ _))

/-- The words that were found, if they fit. -/
def accepted (limit size : Nat) (found : Text × List Text) :
    Except ShellError (Text × List Text) :=
  if Fits limit size found then .ok found else .error (.tokenTooLong limit)

/-- A character is refused as soon as the word with it cannot fit. -/
theorem push_accepted
    {limit size : Nat}
    {c : Char}
    {found : Text × List Text}
    {scanned : Except ShellError (Text × List Text)}
    (accepts :
      size + c.utf8Size ≤ limit →
      scanned = accepted limit (size + c.utf8Size) found) :
    scan.push limit size c scanned = accepted limit size (c :: found.1, found.2) := by
  have same :
      Fits limit size (c :: found.1, found.2) ↔
        Fits limit (size + c.utf8Size) found := by
    simp [Fits, Nat.add_assoc]
  unfold scan.push accepted
  by_cases tooLong : limit < size + c.utf8Size
  · rw [if_pos tooLong, if_neg]
    rintro ⟨fits, -⟩
    simp only [byteSize_cons] at fits
    omega
  · rw [if_neg tooLong, accepts (by omega)]
    simp only [accepted, same]
    split <;> rfl

/-- A word that is not begun fits with the words after it when each of them does. -/
theorem fits_iff (limit : Nat) (found : Text × List Text) :
    Fits limit 0 found ↔
      ∀ word ∈ consNonempty found.1 found.2, byteSize word ≤ limit := by
  unfold Fits consNonempty
  split
  · rename_i empty
    simp [empty]
  · simp

/-- A separator begins a new word, and the word before it has had its size. -/
theorem map_accepted
    {limit size : Nat}
    (begun : size ≤ limit)
    (found : Text × List Text) :
    (accepted limit 0 found).map
        (fun (word, words) => ([], consNonempty word words)) =
      accepted limit size ([], consNonempty found.1 found.2) := by
  have same :
      Fits limit size ([], consNonempty found.1 found.2) ↔
        Fits limit 0 found := by
    rw [fits_iff]
    simp [Fits, begun]
  simp only [accepted, same]
  split <;> rfl

/-- Scanning goes by the role of the next character, unless it is a backslash. -/
theorem scan_cons
    {c : Char}
    (unescaped : c ≠ '\\')
    (limit : Nat)
    (mode : Mode)
    (size : Nat)
    (rest : Text) :
    scan limit mode size (c :: rest) =
      match read c mode with
      | (.dropped, next) => scan limit next size rest
      | (.separator, next) =>
          (scan limit next 0 rest).map fun (word, words) =>
            ([], consNonempty word words)
      | (.literal c, next) =>
          scan.push limit size c (scan limit next (size + c.utf8Size) rest) := by
  cases mode with
  | plain =>
      by_cases single : c = '\x27'
      · simp [scan, read, single]
      · by_cases double : c = '\x22'
        · simp [scan, read, double]
        · by_cases blank : isBlank c = true
          · simp [scan, read, unescaped, single, double, blank]
          · simp [scan, read, unescaped, single, double, blank]
  | single =>
      by_cases closing : c = '\x27'
      · simp [scan, read, closing]
      · simp [scan, read, unescaped, closing]
  | double =>
      by_cases closing : c = '\x22'
      · simp [scan, read, closing]
      · simp [scan, read, unescaped, closing]

/-- Scanning finds the words that the roles make up, and accepts those that fit. -/
theorem scan_eq
    {limit size : Nat}
    (begun : size ≤ limit)
    (mode : Mode)
    (line : Text) :
    scan limit mode size line =
      accepted limit size (collect (roles mode line)) := by
  induction mode, line using roles_induction generalizing size with
  | nil mode =>
      simp [scan, roles, collect, accepted, Fits, begun]
  | trailing mode =>
      simp [scan, roles, collect, accepted, Fits, begun]
  | escaped mode c rest inductionHypothesis =>
      simp only [scan, roles, collect]
      exact push_accepted inductionHypothesis
  | cons mode c rest unescaped inductionHypothesis =>
      rw [scan_cons unescaped, roles_cons unescaped]
      generalize read c mode = read at inductionHypothesis ⊢
      obtain ⟨role, next⟩ := read
      cases role with
      | dropped =>
          exact inductionHypothesis begun
      | separator =>
          simp only [collect]
          rw [inductionHypothesis (Nat.zero_le limit), map_accepted begun]
      | literal c =>
          exact push_accepted inductionHypothesis

/-- The words of a line are those that the roles make up, if each of them fits. -/
theorem split_eq (limit : Nat) (line : Text) :
    split limit line =
      if ∀ word ∈ wordsOf (roles .plain line), byteSize word ≤ limit then
        .ok (wordsOf (roles .plain line))
      else .error (.tokenTooLong limit) := by
  unfold split wordsOf
  rw [scan_eq (Nat.zero_le limit)]
  simp only [accepted, fits_iff]
  split <;> rfl

theorem split_eq_ok_iff
    {limit : Nat}
    {line : Text}
    {words : List Text} :
    split limit line = .ok words ↔
      wordsOf (roles .plain line) = words ∧
        ∀ word ∈ words, byteSize word ≤ limit := by
  rw [split_eq]
  constructor
  · intro splits
    split at splits
    · rename_i fit
      obtain rfl := Except.ok.inj splits
      exact ⟨rfl, fit⟩
    · contradiction
  · rintro ⟨rfl, fit⟩
    exact if_pos fit

/-- A word of a line is not empty, and fits. -/
theorem of_mem_split
    {limit : Nat}
    {line : Text}
    {words : List Text}
    (splits : split limit line = .ok words)
    {word : Text}
    (member : word ∈ words) :
    word ≠ [] ∧ byteSize word ≤ limit := by
  obtain ⟨rfl, fit⟩ := split_eq_ok_iff.mp splits
  exact ⟨ne_nil_of_mem_wordsOf member, fit word member⟩

end Words
end JobShell
