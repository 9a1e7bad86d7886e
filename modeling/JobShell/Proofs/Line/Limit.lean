import JobShell.Proofs.Line.Newline

namespace JobShell

/-!
# When a line holds a word that is too long

A word takes no more bytes than the line it stands on, and every character that
is white space, a quote or a backslash costs the words of its line at least one
byte. A line that is longer by one byte than a word may be has a word that is
too long only if it is that word.
-/

namespace Words

/-- A character that outside quotes is part of a word as it is. -/
def Ordinary (c : Char) : Prop :=
  isBlank c = false ∧ c ∉ ['\\', '\x27', '\x22']

instance (c : Char) : Decidable (Ordinary c) :=
  inferInstanceAs (Decidable (_ ∧ _))

theorem roles_ordinary {line : Text} (ordinary : ∀ c ∈ line, Ordinary c) :
    roles .plain line = line.map .literal := by
  induction line with
  | nil =>
      rfl
  | cons c rest inductionHypothesis =>
      obtain ⟨⟨visible, bare⟩, others⟩ := List.forall_mem_cons.mp ordinary
      rw [roles_plain bare, visible, inductionHypothesis others, List.map_cons]
      rfl

theorem literals_map_literal (line : Text) :
    literals (line.map .literal) = line := by
  induction line with
  | nil =>
      rfl
  | cons c rest inductionHypothesis =>
      rw [List.map_cons, literals, inductionHypothesis]

/-- A line of ordinary characters is one word. -/
theorem wordsOf_ordinary {line : Text} (ordinary : ∀ c ∈ line, Ordinary c) :
    wordsOf (roles .plain line) = consNonempty line [] := by
  rw [roles_ordinary ordinary, wordsOf_joined (by simp), literals_map_literal]

theorem byteSize_flatten_le {word : Text} {words : List Text} (member : word ∈ words) :
    byteSize word ≤ byteSize words.flatten := by
  obtain ⟨before, after, rfl⟩ := List.append_of_mem member
  simp only [List.flatten_append, List.flatten_cons, byteSize_append]
  omega

/-- Nothing is added to the characters of a line. -/
theorem byteSize_literals_le (mode : Mode) (line : Text) :
    byteSize (literals (roles mode line)) ≤ byteSize line := by
  induction mode, line using roles_induction with
  | nil mode =>
      exact Nat.le_refl _
  | trailing mode =>
      exact Nat.zero_le _
  | escaped mode c rest inductionHypothesis =>
      simp only [roles, literals, byteSize_cons]
      omega
  | cons mode c rest unescaped inductionHypothesis =>
      rw [roles_cons unescaped]
      rcases literals_read c mode (roles (read c mode).2 rest) with kept | dropped
      · rw [kept, byteSize_cons, byteSize_cons]
        omega
      · rw [dropped, byteSize_cons]
        omega

/-- Outside quotes, what is not ordinary is lost. -/
theorem byteSize_literals_lt_of_not_ordinary
    {c : Char}
    (lost : ¬ Ordinary c)
    (rest : Text) :
    byteSize (literals (roles .plain (c :: rest))) < byteSize (c :: rest) := by
  have positive : 0 < c.utf8Size := c.utf8Size_pos
  by_cases backslash : c = '\\'
  · subst backslash
    cases rest with
    | nil =>
        exact positive
    | cons next later =>
        have atMost := byteSize_literals_le .plain later
        simp only [roles, literals, byteSize_cons]
        omega
  · have dropped :
        literals ((read c .plain).1 :: roles (read c .plain).2 rest) =
          literals (roles (read c .plain).2 rest) := by
      unfold Ordinary at lost
      grind [read, literals]
    have atMost := byteSize_literals_le (read c .plain).2 rest
    rw [roles_cons backslash, dropped, byteSize_cons]
    omega

/-- Only lines of ordinary characters lose nothing. -/
theorem ordinary_of_byteSize_literals
    {line : Text}
    (whole : byteSize line ≤ byteSize (literals (roles .plain line))) :
    ∀ c ∈ line, Ordinary c := by
  induction line with
  | nil =>
      exact fun _ member => absurd member List.not_mem_nil
  | cons c rest inductionHypothesis =>
      by_cases ordinary : Ordinary c
      · obtain ⟨visible, bare⟩ := ordinary
        rw [roles_plain bare, visible] at whole
        simp only [Bool.false_eq_true, if_false, literals, byteSize_cons] at whole
        exact List.forall_mem_cons.mpr
          ⟨⟨visible, bare⟩, inductionHypothesis (by omega)⟩
      · have less := byteSize_literals_lt_of_not_ordinary ordinary rest
        omega

theorem error_of_split
    {limit : Nat}
    {line : Text}
    {e : ShellError}
    (refused : split limit line = .error e) :
    e = .tokenTooLong limit := by
  rw [split_eq] at refused
  split at refused
  · contradiction
  · exact (Except.error.inj refused).symm

/--
A line that is longer than a word may be by one byte at most has a word that is
too long exactly if it is that long and consists of ordinary characters.
-/
theorem split_eq_error_iff
    {limit : Nat}
    {line : Text}
    (short : byteSize line ≤ limit + 1) :
    split limit line = .error (.tokenTooLong limit) ↔
      byteSize line = limit + 1 ∧ ∀ c ∈ line, Ordinary c := by
  rw [split_eq]
  constructor
  · intro refused
    split at refused
    · contradiction
    · rename_i misfit
      simp only [Classical.not_forall, Nat.not_le] at misfit
      obtain ⟨word, member, tooLong⟩ := misfit
      have part := byteSize_flatten_le member
      rw [flatten_wordsOf] at part
      have atMost := byteSize_literals_le .plain line
      exact ⟨by omega, ordinary_of_byteSize_literals (by omega)⟩
  · rintro ⟨size, ordinary⟩
    rw [wordsOf_ordinary ordinary, if_neg]
    intro fits
    have nonempty : line ≠ [] := by
      rintro rfl
      simp at size
    have fit := fits line (mem_consNonempty.mpr (.inl ⟨rfl, nonempty⟩))
    omega

end Words
end JobShell
