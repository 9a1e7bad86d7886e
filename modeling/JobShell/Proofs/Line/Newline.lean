import JobShell.Proofs.Line.Roles
import JobShell.Text.Fields

namespace JobShell

/-!
# The newline at the end of a line

What one more newline does to a line depends on where the line ends. Outside
quotes it is white space and ends the last word, which the end of the line does
as well. Inside quotes, and after a backslash that still awaits a character, it
becomes a part of the last word.
-/

namespace Utf8

/-- What an open character goes on with is beyond ASCII. -/
theorem least_of_step
    {state : Option Open}
    {byte : UInt8}
    {character : Open}
    (opened : (step state byte).2 = some character) :
    0x80 ≤ character.least := by
  have started {byte : UInt8} (opened : (start byte).2 = some character) :
      0x80 ≤ character.least := by
    unfold start lead? at opened
    grind
  cases state with
  | none =>
      exact started opened
  | some other =>
      simp only [step, extend] at opened
      split at opened
      · split at opened
        · contradiction
        · obtain rfl := Option.some.inj opened
          exact UInt8.le_refl _
      · exact started opened

/-- A newline is a character of its own, also where another one is left open. -/
theorem piecesFrom_newline
    {state : Option Open}
    (beyond : ∀ character, state = some character → 0x80 ≤ character.least)
    (bytes : Bytes) :
    piecesFrom state (bytes ++ [newline]) =
      piecesFrom state bytes ++ [.char '\n'] := by
  induction bytes generalizing state with
  | nil =>
      cases state with
      | none =>
          rfl
      | some character =>
          have apart : ¬ character.least ≤ newline := by
            have least := beyond character rfl
            simp only [UInt8.le_iff_toNat_le] at least ⊢
            exact Nat.not_le.mpr (Nat.lt_of_lt_of_le (by decide) least)
          simp only [List.nil_append, piecesFrom, step, extend, apart, false_and,
            if_false]
          rfl
  | cons byte rest inductionHypothesis =>
      simp only [List.cons_append, piecesFrom, List.append_assoc,
        inductionHypothesis fun _ => least_of_step]

theorem ofPieces_newline (offset : Nat) (pieces : List Piece) :
    ofPieces offset (pieces ++ [.char '\n']) =
      (ofPieces offset pieces).map (· ++ ['\n']) := by
  induction pieces generalizing offset with
  | nil =>
      rfl
  | cons piece rest inductionHypothesis =>
      cases piece with
      | malformed bytes =>
          rfl
      | char value =>
          simp only [List.cons_append, ofPieces, inductionHypothesis]
          cases ofPieces (offset + value.utf8Size) rest <;> rfl

/-- A newline is decoded as it is, and mends nothing before it. -/
theorem decode_newline (bytes : Bytes) :
    decode (bytes ++ [newline]) = (decode bytes).map (· ++ ['\n']) := by
  unfold decode pieces
  rw [piecesFrom_newline (by simp), ofPieces_newline]

end Utf8

namespace Words

/--
The mode at the end of a line; there is none if the line ends with a backslash
that awaits a character.
-/
def ending : Mode → Text → Option Mode
  | mode, [] => some mode
  | _, ['\\'] => none
  | mode, '\\' :: _ :: rest => ending mode rest
  | mode, c :: rest => ending (read c mode).2 rest

theorem ending_cons
    {c : Char}
    (unescaped : c ≠ '\\')
    (mode : Mode)
    (rest : Text) :
    ending mode (c :: rest) = ending (read c mode).2 rest := by
  rw [ending] <;> simp [unescaped]

/-- The quotes that open or close a segment in a mode. -/
def quotes : Mode → List Char
  | .plain => ['\x27', '\x22']
  | .single => ['\x27']
  | .double => ['\x22']

/-- The role of a character after others that end so. -/
def roleAfter : Option Mode → Char → Role
  | none, c => .literal c
  | some mode, c =>
      if c = '\\' ∨ c ∈ quotes mode then .dropped
      else if mode = .plain ∧ isBlank c then .separator
      else .literal c

theorem role_read
    {c : Char}
    (unescaped : c ≠ '\\')
    (mode : Mode) :
    (read c mode).1 = roleAfter (some mode) c := by
  fun_cases read c mode <;> simp_all [roleAfter, quotes]

/-- One more character has its role from how the line ends before it. -/
theorem roles_snoc (mode : Mode) (line : Text) (c : Char) :
    roles mode (line ++ [c]) =
      roles mode line ++ [roleAfter (ending mode line) c] := by
  induction mode, line using roles_induction with
  | nil mode =>
      by_cases backslash : c = '\\'
      · subst backslash
        rfl
      · simp [roles_cons backslash, roles, ending, role_read backslash]
  | trailing mode =>
      rfl
  | escaped mode c rest inductionHypothesis =>
      simp only [List.cons_append, roles, ending, inductionHypothesis]
  | cons mode c rest unescaped inductionHypothesis =>
      rw [List.cons_append, roles_cons unescaped, roles_cons unescaped,
        ending_cons unescaped, inductionHypothesis, List.cons_append]

/-- The role of a newline that ends a line with this ending. -/
def newlineRole (ending : Option Mode) : Role :=
  if ending = some .plain then .separator else .literal '\n'

theorem roles_newline (mode : Mode) (line : Text) :
    roles mode (line ++ ['\n']) =
      roles mode line ++ [newlineRole (ending mode line)] := by
  rw [roles_snoc]
  rcases ending mode line with _ | _ | _ | _ <;> rfl

/-- A separator at the end changes no word. -/
theorem wordsOf_separator (roles : List Role) :
    wordsOf (roles ++ [.separator]) = wordsOf roles := by
  rw [wordsOf_append]
  exact List.append_nil _

theorem consNonempty_snoc (word : Text) (c : Char) (words : List Text) :
    consNonempty (word ++ [c]) words = (word ++ [c]) :: words := by
  simp [consNonempty]

theorem wordsOf_joined_literal
    {last : List Role}
    (joined : .separator ∉ last)
    (c : Char) :
    wordsOf (last ++ [.literal c]) = [literals last ++ [c]] := by
  have still : .separator ∉ last ++ [.literal c] := by
    simp [joined]
  rw [wordsOf_joined still, literals_append]
  exact consNonempty_snoc (literals last) c []

/-- One more character of a word extends the last word, or begins one. -/
theorem wordsOf_literal (roles : List Role) (c : Char) :
    ∃ earlier last,
      wordsOf roles = earlier ++ consNonempty last [] ∧
        wordsOf (roles ++ [.literal c]) = earlier ++ [last ++ [c]] := by
  by_cases separated : .separator ∈ roles
  · -- The last word is what stands behind the last separator.
    obtain ⟨after, before, parts, joined⟩ :=
      List.eq_append_cons_of_mem (List.mem_reverse.mpr separated)
    have cut : roles = before.reverse ++ .separator :: after.reverse := by
      rw [← List.reverse_reverse roles, parts]
      simp
    have joined : .separator ∉ after.reverse := by
      simpa using joined
    refine ⟨wordsOf before.reverse, literals after.reverse, ?_, ?_⟩
    · rw [cut, wordsOf_append, wordsOf_joined joined]
    · rw [cut, List.append_assoc, List.cons_append, wordsOf_append,
        wordsOf_joined_literal joined]
  · refine ⟨[], literals roles, ?_, ?_⟩
    · exact wordsOf_joined separated
    · exact wordsOf_joined_literal separated c

theorem byteSize_append (first second : Text) :
    byteSize (first ++ second) = byteSize first + byteSize second := by
  induction first with
  | nil =>
      simp
  | cons c rest inductionHypothesis =>
      simp [inductionHypothesis, Nat.add_assoc]

/-- Outside quotes a newline at the end of a line makes no difference. -/
theorem split_newline_of_plain
    {line : Text}
    (ends : ending .plain line = some .plain)
    (limit : Nat) :
    split limit (line ++ ['\n']) = split limit line := by
  rw [split_eq, split_eq, roles_newline, ends, newlineRole, if_pos rfl,
    wordsOf_separator]

/-- Elsewhere it is one more character of the last word, or a word of its own. -/
theorem split_newline_of_not_plain
    {line : Text}
    (ends : ending .plain line ≠ some .plain)
    {limit : Nat}
    {words : List Text}
    (splits : split limit line = .ok words) :
    ∃ earlier last,
      words = earlier ++ consNonempty last [] ∧
        split limit (line ++ ['\n']) =
          if byteSize last < limit then .ok (earlier ++ [last ++ ['\n']])
          else .error (.tokenTooLong limit) := by
  obtain ⟨earlier, last, before, after⟩ :=
    wordsOf_literal (roles .plain line) '\n'
  obtain ⟨rfl, fit⟩ := split_eq_ok_iff.mp splits
  refine ⟨earlier, last, before, ?_⟩
  have fitsToo :
      (∀ word ∈ earlier ++ [last ++ ['\n']], byteSize word ≤ limit) ↔
        byteSize last < limit := by
    have others : ∀ word ∈ earlier, byteSize word ≤ limit := by
      intro word member
      exact fit word (by simp [before, member])
    have size : byteSize (last ++ ['\n']) = byteSize last + 1 :=
      byteSize_append last ['\n']
    simp only [List.mem_append, List.mem_singleton]
    constructor
    · intro fits
      have whole := fits _ (.inr rfl)
      omega
    · rintro room word (member | rfl)
      · exact others word member
      · omega
  rw [split_eq, roles_newline, newlineRole, if_neg ends, after]
  simp only [fitsToo]

/-- A word that is too long stays too long, whatever comes after it. -/
theorem split_newline_of_error
    {limit : Nat}
    {line : Text}
    {e : ShellError}
    (splits : split limit line = .error e) :
    split limit (line ++ ['\n']) = .error e := by
  by_cases ends : ending .plain line = some .plain
  · rw [split_newline_of_plain ends, splits]
  · obtain ⟨earlier, last, before, after⟩ :=
      wordsOf_literal (roles .plain line) '\n'
    rw [split_eq] at splits ⊢
    split at splits
    · contradiction
    · rename_i tooLong
      rw [if_neg, splits]
      intro fit
      apply tooLong
      rw [roles_newline, newlineRole, if_neg ends, after] at fit
      rw [before]
      intro word member
      rcases List.mem_append.mp member with isEarlier | isLast
      · exact fit word (by simp [isEarlier])
      · rcases mem_consNonempty.mp isLast with ⟨rfl, -⟩ | none
        · have whole := fit (word ++ ['\n']) (by simp)
          rw [byteSize_append] at whole
          omega
        · simp at none

/--
A line that is split into words is split alike with a newline after it exactly
if it ends outside quotes and with no backslash that awaits a character.
-/
theorem split_newline_iff
    {limit : Nat}
    {line : Text}
    {words : List Text}
    (splits : split limit line = .ok words) :
    split limit (line ++ ['\n']) = split limit line ↔
      ending .plain line = some .plain := by
  refine ⟨fun same => Decidable.byContradiction fun ends => ?_,
    fun ends => split_newline_of_plain ends limit⟩
  obtain ⟨earlier, last, rfl, longer⟩ := split_newline_of_not_plain ends splits
  rw [same, splits] at longer
  split at longer
  · have lengths :=
      congrArg (fun words => words.flatten.length) (Except.ok.inj longer)
    simp [flatten_consNonempty] at lengths
  · contradiction

end Words
end JobShell
