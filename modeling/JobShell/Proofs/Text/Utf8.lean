import JobShell.Text.Utf8

namespace JobShell

/-!
# Decoding and encoding

Bytes decode into a text exactly if they are the UTF-8 encoding of that text.

In one direction, a character that is open keeps a promise: whatever bytes
complete it are, after those already read, the encoding of the character that is
answered. A leading byte opens a character that keeps it, and no byte breaks it
without leaving a malformed piece. In the other, the bytes that encode a
character are read as that character and leave none open.
-/

namespace Utf8

theorem encodeChar_ofNat {n : Nat} (valid : n.isValidChar) :
    String.utf8EncodeChar (Char.ofNat n) =
      if n ≤ 127 then [UInt8.ofNat n]
      else if n ≤ 2047 then
        [UInt8.ofNat (n / 64 % 32 + 192), UInt8.ofNat (n % 64 + 128)]
      else if n ≤ 65535 then
        [UInt8.ofNat (n / 4096 % 16 + 224), UInt8.ofNat (n / 64 % 64 + 128),
          UInt8.ofNat (n % 64 + 128)]
      else
        [UInt8.ofNat (n / 262144 % 8 + 240), UInt8.ofNat (n / 4096 % 64 + 128),
          UInt8.ofNat (n / 64 % 64 + 128), UInt8.ofNat (n % 64 + 128)] := by
  have same : (Char.ofNat n).val.toNat = n := by
    rw [Char.ofNat, dif_pos valid]
    rfl
  unfold String.utf8EncodeChar
  simp only [same]

theorem ofNat_eq_iff (n : Nat) (byte : UInt8) :
    UInt8.ofNat n = byte ↔ n % 256 = byte.toNat := by
  rw [← UInt8.toNat_inj, UInt8.toNat_ofNat']

theorem toNat_ofNat {n : Nat} (below : n < 256) : (UInt8.ofNat n).toNat = n := by
  rw [UInt8.toNat_ofNat', Nat.mod_eq_of_lt below]

/-- A byte that can stand after the leading one. -/
abbrev Continues (byte : UInt8) : Prop :=
  0x80 ≤ byte.toNat ∧ byte.toNat ≤ 0xBF

theorem encodeChar_one
    (byte : UInt8)
    (single : byte.toNat < 0x80) :
    String.utf8EncodeChar (Char.ofNat byte.toNat) = [byte] := by
  rw [encodeChar_ofNat (by left; omega), if_pos (by omega)]
  simp only [List.cons.injEq, ofNat_eq_iff, and_true]
  omega

theorem encodeChar_two
    (first second : UInt8)
    (leads : 0xC2 ≤ first.toNat ∧ first.toNat < 0xE0)
    (follows : Continues second) :
    String.utf8EncodeChar
        (Char.ofNat ((first.toNat - 0xC0) * 64 + (second.toNat - 0x80))) =
      [first, second] := by
  obtain ⟨least, greatest⟩ := follows
  rw [encodeChar_ofNat (by left; omega), if_neg (by omega), if_pos (by omega)]
  simp only [List.cons.injEq, ofNat_eq_iff, and_true]
  omega

-- The two bounds on the second byte keep out the characters that two bytes
-- encode, and the surrogates, which no character is.
theorem encodeChar_three
    (first second third : UInt8)
    (leads : 0xE0 ≤ first.toNat ∧ first.toNat < 0xF0)
    (follows : Continues second)
    (long : first.toNat = 0xE0 → 0xA0 ≤ second.toNat)
    (unpaired : first.toNat = 0xED → second.toNat ≤ 0x9F)
    (ends : Continues third) :
    String.utf8EncodeChar
        (Char.ofNat
          (((first.toNat - 0xE0) * 64 + (second.toNat - 0x80)) * 64 +
            (third.toNat - 0x80))) =
      [first, second, third] := by
  obtain ⟨least, greatest⟩ := follows
  obtain ⟨leastThird, greatestThird⟩ := ends
  rw [encodeChar_ofNat (by unfold Nat.isValidChar; omega), if_neg (by omega),
    if_neg (by omega), if_pos (by omega)]
  simp only [List.cons.injEq, ofNat_eq_iff, and_true]
  omega

theorem encodeChar_four
    (first second third fourth : UInt8)
    (leads : 0xF0 ≤ first.toNat ∧ first.toNat ≤ 0xF4)
    (follows : Continues second)
    (long : first.toNat = 0xF0 → 0x90 ≤ second.toNat)
    (bounded : first.toNat = 0xF4 → second.toNat ≤ 0x8F)
    (continued : Continues third)
    (ends : Continues fourth) :
    String.utf8EncodeChar
        (Char.ofNat
          ((((first.toNat - 0xF0) * 64 + (second.toNat - 0x80)) * 64 +
            (third.toNat - 0x80)) * 64 + (fourth.toNat - 0x80))) =
      [first, second, third, fourth] := by
  obtain ⟨least, greatest⟩ := follows
  obtain ⟨leastThird, greatestThird⟩ := continued
  obtain ⟨leastFourth, greatestFourth⟩ := ends
  rw [encodeChar_ofNat (by unfold Nat.isValidChar; omega), if_neg (by omega),
    if_neg (by omega), if_neg (by omega)]
  simp only [List.cons.injEq, ofNat_eq_iff, and_true]
  omega

theorem lead?_two
    (byte : UInt8)
    (leads : 0xC2 ≤ byte.toNat ∧ byte.toNat < 0xE0) :
    lead? byte = some ⟨1, 0x80, 0xBF, byte.toNat - 0xC0, [byte]⟩ := by
  simp only [lead?, UInt8.lt_iff_toNat_lt, UInt8.reduceToNat]
  rw [if_neg (by omega), if_pos (by omega)]

theorem lead?_three
    (byte : UInt8)
    (leads : 0xE0 ≤ byte.toNat ∧ byte.toNat < 0xF0) :
    lead? byte =
      some
        ⟨2, if byte.toNat = 0xE0 then 0xA0 else 0x80,
          if byte.toNat = 0xED then 0x9F else 0xBF, byte.toNat - 0xE0, [byte]⟩ := by
  simp only [lead?, UInt8.lt_iff_toNat_lt, ← UInt8.toNat_inj, UInt8.reduceToNat]
  rw [if_neg (by omega), if_neg (by omega), if_pos leads.2]
  by_cases long : byte.toNat = 0xE0
  · simp [long]
  by_cases paired : byte.toNat = 0xED
  · simp [paired]
  · simp [long, paired]

theorem lead?_four
    (byte : UInt8)
    (leads : 0xF0 ≤ byte.toNat ∧ byte.toNat ≤ 0xF4) :
    lead? byte =
      some
        ⟨3, if byte.toNat = 0xF0 then 0x90 else 0x80,
          if byte.toNat = 0xF4 then 0x8F else 0xBF, byte.toNat - 0xF0, [byte]⟩ := by
  simp only [lead?, UInt8.lt_iff_toNat_lt, ← UInt8.toNat_inj, UInt8.reduceToNat]
  rw [if_neg (by omega), if_neg (by omega), if_neg (by omega), if_neg (by omega),
    if_neg (by omega)]
  by_cases long : byte.toNat = 0xF0
  · simp [long]
  by_cases last : byte.toNat = 0xF4
  · simp [last]
  · rw [if_neg long, if_pos (by omega), if_neg long, if_neg last]

theorem lead?_none
    (byte : UInt8)
    (leads : byte.toNat < 0xC2 ∨ 0xF4 < byte.toNat) :
    lead? byte = none := by
  simp only [lead?, UInt8.lt_iff_toNat_lt, ← UInt8.toNat_inj, UInt8.reduceToNat]
  grind

theorem held_of_lead?
    {byte : UInt8}
    {character : Open}
    (leads : lead? byte = some character) :
    character.held = [byte] := by
  unfold lead? at leads
  grind

/-- A byte is one of those an open character may go on with. -/
def Open.Admits (character : Open) (byte : UInt8) : Prop :=
  character.least ≤ byte ∧ byte ≤ character.greatest

/-- The number read of a character, with one more byte. -/
def Open.bitsAfter (character : Open) (byte : UInt8) : Nat :=
  character.bits * 64 + (byte.toNat - 0x80)

/-- An open character, with one more byte read and more of them due. -/
def Open.after (character : Open) (byte : UInt8) : Open :=
  ⟨character.due - 1, 0x80, 0xBF, character.bitsAfter byte, character.held ++ [byte]⟩

theorem admits_of_continues
    {due bits : Nat}
    {held : Bytes}
    {byte : UInt8}
    (continues : Continues byte) :
    Open.Admits ⟨due, 0x80, 0xBF, bits, held⟩ byte :=
  continues

theorem admits_narrowed_iff
    {due bits : Nat}
    {held : Bytes}
    {byte low high : UInt8}
    {raised lowered : Prop}
    [Decidable raised]
    [Decidable lowered]
    (least : 0x80 ≤ low.toNat)
    (greatest : high.toNat ≤ 0xBF) :
    Open.Admits
        ⟨due, if raised then low else 0x80, if lowered then high else 0xBF, bits,
          held⟩
        byte ↔
      Continues byte ∧ (raised → low.toNat ≤ byte.toNat) ∧
        (lowered → byte.toNat ≤ high.toNat) := by
  simp only [Open.Admits, UInt8.le_iff_toNat_le, apply_ite UInt8.toNat,
    UInt8.reduceToNat, Continues]
  grind

theorem start_single
    {byte : UInt8}
    (single : byte.toNat < 0x80) :
    start byte = ([.char (Char.ofNat byte.toNat)], none) := by
  have below : byte < 0x80 := UInt8.lt_iff_toNat_lt.mpr single
  rw [start, if_pos below]

theorem start_lead
    {byte : UInt8}
    {character : Open}
    (leads : lead? byte = some character) :
    start byte = ([], some character) := by
  have above : ¬ byte < 0x80 := by
    intro below
    have single : byte.toNat < 0x80 := UInt8.lt_iff_toNat_lt.mp below
    rw [lead?_none byte (by omega)] at leads
    cases leads
  rw [start, if_neg above, leads]

theorem extend_last
    {character : Open}
    {byte : UInt8}
    (due : character.due = 1)
    (admitted : character.Admits byte) :
    extend character byte =
      ([.char (Char.ofNat (character.bitsAfter byte))], none) := by
  rw [extend, if_pos (show _ ∧ _ from admitted), due]
  rfl

theorem extend_more
    {character : Open}
    {byte : UInt8}
    {more : Nat}
    (due : character.due = more + 2)
    (admitted : character.Admits byte) :
    extend character byte = ([], some (character.after byte)) := by
  rw [extend, if_pos (show _ ∧ _ from admitted), due, if_neg (by omega), Open.after,
    due]
  rfl

theorem extend_break
    {character : Open}
    {byte : UInt8}
    (refused : ¬ character.Admits byte) :
    (extend character byte).1 = .malformed character.held :: (start byte).1 := by
  rw [extend, if_neg (show ¬ (_ ∧ _) from refused)]

/--
However as many bytes as are due complete a character, they are, after those it
holds, the encoding of the character that is answered.
-/
def Open.Keeps : Nat → Open → Prop
  | 0, _ => False
  | 1, character =>
      ∀ byte,
        character.Admits byte →
        String.utf8EncodeChar (Char.ofNat (character.bitsAfter byte)) =
          character.held ++ [byte]
  | more + 2, character =>
      ∀ byte, character.Admits byte → Open.Keeps (more + 1) (character.after byte)

/-- A character that is open keeps its promise. -/
def Kept (state : Option Open) : Prop :=
  ∀ character ∈ state, character.Keeps character.due

theorem keeps_lead
    {byte : UInt8}
    {character : Open}
    (leads : lead? byte = some character) :
    character.Keeps character.due := by
  by_cases two : 0xC2 ≤ byte.toNat ∧ byte.toNat < 0xE0
  · rw [lead?_two byte two] at leads
    cases leads
    intro second follows
    exact encodeChar_two byte second two follows
  by_cases three : 0xE0 ≤ byte.toNat ∧ byte.toNat < 0xF0
  · rw [lead?_three byte three] at leads
    cases leads
    intro second admitted third ends
    obtain ⟨follows, long, unpaired⟩ :=
      (admits_narrowed_iff (by decide) (by decide)).mp admitted
    exact encodeChar_three byte second third three follows long unpaired ends
  by_cases four : 0xF0 ≤ byte.toNat ∧ byte.toNat ≤ 0xF4
  · rw [lead?_four byte four] at leads
    cases leads
    intro second admitted third continued fourth ends
    obtain ⟨follows, long, bounded⟩ :=
      (admits_narrowed_iff (by decide) (by decide)).mp admitted
    exact encodeChar_four byte second third fourth four follows long bounded
      continued ends
  · rw [lead?_none byte (by omega)] at leads
    cases leads

theorem kept_of_lead?
    {byte : UInt8}
    {character : Open}
    (leads : lead? byte = some character) :
    Kept (some character) := by
  intro other same
  cases same
  exact keeps_lead leads

theorem kept_after
    {character : Open}
    {byte : UInt8}
    {more : Nat}
    (due : character.due = more + 2)
    (keeps : character.Keeps character.due)
    (admitted : character.Admits byte) :
    Kept (some (character.after byte)) := by
  intro other same
  cases same
  have left : (character.after byte).due = more + 1 := by
    rw [Open.after, due]
    rfl
  rw [left]
  rw [due] at keeps
  exact keeps byte admitted

/-- The bytes of the character in the middle of which a state is. -/
def held (state : Option Open) : Bytes :=
  state.elim [] Open.held

/--
What one byte does in a state: it ends a character, which encodes into the bytes
that were read of it, leaves one open, or breaks one.
-/
inductive Reads (state : Option Open) (byte : UInt8) : Prop where
  | ends
      (value : Char)
      (encoded : String.utf8EncodeChar value = held state ++ [byte])
      (read : step state byte = ([.char value], none))
  | continues
      (character : Open)
      (kept : Kept (some character))
      (gathered : character.held = held state ++ [byte])
      (read : step state byte = ([], some character))
  | breaks
      (bytes : Bytes)
      (rest : List Piece)
      (read : (step state byte).1 = .malformed bytes :: rest)

theorem reads_start (byte : UInt8) : Reads none byte := by
  by_cases single : byte.toNat < 0x80
  · exact .ends (Char.ofNat byte.toNat) (encodeChar_one byte single)
      (start_single single)
  cases leads : lead? byte with
  | none =>
      have above : ¬ byte < 0x80 := fun below =>
        single (UInt8.lt_iff_toNat_lt.mp below)
      exact .breaks [byte] [] (by rw [step, start, if_neg above, leads])
  | some character =>
      exact .continues character (kept_of_lead? leads) (held_of_lead? leads)
        (start_lead leads)

theorem reads_extend
    {character : Open}
    (kept : Kept (some character))
    (byte : UInt8) :
    Reads (some character) byte := by
  have keeps := kept character rfl
  by_cases admitted : character.Admits byte
  · match due : character.due with
    | 0 =>
        rw [due] at keeps
        exact keeps.elim
    | 1 =>
        rw [due] at keeps
        exact .ends (Char.ofNat (character.bitsAfter byte)) (keeps byte admitted)
          (extend_last due admitted)
    | more + 2 =>
        exact .continues (character.after byte) (kept_after due keeps admitted) rfl
          (extend_more due admitted)
  · exact .breaks character.held (start byte).1 (extend_break admitted)

theorem reads_step
    {state : Option Open}
    (kept : Kept state)
    (byte : UInt8) :
    Reads state byte := by
  cases state with
  | none =>
      exact reads_start byte
  | some character =>
      exact reads_extend kept byte

theorem piecesFrom_cons (state : Option Open) (byte : UInt8) (rest : Bytes) :
    piecesFrom state (byte :: rest) =
      (step state byte).1 ++ piecesFrom (step state byte).2 rest := by
  cases state <;> rfl

theorem encode_cons (value : Char) (rest : Text) :
    encode (value :: rest) = String.utf8EncodeChar value ++ encode rest :=
  rfl

/-- A text that is read from a state is what was held and then read, encoded. -/
theorem encode_of_ofPieces
    {state : Option Open}
    (kept : Kept state)
    {bytes : Bytes}
    {offset : Nat}
    {text : Text}
    (read : ofPieces offset (piecesFrom state bytes) = .ok text) :
    encode text = held state ++ bytes := by
  induction bytes generalizing state offset text with
  | nil =>
      cases state with
      | none =>
          cases read
          rfl
      | some character =>
          cases read
  | cons byte rest inductionHypothesis =>
      rw [piecesFrom_cons] at read
      cases reads_step kept byte with
      | ends value encoded stepped =>
          rw [stepped, List.singleton_append, ofPieces] at read
          cases later : ofPieces (offset + value.utf8Size) (piecesFrom none rest) with
          | error _ =>
              rw [later] at read
              cases read
          | ok tail =>
              rw [later] at read
              cases read
              have encodedTail : encode tail = rest :=
                inductionHypothesis (by intro _ opened; cases opened) later
              rw [encode_cons, encoded, encodedTail, List.append_assoc,
                List.singleton_append]
      | continues character kept' gathered stepped =>
          rw [stepped] at read
          rw [inductionHypothesis kept' read, held, Option.elim_some, gathered,
            List.append_assoc, List.singleton_append]
      | breaks bytes pieces stepped =>
          rw [stepped] at read
          cases read

theorem pieces_single
    {byte : UInt8}
    (single : byte.toNat < 0x80)
    (rest : Bytes) :
    pieces (byte :: rest) = .char (Char.ofNat byte.toNat) :: pieces rest := by
  rw [pieces, piecesFrom, step, start_single single]
  rfl

theorem pieces_lead
    {byte : UInt8}
    {character : Open}
    (leads : lead? byte = some character)
    (rest : Bytes) :
    pieces (byte :: rest) = piecesFrom (some character) rest := by
  rw [pieces, piecesFrom, step, start_lead leads]
  rfl

theorem piecesFrom_more
    {character : Open}
    {byte : UInt8}
    {more : Nat}
    (due : character.due = more + 2)
    (admitted : character.Admits byte)
    (rest : Bytes) :
    piecesFrom (some character) (byte :: rest) =
      piecesFrom (some (character.after byte)) rest := by
  rw [piecesFrom, step, extend_more due admitted]
  rfl

theorem piecesFrom_last
    {character : Open}
    {byte : UInt8}
    (due : character.due = 1)
    (admitted : character.Admits byte)
    (rest : Bytes) :
    piecesFrom (some character) (byte :: rest) =
      .char (Char.ofNat (character.bitsAfter byte)) :: pieces rest := by
  rw [piecesFrom, step, extend_last due admitted]
  rfl

theorem pieces_two
    (first second : UInt8)
    (rest : Bytes)
    (leads : 0xC2 ≤ first.toNat ∧ first.toNat < 0xE0)
    (follows : Continues second) :
    pieces (first :: second :: rest) =
      .char (Char.ofNat ((first.toNat - 0xC0) * 64 + (second.toNat - 0x80))) ::
        pieces rest := by
  rw [pieces_lead (lead?_two first leads)]
  exact piecesFrom_last rfl (admits_of_continues follows) rest

theorem pieces_three
    (first second third : UInt8)
    (rest : Bytes)
    (leads : 0xE0 ≤ first.toNat ∧ first.toNat < 0xF0)
    (follows : Continues second)
    (long : first.toNat = 0xE0 → 0xA0 ≤ second.toNat)
    (unpaired : first.toNat = 0xED → second.toNat ≤ 0x9F)
    (ends : Continues third) :
    pieces (first :: second :: third :: rest) =
      .char
          (Char.ofNat
            (((first.toNat - 0xE0) * 64 + (second.toNat - 0x80)) * 64 +
              (third.toNat - 0x80))) ::
        pieces rest := by
  rw [pieces_lead (lead?_three first leads), piecesFrom_more rfl
    ((admits_narrowed_iff (by decide) (by decide)).mpr ⟨follows, long, unpaired⟩)]
  exact piecesFrom_last rfl (admits_of_continues ends) rest

theorem pieces_four
    (first second third fourth : UInt8)
    (rest : Bytes)
    (leads : 0xF0 ≤ first.toNat ∧ first.toNat ≤ 0xF4)
    (follows : Continues second)
    (long : first.toNat = 0xF0 → 0x90 ≤ second.toNat)
    (bounded : first.toNat = 0xF4 → second.toNat ≤ 0x8F)
    (continued : Continues third)
    (ends : Continues fourth) :
    pieces (first :: second :: third :: fourth :: rest) =
      .char
          (Char.ofNat
            ((((first.toNat - 0xF0) * 64 + (second.toNat - 0x80)) * 64 +
              (third.toNat - 0x80)) * 64 + (fourth.toNat - 0x80))) ::
        pieces rest := by
  rw [pieces_lead (lead?_four first leads), piecesFrom_more rfl
    ((admits_narrowed_iff (by decide) (by decide)).mpr ⟨follows, long, bounded⟩)]
  exact
    (piecesFrom_more rfl (admits_of_continues continued) (fourth :: rest)).trans
      (piecesFrom_last rfl (admits_of_continues ends) rest)

-- By how many bytes encode the character.
theorem pieces_encodeChar (value : Char) (rest : Bytes) :
    pieces (String.utf8EncodeChar value ++ rest) = .char value :: pieces rest := by
  have valid : value.val.toNat.isValidChar := value.valid
  have same : Char.ofNat value.val.toNat = value := Char.ofNat_toNat value
  unfold String.utf8EncodeChar
  generalize value.val.toNat = n at *
  rw [← same]
  unfold Nat.isValidChar at valid
  dsimp only
  split
  · have first : (UInt8.ofNat n).toNat = n := toNat_ofNat (by omega)
    rw [List.singleton_append, pieces_single (by omega), first]
  split
  · have first := toNat_ofNat (n := n / 64 % 32 + 192) (by omega)
    have second := toNat_ofNat (n := n % 64 + 128) (by omega)
    have bits : (n / 64 % 32 + 192 - 0xC0) * 64 + (n % 64 + 128 - 0x80) = n := by
      omega
    simp only [List.cons_append, List.nil_append]
    rw [pieces_two _ _ _ (by omega) (by unfold Continues; omega), first, second, bits]
  split
  · have first := toNat_ofNat (n := n / 4096 % 16 + 224) (by omega)
    have second := toNat_ofNat (n := n / 64 % 64 + 128) (by omega)
    have third := toNat_ofNat (n := n % 64 + 128) (by omega)
    have bits :
        ((n / 4096 % 16 + 224 - 0xE0) * 64 + (n / 64 % 64 + 128 - 0x80)) * 64 +
          (n % 64 + 128 - 0x80) = n := by
      omega
    simp only [List.cons_append, List.nil_append]
    rw [pieces_three _ _ _ _ (by omega) (by unfold Continues; omega) (by omega)
      (by omega) (by unfold Continues; omega), first, second, third, bits]
  · have first := toNat_ofNat (n := n / 262144 % 8 + 240) (by omega)
    have second := toNat_ofNat (n := n / 4096 % 64 + 128) (by omega)
    have third := toNat_ofNat (n := n / 64 % 64 + 128) (by omega)
    have fourth := toNat_ofNat (n := n % 64 + 128) (by omega)
    have bits :
        (((n / 262144 % 8 + 240 - 0xF0) * 64 + (n / 4096 % 64 + 128 - 0x80)) * 64 +
          (n / 64 % 64 + 128 - 0x80)) * 64 + (n % 64 + 128 - 0x80) = n := by
      omega
    simp only [List.cons_append, List.nil_append]
    rw [pieces_four _ _ _ _ _ (by omega) (by unfold Continues; omega) (by omega)
      (by omega) (by unfold Continues; omega) (by unfold Continues; omega), first,
      second, third, fourth, bits]

theorem pieces_encode (text : Text) : pieces (encode text) = text.map .char := by
  induction text with
  | nil =>
      rfl
  | cons value rest inductionHypothesis =>
      rw [encode_cons, pieces_encodeChar, inductionHypothesis, List.map_cons]

theorem ofPieces_chars (offset : Nat) (text : Text) :
    ofPieces offset (text.map .char) = .ok text := by
  induction text generalizing offset with
  | nil =>
      rfl
  | cons value rest inductionHypothesis =>
      rw [List.map_cons, ofPieces, inductionHypothesis]
      rfl

/-- Bytes decode into a text exactly if they encode it. -/
theorem decode_eq_ok_iff (bytes : Bytes) (text : Text) :
    decode bytes = .ok text ↔ encode text = bytes := by
  constructor
  · intro read
    exact encode_of_ofPieces (by intro _ opened; cases opened) read
  · intro encoded
    rw [← encoded, decode, pieces_encode]
    exact ofPieces_chars 0 text

end Utf8
end JobShell
