import SqlMapper.Proofs.Decoding
import SqlMapper.Xml.Token
import SqlMapper.Xml.Writer

/-!
Reading written character data. References stand for the characters that mean something to the
reader, every other byte is kept, and so a written text is read up to the mark that ends it.
-/

namespace SqlMapper.Xml

open Text (encodeChars)

/-- Characters of a document, without the one that a reader takes for a line end. -/
def Legal (text : List Char) : Prop :=
  ∀ c ∈ text, isCharacter c = true ∧ c ≠ '\r'

instance (text : List Char) : Decidable (Legal text) :=
  List.decidableBAll _ text

def escapedChars (text : List Char) : List Char :=
  text.flatMap escapedChar

/-- The bytes that the reader keeps as they are. -/
def Kept (mode : TextMode) (b : UInt8) : Prop :=
  b ≠ byte '<' ∧ b ≠ byte '&' ∧ b ≠ byte '>' ∧ b ≠ 0x0d ∧ mode ≠ .quoted b

/-- Whatever was read before, and whatever comes next, some bytes are read as others. -/
def Runs (mode : TextMode) (bytes out : Bytes) : Prop :=
  ∀ fuel older old done rest, old ≠ 0x0d → (bytes ++ rest).length < fuel →
    ∃ left before last, last ≠ 0x0d ∧ rest.length < left ∧
      textRun mode fuel older old done (bytes ++ rest) =
        textRun mode left before last (out.reverse ++ done) rest

section Runs

variable {mode : TextMode}

theorem runs_nil : Runs mode [] [] := by
  intro fuel older old done rest old_ne room
  exact ⟨fuel, older, old, old_ne, room, rfl⟩

theorem runs_append {first second out more : Bytes} (left : Runs mode first out)
    (right : Runs mode second more) : Runs mode (first ++ second) (out ++ more) := by
  intro fuel older old done rest old_ne room
  rw [List.append_assoc] at room ⊢
  obtain ⟨fuel, older, old, old_ne, room, begun⟩ := left fuel older old done _ old_ne room
  obtain ⟨fuel, older, old, old_ne, room, ended⟩ := right fuel older old _ rest old_ne room
  refine ⟨fuel, older, old, old_ne, room, ?_⟩
  rw [begun, ended, List.reverse_append, List.append_assoc]

theorem runs_byte {b : UInt8} (kept : Kept mode b) : Runs mode [b] [b] := by
  obtain ⟨less, ampersand, greater, line, quote⟩ := kept
  intro fuel older old done rest old_ne room
  cases fuel with
  | zero => cases room
  | succ fuel =>
      refine ⟨fuel, old, b, line, by simpa using room, ?_⟩
      rw [List.singleton_append, textRun]
      simp only [beq_false_of_ne less, beq_false_of_ne ampersand, beq_false_of_ne greater,
        beq_false_of_ne line, beq_false_of_ne old_ne, quote, Bool.and_false, Bool.false_and,
        Bool.false_eq_true, if_false]
      rfl

theorem runs_bytes {bytes : Bytes} (kept : ∀ b ∈ bytes, Kept mode b) : Runs mode bytes bytes := by
  induction bytes with
  | nil => exact runs_nil
  | cons b rest ih =>
      obtain ⟨here, later⟩ := List.forall_mem_cons.mp kept
      exact runs_append (runs_byte here) (ih later)

theorem nameRun_append {run : Bytes} (names : run.all isNameByte = true) {b : UInt8}
    (stop : isNameByte b = false) (rest : Bytes) :
    nameRun (run ++ b :: rest) = .ok (run, b :: rest) := by
  induction run with
  | nil =>
      rw [List.nil_append, nameRun, if_neg (by simp [stop])]
  | cons first run ih =>
      rw [List.all_cons, Bool.and_eq_true] at names
      obtain ⟨here, later⟩ := names
      rw [List.cons_append, nameRun, if_pos here, ih later]
      rfl

theorem reference_entity {name : Bytes} {c : Char} (names : name.all isNameByte = true)
    (means : entity? name = some c) (rest : Bytes) :
    reference (name ++ byte ';' :: rest) = .ok (c, rest) := by
  cases name with
  | nil => cases means
  | cons first tail =>
      have letter : (first == byte '#') = false := by
        apply beq_false_of_ne
        rintro rfl
        exact absurd (List.all_eq_true.mp names (byte '#') List.mem_cons_self) (by decide)
      have stop : isNameByte (byte ';') = false := by decide
      have run := nameRun_append names stop rest
      rw [List.cons_append] at run ⊢
      simp only [reference.eq_def, letter, Bool.false_eq_true, if_false, run, bind, Except.bind,
        closeReference, beq_self_eq_true, if_true, means]

theorem runs_entity (name : Bytes) {c : Char} (names : name.all isNameByte = true)
    (means : entity? name = some c) (plain : mode ≠ .verbatim) (other : mode ≠ .quoted (byte '&')) :
    Runs mode (byte '&' :: (name ++ [byte ';'])) (String.utf8EncodeChar c) := by
  intro fuel older old done rest old_ne room
  cases fuel with
  | zero => cases room
  | succ fuel =>
      refine ⟨fuel, 0, 0, by decide, ?_, ?_⟩
      · simp only [List.cons_append, List.append_assoc, List.length_cons, List.length_append] at room
        omega
      · have read := reference_entity names means rest
        have bytes : Text.encode c.toString = String.utf8EncodeChar c := by
          rw [Text.encode_eq, Char.toString_eq_singleton, String.toList_singleton]
          exact List.append_nil _
        rw [List.cons_append, List.append_assoc, List.singleton_append, textRun]
        simp only [show (byte '&' == byte '>') = false from rfl,
          show (byte '&' == byte '<') = false from rfl, beq_self_eq_true, other, Bool.and_false,
          Bool.false_and, Bool.false_eq_true, if_false, plain, ne_eq, not_false_eq_true,
          decide_true, Bool.and_true, if_true, read, bind, Except.bind, bytes]

end Runs

section Texts

variable {mode : TextMode}

/-- The modes in which the writer's references are read. -/
def TextMode.Refers (mode : TextMode) : Prop :=
  mode = .plain ∨ mode = .quoted (byte '"')

theorem kept_of_mem (refers : mode.Refers) {c : Char} {b : UInt8}
    (apart : c ≠ '&' ∧ c ≠ '<' ∧ c ≠ '>' ∧ c ≠ '"' ∧ c ≠ '\r')
    (member : b ∈ String.utf8EncodeChar c) : Kept mode b := by
  have other (special : Char) (ascii : special.toNat < 128) (differs : c ≠ special) :
      b ≠ byte special := by
    rintro rfl
    exact differs (Text.mem_utf8EncodeChar_ascii ascii member)
  obtain ⟨ampersand, less, greater, quote, line⟩ := apart
  refine ⟨other '<' (by decide) less, other '&' (by decide) ampersand, other '>' (by decide) greater,
    other '\r' (by decide) line, ?_⟩
  rcases refers with rfl | rfl
  · exact TextMode.noConfusion
  · intro same
    exact other '"' (by decide) quote (TextMode.quoted.inj same).symm

theorem runs_escapedChar (refers : mode.Refers) {c : Char} (legal : isCharacter c = true)
    (line : c ≠ '\r') : Runs mode (encodeChars (escapedChar c)) (String.utf8EncodeChar c) := by
  have plain : mode ≠ .verbatim := by
    rcases refers with rfl | rfl <;> decide
  have other : mode ≠ .quoted (byte '&') := by
    rcases refers with rfl | rfl <;> decide
  simp only [escapedChar, legal, if_true, beq_iff_eq]
  by_cases ampersand : c = '&'
  · subst ampersand
    exact runs_entity ("amp".toList.map byte) (by decide) (by decide) plain other
  by_cases less : c = '<'
  · subst less
    exact runs_entity ("lt".toList.map byte) (by decide) (by decide) plain other
  by_cases greater : c = '>'
  · subst greater
    exact runs_entity ("gt".toList.map byte) (by decide) (by decide) plain other
  by_cases apostrophe : c = '\''
  · subst apostrophe
    exact runs_entity ("apos".toList.map byte) (by decide) (by decide) plain other
  by_cases quote : c = '"'
  · subst quote
    exact runs_entity ("quot".toList.map byte) (by decide) (by decide) plain other
  · have kept := runs_bytes fun b => kept_of_mem (b := b) refers ⟨ampersand, less, greater, quote, line⟩
    simpa [ampersand, less, greater, apostrophe, quote] using kept

theorem runs_escapedChars (refers : mode.Refers) {text : List Char} (legal : Legal text) :
    Runs mode (encodeChars (escapedChars text)) (encodeChars text) := by
  induction text with
  | nil => exact runs_nil
  | cons c rest ih =>
      obtain ⟨⟨here, line⟩, later⟩ := List.forall_mem_cons.mp legal
      rw [escapedChars, List.flatMap_cons, Text.encodeChars_append, Text.encodeChars_cons]
      exact runs_append (runs_escapedChar refers here line) (ih later)

theorem textFault_legal {text : List Char} (legal : Legal text) :
    textFault (text.map .char) = none := by
  induction text with
  | nil => rfl
  | cons c rest ih =>
      obtain ⟨⟨here, -⟩, later⟩ := List.forall_mem_cons.mp legal
      rw [List.map_cons, textFault, if_pos here]
      exact ih later

/-- A written text is read up to what ends it. -/
theorem text_of_ends (refers : mode.Refers) {chars : List Char} (legal : Legal chars)
    {ending rest : Bytes}
    (ends : ∀ fuel older old done, ending.length < fuel →
      textRun mode fuel older old done ending = .ok (done, rest)) :
    text mode (encodeChars (escapedChars chars) ++ ending) = .ok (String.ofList chars, rest) := by
  obtain ⟨left, older, old, -, room, run⟩ := runs_escapedChars refers legal
    ((encodeChars (escapedChars chars) ++ ending).length + 1) 0 0 [] ending (by decide) (by omega)
  rw [text, run, ends left older old _ room]
  simp only [bind, Except.bind, List.append_nil, List.reverse_reverse, Text.pieces_encodeChars,
    textFault_legal legal, List.map_map]
  have shown : chars.map (Text.Piece.shown ∘ Text.Piece.char) = chars := List.map_id chars
  rw [shown]
  rfl

theorem escapedChar_ne_nil (c : Char) : escapedChar c ≠ [] := by
  unfold escapedChar
  repeat' split
  all_goals exact List.cons_ne_nil _ _

theorem less_not_mem_escapedChar (c : Char) : '<' ∉ escapedChar c := by
  unfold escapedChar
  split
  · decide
  split
  · decide
  · next other =>
      repeat' split
      all_goals first
        | decide
        | exact fun inside => other (beq_iff_eq.mpr (List.mem_singleton.mp inside).symm)

theorem head_escapedChars {chars : List Char} (filled : chars ≠ []) :
    ∃ b tail, encodeChars (escapedChars chars) = b :: tail ∧ (b != byte '<') = true := by
  cases spelled : encodeChars (escapedChars chars) with
  | nil =>
      obtain ⟨c, rest, rfl⟩ := List.exists_cons_of_ne_nil filled
      obtain ⟨first, more, starts⟩ := List.exists_cons_of_ne_nil (escapedChar_ne_nil c)
      rw [escapedChars, List.flatMap_cons, starts, List.cons_append] at spelled
      exact absurd spelled (Text.encodeChars_ne_nil _ _)
  | cons b tail =>
      refine ⟨b, tail, rfl, bne_iff_ne.mpr ?_⟩
      rintro rfl
      have inside : byte '<' ∈ encodeChars (escapedChars chars) := by
        rw [spelled]
        exact List.mem_cons_self
      obtain ⟨c, -, here⟩ := List.mem_flatMap.mp (Text.mem_encodeChars_ascii (by decide) _ inside)
      exact less_not_mem_escapedChar c here

/-- What ends character data: markup, or the end of the document. -/
def Breaks (rest : Bytes) : Prop :=
  rest = [] ∨ ∃ tail, rest = byte '<' :: tail

theorem text_plain {chars : List Char} (legal : Legal chars) {rest : Bytes} (breaks : Breaks rest) :
    text .plain (encodeChars (escapedChars chars) ++ rest) = .ok (String.ofList chars, rest) := by
  apply text_of_ends (.inl rfl) legal
  intro fuel older old done room
  cases fuel with
  | zero => cases room
  | succ fuel =>
      rcases breaks with rfl | ⟨tail, rfl⟩
      · rfl
      · have less : (byte '<' == byte '>') = false := rfl
        simp [textRun, less]

theorem text_quoted {chars : List Char} (legal : Legal chars) (rest : Bytes) :
    text (.quoted (byte '"')) (encodeChars (escapedChars chars) ++ byte '"' :: rest) =
      .ok (String.ofList chars, rest) := by
  apply text_of_ends (.inr rfl) legal
  intro fuel older old done room
  cases fuel with
  | zero => cases room
  | succ fuel =>
      have greater : (byte '"' == byte '>') = false := rfl
      have less : (byte '"' == byte '<') = false := rfl
      simp [textRun, greater, less]

end Texts

end SqlMapper.Xml
