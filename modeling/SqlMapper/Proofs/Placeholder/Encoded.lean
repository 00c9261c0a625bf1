import SqlMapper.Proofs.Decoding
import SqlMapper.Proofs.Lookup
import SqlMapper.Proofs.Placeholder.Bytes
import SqlMapper.Proofs.Placeholder.Pieces

/-!
Placeholders in the bytes of a text. An opening in the bytes is one in the text, so the bytes are cut
where the text is cut, and the names, the prepared statement and the bindings for the bytes are those
for the text.
-/

namespace SqlMapper.Placeholder

open Sql
open Text (byte encode encodeChars)

section Cuts

def Piece.encoded (piece : Piece) : BytePiece :=
  ⟨encodeChars piece.before, encodeChars piece.name⟩

theorem encodeChars_mark {c : Char} (ascii : c.toNat < 128) (rest : List Char) :
    encodeChars (c :: rest) = byte c :: encodeChars rest := by
  rw [Text.encodeChars_cons, Text.utf8EncodeChar_ascii c ascii, List.singleton_append]

theorem encodeChars_opening : encodeChars opening = openingBytes := by
  rw [opening, encodeChars_mark (by decide), encodeChars_mark (by decide)]
  rfl

theorem encodeChars_spelled (pieces : List Piece) (tail : List Char) :
    encodeChars (spelled pieces tail) =
      spelledBytes (pieces.map Piece.encoded) (encodeChars tail) := by
  induction pieces with
  | nil => rfl
  | cons piece pieces ih =>
      rw [spelled, Text.encodeChars_append, encodeChars_mark (by decide),
        encodeChars_mark (by decide), Text.encodeChars_append, encodeChars_mark (by decide), ih]
      rfl

theorem encodeChars_marked (pieces : List Piece) (tail : List Char) :
    encodeChars (marked pieces tail) =
      markedBytes (pieces.map Piece.encoded) (encodeChars tail) := by
  induction pieces with
  | nil => rfl
  | cons piece pieces ih =>
      rw [marked, Text.encodeChars_append, encodeChars_mark (by decide), ih]
      rfl

/-- An opening in the bytes of a text is one of the text. -/
theorem exists_of_openingBytes {text : List Char} {before after : List UInt8}
    (same : encodeChars text = before ++ openingBytes ++ after) :
    ∃ left right, text = left ++ opening ++ right ∧ after = encodeChars right := by
  rw [List.append_assoc] at same
  obtain ⟨left, rest, rfl, -, ends⟩ := Text.exists_of_encodeChars_append same (by
    intro b first
    obtain rfl : 0x23 = b := by simpa [openingBytes] using first
    decide)
  rw [← encodeChars_opening] at ends
  obtain ⟨right, rfl⟩ := (Text.encodeChars_prefix_iff opening rest).mp ⟨after, ends⟩
  rw [Text.encodeChars_append] at ends
  exact ⟨left, right, (List.append_assoc ..).symm, List.append_cancel_left ends⟩

theorem openingBytes_infix_iff (text : List Char) :
    openingBytes <:+: encodeChars text ↔ opening <:+: text := by
  constructor
  · rintro ⟨before, after, same⟩
    obtain ⟨left, right, rfl, -⟩ := exists_of_openingBytes same.symm
    exact ⟨left, right, rfl⟩
  · rintro ⟨left, right, rfl⟩
    refine ⟨encodeChars left, encodeChars right, ?_⟩
    rw [Text.encodeChars_append, Text.encodeChars_append, encodeChars_opening]

/-- The bytes of a text are cut where the text is cut. -/
theorem dividesBytes_encode {text : List Char} {pieces : List Piece} {tail : List Char}
    (divides : Divides text pieces tail) :
    DividesBytes (encodeChars text) (pieces.map Piece.encoded) (encodeChars tail) where
  whole := by rw [divides.whole, encodeChars_spelled]
  plain := by
    rw [List.forall_mem_map]
    intro piece member
    rw [Piece.encoded, openingBytes_infix_iff]
    exact divides.plain piece member
  named := by
    rw [List.forall_mem_map]
    intro piece member closes
    exact divides.named piece member (Text.mem_encodeChars_ascii (by decide) piece.name closes)
  unclosed := by
    intro before after same closes
    obtain ⟨left, right, cut, rfl⟩ := exists_of_openingBytes same
    exact divides.unclosed left right cut (Text.mem_encodeChars_ascii (by decide) right closes)

theorem names_encoded (pieces : List Piece) :
    (pieces.map Piece.encoded).map BytePiece.name = (pieces.map Piece.property).map encode := by
  simp [Piece.encoded, Piece.property]

theorem placeholdersBytes_encode (text : String) :
    placeholdersBytes (encode text) = ((placeholders text).1.map encode, (placeholders text).2) := by
  obtain ⟨pieces, tail, divides⟩ := exists_divides text.toList
  obtain ⟨names, closed⟩ := scan_divides divides
  obtain ⟨namesBytes, closedBytes⟩ := placeholdersBytes_divides (dividesBytes_encode divides)
  rw [← Text.encode_eq] at namesBytes closedBytes
  rw [openingBytes_infix_iff] at closedBytes
  rw [placeholders_eq]
  apply Prod.ext
  · rw [namesBytes, names_encoded, Placeholder.names, names]
  · have alike := closedBytes.trans closed.symm
    rwa [Bool.eq_false_iff, Bool.eq_false_iff, not_iff_not, ← Bool.eq_iff_iff] at alike

end Cuts

section Preparing

variable {shape : ResultMap} {record : Record}

theorem encode_beq (first second : String) : (encode first == encode second) = (first == second) :=
  Bool.eq_iff_iff.mpr (by simpa using ⟨Text.encode_injective, congrArg encode⟩)

theorem fieldBytes?_encode (name : String) : fieldBytes? shape (encode name) = shape.field? name := by
  simp only [fieldBytes?, ResultMap.field?, encode_beq]

theorem valueBytes?_encode (name : String) : valueBytes? record (encode name) = record.get? name := by
  simp only [valueBytes?, Record.get?, encode_beq]
  induction record.entries with
  | nil => rfl
  | cons entry rest ih =>
      rw [lookup_cons_ite, List.find?_cons, ← ih]
      by_cases same : name = entry.1
      · simp [same]
      · simp [same, beq_false_of_ne (Ne.symm same)]

theorem firstStrangeBytes?_encode (names : List String) :
    firstStrangeBytes? shape (names.map encode) = (firstStrange? shape names).map encode := by
  simp only [firstStrangeBytes?, firstStrange?, List.find?_map, Function.comp_def,
    fieldBytes?_encode]

theorem bindsBytes_encode {named : String × Nat} {b : Binding} :
    BindsBytes shape record (Prod.map encode id named) b ↔ Binds shape record named b := by
  simp only [BindsBytes, Binds, Prod.map_fst, Prod.map_snd, id, fieldBytes?_encode,
    valueBytes?_encode]

/-- Nothing else can be bound. -/
theorem rightUnique_bindsBytes : Relator.RightUnique (BindsBytes shape record) := by
  rintro named ⟨_, f, _⟩ ⟨_, _, _⟩ ⟨rfl, found, value⟩ ⟨rfl, again, other⟩
  cases found.symm.trans again
  exact congrArg (Binding.mk named.2 f) (value.trans other.symm)

variable (shape record)

theorem prepareBytes_encode (sql : String) :
    prepareBytes shape record (encode sql) =
      ((prepare shape record sql).mapError encode).map fun done => (encode done.1, done.2) := by
  obtain ⟨pieces, tail, divides⟩ := exists_divides sql.toList
  have cut := dividesBytes_encode divides
  rw [← Text.encode_eq] at cut
  have strangeBytes : firstStrangeBytes? shape ((pieces.map Piece.encoded).map BytePiece.name) =
      (firstStrange? shape (pieces.map Piece.property)).map encode := by
    rw [names_encoded, firstStrangeBytes?_encode]
  cases strange : firstStrange? shape (pieces.map Piece.property) with
  | some name =>
      rw [strange] at strangeBytes
      rw [(prepare_eq_error_iff shape record divides name).mpr strange,
        (prepareBytes_eq_error_iff shape record cut (encode name)).mpr strangeBytes]
      rfl
  | none =>
      rw [strange] at strangeBytes
      obtain ⟨bindings, prepared, binds⟩ := prepare_of_pieces shape record divides strange
      obtain ⟨others, preparedBytes, bindsBytes⟩ :=
        prepareBytes_of_pieces shape record cut strangeBytes
      rw [names_encoded, List.zipIdx_map] at bindsBytes
      have same : List.Forall₂ (BindsBytes shape record)
          ((pieces.map Piece.property).zipIdx.map (Prod.map encode id)) bindings :=
        List.forall₂_map_left_iff.mpr (binds.imp fun _ _ => bindsBytes_encode.mpr)
      rw [prepared, preparedBytes, rightUnique_bindsBytes.forall₂ bindsBytes same]
      simp [Except.map, Except.mapError, encodeChars_marked]

end Preparing

theorem strangePlaceholderBytes_encode (name : String) :
    strangePlaceholderBytes (encode name) = encode (strangePlaceholder name) := by
  unfold strangePlaceholderBytes strangePlaceholder
  generalize "placeholder #\x7b" = start, "\x7d: " = stop
  simp only [Text.encode_append, List.append_assoc]

/-- Every text is in one way made of plain texts, each with a placeholder behind it, and a tail in
which nothing is closed; the names collected from it are those of the placeholders, and it is prepared
unless one of them is no field. All bytes are, whether they are text or not. The names and the prepared
statement of the bytes of a text are those of the text. -/
theorem prepared_by_pieces (shape : ResultMap) (record : Record) :
    (∀ sql : String, ∃ pieces tail, Divides sql.toList pieces tail ∧
      (∀ others rest, Divides sql.toList others rest → others = pieces ∧ rest = tail) ∧
      Agrees shape record sql pieces tail) ∧
    (∀ sql : List UInt8, ∃ pieces tail, DividesBytes sql pieces tail ∧
      (∀ others rest, DividesBytes sql others rest → others = pieces ∧ rest = tail) ∧
      AgreesBytes shape record sql pieces tail) ∧
    ∀ sql : String,
      placeholdersBytes (encode sql) = ((placeholders sql).1.map encode, (placeholders sql).2) ∧
      prepareBytes shape record (encode sql) =
        (((prepare shape record sql).mapError encode).map fun done => (encode done.1, done.2)) ∧
      ∀ name, strangePlaceholderBytes (encode name) = encode (strangePlaceholder name) := by
  refine ⟨prepare_by_pieces shape record, fun sql => ?_, fun sql =>
    ⟨placeholdersBytes_encode sql, prepareBytes_encode shape record sql,
      strangePlaceholderBytes_encode⟩⟩
  obtain ⟨pieces, tail, divides⟩ := exists_dividesBytes sql
  exact ⟨pieces, tail, divides, fun others rest other => dividesBytes_unique other divides,
    agreesBytes_of_divides shape record divides⟩

end SqlMapper.Placeholder
