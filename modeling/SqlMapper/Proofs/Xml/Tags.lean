import SqlMapper.Proofs.Xml.CharacterData

/-!
Reading written tags. A name ends at the first byte that cannot stand in one, so the attributes of a
start tag are read one by one up to its end.
-/

namespace SqlMapper.Xml

open Text (encode encodeChars)

section Names

def Plain (name : Name) : Prop :=
  name.space = "" ∧ isName name.tag.toList = true ∧ ':' ∉ name.tag.toList

instance (name : Name) : Decidable (Plain name) :=
  inferInstanceAs (Decidable (_ ∧ _ ∧ _))

theorem isNameByte_ascii {code : Nat} (ascii : code < 128)
    (tail : (Text.Printable.within code nameStarts || Text.Printable.within code nameTails) = true) :
    isNameByte (UInt8.ofNat code) = true := by
  have all : ∀ code < 128,
      (Text.Printable.within code nameStarts || Text.Printable.within code nameTails) = true →
        isNameByte (UInt8.ofNat code) = true := by
    decide +kernel
  exact all code ascii tail

theorem isNameByte_of_tail {c : Char} (tail : isNameTail c = true) :
    (String.utf8EncodeChar c).all isNameByte = true := by
  by_cases high : 128 ≤ c.toNat
  · rw [List.all_eq_true]
    intro b member
    have large : 0x80 ≤ b := UInt8.le_iff_toNat_le.mpr (Text.high_of_mem_utf8EncodeChar high b member)
    simp [isNameByte, large]
  · rw [Text.utf8EncodeChar_ascii c (by omega), List.all_cons, List.all_nil, Bool.and_true]
    exact isNameByte_ascii (by omega) tail

theorem isNameByte_of_name {chars : List Char} (named : isName chars = true) :
    (encodeChars chars).all isNameByte = true := by
  rw [encodeChars, List.all_flatMap, List.all_eq_true]
  intro c member
  apply isNameByte_of_tail
  cases chars with
  | nil => cases named
  | cons first rest =>
      rw [isName, Bool.and_eq_true, List.all_eq_true] at named
      rcases List.mem_cons.mp member with rfl | later
      · rw [isNameTail, named.1, Bool.true_or]
      · exact named.2 c later

theorem plainName_append {chars : List Char} (named : isName chars = true) (missing : Fault)
    {b : UInt8} (stop : isNameByte b = false) (rest : Bytes) :
    plainName missing (encodeChars chars ++ b :: rest) = .ok (chars, b :: rest) := by
  have filled : (encodeChars chars).isEmpty = false := by
    cases chars with
    | nil => cases named
    | cons c tail =>
        rw [List.isEmpty_eq_false_iff]
        exact Text.encodeChars_ne_nil c tail
  rw [plainName, nameRun_append (isNameByte_of_name named) stop]
  simp only [bind, Except.bind, filled, Bool.false_eq_true, if_false, Text.pieces_encodeChars,
    Text.characters?_map_char, named, if_true]
  rfl

variable {name : Name}

theorem render_plain (plain : Plain name) : name.render = name.tag := by
  rw [Name.render, plain.1]
  rfl

theorem splitName_plain (plain : Plain name) (missing : Fault) {b : UInt8}
    (stop : isNameByte b = false) (rest : Bytes) :
    splitName missing (encode name.render ++ b :: rest) = .ok (name, b :: rest) := by
  obtain ⟨bare, named, single⟩ := plain
  rw [render_plain ⟨bare, named, single⟩, Text.encode_eq, splitName,
    plainName_append named missing stop]
  simp only [bind, Except.bind, Name.ofChars, Text.splitAt_of_not_mem single, String.ofList_toList]
  rw [← bare]
  rfl

theorem starts_plain (plain : Plain name) :
    ∃ b tail, encode name.render = b :: tail ∧ isNameByte b = true := by
  have bytes := isNameByte_of_name plain.2.1
  rw [render_plain plain, Text.encode_eq]
  cases spelled : encodeChars name.tag.toList with
  | nil =>
      obtain ⟨-, named, -⟩ := plain
      cases chars : name.tag.toList with
      | nil =>
          rw [chars] at named
          cases named
      | cons c rest =>
          rw [chars] at spelled
          exact absurd spelled (Text.encodeChars_ne_nil c rest)
  | cons b tail =>
      rw [spelled, List.all_cons, Bool.and_eq_true] at bytes
      exact ⟨b, tail, rfl, bytes.1⟩

theorem skipSpace_name {b : UInt8} (named : isNameByte b = true) (rest : Bytes) :
    skipSpace (b :: rest) = b :: rest := by
  apply List.dropWhile_cons_of_neg
  intro space
  simp only [Bool.or_eq_true, beq_iff_eq] at space
  rcases space with ((rfl | rfl) | rfl) | rfl <;> exact absurd named (by decide)

theorem beq_of_name {b other : UInt8} (named : isNameByte b = true)
    (mark : isNameByte other = false) : (b == other) = false := by
  apply beq_false_of_ne
  rintro rfl
  rw [named] at mark
  cases mark

end Names

section Attributes

/-- An attribute that is read as it was written. -/
def Faithful (a : Attribute) : Prop :=
  Plain a.name ∧ Legal a.value.toList

theorem encode_render (a : Attribute) (rest : Bytes) :
    encode a.render ++ rest = 0x20 :: (encode a.name.render ++ byte '=' :: byte '"' ::
      (encodeChars (escapedChars a.value.toList) ++ byte '"' :: rest)) := by
  have space : encode " " = [0x20] := Text.encode_eq " "
  have begins : encode "=\"" = [byte '=', byte '"'] := Text.encode_eq "=\""
  have ends : encode "\"" = [byte '"'] := Text.encode_eq "\""
  simp [Attribute.render, Text.encode_append, space, begins, ends, escaped, escapedChars]

theorem attributes_cons {a : Attribute} (faithful : Faithful a) (fuel : Nat) (done : List Attribute)
    (rest : Bytes) :
    attributes (fuel + 1) done (encode a.render ++ rest) = attributes fuel (a :: done) rest := by
  obtain ⟨plain, legal⟩ := faithful
  obtain ⟨b, tail, spelled, named⟩ := starts_plain plain
  have start : skipSpace (encode a.render ++ rest) = encode a.name.render ++ byte '=' :: byte '"' ::
      (encodeChars (escapedChars a.value.toList) ++ byte '"' :: rest) := by
    rw [encode_render, spelled, List.cons_append]
    exact skipSpace_name named _
  have name := splitName_plain plain .attributeName (b := byte '=') (by decide) (byte '"' ::
    (encodeChars (escapedChars a.value.toList) ++ byte '"' :: rest))
  have value := text_quoted legal rest
  have equals (more : Bytes) : skipSpace (byte '=' :: more) = byte '=' :: more := rfl
  have quote (more : Bytes) : skipSpace (byte '"' :: more) = byte '"' :: more := rfl
  rw [spelled, List.cons_append] at start name
  rw [attributes]
  simp only [start, next, name, equals, quote, value, bind, Except.bind, bne_self_eq_false,
    beq_of_name named (show isNameByte (byte '/') = false by decide),
    beq_of_name named (show isNameByte (byte '>') = false by decide), Bool.false_eq_true, if_false,
    Bool.false_and, String.ofList_toList]

theorem attributes_all {list : List Attribute} (faithful : ∀ a ∈ list, Faithful a) {fuel : Nat}
    (room : list.length < fuel) (done : List Attribute) {ending rest : Bytes} {closed : Bool}
    (ends : ∀ fuel done, attributes (fuel + 1) done ending = .ok ((done, closed), rest)) :
    attributes fuel done (list.flatMap (fun a => encode a.render) ++ ending) =
      .ok ((list.reverse ++ done, closed), rest) := by
  induction list generalizing fuel done with
  | nil =>
      cases fuel with
      | zero => cases room
      | succ fuel => exact ends fuel done
  | cons a others ih =>
      obtain ⟨here, later⟩ := List.forall_mem_cons.mp faithful
      cases fuel with
      | zero => cases room
      | succ fuel =>
          rw [List.flatMap_cons, List.append_assoc, attributes_cons here,
            ih later (Nat.lt_of_succ_lt_succ room), List.reverse_cons, List.append_assoc]
          rfl

theorem mergeAttributes_distinct {done list : List Attribute}
    (distinct : ((done ++ list).map (·.name)).Nodup) : mergeAttributes done list = done ++ list := by
  induction list generalizing done with
  | nil => rw [mergeAttributes, List.append_nil]
  | cons a rest ih =>
      have fresh : done.any (·.name == a.name) = false := by
        rw [List.any_eq_false]
        intro d member same
        rw [List.map_append, List.nodup_append] at distinct
        exact distinct.2.2 d.name (List.mem_map_of_mem member) a.name
          (List.mem_map_of_mem List.mem_cons_self) (eq_of_beq same)
      rw [List.append_cons] at distinct ⊢
      rw [mergeAttributes, if_neg (Bool.not_eq_true _ ▸ fresh)]
      exact ih distinct

end Attributes

section Tags

variable {name : Name} (plain : Plain name)

/-- The written start of an element, without what ends the tag. -/
def opened (name : Name) (list : List Attribute) : Bytes :=
  encode name.render ++ list.flatMap fun a => encode a.render

theorem length_flatMap_render (list : List Attribute) :
    list.length ≤ (list.flatMap fun a => encode a.render).length := by
  induction list with
  | nil => exact Nat.le_refl 0
  | cons a others ih =>
      have one := congrArg List.length (encode_render a [])
      simp only [List.append_nil, List.length_cons] at one
      rw [List.flatMap_cons, List.length_append, List.length_cons]
      omega

include plain

theorem startTag_opened (closed : Bool) {list : List Attribute}
    (faithful : ∀ a ∈ list, Faithful a) (distinct : (list.map (·.name)).Nodup) {b : UInt8}
    {tail rest : Bytes} (mark : isNameByte b = false)
    (ends : ∀ fuel done, attributes (fuel + 1) done (b :: tail) = .ok ((done, closed), rest)) :
    startTag (opened name list ++ b :: tail) =
      .ok (if closed then [.open name list, .close name] else [.open name list], rest) := by
  have stops : ∃ first more, list.flatMap (fun a => encode a.render) ++ b :: tail = first :: more ∧
      isNameByte first = false := by
    cases list with
    | nil => exact ⟨b, tail, rfl, mark⟩
    | cons a others =>
        rw [List.flatMap_cons, List.append_assoc, encode_render]
        exact ⟨0x20, _, rfl, by decide⟩
  obtain ⟨first, more, begun, stop⟩ := stops
  have room : list.length < (first :: more).length + 1 := by
    have bytes := length_flatMap_render list
    rw [← begun, List.length_append]
    omega
  have read := attributes_all faithful room [] ends
  rw [begun] at read
  have merged : mergeAttributes [] list = list := mergeAttributes_distinct distinct
  rw [opened, List.append_assoc, begun, startTag, splitName_plain plain .elementName stop]
  simp only [bind, Except.bind, read, List.append_nil, List.reverse_reverse, merged]
  rfl

theorem step_opened {list : List Attribute} {ending rest : Bytes} {read : List Token}
    (started : startTag (opened name list ++ ending) = .ok (read, rest)) :
    step (byte '<' :: (opened name list ++ ending)) = .ok (read, rest) := by
  obtain ⟨b, tail, spelled, named⟩ := starts_plain plain
  rw [opened, spelled, List.cons_append, List.cons_append] at started ⊢
  simp only [step, next, bind, Except.bind, bne_self_eq_false, Bool.false_eq_true, if_false,
    beq_of_name named (show isNameByte (byte '/') = false by decide),
    beq_of_name named (show isNameByte (byte '?') = false by decide),
    beq_of_name named (show isNameByte (byte '!') = false by decide), started]

theorem step_empty {list : List Attribute} (faithful : ∀ a ∈ list, Faithful a)
    (distinct : (list.map (·.name)).Nodup) (rest : Bytes) :
    step (byte '<' :: (opened name list ++ byte '/' :: byte '>' :: rest)) =
      .ok ([.open name list, .close name], rest) :=
  step_opened plain (startTag_opened plain true faithful distinct
    (show isNameByte (byte '/') = false by decide) fun _ _ => rfl)

theorem step_open {list : List Attribute} (faithful : ∀ a ∈ list, Faithful a)
    (distinct : (list.map (·.name)).Nodup) (rest : Bytes) :
    step (byte '<' :: (opened name list ++ byte '>' :: rest)) = .ok ([.open name list], rest) :=
  step_opened plain (startTag_opened plain false faithful distinct
    (show isNameByte (byte '>') = false by decide) fun _ _ => rfl)

theorem step_close (rest : Bytes) :
    step (byte '<' :: byte '/' :: (encode name.render ++ byte '>' :: rest)) =
      .ok ([.close name], rest) := by
  have read := splitName_plain plain .endName (b := byte '>') (by decide) rest
  have skipped : skipSpace (byte '>' :: rest) = byte '>' :: rest := rfl
  simp only [step, next, bind, Except.bind, bne_self_eq_false, Bool.false_eq_true, if_false,
    beq_self_eq_true, if_true, endTag, read, skipped]
  rfl

end Tags

section Instructions

/-- An instruction whose data starts at once and does not end it. -/
structure Instructs (target data : String) : Prop where
  named : isName target.toList = true
  unended : '?' ∉ data.toList
  starts : ∃ b tail, encode data = b :: tail ∧ isNameByte b = true
  version : target = "xml" → pseudoAttribute ("version=".toList.map byte)
    ((encode data).length + 1) (encode data) = some ("1.0".toList.map byte)

theorem instructionRun_append {data : Bytes} (absent : byte '?' ∉ data) {old : UInt8}
    (other : old ≠ byte '?') (done rest : Bytes) :
    instructionRun old done (data ++ byte '?' :: byte '>' :: rest) =
      .ok (data.reverse ++ done, rest) := by
  induction data generalizing old done with
  | nil =>
      rw [List.nil_append, instructionRun, if_neg (by simp [other]), instructionRun,
        if_pos (by simp)]
      rfl
  | cons b tail ih =>
      rw [List.mem_cons, not_or] at absent
      rw [List.cons_append, instructionRun, if_neg (by simp [other]),
        ih absent.2 (Ne.symm absent.1), List.reverse_cons, List.append_assoc]
      rfl

theorem encode_instruction {target data : String} (instructs : Instructs target data)
    (rest : Bytes) :
    encode (Content.instruction target data).render ++ rest =
      byte '<' :: byte '?' :: (encodeChars target.toList ++ 0x20 ::
        (encode data ++ byte '?' :: byte '>' :: rest)) := by
  have filled : (data == "") = false := by
    apply beq_false_of_ne
    rintro rfl
    obtain ⟨b, tail, spelled, -⟩ := instructs.starts
    rw [Text.encode_eq] at spelled
    cases spelled
  have opening : encode "<?" = [byte '<', byte '?'] := Text.encode_eq "<?"
  have space : encode " " = [0x20] := Text.encode_eq " "
  have closing : encode "?>" = [byte '?', byte '>'] := Text.encode_eq "?>"
  simp [Content.render, filled, Text.encode_append, opening, space, closing, Text.encode_eq target]

theorem step_instruction {target data : String} (instructs : Instructs target data)
    (rest : Bytes) :
    step (encode (Content.instruction target data).render ++ rest) =
      .ok ([.instruction target data], rest) := by
  obtain ⟨b, tail, spelled, solid⟩ := instructs.starts
  have name := plainName_append instructs.named .target (show isNameByte 0x20 = false by decide)
    (encode data ++ byte '?' :: byte '>' :: rest)
  have absent : byte '?' ∉ encode data := by
    rw [Text.encode_eq]
    exact fun inside => instructs.unended (Text.mem_encodeChars_ascii (by decide) _ inside)
  have run := instructionRun_append absent (show (0 : UInt8) ≠ byte '?' by decide) [] rest
  have skipped : skipSpace (0x20 :: (encode data ++ byte '?' :: byte '>' :: rest)) =
      encode data ++ byte '?' :: byte '>' :: rest := by
    rw [spelled, List.cons_append]
    exact skipSpace_name solid _
  rw [encode_instruction instructs]
  simp only [step, next, bind, Except.bind, bne_self_eq_false, Bool.false_eq_true, if_false,
    beq_self_eq_true, if_true, show (byte '?' == byte '/') = false from rfl, instruction, name,
    skipped, run, List.append_nil, List.reverse_reverse, Text.decode_encode]
  by_cases xml : target = "xml"
  · subst xml
    simp only [instructs.version rfl, beq_self_eq_true, bne_self_eq_false, Bool.and_false,
      Bool.false_eq_true, if_true, if_false, String.ofList_toList]
    rfl
  · have other : (target.toList == "xml".toList) = false :=
      beq_false_of_ne fun same => xml (String.toList_inj.mp same)
    simp only [other, Bool.false_eq_true, if_false, String.ofList_toList]
    rfl

end Instructions

end SqlMapper.Xml
