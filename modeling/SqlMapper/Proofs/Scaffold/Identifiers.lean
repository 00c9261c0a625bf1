import SqlMapper.Proofs.Decoding
import SqlMapper.Proofs.Scaffold.Compilation

/-!
Names that are made identifiers. A name that is one already is left alone, so nothing changes when
it is done again, also for names in bytes that are no text; and whatever the document of a table
names in the compiled code is an identifier.
-/

namespace SqlMapper.Schema

open Xml (Content make textOf everything)
open Text (encode decode)

section Normalization

/-- Names that are identifiers are left alone, and no others. -/
theorem normalized_eq_self_iff (name : String) :
    normalized name = name ↔ C.isIdentifier name = true := by
  constructor
  · intro same
    rw [← same]
    exact isIdentifier_normalized name
  · intro formed
    have kept : name.toList.map (fun c => if C.isIdentifierTail c then c else '_') =
        name.toList := by
      refine (List.map_congr_left fun c member => ?_).trans (List.map_id _)
      exact if_pos (C.isIdentifierTail_of_mem formed c member)
    rw [normalized, normalizedChars, kept]
    rw [C.isIdentifier] at formed
    cases spelled : name.toList with
    | nil =>
        rw [spelled] at formed
        cases formed
    | cons first rest =>
        rw [spelled] at formed
        have start : C.isIdentifierStart first = true := ((Bool.and_eq_true _ _).mp formed).1
        have other : first.isDigit = false := by
          rw [← Bool.not_eq_true]
          intro digit
          rw [Condition.not_start_of_digit digit] at start
          cases start
        simp only [other, Bool.false_eq_true, if_false]
        rw [← spelled, String.ofList_toList]

/-- The identifier for a name in bytes. Stray bytes are read as replacement characters, which stand
in no identifier either. -/
def normalizedBytes (name : List UInt8) : List UInt8 :=
  encode (normalized (decode name))

def isIdentifierBytes (name : List UInt8) : Bool :=
  C.isIdentifier (decode name)

theorem isIdentifierBytes_normalizedBytes (name : List UInt8) :
    isIdentifierBytes (normalizedBytes name) = true := by
  rw [isIdentifierBytes, normalizedBytes, Text.decode_encode]
  exact isIdentifier_normalized _

theorem normalizedBytes_eq_self_iff (name : List UInt8) :
    normalizedBytes name = name ↔ isIdentifierBytes name = true := by
  rw [isIdentifierBytes, ← normalized_eq_self_iff]
  constructor
  · intro same
    have read := congrArg decode same
    rwa [normalizedBytes, Text.decode_encode] at read
  · intro kept
    -- Only a text of ASCII characters says from which bytes it was decoded.
    have ascii : ∀ c ∈ (decode name).toList, c.toNat < 128 := by
      rw [← kept]
      exact fun c member => (C.printable_of_isIdentifierTail (tails_normalized _ c member)).2
    rw [normalizedBytes, kept, Text.encode_decode ascii]

end Normalization

section Documents

/-- The attributes whose values name something in the compiled code. -/
def namingAttributes : List String :=
  ["namespace", "type", "property", "id", "parameterType"]

/-- What the elements of some contents name, in document order. -/
def givenNames (contents : List Content) : List String :=
  ((everything contents).filterMap Content.element?).flatMap fun e =>
    (e.attributes.filter fun a => a.name.tag ∈ namingAttributes).map (·.value)

/-- Whatever is named is an identifier. -/
def Named (contents : List Content) : Prop :=
  ∀ name ∈ givenNames contents, C.isIdentifier name = true

theorem named_append {first second : List Content} (left : Named first) (right : Named second) :
    Named (first ++ second) := by
  rw [Named, givenNames, Xml.everything_append, List.filterMap_append, List.flatMap_append,
    List.forall_mem_append]
  exact ⟨left, right⟩

theorem named_nil : Named [] :=
  fun _ listed => absurd listed List.not_mem_nil

theorem named_cons {content : Content} {rest : List Content} (here : Named [content])
    (later : Named rest) : Named (content :: rest) :=
  named_append here later

theorem named_of_forall {contents : List Content}
    (each : ∀ content ∈ contents, Named [content]) : Named contents := by
  induction contents with
  | nil => exact named_nil
  | cons first rest ih =>
      obtain ⟨here, later⟩ := List.forall_mem_cons.mp each
      exact named_cons here (ih later)

theorem named_text (data : String) : Named [.text data] :=
  fun _ listed => absurd listed List.not_mem_nil

theorem named_textOf (data : String) : Named (textOf data) := by
  unfold textOf
  split
  · exact named_nil
  · exact named_text data

theorem named_make {tag : String} {attributes : List (String × String)} {children : List Content}
    (naming : ∀ a ∈ attributes, a.1 ∈ namingAttributes → C.isIdentifier a.2 = true)
    (inside : Named children) : Named [make tag attributes children] := by
  have opened : givenNames [make tag attributes children] =
      ((elementOf tag attributes children).attributes.filter
        fun a => a.name.tag ∈ namingAttributes).map (·.value) ++ givenNames children := by
    rw [givenNames, Xml.everything_make, List.filterMap_cons_some (element?_make _ _ _),
      List.flatMap_cons, everything, List.append_nil, givenNames]
  rw [Named, opened, List.forall_mem_append]
  refine ⟨?_, inside⟩
  intro name listed
  obtain ⟨_, kept, rfl⟩ := List.mem_map.mp listed
  obtain ⟨given, known⟩ := List.mem_filter.mp kept
  obtain ⟨a, member, rfl⟩ := List.mem_map.mp given
  exact naming a member (of_decide_eq_true known)

theorem named_lines (depth : Nat) {items : List Content} (each : ∀ item ∈ items, Named [item]) :
    Named (lines depth items) := by
  refine named_append (named_of_forall ?_) (named_text _)
  intro content listed
  obtain ⟨item, member, either⟩ := List.mem_flatMap.mp listed
  rcases List.mem_pair.mp either with rfl | rfl
  · exact named_text _
  · exact each _ member

theorem named_presentParts (columns : List Column) (write : Column → String) :
    Named (presentParts columns write) := by
  refine named_of_forall fun content listed => ?_
  obtain ⟨c, _, rfl⟩ := List.mem_map.mp listed
  exact named_make (by simp [namingAttributes]) (named_textOf _)

variable (t : Table)

theorem named_shapeElement : Named [shapeElement t] := by
  refine named_make ?_ (named_lines 1 ?_)
  · have shape : C.isIdentifier shapeId = true := by decide
    simp [shape, isIdentifier_recordType]
  · intro item listed
    obtain ⟨c, _, rfl⟩ := List.mem_map.mp listed
    exact named_make (by simp [namingAttributes, isIdentifier_normalized]) named_nil

theorem named_columnListElement : Named [columnListElement t] := by
  have list : C.isIdentifier columnListId = true := by decide
  exact named_make (by simp [list]) (named_textOf _)

theorem named_statementElement {tag id : String} {more : List (String × String)}
    {children : List Content} (tails : Tails id) (plain : ∀ a ∈ more, a.1 ∉ namingAttributes)
    (inside : Named children) : Named [statementElement t tag id more children] := by
  refine named_make ?_ inside
  have formed : C.isIdentifier (normalized t.name ++ "_" ++ id) = true :=
    isIdentifier_append (isIdentifier_append (isIdentifier_normalized t.name) (by decide)) tails
  rw [List.forall_mem_append]
  refine ⟨?_, fun a member naming => absurd naming (plain a member)⟩
  simp [formed, isIdentifier_recordType]

theorem named_insertSelectiveElement : Named [insertSelectiveElement t] := by
  have part (opening : String) (write : Column → String) :
      Named [make "trim" [("prefix", opening), ("suffix", ")"), ("suffixOverrides", ",")]
        (presentParts t.columns write)] :=
    named_make (by simp [namingAttributes]) (named_presentParts _ _)
  exact named_statementElement t (by decide) (by simp)
    (named_cons (named_text _) (named_cons (part _ _) (part _ _)))

theorem named_keyElements (key : Column) : ∀ content ∈ keyElements t key, Named [content] := by
  have named (start : String) (plain : Tails start) : Tails (start ++ normalized key.name) :=
    tails_append plain (tails_normalized key.name)
  have updates := named "update_by_" (by decide)
  have changes : Named [make "trim" [("prefix", "SET "), ("suffixOverrides", ",")]
      (presentParts (others t key) fun c => assignment c ++ ", ")] :=
    named_make (by simp [namingAttributes]) (named_presentParts _ _)
  have reference : Named [make "include" [("refid", columnListId)] []] :=
    named_make (by simp [namingAttributes]) named_nil
  simp only [keyElements, List.forall_mem_cons]
  refine ⟨?_, ?_, ?_, ?_, by simp⟩
  · exact named_statementElement t updates (by simp) (named_textOf _)
  · exact named_statementElement t (tails_append updates (by decide)) (by simp)
      (named_cons (named_text _) (named_cons changes (named_text _)))
  · exact named_statementElement t (named "select_by_" (by decide)) (by decide)
      (named_cons (named_text _) (named_cons reference (named_text _)))
  · exact named_statementElement t (named "delete_by_" (by decide)) (by simp) (named_textOf _)

theorem named_tableElements : ∀ content ∈ tableElements t, Named [content] := by
  rw [tableElements, List.forall_mem_append]
  constructor
  · simp only [List.forall_mem_cons]
    exact ⟨named_shapeElement t, named_columnListElement t,
      named_statementElement t (by decide) (by simp) (named_textOf _),
      named_insertSelectiveElement t, by simp⟩
  · intro content listed
    obtain ⟨key, _, member⟩ := List.mem_flatMap.mp listed
    exact named_keyElements t key content member

theorem named_mapperDocument : Named (mapperDocument t) := by
  have space : C.isIdentifier (normalized t.name ++ "_mapper") = true :=
    isIdentifier_append (isIdentifier_normalized t.name) (by decide)
  have root : Named [mapperElement t] :=
    named_make (by simp [space]) (named_lines 0 (named_tableElements t))
  have declaration : Named [.instruction "xml" "version=\"1.0\" encoding=\"UTF-8\""] :=
    fun _ listed => absurd listed List.not_mem_nil
  exact named_cons declaration (named_cons (named_text _) (named_cons root (named_text _)))

end Documents

/-- Normalizing makes every name an identifier and changes no identifier, so it changes nothing when
it is done again. Whatever the document of a table names in the compiled code is an identifier; a
name in bytes stands in a table as it is decoded. -/
theorem normalized_retracts :
    (∀ name, isIdentifierBytes (normalizedBytes name) = true) ∧
      (∀ name, normalizedBytes name = name ↔ isIdentifierBytes name = true) ∧
      (∀ name, normalizedBytes (normalizedBytes name) = normalizedBytes name) ∧
      (∀ text, normalizedBytes (encode text) = encode (normalized text) ∧
        isIdentifierBytes (encode text) = C.isIdentifier text) ∧
      ∀ t, Named (mapperDocument t) := by
  refine ⟨isIdentifierBytes_normalizedBytes, normalizedBytes_eq_self_iff, ?_, ?_,
    named_mapperDocument⟩
  · intro name
    exact (normalizedBytes_eq_self_iff _).mpr (isIdentifierBytes_normalizedBytes name)
  · intro text
    rw [normalizedBytes, isIdentifierBytes, Text.decode_encode]
    exact ⟨rfl, rfl⟩

theorem accounts_named :
    "_2nd_name" ∈ givenNames (mapperDocument accounts) ∧ C.isIdentifier "_2nd_name" = true := by
  have given : "_2nd_name" ∈ givenNames (mapperDocument accounts) := by decide +kernel
  exact ⟨given, normalized_retracts.2.2.2.2 accounts _ given⟩

example : normalizedBytes [0x32, 0xff, 0xc3, 0xa4, 0x60] = encode "_2___" := by
  cbv

end SqlMapper.Schema
