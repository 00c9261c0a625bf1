import Mathlib.Data.List.Chain
import Mathlib.Data.List.Nodup
import SqlMapper.Proofs.Xml.Tags
import SqlMapper.Xml.Document

/-!
Reading back what was written. Each content of a tree is read as tokens that add it to the innermost
open element, and a run of character data ends where markup starts; so a tree without neighbouring
texts is read as it was written. What stands anywhere in a tree is listed in document order.
-/

namespace SqlMapper.Xml

open Text (encode encodeChars)

section Trees

/-- Neighbours that stay apart when they are written. -/
def Apart (first second : Content) : Prop :=
  first.text? = none ∨ second.text? = none

instance (first second : Content) : Decidable (Apart first second) :=
  inferInstanceAs (Decidable (_ ∨ _))

/-- Trees that can be read back. -/
inductive Written : Content → Prop
  | text {data : String} (filled : data ≠ "") (legal : Legal data.toList) : Written (.text data)
  | instruction {target data : String} (instructs : Instructs target data) :
      Written (.instruction target data)
  | element {name : Name} {attributes : List Attribute} {children : List Content}
      (plain : Plain name) (faithful : ∀ a ∈ attributes, Faithful a)
      (distinct : (attributes.map (·.name)).Nodup)
      (inside : ∀ child ∈ children, Written child) (apart : children.IsChain Apart) :
      Written (.element name attributes children)

end Trees

section Scans

/-- Before `rest`, some bytes are read as some tokens. -/
def Scans (bytes : Bytes) (read : List Token) (rest : Bytes) : Prop :=
  ∀ fuel, (bytes ++ rest).length < fuel → ∃ left, rest.length < left ∧
    tokens fuel (bytes ++ rest) = (read ++ (tokens left rest).1, (tokens left rest).2)

theorem scans_nil (rest : Bytes) : Scans [] [] rest :=
  fun fuel room => ⟨fuel, room, rfl⟩

theorem scans_append {first second rest : Bytes} {read more : List Token}
    (left : Scans first read (second ++ rest)) (right : Scans second more rest) :
    Scans (first ++ second) (read ++ more) rest := by
  intro fuel room
  rw [List.append_assoc] at room ⊢
  obtain ⟨fuel, room, begun⟩ := left fuel room
  obtain ⟨fuel, room, ended⟩ := right fuel room
  refine ⟨fuel, room, ?_⟩
  rw [begun, ended, List.append_assoc]

theorem scans_step {bytes rest : Bytes} {read : List Token} (filled : bytes ≠ [])
    (stepped : step (bytes ++ rest) = .ok (read, rest)) : Scans bytes read rest := by
  intro fuel room
  cases bytes with
  | nil => exact absurd rfl filled
  | cons b tail =>
      cases fuel with
      | zero => cases room
      | succ fuel =>
          refine ⟨fuel, ?_, ?_⟩
          · rw [List.cons_append, List.length_cons, List.length_append] at room
            omega
          · rw [List.cons_append] at stepped ⊢
            rw [tokens]
            simp only [stepped]
            simp

end Scans

section Nesting

theorem takeAll_append (nest : Nest) (first second : List Token) :
    nest.takeAll (first ++ second) = (nest.takeAll first).bind (·.takeAll second) := by
  induction first generalizing nest with
  | nil => rfl
  | cons token rest ih =>
      rw [List.cons_append, Nest.takeAll, Nest.takeAll]
      cases nest.take token with
      | none => rfl
      | some next => exact ih next

theorem foldl_add_inner (contents : List Content) (inner : Open) (outer : List Open)
    (top : List Content) :
    contents.foldl Nest.add ⟨inner :: outer, top⟩ =
      ⟨{ inner with children := contents.reverse ++ inner.children } :: outer, top⟩ := by
  induction contents generalizing inner with
  | nil => rfl
  | cons content rest ih =>
      rw [List.foldl_cons, Nest.add, ih]
      simp

theorem foldl_add_top (contents top : List Content) :
    contents.foldl Nest.add ⟨[], top⟩ = ⟨[], contents.reverse ++ top⟩ := by
  induction contents generalizing top with
  | nil => rfl
  | cons content rest ih =>
      rw [List.foldl_cons, Nest.add, ih]
      simp

end Nesting

/-- Before `rest`, some bytes are read as tokens that add some contents. -/
def Adds (bytes : Bytes) (contents : List Content) (rest : Bytes) : Prop :=
  ∃ read, Scans bytes read rest ∧
    ∀ nest : Nest, nest.takeAll read = some (contents.foldl Nest.add nest)

theorem adds_append {first second rest : Bytes} {contents more : List Content}
    (left : Adds first contents (second ++ rest)) (right : Adds second more rest) :
    Adds (first ++ second) (contents ++ more) rest := by
  obtain ⟨read, scanned, added⟩ := left
  obtain ⟨later, scans, adds⟩ := right
  refine ⟨read ++ later, scans_append scanned scans, ?_⟩
  intro nest
  rw [takeAll_append, added, Option.bind_some, adds, List.foldl_append]

section Contents

theorem encode_renderAll (content : Content) (rest : List Content) :
    encode (renderAll (content :: rest)) = encode content.render ++ encode (renderAll rest) := by
  rw [renderAll, Text.encode_append]

theorem encode_opening (name : Name) (attributes : List Attribute) :
    encode ("<" ++ name.render ++ String.join (attributes.map Attribute.render)) =
      byte '<' :: opened name attributes := by
  have joined : encode (String.join (attributes.map Attribute.render)) =
      attributes.flatMap fun a => encode a.render := by
    induction attributes with
    | nil => exact Text.encode_eq ""
    | cons a rest ih => rw [List.map_cons, String.join_cons, Text.encode_append, ih, List.flatMap_cons]
  have mark : encode "<" = [byte '<'] := Text.encode_eq "<"
  rw [Text.encode_append, Text.encode_append, joined, mark, List.append_assoc]
  rfl

theorem encode_empty (name : Name) (attributes : List Attribute) :
    encode (Content.element name attributes []).render =
      byte '<' :: (opened name attributes ++ [byte '/', byte '>']) := by
  have mark : encode "/>" = [byte '/', byte '>'] := Text.encode_eq "/>"
  rw [Content.render, List.isEmpty_nil, if_pos rfl, Text.encode_append, encode_opening, mark]
  rfl

theorem encode_filled (name : Name) (attributes : List Attribute) {children : List Content}
    (filled : children ≠ []) :
    encode (Content.element name attributes children).render =
      byte '<' :: (opened name attributes ++ [byte '>']) ++ (encode (renderAll children) ++
        byte '<' :: byte '/' :: (encode name.render ++ [byte '>'])) := by
  have mark : encode ">" = [byte '>'] := Text.encode_eq ">"
  have close : encode "</" = [byte '<', byte '/'] := Text.encode_eq "</"
  have inside : children.isEmpty = false := List.isEmpty_eq_false_iff.mpr filled
  rw [Content.render, inside, if_neg Bool.false_ne_true, Text.encode_append, Text.encode_append,
    Text.encode_append, Text.encode_append, Text.encode_append, encode_opening, mark, close]
  simp

theorem breaks_of_markup {content : Content} (markup : content.text? = none) (rest : Bytes) :
    Breaks (encode content.render ++ rest) := by
  have marked (text : String) : Breaks (encode ("<" ++ text) ++ rest) := by
    have mark : encode "<" = [byte '<'] := Text.encode_eq "<"
    rw [Text.encode_append, mark]
    exact .inr ⟨_, rfl⟩
  cases content with
  | element name attributes children =>
      by_cases empty : children = []
      · rw [empty, encode_empty]
        exact .inr ⟨_, rfl⟩
      · rw [encode_filled _ _ empty]
        exact .inr ⟨_, rfl⟩
  | text data => cases markup
  | comment data =>
      rw [Content.render, show "<!--" = "<" ++ "!--" from rfl, String.append_assoc,
        String.append_assoc]
      exact marked _
  | instruction target data =>
      rw [Content.render, show "<?" = "<" ++ "?" from rfl, String.append_assoc,
        String.append_assoc, String.append_assoc]
      exact marked _
  | directive data =>
      rw [Content.render, show "<!" = "<" ++ "!" from rfl, String.append_assoc,
        String.append_assoc]
      exact marked _

theorem adds_text {data : String} (filled : data ≠ "") (legal : Legal data.toList) {rest : Bytes}
    (breaks : Breaks rest) : Adds (encode (Content.text data).render) [.text data] rest := by
  have spelled : encode (Content.text data).render = encodeChars (escapedChars data.toList) := by
    rw [Content.render, escaped, Text.encode_ofList, escapedChars]
  have read := text_plain legal breaks
  obtain ⟨b, tail, starts, other⟩ := head_escapedChars
    (show data.toList ≠ [] from fun empty => filled (String.toList_eq_nil_iff.mp empty))
  rw [starts, List.cons_append, String.ofList_toList] at read
  refine ⟨[.text data], scans_step ?_ ?_, fun nest => rfl⟩
  · rw [spelled, starts]
    exact List.cons_ne_nil b tail
  · rw [spelled, starts, List.cons_append]
    simp only [step, next, bind, Except.bind, other, if_true, read]
    rfl

theorem adds_contents {contents : List Content}
    (each : ∀ content ∈ contents, ∀ rest, (content.text? = none ∨ Breaks rest) →
      Adds (encode content.render) [content] rest)
    (apart : contents.IsChain Apart) {rest : Bytes} (breaks : Breaks rest) :
    Adds (encode (renderAll contents)) contents rest := by
  have empty : encode (renderAll []) = [] := Text.encode_eq ""
  induction contents with
  | nil =>
      rw [empty]
      exact ⟨[], scans_nil rest, fun nest => rfl⟩
  | cons content others ih =>
      obtain ⟨here, later⟩ := List.forall_mem_cons.mp each
      rw [encode_renderAll]
      apply adds_append (here _ ?_) (ih later apart.tail)
      cases others with
      | nil =>
          rw [empty]
          exact .inr breaks
      | cons second others =>
          rcases (List.isChain_cons_cons.mp apart).1 with markup | markup
          · exact .inl markup
          · right
            rw [encode_renderAll, List.append_assoc]
            exact breaks_of_markup markup _

theorem adds_element {name : Name} {attributes : List Attribute} {children : List Content}
    (plain : Plain name) (faithful : ∀ a ∈ attributes, Faithful a)
    (distinct : (attributes.map (·.name)).Nodup)
    (inside : ∀ rest, Breaks rest → Adds (encode (renderAll children)) children rest)
    (rest : Bytes) :
    Adds (encode (Content.element name attributes children).render)
      [.element name attributes children] rest := by
  by_cases empty : children = []
  · subst empty
    refine ⟨[.open name attributes, .close name], scans_step ?_ ?_, ?_⟩
    · rw [encode_empty]
      exact List.cons_ne_nil _ _
    · rw [encode_empty, List.cons_append, List.append_assoc]
      exact step_empty plain faithful distinct rest
    · intro nest
      simp [Nest.takeAll, Nest.take, Nest.add, Open.closed]
  · -- The children are read in front of the closing tag, which begins with a bracket.
    obtain ⟨read, scans, added⟩ := inside
      (byte '<' :: byte '/' :: (encode name.render ++ [byte '>']) ++ rest) (.inr ⟨_, rfl⟩)
    have opening : Scans (byte '<' :: (opened name attributes ++ [byte '>'])) [.open name attributes]
        (encode (renderAll children) ++
          (byte '<' :: byte '/' :: (encode name.render ++ [byte '>']) ++ rest)) := by
      apply scans_step (List.cons_ne_nil _ _)
      rw [List.cons_append, List.append_assoc]
      exact step_open plain faithful distinct _
    have closing : Scans (byte '<' :: byte '/' :: (encode name.render ++ [byte '>'])) [.close name]
        rest := by
      apply scans_step (List.cons_ne_nil _ _)
      rw [List.cons_append, List.cons_append, List.append_assoc]
      exact step_close plain rest
    refine ⟨[.open name attributes] ++ (read ++ [.close name]), ?_, ?_⟩
    · rw [encode_filled _ _ empty]
      refine scans_append ?_ (scans_append scans closing)
      rw [List.append_assoc]
      exact opening
    · intro nest
      rw [takeAll_append]
      simp only [Nest.takeAll, Nest.take, Option.bind_some, takeAll_append, added, foldl_add_inner]
      simp [Open.closed]

theorem adds_written {content : Content} (written : Written content) :
    ∀ rest, (content.text? = none ∨ Breaks rest) → Adds (encode content.render) [content] rest := by
  induction written with
  | text filled legal =>
      rintro rest (markup | breaks)
      · cases markup
      · exact adds_text filled legal breaks
  | @instruction target data instructs =>
      intro rest _
      refine ⟨[.instruction target data], scans_step ?_ (step_instruction instructs rest),
        fun nest => rfl⟩
      intro empty
      have spelled := encode_instruction instructs []
      rw [empty] at spelled
      cases spelled
  | element plain faithful distinct inside apart ih =>
      intro rest _
      exact adds_element plain faithful distinct (fun rest => adds_contents ih apart) rest

end Contents

section Documents

/-- Contents that can be read back next to one another. -/
def Readable (contents : List Content) : Prop :=
  (∀ content ∈ contents, Written content) ∧ contents.IsChain Apart

theorem readable_nil : Readable [] :=
  ⟨by simp, .nil⟩

theorem readable_cons {content : Content} {rest : List Content} (here : Written content)
    (apart : ∀ next ∈ rest.head?, Apart content next) (later : Readable rest) :
    Readable (content :: rest) :=
  ⟨List.forall_mem_cons.mpr ⟨here, later.1⟩, List.isChain_cons.mpr ⟨apart, later.2⟩⟩

theorem readable_textOf {data : String} (legal : Legal data.toList) : Readable (textOf data) := by
  unfold textOf
  split
  · exact readable_nil
  · next filled => exact ⟨by simpa using Written.text (by simpa using filled) legal, .singleton _⟩

theorem written_make {tag : String} (plain : Plain ⟨"", tag⟩)
    {attributes : List (String × String)}
    (faithful : ∀ a ∈ attributes, Plain ⟨"", a.1⟩ ∧ Legal a.2.toList)
    (distinct : (attributes.map (·.1)).Nodup) {children : List Content}
    (inside : Readable children) : Written (make tag attributes children) := by
  refine .element plain ?_ ?_ inside.1 inside.2
  · intro a listed
    obtain ⟨pair, member, rfl⟩ := List.mem_map.mp listed
    exact faithful pair member
  · rw [List.map_map]
    refine List.Nodup.of_map Name.tag ?_
    simpa [Function.comp_def] using distinct

/-- Elements stay apart from all that is next to them. -/
theorem readable_elements {contents : List Content} (each : ∀ content ∈ contents, Written content)
    (markup : ∀ content ∈ contents, content.text? = none) : Readable contents :=
  ⟨each, List.Pairwise.isChain (List.pairwise_of_forall_mem_list
    fun first member _ _ => .inl (markup first member))⟩

/-- A document is read back as it was written. -/
theorem parse_renderAll {document : List Content} (each : ∀ content ∈ document, Written content)
    (apart : document.IsChain Apart) : parse (encode (renderAll document)) = .ok document := by
  obtain ⟨read, scans, added⟩ := adds_contents (fun content member => adds_written (each content member))
    apart (.inl rfl : Breaks [])
  obtain ⟨left, room, whole⟩ := scans ((encode (renderAll document)).length + 1) (by simp)
  have rest : tokens left [] = ([], none) := by
    cases left <;> rfl
  rw [List.append_nil, rest, List.append_nil] at whole
  rw [parse, whole]
  simp only [added, foldl_add_top]
  simp

end Documents

section Descendants

mutual

/-- A content and what stands in it, in document order. -/
def Content.whole : Content → List Content
  | .element name attributes children => .element name attributes children :: everything children
  | .text data => [.text data]
  | .comment data => [.comment data]
  | .instruction target data => [.instruction target data]
  | .directive data => [.directive data]

/-- All that stands anywhere in some contents, in document order. -/
def everything : List Content → List Content
  | [] => []
  | first :: rest => first.whole ++ everything rest

end

theorem everything_append (first second : List Content) :
    everything (first ++ second) = everything first ++ everything second := by
  induction first with
  | nil => rfl
  | cons content rest ih => rw [List.cons_append, everything, ih, everything, List.append_assoc]

theorem everything_make (tag : String) (attributes : List (String × String))
    (children rest : List Content) :
    everything (make tag attributes children :: rest) =
      make tag attributes children :: (everything children ++ everything rest) := by
  rw [everything, make, Content.whole, List.cons_append]

end Descendants

end SqlMapper.Xml
