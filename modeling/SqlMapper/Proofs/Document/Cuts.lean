import Mathlib.Data.List.Infix
import Mathlib.Logic.Relation
import SqlMapper.Proofs.Document.Acceptance
import SqlMapper.Proofs.Outcome
import SqlMapper.Proofs.Xml.RoundTrip

/-!
How a text is cut does not matter. Bodies are in normal form at every depth: no text in them is
empty, and none stands next to another. Documents that differ only in how character data is cut into
pieces, or in what a body skips, are read alike.
-/

namespace SqlMapper

/-- The body inside of a node, if it has one. -/
def Node.inner? : Node → Option (List Node)
  | .conditional _ inner => some inner
  | .trim _ inner => some inner
  | .text _ | .fragment _ => none

namespace Mapper

open Xml (Content Element)

section NormalForm

/-- The bodies at every depth of a body, itself included. -/
inductive Within (nodes : List Node) : List Node → Prop
  | whole : Within nodes nodes
  | inside {outer inner : List Node} {n : Node} (reached : Within nodes outer) (listed : n ∈ outer)
      (opens : n.inner? = some inner) : Within nodes inner

/-- No text is empty, and no two texts are neighbours. -/
structure Normal (nodes : List Node) : Prop where
  filled : .text "" ∉ nodes
  apart : ∀ first second, ¬ [.text first, .text second] <:+: nodes

theorem within_iff (nodes inner : List Node) :
    Within nodes inner ↔
      inner = nodes ∨ ∃ n ∈ nodes, ∃ direct, n.inner? = some direct ∧ Within direct inner := by
  constructor
  · intro reached
    induction reached with
    | whole => exact .inl rfl
    | inside _ listed opens ih =>
        right
        rcases ih with rfl | ⟨n, first, direct, firstOpens, within⟩
        · exact ⟨_, listed, _, opens, .whole⟩
        · exact ⟨n, first, direct, firstOpens, .inside within listed opens⟩
  · rintro (rfl | ⟨n, first, direct, firstOpens, within⟩)
    · exact .whole
    · induction within with
      | whole => exact .inside .whole first firstOpens
      | inside _ listed opens ih => exact .inside ih listed opens

theorem normal_nil : Normal [] where
  filled := List.not_mem_nil
  apart := by
    intro first second listed
    cases List.infix_nil.mp listed

theorem normal_cons {n : Node} {nodes : List Node} (filled : n ≠ .text "") (normal : Normal nodes)
    (apart : ∀ first second rest, n = .text first → nodes ≠ .text second :: rest) :
    Normal (n :: nodes) where
  filled := by
    rw [List.mem_cons]
    rintro (rfl | later)
    · exact filled rfl
    · exact normal.filled later
  apart := by
    intro first second listed
    rcases List.infix_cons_iff.mp listed with start | later
    · obtain ⟨same, rest, others⟩ := List.cons_prefix_cons.mp start
      exact apart first second rest same.symm others.symm
    · exact normal.apart first second later

/-- Putting a node in front keeps the normal form, unless it is an empty text. -/
theorem normal_prepend {first : Option Node} {nodes : List Node}
    (filled : first ≠ some (.text "")) (normal : Normal nodes) : Normal (prepend first nodes) := by
  cases first with
  | none => exact normal
  | some n =>
      have plain : n ≠ .text "" := mt (congrArg some) filled
      cases n with
      | text value =>
          cases nodes with
          | nil =>
              exact normal_cons plain normal fun _ _ _ _ same => nomatch same
          | cons other rest =>
              cases other with
              | text next =>
                  -- The two become one, which has the neighbours that the second had.
                  rw [prepend]
                  constructor
                  · rw [List.mem_cons]
                    rintro (same | later)
                    · have empty : value ++ next = "" := (Node.text.inj same).symm
                      rw [String.append_eq_empty_iff] at empty
                      exact plain (congrArg _ empty.1)
                    · exact normal.filled (List.mem_cons_of_mem _ later)
                  · intro before after listed
                    rcases List.infix_cons_iff.mp listed with start | later
                    · obtain ⟨_, neighbour⟩ := List.cons_prefix_cons.mp start
                      apply normal.apart next after
                      exact (List.cons_prefix_cons.mpr ⟨rfl, neighbour⟩).isInfix
                    · exact normal.apart before after (List.infix_cons later)
              | conditional | trim | fragment =>
                  exact normal_cons plain normal fun _ _ _ _ same => nomatch same
      | conditional | trim | fragment =>
          exact normal_cons plain normal fun _ _ _ same => nomatch same

/-- Texts apart, the nodes of a body are those that were put into it. -/
theorem mem_of_mem_prepend {first : Option Node} {nodes : List Node} {n : Node} {inner : List Node}
    (listed : n ∈ prepend first nodes) (opens : n.inner? = some inner) :
    first = some n ∨ n ∈ nodes := by
  unfold prepend at listed
  split at listed
  · exact .inr listed
  · rcases List.mem_cons.mp listed with rfl | later
    · cases opens
    · exact .inr (List.mem_cons_of_mem _ later)
  · rcases List.mem_cons.mp listed with rfl | later
    · exact .inl rfl
    · exact .inr later

theorem nodeOf_filled (content : Content) : nodeOf content ≠ some (.text "") := by
  cases content with
  | text data =>
      rw [nodeOf]
      split
      · simp
      · next filled => simpa using filled
  | element =>
      rw [nodeOf]
      split
      · simp
      split
      · simp
      split <;> simp
  | comment | instruction | directive => simp [nodeOf]

-- The induction is on the contents, as the body is read: what stands deeper comes from the children
-- of one of them.
mutual

theorem normal_bodyOf (contents : List Content) (inner : List Node)
    (within : Within (bodyOf contents) inner) : Normal inner := by
  cases contents with
  | nil =>
      rw [bodyOf] at within
      rcases (within_iff _ _).mp within with rfl | ⟨n, listed, _⟩
      · exact normal_nil
      · cases listed
  | cons content rest =>
      have tail : ∀ inner, Within (bodyOf rest) inner → Normal inner := normal_bodyOf rest
      rw [bodyOf] at within
      rcases (within_iff _ _).mp within with rfl | ⟨n, listed, direct, opens, deeper⟩
      · exact normal_prepend (nodeOf_filled content) (tail _ .whole)
      · rcases mem_of_mem_prepend listed opens with here | later
        · exact normal_nodeOf content n here direct opens inner deeper
        · exact tail inner ((within_iff _ _).mpr (.inr ⟨n, later, direct, opens, deeper⟩))

theorem normal_nodeOf (content : Content) (n : Node) (found : nodeOf content = some n)
    (direct : List Node) (opens : n.inner? = some direct) (inner : List Node)
    (within : Within direct inner) : Normal inner := by
  cases content with
  | element name attributes children =>
      have child : ∀ inner, Within (bodyOf children) inner → Normal inner := normal_bodyOf children
      rw [nodeOf] at found
      split at found
      · cases found
        cases opens
        exact child inner within
      split at found
      · cases found
        cases opens
        exact child inner within
      split at found
      · cases found
        cases opens
      · cases found
  | text data =>
      rw [nodeOf] at found
      split at found
      · cases found
      · cases found
        cases opens
  | comment | instruction | directive => simp [nodeOf] at found

end

end NormalForm

section Cuts

def bodyTags : List String :=
  StatementKind.all.map (·.name) ++ ["if", "trim"]

/-- One change of the contents of an element, or of something inside of it, that leaves its text as
it is: the character data of SQL is cut in two, or gets a piece without characters, a comment or a
processing instruction beside it; a body gets an element that means nothing to it. The first index
is the tag of the element whose contents are changed. -/
inductive Recut : String → List Content → List Content → Prop
  | cut {holder : String} (holds : holder = "sql" ∨ holder ∈ bodyTags) (first second : String)
      (rest : List Content) :
      Recut holder (.text (first ++ second) :: rest) (.text first :: .text second :: rest)
  | piece {holder : String} (holds : holder = "sql" ∨ holder ∈ bodyTags) (rest : List Content) :
      Recut holder rest (.text "" :: rest)
  | comment {holder : String} (holds : holder = "sql" ∨ holder ∈ bodyTags) (data : String)
      (rest : List Content) : Recut holder rest (.comment data :: rest)
  | instruction {holder : String} (holds : holder = "sql" ∨ holder ∈ bodyTags)
      (target data : String) (rest : List Content) :
      Recut holder rest (.instruction target data :: rest)
  | unknown {holder : String} (holds : holder ∈ bodyTags) (name : Xml.Name)
      (attributes : List Xml.Attribute) (children rest : List Content)
      (strange : name.tag ∉ ["if", "trim", "include"]) :
      Recut holder rest (.element name attributes children :: rest)
  | inside {holder : String} {name : Xml.Name} {children changed : List Content}
      (change : Recut name.tag children changed) (attributes : List Xml.Attribute)
      (rest : List Content) :
      Recut holder (.element name attributes children :: rest)
        (.element name attributes changed :: rest)
  | later {holder : String} {contents changed : List Content}
      (change : Recut holder contents changed) (content : Content) :
      Recut holder (content :: contents) (content :: changed)

/-- Contents that differ only by such changes, made or undone. -/
def Recuts (holder : String) : List Content → List Content → Prop :=
  Relation.EqvGen (Recut holder)

theorem Recuts.inside {holder : String} {name : Xml.Name} {children changed : List Content}
    (changes : Recuts name.tag children changed) (attributes : List Xml.Attribute)
    (rest : List Content) :
    Recuts holder (.element name attributes children :: rest)
      (.element name attributes changed :: rest) := by
  induction changes with
  | rel _ _ change => exact .rel _ _ (.inside change attributes rest)
  | refl => exact .refl _
  | symm _ _ _ ih => exact .symm _ _ ih
  | trans _ _ _ _ _ first second => exact .trans _ _ _ first second

theorem Recuts.later {holder : String} {contents changed : List Content}
    (changes : Recuts holder contents changed) (content : Content) :
    Recuts holder (content :: contents) (content :: changed) := by
  induction changes with
  | rel _ _ change => exact .rel _ _ (.later change content)
  | refl => exact .refl _
  | symm _ _ _ ih => exact .symm _ _ ih
  | trans _ _ _ _ _ first second => exact .trans _ _ _ first second

section Bodies

variable (document owner : String)

theorem prepend_cut (first second : String) (nodes : List Node) :
    prepend (nodeOf (.text (first ++ second))) nodes =
      prepend (nodeOf (.text first)) (prepend (nodeOf (.text second)) nodes) := by
  by_cases bare : first = ""
  · subst bare
    simp [nodeOf, prepend]
  by_cases alsoBare : second = ""
  · subst alsoBare
    simp [nodeOf, prepend]
  have filled : first ++ second ≠ "" := by simp [bare]
  rw [nodeOf, nodeOf, nodeOf, if_neg (by simpa using filled), if_neg (by simpa using bare),
    if_neg (by simpa using alsoBare)]
  cases nodes with
  | nil => rfl
  | cons n rest =>
      cases n with
      | text value => simp only [prepend, String.append_assoc]
      | conditional | trim | fragment => rfl

theorem outcome_body_cons (content : Content) (rest : List Content) :
    (body document owner (content :: rest)).outcome =
      (node document owner content).outcome.bind fun first =>
        (body document owner rest).outcome.bind fun more => .ok (prepend first more) := by
  rw [body, Outcome.bind_outcome]
  congr
  funext first
  rw [Outcome.bind_outcome]
  rfl

theorem outcome_body_text (data : String) (rest : List Content) :
    (body document owner (.text data :: rest)).outcome =
      (body document owner rest).outcome.map (prepend (nodeOf (.text data))) := by
  rw [outcome_body_cons, node, nodeOf]
  cases (body document owner rest).outcome <;> rfl

/-- What is read as no node may be left out. -/
theorem outcome_body_skip {content : Content} (rest : List Content)
    (skipped : (node document owner content).outcome = .ok none) :
    (body document owner (content :: rest)).outcome = (body document owner rest).outcome := by
  rw [outcome_body_cons, skipped]
  cases (body document owner rest).outcome <;> rfl

theorem outcome_node_unknown {name : Xml.Name} (attributes : List Xml.Attribute)
    (children : List Content) (strange : name.tag ∉ ["if", "trim", "include"]) :
    (node document owner (.element name attributes children)).outcome = .ok none := by
  simp only [List.mem_cons, List.not_mem_nil, or_false, not_or] at strange
  have tag : (Element.mk name attributes children).tag = name.tag := rfl
  rw [node]
  simp only [tag, beq_false_of_ne strange.1, beq_false_of_ne strange.2.1,
    beq_false_of_ne strange.2.2, Bool.false_eq_true, if_false]
  rfl

/-- A change inside of an element matters to a body only if it matters to the body inside. -/
theorem outcome_node_inside {name : Xml.Name} {children changed : List Content}
    (attributes : List Xml.Attribute)
    (same : name.tag ∈ bodyTags →
      (body document owner children).outcome = (body document owner changed).outcome) :
    (node document owner (.element name attributes children)).outcome =
      (node document owner (.element name attributes changed)).outcome := by
  have tag (contents : List Content) : (Element.mk name attributes contents).tag = name.tag := rfl
  have value (contents : List Content) (wanted : String) :
      (required document owner ⟨name, attributes, contents⟩ wanted) =
        required document owner ⟨name, attributes, []⟩ wanted := rfl
  have rule (contents : List Content) :
      trimRule ⟨name, attributes, contents⟩ = trimRule ⟨name, attributes, []⟩ := rfl
  rw [node, node]
  simp only [tag, value, rule]
  by_cases conditional : name.tag = "if"
  · have inner := same (by rw [conditional]; decide)
    simp only [conditional, beq_self_eq_true, if_true, Outcome.bind_outcome, inner]
  by_cases trimmed : name.tag = "trim"
  · have inner := same (by rw [trimmed]; decide)
    have opens : (name.tag == "trim") = true := beq_iff_eq.mpr trimmed
    simp only [beq_false_of_ne conditional, opens, Bool.false_eq_true, if_false, if_true,
      Outcome.bind_outcome, inner]
  · simp only [beq_false_of_ne conditional, beq_false_of_ne trimmed, Bool.false_eq_true, if_false]

theorem outcome_body_recut {holder : String} {contents changed : List Content}
    (change : Recut holder contents changed) (holds : holder ∈ bodyTags) :
    (body document owner contents).outcome = (body document owner changed).outcome := by
  induction change with
  | cut _ first second rest =>
      rw [outcome_body_text, outcome_body_text, outcome_body_text]
      cases (body document owner rest).outcome with
      | error cause => rfl
      | ok nodes => exact congrArg Except.ok (prepend_cut first second nodes)
  | piece _ rest => exact (outcome_body_skip document owner rest rfl).symm
  | comment _ data rest => exact (outcome_body_skip document owner rest rfl).symm
  | instruction _ target data rest => exact (outcome_body_skip document owner rest rfl).symm
  | unknown _ name attributes children rest strange =>
      have skipped := outcome_node_unknown document owner attributes children strange
      exact (outcome_body_skip document owner rest skipped).symm
  | inside _ attributes rest ih =>
      rw [outcome_body_cons, outcome_body_cons, outcome_node_inside document owner attributes ih]
  | later _ content ih => rw [outcome_body_cons, outcome_body_cons, ih holds]

end Bodies

section Elements

/-- Elements that are the same up to one change inside of them. -/
structure Alike (first second : Element) : Prop where
  name : first.name = second.name
  attributes : first.attributes = second.attributes
  children : first.children = second.children ∨ Recut first.tag first.children second.children

theorem Alike.refl (e : Element) : Alike e e :=
  ⟨rfl, rfl, .inl rfl⟩

/-- The text of a fragment stays. -/
theorem join_recut {contents changed : List Content} (change : Recut "sql" contents changed) :
    String.join (contents.filterMap Content.text?) =
      String.join (changed.filterMap Content.text?) := by
  generalize sql : "sql" = holder at change
  induction change with
  | cut _ first second rest =>
      simp [Content.text?, String.join_cons, String.append_assoc]
  | piece _ rest => simp [Content.text?, String.join_cons]
  | comment | instruction | inside => rfl
  | unknown holds =>
      have outside : "sql" ∉ bodyTags := by decide
      exact absurd (sql ▸ holds) outside
  | later _ content ih =>
      cases content with
      | text data => simp [Content.text?, String.join_cons, ih sql]
      | element | comment | instruction | directive => exact ih sql

/-- Where there is no SQL, a change is made inside of an element. -/
theorem elements_recut {holder : String} {contents changed : List Content}
    (change : Recut holder contents changed) (other : ¬ (holder = "sql" ∨ holder ∈ bodyTags)) :
    List.Forall₂ Alike (contents.filterMap Content.element?)
      (changed.filterMap Content.element?) := by
  have same (elements : List Element) : List.Forall₂ Alike elements elements :=
    List.forall₂_same.mpr fun e _ => Alike.refl e
  induction change with
  | cut holds | piece holds | comment holds | instruction holds => exact absurd holds other
  | unknown holds => exact absurd (.inr holds) other
  | inside change attributes rest _ =>
      exact .cons ⟨rfl, rfl, .inr change⟩ (same _)
  | later _ content ih =>
      cases content with
      | element => exact .cons (Alike.refl _) (ih other)
      | text | comment | instruction | directive => exact ih other

/-- Where there is no SQL directly inside, changes are deeper. -/
theorem Alike.elements {first second : Element} (alike : Alike first second)
    (other : ¬ (first.tag = "sql" ∨ first.tag ∈ bodyTags)) :
    List.Forall₂ Alike first.elements second.elements := by
  rw [Element.elements, Element.elements]
  rcases alike.children with same | change
  · rw [same]
    exact List.forall₂_same.mpr fun e _ => Alike.refl e
  · exact elements_recut change other

theorem Alike.tag {first second : Element} (alike : Alike first second) :
    first.tag = second.tag :=
  congrArg Xml.Name.tag alike.name

theorem Alike.required {first second : Element} (alike : Alike first second)
    (document owner name : String) :
    required document owner first name = required document owner second name := by
  rw [Mapper.required, Mapper.required, Element.attribute?, Element.attribute?, alike.attributes,
    alike.tag]

end Elements

section Readers

variable {first second : Element} {elements changed : List Element}

theorem fields_alike (alike : List.Forall₂ Alike elements changed) (document id : String)
    (done : List Field) : fields document id done elements = fields document id done changed := by
  induction alike generalizing done with
  | nil => rfl
  | cons head _ ih => simp only [fields, head.tag, head.required, ih]

theorem readResultMap_alike (alike : Alike first second) (tagged : first.tag = "resultMap")
    (m : Mapper) : m.readResultMap first = m.readResultMap second := by
  have other : ¬ (first.tag = "sql" ∨ first.tag ∈ bodyTags) := by
    rw [tagged]
    decide
  rw [readResultMap, readResultMap, alike.required]
  simp only [alike.required, fields_alike (alike.elements other)]

theorem readFragment_alike (alike : Alike first second) (tagged : first.tag = "sql") (m : Mapper) :
    m.readFragment first = m.readFragment second := by
  have text : String.join (first.children.filterMap Content.text?) =
      String.join (second.children.filterMap Content.text?) := by
    rcases alike.children with same | change
    · rw [same]
    · exact join_recut (tagged ▸ change)
  rw [readFragment, readFragment, alike.required, text]

theorem readStatement_alike (alike : Alike first second) {kind : StatementKind}
    (tagged : first.tag = kind.name) (m : Mapper) :
    (m.readStatement kind first).outcome = (m.readStatement kind second).outcome := by
  have holds : first.tag ∈ bodyTags := by
    rw [tagged]
    cases kind <;> decide
  have inner (id : String) : (body m.document id first.children).outcome =
      (body m.document id second.children).outcome := by
    rcases alike.children with same | change
    · rw [same]
    · exact outcome_body_recut m.document id change holds
  simp only [readStatement_eq, Outcome.bind_outcome, alike.required, inner]

theorem readChild_alike (alike : Alike first second) (m : Mapper) :
    (m.readChild first).outcome = (m.readChild second).outcome := by
  rw [readChild, readChild, ← alike.tag]
  split
  · next shape => rw [readResultMap_alike alike (beq_iff_eq.mp shape)]
  split
  · next fragment => rw [readFragment_alike alike (beq_iff_eq.mp fragment)]
  split
  · next kind named => exact readStatement_alike alike (ofName?_eq_some_iff.mp named) m
  · rfl

theorem readChildren_alike (alike : List.Forall₂ Alike elements changed) (m : Mapper) :
    (readChildren m elements).outcome = (readChildren m changed).outcome := by
  induction alike generalizing m with
  | nil => rfl
  | cons head _ ih =>
      rw [readChildren, readChildren, Outcome.bind_outcome, Outcome.bind_outcome,
        readChild_alike head]
      simp only [ih]

theorem ofElement_alike (alike : Alike first second) (document : String) :
    (ofElement document first).outcome = (ofElement document second).outcome := by
  by_cases tagged : first.tag = "mapper"
  · have other : ¬ (first.tag = "sql" ∨ first.tag ∈ bodyTags) := by
      rw [tagged]
      decide
    have children := readChildren_alike (alike.elements other)
    unfold ofElement
    rw [if_neg (by simp [tagged]), if_neg (by simp [← alike.tag, tagged])]
    simp only [bind, Outcome.bind_outcome, alike.required, children]
  · have rejected (e : Element) (strange : e.tag ≠ "mapper") :
        ofElement document e = .fail ⟨document, e.tag, "", .otherRoot⟩ := by
      rw [ofElement, if_pos (by simpa using strange)]
      rfl
    rw [rejected first tagged, rejected second (alike.tag ▸ tagged), alike.tag]

end Readers

/-- The first element of the changed documents is the same up to a change, or there is none. -/
theorem root?_recut {contents changed : List Content} (change : Recut "" contents changed) :
    Option.Rel Alike (Xml.root? contents) (Xml.root? changed) := by
  have other : ¬ ("" = "sql" ∨ "" ∈ bodyTags) := by decide
  have alike := elements_recut change other
  rw [Xml.root?, Xml.root?]
  generalize contents.filterMap Content.element? = elements at alike
  generalize changed.filterMap Content.element? = others at alike
  cases alike with
  | nil => exact .none
  | cons head _ => exact .some head

end Cuts

/-- The mapper that the contents of a document describe, or the error. -/
def readContents (document : String) (contents : List Content) : Except DocumentError Mapper :=
  match Xml.root? contents with
  | none => .error ⟨document, "document", "", .noRoot⟩
  | some root => (ofElement document root).outcome

theorem readContents_recut {contents changed : List Content} (change : Recut "" contents changed)
    (document : String) : readContents document contents = readContents document changed := by
  have roots := root?_recut change
  rw [readContents, readContents]
  generalize Xml.root? contents = first at roots
  generalize Xml.root? changed = second at roots
  cases roots with
  | none => rfl
  | some alike => exact ofElement_alike alike document

theorem readContents_recuts {contents changed : List Content} (change : Recuts "" contents changed)
    (document : String) : readContents document contents = readContents document changed := by
  induction change with
  | rel _ _ change => exact readContents_recut change document
  | refl => rfl
  | symm _ _ _ ih => exact ih.symm
  | trans _ _ _ _ _ first second => exact first.trans second

theorem parse_outcome {document : String} {bytes : List UInt8} {contents : List Content}
    (read : Xml.parse bytes = .ok contents) :
    (parse document bytes).outcome = readContents document contents := by
  simp only [parse, read, readContents]
  cases Xml.root? contents <;> rfl

/-- A body is read from contents exactly if the elements that are reached lack nothing, and it is in
normal form at every depth. Documents that differ only in how their SQL is cut up are refused with
the same error, or describe the same mapper. -/
theorem parse_independent_of_cuts (document : String) :
    (∀ owner contents,
      ((∃ nodes, (body document owner contents).outcome = .ok nodes) ↔
        ∀ e, Reaches contents e → Complete e) ∧
      ∀ nodes, (body document owner contents).outcome = .ok nodes →
        ∀ inner, Within nodes inner → Normal inner) ∧
    ∀ first second contents changed, Xml.parse first = .ok contents →
      Xml.parse second = .ok changed → Recuts "" contents changed →
        (parse document first).outcome = (parse document second).outcome := by
  constructor
  · intro owner contents
    have gives := gives_body document owner contents
    constructor
    · constructor
      · rintro ⟨nodes, success⟩
        exact ((gives.ok_iff nodes).mp success).1
      · intro complete
        exact ⟨_, (gives.ok_iff _).mpr ⟨complete, rfl⟩⟩
    · intro nodes success
      obtain ⟨_, rfl⟩ := (gives.ok_iff nodes).mp success
      exact normal_bodyOf contents
  · intro first second contents changed read alsoRead change
    rw [parse_outcome read, parse_outcome alsoRead, readContents_recuts change]

section Deletions

open Xml (make Written Readable readable_nil readable_cons readable_elements written_make)

/-- A document with a fragment and a statement. -/
def deletions (fragment statement : List Content) : List Content :=
  [make "mapper" [("namespace", "u")]
    [make "sql" [("id", "columns")] fragment,
      make "delete" [("id", "d"), ("parameterType", "user")] statement]]

/-- The document as it is written at first. -/
def inOnePiece : List Content :=
  deletions [.text "id, name"]
    [.text "DELETE FROM t", make "if" [("test", "known")] [.text " WHERE id = 1"]]

/-- The same document with its texts in pieces. -/
def inPieces : List Content :=
  deletions [.text "id", .instruction "note" "both", .text ", name"]
    [.text "DELETE", make "hint" [] [.text "slow"], .text " FROM t",
      make "if" [("test", "known")] [make "hint" [] [], .text " WHERE id = 1"]]

theorem recuts_inPieces : Recuts "" inOnePiece inPieces := by
  have columns : Recuts "sql" [.text "id, name"]
      [.text "id", .instruction "note" "both", .text ", name"] := by
    apply Relation.EqvGen.trans
    · exact .rel _ _ (.cut (.inl rfl) "id" ", name" [])
    · exact .rel _ _ (.later (.instruction (.inl rfl) "note" "both" _) _)
  have condition : Recuts "if" [.text " WHERE id = 1"]
      [make "hint" [] [], .text " WHERE id = 1"] :=
    .rel _ _ (.unknown (by decide) _ _ _ _ (by decide))
  have statement (rest : List Content) : Recuts "delete" (.text "DELETE FROM t" :: rest)
      (.text "DELETE" :: make "hint" [] [.text "slow"] :: .text " FROM t" :: rest) := by
    apply Relation.EqvGen.trans
    · exact .rel _ _ (.cut (.inr (by decide)) "DELETE" " FROM t" rest)
    · exact .rel _ _ (.later (.unknown (by decide) _ _ _ _ (by decide)) _)
  apply Recuts.inside
  apply Relation.EqvGen.trans
  · exact columns.inside _ _
  apply Recuts.later
  apply Recuts.inside
  apply Relation.EqvGen.trans
  · exact statement _
  · exact (((condition.inside _ _).later _).later _).later _

theorem read_deletions {fragment statement : List Content} (columns : Readable fragment)
    (sql : Readable statement) :
    Xml.parse (Text.encode (Xml.renderAll (deletions fragment statement))) =
      .ok (deletions fragment statement) := by
  have first : Written (make "sql" [("id", "columns")] fragment) :=
    written_make (by decide) (by decide) (by decide) columns
  have second : Written (make "delete" [("id", "d"), ("parameterType", "user")] statement) :=
    written_make (by decide) (by decide) (by decide) sql
  have children : Readable [make "sql" [("id", "columns")] fragment,
      make "delete" [("id", "d"), ("parameterType", "user")] statement] := by
    apply readable_elements
    · simp [first, second]
    · simp [make, Content.text?]
  have root : ∀ content ∈ deletions fragment statement, Written content := by
    intro content listed
    rw [List.mem_singleton.mp listed]
    exact written_make (by decide) (by decide) (by decide) children
  exact Xml.parse_renderAll root (.singleton _)

theorem readable_condition {condition : List Content} (readable : Readable condition) :
    Readable [make "if" [("test", "known")] condition] :=
  readable_cons (written_make (by decide) (by decide) (by decide) readable) (by simp) readable_nil

theorem read_inOnePiece :
    Xml.parse (Text.encode (Xml.renderAll inOnePiece)) = .ok inOnePiece := by
  apply read_deletions
  · exact readable_cons (.text (by decide) (by decide)) (by decide) readable_nil
  · apply readable_cons (.text (by decide) (by decide)) (by decide)
    apply readable_condition
    exact readable_cons (.text (by decide) (by decide)) (by decide) readable_nil

theorem read_inPieces : Xml.parse (Text.encode (Xml.renderAll inPieces)) = .ok inPieces := by
  have note : Xml.Instructs "note" "both" := by
    constructor
    · decide
    · decide
    · exact ⟨Text.byte 'b', _, Text.encode_eq _, by decide⟩
    · decide
  have hint {inside : List Content} (readable : Readable inside) : Written (make "hint" [] inside) :=
    written_make (by decide) (by decide) (by decide) readable
  have slow : Readable [.text "slow"] :=
    readable_cons (.text (by decide) (by decide)) (by decide) readable_nil
  apply read_deletions
  · apply readable_cons (.text (by decide) (by decide)) (by decide)
    apply readable_cons (.instruction note) (by decide)
    exact readable_cons (.text (by decide) (by decide)) (by decide) readable_nil
  · apply readable_cons (.text (by decide) (by decide)) (by decide)
    apply readable_cons (hint slow) (by decide)
    apply readable_cons (.text (by decide) (by decide)) (by decide)
    apply readable_condition
    apply readable_cons (hint readable_nil) (by decide)
    exact readable_cons (.text (by decide) (by decide)) (by decide) readable_nil

/-- Texts around an element that is skipped, and one without characters. -/
def scattered : List Content :=
  [.text "DELETE", make "hint" [] [.text "slow"], .text " FROM t",
    make "if" [("test", "known")] [.text "", .text " WHERE"]]

/-- Both documents are accepted and describe the same mapper, with bodies in normal form. -/
theorem inPieces_read_alike :
    (∃ m, (parse "m.xml" (Text.encode (Xml.renderAll inOnePiece))).outcome = .ok m) ∧
      (parse "m.xml" (Text.encode (Xml.renderAll inOnePiece))).outcome =
        (parse "m.xml" (Text.encode (Xml.renderAll inPieces))).outcome ∧
      ∃ nodes, (body "m.xml" "d" scattered).outcome = .ok nodes ∧
        ∀ inner, Within nodes inner → Normal inner := by
  refine ⟨?_, ?_, ?_⟩
  · rw [parse_outcome read_inOnePiece]
    exact ⟨_, rfl⟩
  · exact (parse_independent_of_cuts "m.xml").2 _ _ _ _ read_inOnePiece read_inPieces
      recuts_inPieces
  · exact ⟨_, rfl, ((parse_independent_of_cuts "m.xml").1 "d" scattered).2 _ rfl⟩

end Deletions

end Mapper
end SqlMapper
