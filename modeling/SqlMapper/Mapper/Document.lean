import SqlMapper.Log.Entry
import SqlMapper.Mapper.Store

/-!
From an element tree to a mapper. The children of the root are taken in order; elements that mean
nothing are skipped with a warning. Bodies keep document order, and character data that nothing
separates is one text.
-/
namespace SqlMapper.Mapper

open Xml (Content Element Attribute)

abbrev Reading := Logged DocumentError

/-- The value of an attribute that has to be there; `owner` is the id shown in the complaint. -/
def required (document owner : String) (e : Element) (name : String) : Reading String :=
  match e.attribute? name with
  | some value => .pure value
  | none => .fail ⟨document, e.tag, owner, .missingAttribute name⟩

/-- Puts a node in front of a body; neighbouring texts become one. -/
def prepend : Option Node → List Node → List Node
  | none, body => body
  | some (.text first), .text second :: body => .text (first ++ second) :: body
  | some node, body => node :: body

def trimRule (e : Element) : TrimRule where
  opening := (e.attribute? "prefix").getD ""
  closing := (e.attribute? "suffix").getD ""
  leading := (e.attribute? "prefixOverrides").getD ""
  trailing := (e.attribute? "suffixOverrides").getD ""

mutual

/-- The body that a list of contents stands for; `owner` is the id of the statement. -/
def body (document owner : String) : List Content → Reading (List Node)
  | [] => .pure []
  | content :: rest =>
      (node document owner content).bind fun first =>
        (body document owner rest).bind fun more => .pure (prepend first more)

def node (document owner : String) : Content → Reading (Option Node)
  | .text data => .pure (if data == "" then none else some (.text data))
  | .element name attributes children =>
      let e : Element := ⟨name, attributes, children⟩
      if e.tag == "if" then
        (required document owner e "test").bind fun test =>
          (body document owner children).bind fun inner =>
            .pure (some (.conditional test inner))
      else if e.tag == "trim" then
        (body document owner children).bind fun inner => .pure (some (.trim (trimRule e) inner))
      else if e.tag == "include" then
        (required document owner e "refid").bind fun reference =>
          .pure (some (.fragment reference))
      else
        (Logged.write .warn "skipping unknown sql element"
          [("document", .text document), ("statement", .text owner), ("element", .text e.tag)]).bind
          fun _ => .pure none
  | .comment _ | .instruction .. | .directive _ => .pure none

end

/-- The fields of a shape, with distinct properties. -/
def fields (document id : String) : List Field → List Element → Reading (List Field)
  | done, [] => .pure done
  | done, e :: rest =>
      if e.tag == "result" then do
        let column ← required document id e "column"
        let property ← required document id e "property"
        let declared ← required document id e "yo_type"
        if done.any fun f => f.property == property then
          .fail ⟨document, "resultMap", id, .propertyMapped property⟩
        else fields document id (done ++ [Field.make column property declared]) rest
      else do
        Logged.write .warn "skipping unknown resultMap element"
          [("document", .text document), ("resultMap", .text id), ("element", .text e.tag)]
        fields document id done rest

def readResultMap (m : Mapper) (e : Element) : Reading Mapper := do
  let id ← required m.document "" e "id"
  let type ← required m.document id e "type"
  let found ← fields m.document id [] e.elements
  .ofExcept (m.addResultMap ⟨id, type, found⟩)

/-- A fragment is the character data directly inside its element. -/
def readFragment (m : Mapper) (e : Element) : Reading Mapper := do
  let id ← required m.document "" e "id"
  .ofExcept (m.addFragment id (String.join (e.children.filterMap Content.text?)))

def readStatement (m : Mapper) (kind : StatementKind) (e : Element) : Reading Mapper := do
  let id ← required m.document "" e "id"
  let parameterType ← required m.document id e "parameterType"
  let resultMap ← if kind = .select then required m.document id e "resultMap" else .pure ""
  let found ← body m.document id e.children
  .ofExcept (m.addStatement ⟨kind, id, parameterType, resultMap, found⟩)

def readChild (m : Mapper) (e : Element) : Reading Mapper :=
  if e.tag == "resultMap" then m.readResultMap e
  else if e.tag == "sql" then m.readFragment e
  else match StatementKind.ofName? e.tag with
    | some kind => m.readStatement kind e
    | none => do
        Logged.write .warn "skipping unknown mapper element"
          [("document", .text m.document), ("element", .text e.tag)]
        .pure m

def readChildren : Mapper → List Element → Reading Mapper
  | m, [] => .pure m
  | m, e :: rest => (m.readChild e).bind fun next => readChildren next rest

/-- The mapper that the root element of a document describes. -/
def ofElement (document : String) (root : Element) : Reading Mapper := do
  if root.tag != "mapper" then .fail ⟨document, root.tag, "", .otherRoot⟩
  let space ← required document "" root "namespace"
  let m ← readChildren (.empty space document) root.elements
  Logged.write .debug "parsed mapper"
    [("document", .text document), ("namespace", .text space),
      ("result_maps", .number m.resultMaps.size), ("fragments", .number m.fragments.size),
      ("statements", .number m.statementCount)]
  .pure m

def parse (document : String) (bytes : List UInt8) : Reading Mapper :=
  match Xml.parse bytes with
  | .error error => .fail ⟨document, "document", "", .unreadable error⟩
  | .ok content =>
      match Xml.root? content with
      | none => .fail ⟨document, "document", "", .noRoot⟩
      | some root => ofElement document root

end SqlMapper.Mapper
