import SqlMapper.Xml.Name

/-!
Element trees. The content of an element keeps its order: elements, runs of character data, and
the comments, instructions and directives between them.
-/
namespace SqlMapper.Xml

structure Attribute where
  name : Name
  value : String
  deriving DecidableEq

inductive Content where
  | element (name : Name) (attributes : List Attribute) (children : List Content)
  | text (data : String)
  | comment (data : String)
  | instruction (target data : String)
  | directive (data : String)

structure Element where
  name : Name
  attributes : List Attribute
  children : List Content

def Content.element? : Content → Option Element
  | .element name attributes children => some ⟨name, attributes, children⟩
  | _ => none

def Content.text? : Content → Option String
  | .text data => some data
  | _ => none

namespace Element

/-- The tag without what stands before its colon. -/
def tag (e : Element) : String :=
  e.name.tag

/-- The first attribute of that name, whatever stands before its colon. -/
def attribute? (e : Element) (name : String) : Option String :=
  (e.attributes.find? fun a => a.name.tag == name).map (·.value)

def elements (e : Element) : List Element :=
  e.children.filterMap Content.element?

end Element

def isCharacter (c : Char) : Bool :=
  let code := c.toNat
  code == 0x9 || code == 0xa || code == 0xd || (0x20 ≤ code && code ≤ 0xd7ff) ||
    (0xe000 ≤ code && code ≤ 0xfffd) || 0x10000 ≤ code

end SqlMapper.Xml
