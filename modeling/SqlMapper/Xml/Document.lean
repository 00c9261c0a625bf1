import SqlMapper.Xml.Token

/-!
From tokens to an element tree. Tags must nest; the first token that breaks the nesting, or the
fault at which the tokens end, whichever comes first, is the error of the document.
-/
namespace SqlMapper.Xml

inductive Error where
  | at (line : Nat) (fault : Fault)
  | version (found : List UInt8)
  | nesting
  deriving DecidableEq

def Error.message : Error → String
  | .at line fault => "XML syntax error on line " ++ toString line ++ ": " ++ fault.message
  | .version found =>
      "xml: unsupported version " ++ Text.quotedBytes found ++ "; only version 1.0 is supported"
  | .nesting => "etree: invalid XML format"

/-- An element whose end has not been read; its children are in reverse. -/
structure Open where
  name : Name
  attributes : List Attribute
  children : List Content

def Open.closed (e : Open) : Content :=
  .element e.name e.attributes e.children.reverse

/-- The content read so far: the open elements, innermost first, and the top level in reverse. -/
structure Nest where
  opened : List Open
  top : List Content

def Nest.add (nest : Nest) (content : Content) : Nest :=
  match nest.opened with
  | [] => { nest with top := content :: nest.top }
  | inner :: outer => { nest with opened := { inner with children := content :: inner.children } :: outer }

def Nest.take (nest : Nest) : Token → Option Nest
  | .open name attributes => some { nest with opened := ⟨name, attributes, []⟩ :: nest.opened }
  | .close name =>
      match nest.opened with
      | [] => none
      | inner :: outer =>
          if inner.name == name then some (Nest.add { nest with opened := outer } inner.closed)
          else none
  | .text data => some (nest.add (.text data))
  | .comment data => some (nest.add (.comment data))
  | .instruction target data => some (nest.add (.instruction target data))
  | .directive data => some (nest.add (.directive data))

def Nest.takeAll : Nest → List Token → Option Nest
  | nest, [] => some nest
  | nest, token :: rest =>
      match nest.take token with
      | some next => next.takeAll rest
      | none => none

def newlines (bytes : Bytes) : Nat :=
  bytes.countP (· == 0x0a)

/-- The error for a stop, which knows only the bytes not yet read. -/
def Stop.error (document : Bytes) : Stop → Error
  | .fault found rest => .at (newlines document - newlines rest + 1) found
  | .version found => .version found

/-- The top level of a document. -/
def parse (document : Bytes) : Except Error (List Content) :=
  let (read, stop) := tokens (document.length + 1) document
  match Nest.takeAll ⟨[], []⟩ read, stop with
  | none, _ => .error .nesting
  | some _, some stop => .error (stop.error document)
  | some nest, none => if nest.opened.isEmpty then .ok nest.top.reverse else .error .nesting

def root? (content : List Content) : Option Element :=
  (content.filterMap Content.element?).head?

end SqlMapper.Xml
