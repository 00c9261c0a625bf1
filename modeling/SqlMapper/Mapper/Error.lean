import SqlMapper.C.Literal
import SqlMapper.Text.Quoted
import SqlMapper.Xml.Document

/-!
What can be wrong with a mapper document: the complaint, and the element it is about.
-/
namespace SqlMapper

inductive DocumentFault where
  | reference
  | unsupportedType
  | malformed
  deriving DecidableEq

def DocumentFault.message : DocumentFault → String
  | .reference => "unresolved reference"
  | .unsupportedType => "unsupported type"
  | .malformed => "malformed mapper document"

inductive Complaint where
  | unreadable (error : Xml.Error)
  | noRoot
  | otherRoot
  | missingAttribute (name : String)
  | definedTwice
  | typeMapped (type : String)
  | propertyMapped (property : String)
  | parameterType (type : String)
  | resultMap (id : String)
  | fragment (reference : String)
  | noStatement
  | fieldType (declared : String)
  | spaceForm
  | typeForm (type : String)
  | propertyForm (property : String)
  | idForm
  | openPlaceholder (text : String)
  | strangePlaceholder (name type : String)
  | splitPlaceholder (text : String)
  | spaceTaken (document : String)
  deriving DecidableEq

namespace Complaint

def fault : Complaint → DocumentFault
  | parameterType _ | resultMap _ | fragment _ | noStatement | strangePlaceholder .. => .reference
  | fieldType _ => .unsupportedType
  | _ => .malformed

def message : Complaint → String
  | unreadable error => error.message
  | noRoot => "no root element"
  | otherRoot => "root element must be <mapper>"
  | missingAttribute name => "attribute " ++ Text.quoted name ++ " is required"
  | definedTwice => "defined more than once"
  | typeMapped type => "type " ++ Text.quoted type ++ " is already mapped"
  | propertyMapped property => "property " ++ property ++ " is mapped more than once"
  | parameterType type => "parameterType " ++ Text.quoted type ++ " names no resultMap type"
  | resultMap id => "resultMap " ++ Text.quoted id ++ " is not defined"
  | fragment reference => "include refid " ++ Text.quoted reference ++ " is not defined"
  | noStatement => "no statement has this id"
  | fieldType declared =>
      "type " ++ Text.quoted declared ++ " is not one of int64_t, double, yb_string_t"
  | spaceForm => "namespace is not a C identifier"
  | typeForm type => "type " ++ type ++ " is not a C identifier"
  | propertyForm property => "property " ++ property ++ " is not a C identifier"
  | idForm => "id is not a C identifier"
  | openPlaceholder text => "unterminated placeholder in " ++ C.literal text
  | strangePlaceholder name type =>
      "placeholder #\x7b" ++ name ++ "\x7d names no field of " ++ type
  | splitPlaceholder text => "placeholder split across elements before " ++ C.literal text
  | spaceTaken document => "namespace is also declared by " ++ document

end Complaint

structure DocumentError where
  document : String
  element : String
  name : String
  complaint : Complaint
  deriving DecidableEq

def DocumentError.message (e : DocumentError) : String :=
  let element := if e.name == "" then e.element else e.element ++ " " ++ Text.quoted e.name
  let place := if e.document == "" then element else e.document ++ ": " ++ element
  place ++ ": " ++ e.complaint.message ++ ": " ++ e.complaint.fault.message

end SqlMapper
