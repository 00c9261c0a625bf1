import SqlMapper.Mapper.Error
import SqlMapper.Mapper.Shape
import SqlMapper.Number.Reading
import SqlMapper.Predicate.Value

/-!
Records: one value per property. A new record of a shape holds the missing value of each field;
values are set from text, and the word `null` sets the missing value again.
-/
namespace SqlMapper

structure Record where
  entries : List (String × Value)

namespace Record

def empty : Record :=
  ⟨[]⟩

def get? (r : Record) (property : String) : Option Value :=
  r.entries.lookup property

/-- Replaces the value of a property in its place, or adds it at the end. -/
def putEntry (property : String) (value : Value) : List (String × Value) → List (String × Value)
  | [] => [(property, value)]
  | entry :: rest =>
      if entry.1 == property then (property, value) :: rest
      else entry :: putEntry property value rest

def put (r : Record) (property : String) (value : Value) : Record :=
  ⟨putEntry property value r.entries⟩

def erase (r : Record) (property : String) : Record :=
  ⟨r.entries.filter fun entry => entry.1 != property⟩

/-- The missing value of a kind; an unknown kind is treated as text. -/
def missing : FieldKind → Value
  | .integer => .int Value.nullInt
  | .floatingPoint => .float Value.nullFloat
  | .text | .unknown => .text none

def ofShape (shape : ResultMap) : Record :=
  shape.fields.foldl (fun r f => r.put f.property (missing f.kind)) empty

inductive SetError where
  | noField (type property : String)
  | notInteger (property raw : String) (cause : Number.ReadError)
  | notNumber (property raw : String) (cause : Number.ReadError)
  | unsupported (property : String)
  deriving DecidableEq

def SetError.message : SetError → String
  | .noField type property =>
      type ++ " has no field " ++ Text.quoted property ++ ": " ++ DocumentFault.reference.message
  | .notInteger property raw cause =>
      "field " ++ property ++ ": " ++ Text.quoted raw ++ " is not an integer: " ++ cause.message
  | .notNumber property raw cause =>
      "field " ++ property ++ ": " ++ Text.quoted raw ++ " is not a number: " ++ cause.message
  | .unsupported property =>
      "field " ++ property ++ ": " ++ DocumentFault.unsupportedType.message

/-- The value that a text stands for in a field. -/
def read (f : Field) (raw : String) : Except SetError Value :=
  if raw == "null" then .ok (missing f.kind)
  else match f.kind with
    | .integer =>
        match Number.readInteger raw with
        | .ok value => .ok (.int value)
        | .error cause => .error (.notInteger f.property raw cause)
    | .floatingPoint =>
        match Number.readFloat raw with
        | .ok value => .ok (.float value)
        | .error cause => .error (.notNumber f.property raw cause)
    | .text => .ok (.text (some raw))
    | .unknown => .error (.unsupported f.property)

def set (r : Record) (shape : ResultMap) (property raw : String) : Except SetError Record :=
  match shape.field? property with
  | none => .error (.noField shape.type property)
  | some f => (read f raw).map (r.put property)

def setAll (r : Record) (shape : ResultMap) : List (String × String) → Except SetError Record
  | [] => .ok r
  | (property, raw) :: rest => (r.set shape property raw).bind fun next => next.setAll shape rest

end Record
end SqlMapper
