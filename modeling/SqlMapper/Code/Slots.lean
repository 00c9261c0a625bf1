import SqlMapper.Mapper.Placeholder
import SqlMapper.Mapper.Store
import SqlMapper.Sql.Trim

/-!
Counting the placeholders that can reach the text of a statement. Each must be closed within its
literal and name a field. A `#` that may end one piece while the next may start with a brace would
form a placeholder only later, so it is refused, also where a trim may uncover it.
-/
namespace SqlMapper.Code

/-- What enclosing trims may remove from the ends of a piece. -/
structure Stripping where
  active : Bool
  leading : List (List Char)
  trailing : List (List Char)

namespace Stripping

def none : Stripping :=
  ⟨false, [], []⟩

/-- One trim more. -/
def under (strip : Stripping) (rule : TrimRule) : Stripping :=
  ⟨true, strip.leading ++ Sql.overrideTokens rule.leading.toList,
    strip.trailing ++ Sql.overrideTokens rule.trailing.toList⟩

def startsWith (c : Char) (text : List Char) : Bool :=
  [c].isPrefixOf text

def endsWith (c : Char) (text : List Char) : Bool :=
  [c].isSuffixOf text

/-- Whether a piece may come to start with a brace. -/
def startsBrace (strip : Stripping) (text : List Char) : Bool :=
  startsWith '{' text ||
    (strip.active &&
      let bare := text.dropWhile Text.isBlank
      startsWith '{' bare || strip.leading.any fun token =>
        match token.isPrefixOf? bare with
        | some rest => startsWith '{' rest
        | .none => false)

/-- Whether a piece may come to end in a hash. -/
def endsHash (strip : Stripping) (text : List Char) : Bool :=
  endsWith '#' text ||
    (strip.active &&
      let bare := Text.dropRight Text.isBlank text
      endsWith '#' bare || strip.trailing.any fun token =>
        match token.isSuffixOf? bare with
        | some rest => endsWith '#' rest
        | .none => false)

end Stripping

/-- Where the walk stands: whether the text may end in a hash, and the placeholders so far. -/
structure Walk where
  hash : Bool
  count : Nat

/-- The names in a literal, all of them fields. -/
def literalNames (m : Mapper) (statement : Statement) (shape : ResultMap) (text : String) :
    Except DocumentError (List String) :=
  let (names, closed) := placeholders text
  if !closed then .error (m.statementError statement (.openPlaceholder text))
  else match names.find? fun name => (shape.field? name).isNone with
    | some name => .error (m.statementError statement (.strangePlaceholder name shape.type))
    | none => .ok names

/-- Walks over one literal; an empty one changes nothing. -/
def walkPiece (m : Mapper) (statement : Statement) (shape : ResultMap) (strip : Stripping)
    (walk : Walk) (text : String) : Except DocumentError Walk :=
  if text == "" then .ok walk
  else if walk.hash && strip.startsBrace text.toList then
    .error (m.statementError statement (.splitPlaceholder text))
  else (literalNames m statement shape text).map fun names =>
    ⟨strip.endsHash text.toList, walk.count + names.length⟩

mutual

def walkBody (m : Mapper) (statement : Statement) (shape : ResultMap) (strip : Stripping) :
    Walk → List Node → Except DocumentError Walk
  | walk, [] => .ok walk
  | walk, node :: rest =>
      (walkNode m statement shape strip walk node).bind fun next =>
        walkBody m statement shape strip next rest

def walkNode (m : Mapper) (statement : Statement) (shape : ResultMap) (strip : Stripping)
    (walk : Walk) : Node → Except DocumentError Walk
  | .text value => walkPiece m statement shape strip walk value
  | .fragment reference =>
      (m.fragmentText statement reference).bind (walkPiece m statement shape strip walk)
  | .conditional _ body =>
      -- the part may be left out, so a hash before it stays possible
      (walkBody m statement shape strip walk body).map fun taken =>
        ⟨walk.hash || taken.hash, taken.count⟩
  | .trim rule body =>
      (walkPiece m statement shape strip walk rule.opening).bind fun opened =>
        (walkBody m statement shape (strip.under rule) opened body).bind fun inner =>
          walkPiece m statement shape strip inner rule.closing

end

def placeholderSlots (m : Mapper) (statement : Statement) (shape : ResultMap) :
    Except DocumentError Nat :=
  (walkBody m statement shape .none ⟨false, 0⟩ statement.body).map (·.count)

end SqlMapper.Code
