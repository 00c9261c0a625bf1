import SqlMapper.Mapper.Statement
import SqlMapper.Text.Blank
import SqlMapper.Text.Search

/-!
Trimming: blanks go from both ends, then one token from the start, then one from the end of what is
left; the rest is wrapped.
-/
namespace SqlMapper.Sql

/-- The tokens of a `|`-separated list, without the empty ones. -/
def overrideTokens (list : List Char) : List (List Char) :=
  (Text.splitAt '|' list).filter fun token => !token.isEmpty

def dropLeading (tokens : List (List Char)) (text : List Char) : List Char :=
  match tokens.findSome? fun token => token.isPrefixOf? text with
  | some rest => rest
  | none => text

def dropTrailing (tokens : List (List Char)) (text : List Char) : List Char :=
  match tokens.findSome? fun token => token.isSuffixOf? text with
  | some rest => rest
  | none => text

def trimChars (rule : TrimRule) (content : List Char) : List Char :=
  let bare := Text.strip Text.isBlank content
  let bare := dropLeading (overrideTokens rule.leading.toList) bare
  let bare := dropTrailing (overrideTokens rule.trailing.toList) bare
  rule.opening.toList ++ bare ++ rule.closing.toList

def trim (rule : TrimRule) (content : String) : String :=
  String.ofList (trimChars rule content.toList)

end SqlMapper.Sql
