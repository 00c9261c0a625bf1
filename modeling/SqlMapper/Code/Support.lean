import SqlMapper.Code.Names
import SqlMapper.Code.Support.Header
import SqlMapper.Code.Support.Source
import SqlMapper.Text.Search

/-!
The two support files, which are written next to the generated ones and never change.
-/
namespace SqlMapper.Code.Support

/-- A text of lines, each of them ended. -/
def ofLines (lines : List String) : String :=
  String.join (lines.map (· ++ "\n"))

def headerText : String :=
  ofLines headerLines

def sourceText : String :=
  ofLines sourceLines

/-- The support files by name, in the order in which they are written. -/
def files : List (String × String) :=
  [(supportHeader, headerText), (supportSource, sourceText)]

end SqlMapper.Code.Support
