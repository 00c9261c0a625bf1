import SqlMapper.Text.Upper

/-!
Names derived from the namespace of a mapper, and the names of the shipped support files.
-/
namespace SqlMapper.Code

def headerFile (space : String) : String :=
  "yb_" ++ space ++ ".h"

def sourceFile (space : String) : String :=
  "yb_" ++ space ++ ".c"

/-- The macro that keeps a header from being read twice. -/
def guard (space : String) : String :=
  "YB_" ++ Text.upper space ++ "_H__"

def supportHeader : String :=
  "yb_common.h"

def supportSource : String :=
  "yb_common.c"

end SqlMapper.Code
