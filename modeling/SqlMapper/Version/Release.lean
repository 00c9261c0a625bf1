import SqlMapper.Version.Constraint

/-!
The release that is running, and how it relates to the version that a project asks for.
-/
namespace SqlMapper

structure Release where
  version : String
  date : String
  commit : String
  toolchain : String
  platform : String
  /-- The last constraint that it was held against. -/
  constraint : String := ""
  /-- Why the constraint is not met; empty if it is. -/
  problem : String := ""
  deriving DecidableEq

namespace Release

def runningVersion : String :=
  "0.2.0"

def running (toolchain platform : String) : Release where
  version := runningVersion
  date := "unknown"
  commit := "unknown"
  toolchain := toolchain
  platform := platform

/-- Holds the release against a constraint; the empty one leaves it as it is. -/
def against (r : Release) (constraint : String) : Release :=
  if constraint == "" then r
  else
    let problem := match Version.check r.version constraint with
      | .ok () => ""
      | .error e => e.message
    { r with constraint, problem }

def satisfied (r : Release) : Bool :=
  r.problem == ""

def summary (r : Release) : String :=
  let relation :=
    if r.constraint == "" then ""
    else if r.satisfied then ", satisfies " ++ Text.quoted r.constraint
    else ", does not satisfy " ++ Text.quoted r.constraint
  "yobatis version " ++ r.version ++ " (" ++ r.platform ++ " " ++ r.toolchain ++ ")" ++ relation

end Release
end SqlMapper
