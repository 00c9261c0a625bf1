import SqlMapper.Version.Basic

/-!
Constraints on versions, such as `>= 0.2, < 1.0`: comparisons that must all hold. A version with a
prerelease satisfies an ordering only if the constraint has one too, on the same numbers.
-/
namespace SqlMapper.Version

inductive Relation where
  | equal | notEqual | greater | less | greaterEqual | lessEqual | pessimistic
  deriving DecidableEq

structure Constraint where
  relation : Relation
  version : Version
  deriving DecidableEq

inductive ConstraintError where
  | form (text : String)
  | version (cause : ReadError)
  deriving DecidableEq

def ConstraintError.message : ConstraintError → String
  | .form text => "malformed constraint: " ++ text
  | .version cause => cause.message

def isConstraintGap (c : Char) : Bool :=
  c == '\t' || c == '\n' || c == '\x0c' || c == '\r' || c == ' '

/-- The relation that a text starts with; without a sign it is equality. -/
def relation : List Char → Relation × List Char
  | '!' :: '=' :: rest => (.notEqual, rest)
  | '>' :: '=' :: rest => (.greaterEqual, rest)
  | '<' :: '=' :: rest => (.lessEqual, rest)
  | '~' :: '>' :: rest => (.pessimistic, rest)
  | '=' :: rest => (.equal, rest)
  | '>' :: rest => (.greater, rest)
  | '<' :: rest => (.less, rest)
  | text => (.equal, text)

def readConstraint (text : List Char) : Except ConstraintError Constraint :=
  let (sign, rest) := relation (text.dropWhile isConstraintGap)
  match spelled (rest.dropWhile isConstraintGap) with
  | some (numbers, prerelease, left) =>
      if left.all isConstraintGap then
        match ofParts numbers prerelease with
        | .ok version => .ok ⟨sign, version⟩
        | .error cause => .error (.version cause)
      else .error (.form (String.ofList text))
  | none => .error (.form (String.ofList text))

def readEach : List (List Char) → Except ConstraintError (List Constraint)
  | [] => .ok []
  | text :: rest => (readConstraint text).bind fun first => (readEach rest).map (first :: ·)

def readConstraints (text : String) : Except ConstraintError (List Constraint) :=
  readEach (Text.splitAt ',' text.toList)

/-- Whether the prereleases of a version and a constraint go together. -/
def prereleasesAgree (v c : Version) : Bool :=
  if v.prerelease == "" then true
  else if c.prerelease == "" then false
  else v.segments == c.segments

/-- At least the constraint, and equal in all but its last written number. -/
def pessimistic (v c : Version) : Bool :=
  let last := c.segments.length - 1
  prereleasesAgree v c && !(c.prerelease != "" && v.prerelease == "") && order v c != .lt &&
    decide (c.segments.length ≤ v.segments.length) &&
    v.segments.take (c.written - 1) == c.segments.take (c.written - 1) &&
    decide ((c.segments[last]?).getD 0 ≤ (v.segments[last]?).getD 0)

def Constraint.holds (c : Constraint) (v : Version) : Bool :=
  let ordered := prereleasesAgree v c.version
  let found := order v c.version
  match c.relation with
  | .equal => found == .eq
  | .notEqual => found != .eq
  | .greater => ordered && found == .gt
  | .less => ordered && found == .lt
  | .greaterEqual => ordered && found != .lt
  | .lessEqual => ordered && found != .gt
  | .pessimistic => pessimistic v c.version

inductive CheckError where
  | constraint (text : String) (cause : ConstraintError)
  | version (cause : ReadError)
  | unsatisfied (current wanted : String)
  deriving DecidableEq

def CheckError.message : CheckError → String
  | .constraint text cause =>
      "invalid version constraint " ++ Text.quoted text ++ ": " ++ cause.message
  | .version cause => "invalid version format: " ++ cause.message
  | .unsatisfied current wanted =>
      "version constraint not satisfied: yobatis " ++ current ++ " does not match " ++
        Text.quoted wanted

/-- Checks a version against constraints; the empty text constrains nothing. -/
def check (current constraint : String) : Except CheckError Unit :=
  if constraint == "" then .ok ()
  else match readConstraints constraint with
    | .error cause => .error (.constraint constraint cause)
    | .ok constraints =>
        match read current with
        | .error cause => .error (.version cause)
        | .ok version =>
            if constraints.all (·.holds version) then .ok ()
            else .error (.unsatisfied current constraint)

end SqlMapper.Version
