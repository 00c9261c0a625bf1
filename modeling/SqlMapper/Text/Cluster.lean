import SqlMapper.Text.Cluster.Class

/-!
Clusters: a text cut into what a reader sees as single characters, such as a letter with its
accents, a syllable, a flag or a family of joined pictographs.
-/
namespace SqlMapper.Text

/-- What of a cluster decides whether the next character joins it. -/
inductive ClusterEnd where
  | plain
  | carriageReturn
  | control
  | leading
  | vowel
  | trailing
  | prepended
  | pictograph
  | joinedPictograph
  | oddRegional
  | evenRegional
  deriving DecidableEq

/-- The end of a cluster after a character of a class was read. -/
def ClusterEnd.after (before : ClusterEnd) : ClusterClass → ClusterEnd
  | .other | .spacing => .plain
  | .carriageReturn => .carriageReturn
  | .lineFeed | .control => .control
  | .leading => .leading
  | .vowel | .openSyllable => .vowel
  | .trailing | .closedSyllable => .trailing
  | .prepended => .prepended
  | .pictograph => .pictograph
  | .extending => if before = .pictograph then .pictograph else .plain
  | .joiner => if before = .pictograph then .joinedPictograph else .plain
  | .regional => if before = .oddRegional then .evenRegional else .oddRegional

/-- Whether a character of a class joins the cluster: line ends and controls stand alone, marks
always join, and letters join only in a syllable, a flag, joined pictographs or after a character
that belongs to the next one. -/
def ClusterEnd.joins : ClusterEnd → ClusterClass → Bool
  | .carriageReturn, kind => kind == .lineFeed
  | .control, _ => false
  | _, .carriageReturn | _, .lineFeed | _, .control => false
  | _, .extending | _, .joiner | _, .spacing => true
  | .prepended, _ => true
  | .leading, kind =>
      kind == .leading || kind == .vowel || kind == .openSyllable || kind == .closedSyllable
  | .vowel, kind => kind == .vowel || kind == .trailing
  | .trailing, kind => kind == .trailing
  | .joinedPictograph, kind => kind == .pictograph
  | .oddRegional, kind => kind == .regional
  | _, _ => false

/-- The characters at the start of a text that join a cluster, and the rest. -/
def joining : ClusterEnd → List Char → List Char × List Char
  | _, [] => ([], [])
  | before, c :: rest =>
      let kind := clusterClass c
      if before.joins kind then
        let (joined, others) := joining (before.after kind) rest
        (c :: joined, others)
      else ([], c :: rest)

/-- The cluster that starts with `first`, and the rest. -/
def clusterFrom (first : Char) (rest : List Char) : List Char × List Char :=
  let (joined, others) := joining (ClusterEnd.after .plain (clusterClass first)) rest
  (first :: joined, others)

theorem joining_append (before : ClusterEnd) (text : List Char) :
    (joining before text).1 ++ (joining before text).2 = text := by
  induction text generalizing before with
  | nil => rfl
  | cons c rest ih =>
      simp only [joining]
      split
      · simpa using ih _
      · rfl

/-- No character is lost or moved. -/
theorem clusterFrom_append (first : Char) (rest : List Char) :
    (clusterFrom first rest).1 ++ (clusterFrom first rest).2 = first :: rest := by
  simp [clusterFrom, joining_append]

theorem length_clusterFrom_lt (first : Char) (rest : List Char) :
    (clusterFrom first rest).2.length < (first :: rest).length := by
  have whole := congrArg List.length (clusterFrom_append first rest)
  simp only [List.length_append] at whole
  have : 0 < (clusterFrom first rest).1.length := by simp [clusterFrom]
  omega

def clusters : List Char → List (List Char)
  | [] => []
  | c :: rest => (clusterFrom c rest).1 :: clusters (clusterFrom c rest).2
termination_by text => text.length
decreasing_by exact length_clusterFrom_lt c rest

end SqlMapper.Text
