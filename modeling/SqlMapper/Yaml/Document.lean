import SqlMapper.Text.Base64
import SqlMapper.Text.Utf16
import SqlMapper.Yaml.Node
import SqlMapper.Yaml.Tree

/-!
The tree of a YAML document. Tags and plain words are given their meaning, names are replaced by
what they refer to, and the entries of merged mappings are added to those that name them. A text
that cannot be read gives nothing.
-/
namespace SqlMapper.Yaml

def Scalar.tag : Scalar → String
  | .null => "!!null"
  | .bool _ => "!!bool"
  | .int _ => "!!int"
  | .float _ => "!!float"
  | .date => "!!timestamp"
  | .text _ => "!!str"

/-- An integer of 64 bits as a floating point number. -/
def Scalar.widened? : Scalar → Option Scalar
  | .int value =>
      if Int64.minValue.toInt ≤ value && value ≤ Int64.maxValue.toInt then
        (Number.float (toString value).toList).toOption.map .float
      else none
  | _ => none

/-- What a text with a tag stands for. The tag of a common kind needs a text of that kind, where an
integer is a number too; with an unknown tag every text stands for itself. -/
def Scalar.ofTagged? (tag : String) (plain : Bool) (text : String) : Option Scalar :=
  if tag == "" || tag == "!" then some (if plain then .ofPlain text else .text text)
  else if tag == "!!binary" then (Text.base64? text).map fun bytes => .text (Text.decode bytes)
  else if ["!!null", "!!bool", "!!int", "!!float", "!!timestamp"].contains tag then
    let found := Scalar.ofPlain text
    if found.tag == tag then some found
    else if tag == "!!float" then found.widened?
    else none
  else some (.text text)

namespace Node

/-- Whether two keys are the same as they are written. -/
def sameKey : Node → Node → Bool
  | .scalar _ _ a, .scalar _ _ b => a == b
  | .alias a _, .alias b _ => a == b
  | .sequence _, .sequence _ => true
  | .mapping _, .mapping _ => true
  | _, _ => false

def hasRepeats : List (Node × Node) → Bool
  | [] => false
  | entry :: rest => rest.any (fun other => sameKey entry.1 other.1) || hasRepeats rest

/-- Whether a key asks for the entries of other mappings. -/
def isMerge : Node → Bool
  | .scalar tag plain text =>
      text == "<<" && (tag == "!!merge" || (plain && (tag == "" || tag == "!")))
  | _ => false

/-- Whether a node is a mapping or the name of one. -/
def isMapping : Node → Bool
  | .mapping _ => true
  | .alias _ (some (.mapping _)) => true
  | _ => false

/-- The mappings that the value of a merging key stands for. -/
def mergeSources? : Node → Option (List Node)
  | .sequence items => if items.all isMapping then some items else none
  | node => if node.isMapping then some [node] else none

end Node

/-- How many nodes were looked at, and how many of them by a name. -/
structure Tally where
  nodes : Nat := 0
  aliased : Nat := 0

namespace Tally

/-- The share of nodes that names may stand for, in units of 1 / 360,000,000: it falls from 99
percent to 10 percent as documents grow. -/
def allowedShare (nodes : Nat) : Nat :=
  if nodes ≤ 400000 then 99 * 3600000
  else if 4000000 ≤ nodes then 10 * 3600000
  else 99 * 3600000 - 89 * (nodes - 400000)

/-- Whether a document consists of repetitions for the most part. -/
def isExcessive (t : Tally) : Bool :=
  100 < t.aliased && 1000 < t.nodes &&
    allowedShare t.nodes * t.nodes < 360000000 * t.aliased

def add (t : Tally) (aliased : Bool) : Tally :=
  ⟨t.nodes + 1, if aliased then t.aliased + 1 else t.aliased⟩

end Tally

abbrev Counting (α : Type) :=
  StateT Tally Option α

/-- The entries of a mapping so far, and the keys that merged mappings may not give any more. -/
structure Entries where
  items : List (String × Tree) := []
  taken : List (Option String) := []

/-- Adds an entry; a later one replaces an earlier one. -/
def Entries.put (e : Entries) (key : Option String) (value : Tree) : Entries :=
  let name := key.getD ""
  let items := if (e.items.lookup name).isSome
    then e.items.map fun entry => if entry.1 == name then (name, value) else entry
    else e.items ++ [(name, value)]
  { items, taken := key :: e.taken }

namespace Counting

def visit (aliased : Bool) : Counting Unit := do
  let tally := (← get).add aliased
  if tally.isExcessive then failure else set tally

def ofOption {α : Type} : Option α → Counting α
  | some value => return value
  | none => failure

/-- The text of a key, which is a scalar; nothing for null. -/
def key : Nat → Bool → Node → Counting (Option String)
  | 0, _, _ => failure
  | fuel + 1, aliased, node => do
      visit aliased
      match node with
      | .scalar tag plain text =>
          match ← ofOption (Scalar.ofTagged? tag plain text) with
          | .null => return none
          | .text value => return some value
          | _ => return some text
      | .alias _ (some target) => key fuel true target
      | _ => failure

/-- Adds the entries of a mapping but for those that merge. With `merging`, keys that are taken are
passed over; with `named`, null is no key. -/
def ownEntries (key : Node → Counting (Option String)) (tree : Node → Counting Tree)
    (named merging : Bool) : Entries → List (Node × Node) → Counting Entries
  | e, [] => return e
  | e, (name, value) :: rest => do
      if name.isMerge then ownEntries key tree named merging e rest
      else
        let found ← key name
        if (named && found.isNone) || (merging && e.taken.contains found) then
          ownEntries key tree named merging e rest
        else ownEntries key tree named merging (e.put found (← tree value)) rest

mutual

def tree : Nat → Bool → Bool → Node → Counting Tree
  | 0, _, _, _ => failure
  | fuel + 1, root, aliased, node => do
      visit aliased
      match node with
      | .scalar tag plain text => return .scalar (← ofOption (Scalar.ofTagged? tag plain text))
      | .sequence items => return .sequence (← items.mapM (tree fuel false aliased))
      | .mapping entries => return .mapping (← mapping fuel root aliased false {} entries).items
      | .alias _ (some target) => tree fuel root true target
      | .alias _ none => failure

/-- Adds the entries of a mapping: its own first, then those that it merges. -/
def mapping : Nat → Bool → Bool → Bool → Entries → List (Node × Node) → Counting Entries
  | 0, _, _, _, _, _ => failure
  | fuel + 1, root, aliased, merging, done, entries => do
      if Node.hasRepeats entries then failure
      let own ← ownEntries (key fuel aliased) (tree fuel false aliased) root merging done entries
      match entries.find? fun entry => entry.1.isMerge with
      | none => return own
      | some (_, source) =>
          let taken ← if merging then pure own.taken
            else entries.mapM fun entry => key fuel aliased entry.1
          let sources ← ofOption source.mergeSources?
          sources.foldlM (merged fuel root aliased) { own with taken }

/-- Adds the entries of a mapping that is merged. -/
def merged : Nat → Bool → Bool → Entries → Node → Counting Entries
  | 0, _, _, _, _ => failure
  | fuel + 1, root, aliased, done, node => do
      visit aliased
      match node with
      | .mapping entries => mapping fuel root aliased true done entries
      | .alias _ (some target) => merged fuel root true done target
      | _ => failure

end
end Counting

def Tree.ofRoot? (size : Nat) (root : Node) : Option Tree :=
  ((Counting.tree size true false root).run { nodes := 1 }).map Prod.fst

/-- The characters of bytes, whose encoding a byte order mark may tell. -/
def characters? : List UInt8 → Option (List Char)
  | 0xff :: 0xfe :: rest => (Text.units? false rest).bind Text.ofUnits?
  | 0xfe :: 0xff :: rest => (Text.units? true rest).bind Text.ofUnits?
  | 0xef :: 0xbb :: 0xbf :: rest => Text.characters? (Text.pieces rest)
  | bytes => Text.characters? (Text.pieces bytes)

/-- The tree of the first document in some bytes; no document is an empty one. -/
def read (bytes : List UInt8) : Option Tree :=
  (characters? bytes).bind fun text =>
    if text.all isAllowed then
      let tokens := Tokens.ofText text
      (root? tokens).bind fun
        | none => some .empty
        | some root => Tree.ofRoot? (4 * tokens.items.length + 8) root
    else none

end SqlMapper.Yaml
