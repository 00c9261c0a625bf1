import SqlMapper.Proofs.Decoding
import SqlMapper.Proofs.Lookup
import SqlMapper.Proofs.Yaml.Blocks
import SqlMapper.Yaml.Document

/-!
Documents that are read back. The tokens of block mappings give the nodes of their entries, and those
the tree that was meant: each key once, with a scalar or a mapping of scalars.
-/

namespace SqlMapper.Yaml

section Nodes

def Reader.behind (r : Reader) (rest : List Token) : Reader :=
  { r with tokens := { r.tokens with items := rest } }

def keyNode (key : String) : Node :=
  .scalar "" true key

namespace Reading

variable {r : Reader} {token : Token} {rest : List Token} {fuel : Nat} {loose : Bool}

theorem run_bind {α β : Type} {first : Reading α} {next : α → Reading β} {a : α} {t : Reader}
    (ran : first.run r = some (a, t)) : (first >>= next).run r = (next a).run t := by
  rw [StateT.run_bind, ran]
  rfl

theorem run_peek (here : r.tokens.items = token :: rest) : peek.run r = some (token, r) := by
  simp [peek, here]

theorem run_skip (here : r.tokens.items = token :: rest) : skip.run r = some ((), r.behind rest) := by
  simp [skip, here, Reader.behind]

/-- What is read of a node without properties is what it holds. -/
theorem run_node (block : Bool) (here : r.tokens.items = token :: rest)
    (bare : token = .blockMapping ∨ ∃ text plain, token = .scalar text plain) :
    (node (fuel + 1) block loose).run r = (content fuel block loose "" true).run r := by
  have peeked := run_peek here
  rcases bare with rfl | ⟨text, plain, rfl⟩
  · simp [node, properties, anchor, tag, tagText, bound, Properties.isEmpty, peeked]
  · simp [node, properties, anchor, tag, tagText, bound, Properties.isEmpty, peeked]

theorem run_scalar {text : String} {plain : Bool} (block : Bool)
    (here : r.tokens.items = .scalar text plain :: rest) :
    (node (fuel + 2) block loose).run r = some (.scalar "" plain text, r.behind rest) := by
  rw [run_node block here (.inr ⟨text, plain, rfl⟩)]
  simp [content, run_peek here, run_skip here]

theorem run_block {entries : List (Node × Node)} {last : Reader}
    (here : r.tokens.items = .blockMapping :: rest)
    (inside : (blockEntries fuel).run (r.behind rest) = some (entries, last)) :
    (node (fuel + 2) true loose).run r = some (.mapping entries, last) := by
  rw [run_node true here (.inl rfl)]
  simp [content, run_peek here, run_skip here, inside]

/-- Tokens that are read as a node, by enough fuel for each of them. -/
structure Gives (tokens : List Token) (value : Node) : Prop where
  first : ∃ token more, tokens = token :: more ∧ keyEnds.contains token = false
  reads : ∀ fuel loose r rest, tokens.length < fuel → r.tokens.items = tokens ++ rest →
    (node fuel true loose).run r = some (value, r.behind rest)

theorem gives_scalar (text : String) (plain : Bool) :
    Gives [.scalar text plain] (.scalar "" plain text) := by
  refine ⟨⟨_, _, rfl, rfl⟩, ?_⟩
  intro fuel loose r rest enough here
  obtain ⟨fuel, rfl⟩ : ∃ more, fuel = more + 2 := ⟨fuel - 2, by simp at enough; omega⟩
  exact run_scalar true here

theorem run_orEmpty {ends : List Token} (content : Reading Node) (here : r.tokens.items = token :: rest)
    (goesOn : ends.contains token = false) : (orEmpty ends content).run r = content.run r := by
  rw [orEmpty, run_bind (run_peek here), goesOn]
  rfl

theorem run_afterValue {ends : List Token} (content : Reading Node)
    (here : r.tokens.items = .value :: token :: rest) (goesOn : ends.contains token = false) :
    (afterValue ends content).run r = content.run (r.behind (token :: rest)) := by
  rw [afterValue, run_bind (run_peek here)]
  exact (run_bind (run_skip here)).trans (run_orEmpty content rfl goesOn)

/-- One more entry of a block mapping is read. -/
theorem run_blockEntries_cons {key : String} {tokens : List Token} {value : Node}
    {entries : List (Node × Node)} {last : Reader} (gives : Gives tokens value)
    (here : r.tokens.items = keyTokens key ++ (tokens ++ rest)) (enough : tokens.length < fuel)
    (more : (blockEntries fuel).run (r.behind rest) = some (entries, last)) :
    (blockEntries (fuel + 1)).run r = some ((keyNode key, value) :: entries, last) := by
  obtain ⟨token, others, rfl, noEnd⟩ := gives.first
  obtain ⟨fuel, rfl⟩ : ∃ more, fuel = more + 2 := ⟨fuel - 2, by simp at enough; omega⟩
  let behindKey := r.behind (.scalar key true :: .value :: (token :: others ++ rest))
  have named : (orEmpty keyEnds (node (fuel + 2) true true)).run behindKey =
      some (keyNode key, r.behind (.value :: (token :: others ++ rest))) := by
    rw [run_orEmpty _ rfl rfl, run_scalar true rfl]
    rfl
  have valued : (afterValue keyEnds (node (fuel + 2) true true)).run
      (r.behind (.value :: (token :: others ++ rest))) = some (value, r.behind rest) := by
    rw [run_afterValue _ rfl noEnd]
    exact gives.reads (fuel + 2) true _ rest enough rfl
  rw [blockEntries, run_bind (run_peek here)]
  apply (run_bind (run_skip here)).trans
  apply (run_bind named).trans
  apply (run_bind valued).trans
  exact run_bind more

section Blocks

variable {α : Type} {key : α → String} {tokens : α → List Token} {value : α → Node}
  {entries : List α}

/-- The entries of a block mapping are read up to its end. -/
theorem run_blockEntries (each : ∀ a ∈ entries, Gives (tokens a) (value a))
    (here : r.tokens.items =
      entries.flatMap (fun a => keyTokens (key a) ++ tokens a) ++ .blockEnd :: rest)
    (enough : (entries.flatMap fun a => keyTokens (key a) ++ tokens a).length < fuel) :
    (blockEntries fuel).run r =
      some (entries.map fun a => (keyNode (key a), value a), r.behind rest) := by
  induction entries generalizing r fuel with
  | nil =>
      obtain ⟨fuel, rfl⟩ : ∃ more, fuel = more + 1 := ⟨fuel - 1, by simp at enough; omega⟩
      rw [blockEntries, run_bind (run_peek here)]
      exact run_bind (run_skip here)
  | cons a entries ih =>
      simp only [List.flatMap_cons, List.append_assoc, List.length_append] at here enough
      obtain ⟨fuel, rfl⟩ : ∃ more, fuel = more + 1 := ⟨fuel - 1, by omega⟩
      have signs : (keyTokens (key a)).length = 3 := rfl
      have more := ih (r := r.behind _) (fun b member => each b (List.mem_cons_of_mem a member)) rfl
        (show _ < fuel by omega)
      exact run_blockEntries_cons (each a List.mem_cons_self) here (by omega) more

theorem gives_block (each : ∀ a ∈ entries, Gives (tokens a) (value a)) :
    Gives (blockTokens (fun a => keyTokens (key a) ++ tokens a) entries)
      (.mapping (entries.map fun a => (keyNode (key a), value a))) := by
  refine ⟨⟨_, _, rfl, rfl⟩, ?_⟩
  intro fuel loose r rest enough here
  simp only [blockTokens, List.length_cons, List.length_append] at enough
  obtain ⟨fuel, rfl⟩ : ∃ more, fuel = more + 2 := ⟨fuel - 2, by omega⟩
  have inside : (r.behind (entries.flatMap (fun a => keyTokens (key a) ++ tokens a) ++
      .blockEnd :: rest)).tokens.items = _ := rfl
  apply run_block _ (run_blockEntries each inside (by omega))
  simpa [blockTokens] using here

end Blocks

end Reading

/-- The root of a text that consists of one block mapping. -/
theorem root?_of_gives {tokens : List Token} {value : Node} (gives : Reading.Gives (.blockMapping :: tokens) value) :
    root? ⟨(.blockMapping :: tokens) ++ [.streamEnd], true⟩ = some (some value) := by
  let start : Reader := { tokens := ⟨(.blockMapping :: tokens) ++ [.streamEnd], true⟩ }
  let declared : Reader := { start with handles := Reader.defaultHandles }
  have opened : start.tokens.items = .blockMapping :: (tokens ++ [.streamEnd]) := rfl
  have read := gives.reads (3 * start.tokens.items.length + 8) false declared [.streamEnd]
    (by simp [start]; omega) rfl
  have last : (declared.behind [.streamEnd]).tokens.items = [.streamEnd] := rfl
  have directives : (Reading.directives (3 * start.tokens.items.length + 8) false).run start =
      some ((), declared) := by
    rw [Reading.directives, Reading.run_bind (Reading.run_peek opened)]
    rfl
  have found : (Reading.document (3 * start.tokens.items.length + 8)).run start =
      some (some value, declared.behind [.streamEnd]) := by
    rw [Reading.document]
    apply (Reading.run_bind (Reading.run_peek opened)).trans
    apply (Reading.run_bind directives).trans
    apply (Reading.run_bind (Reading.run_peek (show declared.tokens.items = _ from opened))).trans
    apply (Reading.run_bind read).trans
    exact Reading.run_bind (Reading.run_peek last)
  rw [root?, found, Option.map_some]

end Nodes

section Trees

namespace Counting

variable {α β : Type} {fuel : Nat}

/-- What is found of a document without names, whatever was counted before. -/
def Finds (c : Counting α) (value : α) : Prop :=
  ∀ t : Tally, t.aliased = 0 → ∃ next : Tally, next.aliased = 0 ∧ c.run t = some (value, next)

theorem finds_pure (value : α) : Finds (pure value) value :=
  fun t unnamed => ⟨t, unnamed, rfl⟩

theorem Finds.bind {c : Counting α} {f : α → Counting β} {a : α} {b : β} (first : Finds c a)
    (second : Finds (f a) b) : Finds (c >>= f) b := by
  intro t unnamed
  obtain ⟨next, unnamed', ran⟩ := first t unnamed
  obtain ⟨last, unnamed'', found⟩ := second next unnamed'
  refine ⟨last, unnamed'', ?_⟩
  rw [StateT.run_bind, ran]
  exact found

/-- A document without names is never a repetition. -/
theorem finds_visit : Finds (visit false) () := by
  intro t unnamed
  have none : decide (100 < (t.add false).aliased) = false := by
    rw [show (t.add false).aliased = 0 from unnamed]
    rfl
  have modest : (t.add false).isExcessive = false := by
    rw [Tally.isExcessive, none, Bool.false_and, Bool.false_and]
  refine ⟨t.add false, unnamed, ?_⟩
  calc (visit false).run t
    _ = (if (t.add false).isExcessive then failure else set (t.add false) : Counting Unit).run t := by
        rw [visit, StateT.run_bind, StateT.run_get]
        rfl
    _ = some ((), t.add false) := by
        rw [modest]
        rfl

theorem finds_ofOption (value : α) : Finds (ofOption (some value)) value :=
  finds_pure value

theorem finds_key {name : String} (isName : IsName name) :
    Finds (key (fuel + 1) false (keyNode name)) (some name) := by
  have meant : Scalar.ofTagged? "" true name = some (.text name) := by
    rw [Scalar.ofTagged?, isName.meant]
    rfl
  rw [keyNode, key]
  apply finds_visit.bind
  rw [meant]
  exact (finds_ofOption (Scalar.text name)).bind (finds_pure (some name))

theorem finds_scalar {plain root : Bool} {text : String} {value : Scalar}
    (meant : Scalar.ofTagged? "" plain text = some value) :
    Finds (tree (fuel + 1) root false (.scalar "" plain text)) (.scalar value) := by
  rw [tree]
  apply finds_visit.bind
  rw [meant]
  exact (finds_ofOption value).bind (finds_pure (Tree.scalar value))

section Mappings

variable {name : α → String} {value : α → Node} {meant : α → Tree} {entries : List α}

theorem isMerge_keyNode {name : String} (isName : IsName name) : (keyNode name).isMerge = false := by
  have apart : name ≠ "<<" := by
    rintro rfl
    obtain ⟨c, others, spelled, alpha⟩ := isName.isKey.first
    cases spelled
    exact absurd alpha (by decide)
  simp [keyNode, Node.isMerge, apart]

/-- The entry under a new name is the last one. -/
theorem items_put {e : Entries} {name : String} (tree : Tree) (new : name ∉ e.items.map Prod.fst) :
    (e.put (some name) tree).items = e.items ++ [(name, tree)] := by
  have missing : e.items.lookup name = none := lookup_eq_none_of_not_mem new
  simp [Entries.put, missing]

/-- The entries of a mapping are found in their order, under names that are not yet taken. -/
theorem finds_ownEntries {tree : Node → Counting Tree} {named : Bool} {e : Entries}
    (each : ∀ a ∈ entries, IsName (name a) ∧ Finds (tree (value a)) (meant a))
    (distinct : (e.items.map Prod.fst ++ entries.map name).Nodup) :
    ∃ last, Finds (ownEntries (key (fuel + 1) false) tree named false e
        (entries.map fun a => (keyNode (name a), value a))) last ∧
      last.items = e.items ++ entries.map fun a => (name a, meant a) := by
  induction entries generalizing e with
  | nil => exact ⟨e, finds_pure e, by simp⟩
  | cons a entries ih =>
      obtain ⟨isName, finds⟩ := each a List.mem_cons_self
      have new : name a ∉ e.items.map Prod.fst := by
        rw [List.map_cons, List.nodup_append] at distinct
        exact fun member => distinct.2.2 _ member _ List.mem_cons_self rfl
      have put := items_put (meant a) new
      obtain ⟨last, found, items⟩ := ih (e := e.put (some (name a)) (meant a))
        (fun b member => each b (List.mem_cons_of_mem a member)) (by simpa [put] using distinct)
      refine ⟨last, ?_, by simp [items, put]⟩
      rw [List.map_cons, ownEntries]
      simp only [isMerge_keyNode isName, Bool.false_eq_true, ↓reduceIte]
      apply (finds_key isName).bind
      simp only [Option.isNone_some, Bool.and_false, Bool.false_and, Bool.or_self, Bool.false_eq_true, ↓reduceIte]
      exact finds.bind found

theorem hasRepeats_of_nodup (distinct : (entries.map name).Nodup) :
    Node.hasRepeats (entries.map fun a => (keyNode (name a), value a)) = false := by
  induction entries with
  | nil => rfl
  | cons a entries ih =>
      rw [List.map_cons, List.nodup_cons] at distinct
      obtain ⟨new, distinct⟩ := distinct
      rw [List.map_cons, Node.hasRepeats, ih distinct, Bool.or_false, List.any_map, List.any_eq_false]
      intro b member same
      have equal : name a = name b := by simpa [Node.sameKey, keyNode] using same
      exact new (equal ▸ List.mem_map_of_mem member)

theorem finds_mapping {root : Bool}
    (each : ∀ a ∈ entries, IsName (name a) ∧ Finds (tree (fuel + 1) false false (value a)) (meant a))
    (distinct : (entries.map name).Nodup) :
    Finds (tree (fuel + 3) root false (.mapping (entries.map fun a => (keyNode (name a), value a))))
      (.mapping (entries.map fun a => (name a, meant a))) := by
  obtain ⟨last, found, items⟩ : ∃ last,
      Finds (ownEntries (key (fuel + 1) false) (tree (fuel + 1) false false) root false {}
        (entries.map fun a => (keyNode (name a), value a))) last ∧
      last.items = entries.map fun a => (name a, meant a) :=
    finds_ownEntries each distinct
  have unmerged : (entries.map fun a => (keyNode (name a), value a)).find?
      (fun entry => entry.1.isMerge) = none := by
    rw [List.find?_eq_none]
    intro entry member
    obtain ⟨a, inside, rfl⟩ := List.mem_map.mp member
    simp [isMerge_keyNode (each a inside).1]
  have whole : Finds (mapping (fuel + 2) root false false {}
      (entries.map fun a => (keyNode (name a), value a))) last := by
    rw [mapping, hasRepeats_of_nodup distinct]
    simp only [unmerged, Bool.false_eq_true, ↓reduceIte]
    exact found.bind (finds_pure last)
  rw [tree]
  apply finds_visit.bind
  rw [← items]
  exact whole.bind (finds_pure _)

end Mappings

end Counting

end Trees

section Items

variable {items : List Item}

def Plain.node (scalar : Plain) : Node :=
  .scalar "" scalar.isPlain scalar.found

def Item.node : Item → Node
  | .entry _ scalar => scalar.node
  | .group _ entries => .mapping (entries.map fun entry => (keyNode entry.1, entry.2.node))

/-- The tree that is meant by the value of an item. -/
def Item.tree : Item → Tree
  | .entry _ scalar => .scalar scalar.scalar
  | .group _ entries => .mapping (entries.map fun entry => (entry.1, .scalar entry.2.scalar))

/-- The tree that is meant by a document of items. -/
def treeOf (items : List Item) : Tree :=
  .mapping (items.map fun item => (item.key, item.tree))

theorem gives_item (item : Item) : Reading.Gives item.tokens item.node := by
  cases item with
  | entry key scalar => exact Reading.gives_scalar scalar.found scalar.isPlain
  | group key entries =>
      exact Reading.gives_block fun entry _ =>
        Reading.gives_scalar entry.2.found entry.2.isPlain

theorem Item.IsLines.isName {item : Item} (lines : item.IsLines) : IsName item.key := by
  cases item with
  | entry key scalar => exact lines.name
  | group key entries => exact lines.1

theorem finds_item {item : Item} (lines : item.IsLines) (fuel : Nat) :
    Counting.Finds (Counting.tree (fuel + 3) false false item.node) item.tree := by
  cases item with
  | entry key scalar => exact Counting.finds_scalar (Plain.ofTagged_found lines.line)
  | group key entries =>
      obtain ⟨_, _, each, distinct⟩ := lines
      exact Counting.finds_mapping (fun entry member =>
        ⟨(each entry member).name, Counting.finds_scalar (Plain.ofTagged_found (each entry member).line)⟩)
        distinct

/-- The tree of the tokens of a document. -/
theorem ofRoot?_items (each : ∀ item ∈ items, item.IsLines) (distinct : (items.map Item.key).Nodup)
    (size : Nat) : Tree.ofRoot? (size + 5)
      (.mapping (items.map fun item => (keyNode item.key, item.node))) = some (treeOf items) := by
  have finds : Counting.Finds (Counting.tree (size + 5) true false _) (treeOf items) :=
    Counting.finds_mapping (fun item member => ⟨(each item member).isName,
      finds_item (each item member) size⟩) distinct
  obtain ⟨next, _, ran⟩ := finds { nodes := 1 } rfl
  rw [Tree.ofRoot?, ran]
  rfl

theorem toList_writtenEntry {entry : String × Plain} (line : entry.2.IsLine) (depth : Nat) :
    (writtenEntry depth entry).toList = entryText depth entry := by
  simp [writtenEntry, entryText, margin, Text.replicate, Plain.ending_line line, Place.newline]

theorem toList_written {item : Item} (lines : item.IsLines) : item.written.toList = itemText item := by
  cases item with
  | entry key scalar => exact toList_writtenEntry lines.line 0
  | group key entries =>
      have same : entries.map (String.toList ∘ writtenEntry 1) = entries.map (entryText 1) :=
        List.map_congr_left fun entry member => toList_writtenEntry (lines.2.2.1 entry member).line 1
      simp [Item.written, itemText, String.toList_join, List.flatMap_def, same]

/-- A document is written as the texts of its items. -/
theorem toList_write (each : ∀ item ∈ items, item.IsLines) :
    (write items).toList = items.flatMap itemText := by
  have same : items.map (String.toList ∘ Item.written) = items.map itemText :=
    List.map_congr_left fun item member => toList_written (each item member)
  simp [write, String.toList_join, List.flatMap_def, same]

section Characters

variable {c : Char}

theorem IsKey.isAllowed {key : List Char} (isKey : IsKey key) (member : c ∈ key) :
    isAllowed c = true := by
  have word := isKey.word c member
  simp only [isWord, Bool.or_eq_true, beq_iff_eq] at word
  rcases word with (word | rfl) | rfl
  · exact isAllowed_of_isAlphanum word
  · decide
  · decide

theorem isAllowed_entry {entry : String × Plain} (isEntry : IsEntry entry) (depth : Nat)
    (member : c ∈ entryText depth entry) : isAllowed c = true := by
  simp only [entryText, Place.newline, List.mem_append, List.mem_cons, List.mem_replicate,
    List.not_mem_nil, or_false] at member
  rcases member with ⟨_, rfl⟩ | key | rfl | rfl | written | rfl
  · decide
  · exact isEntry.name.isKey.isAllowed key
  · decide
  · decide
  · exact (isEntry.line.spelled depth).isAllowed written
  · decide

theorem isAllowed_item {item : Item} (lines : item.IsLines) (member : c ∈ itemText item) :
    isAllowed c = true := by
  cases item with
  | entry key scalar => exact isAllowed_entry lines 0 member
  | group key entries =>
      simp only [itemText, List.mem_append, List.mem_cons, List.mem_flatMap] at member
      rcases member with key | rfl | rfl | ⟨entry, inside, member⟩
      · exact lines.1.isKey.isAllowed key
      · decide
      · decide
      · exact isAllowed_entry (lines.2.2.1 entry inside) 1 member

end Characters

/-- A document begins with a letter. -/
theorem ascii_items (filled : items ≠ []) (each : ∀ item ∈ items, item.IsLines) :
    ∃ c others, items.flatMap itemText = c :: others ∧ c.toNat < 128 := by
  obtain ⟨first, more, rfl⟩ := List.exists_cons_of_ne_nil filled
  have part : Part 0 [] (itemText first) (itemTokens first) := part_item (each first List.mem_cons_self)
  obtain ⟨c, others, spelled, alpha⟩ := part.starts
  refine ⟨c, others ++ more.flatMap itemText, ?_, ?_⟩
  · rw [List.flatMap_cons, spelled]
    rfl
  · exact ascii_of_isAlphanum (by rw [Char.isAlphanum, alpha, Bool.true_or])

/-- The bytes of a text that begins with an ASCII character have no byte order mark. -/
theorem characters?_encode {text : String} {c : Char} {others : List Char}
    (spelled : text.toList = c :: others) (ascii : c.toNat < 128) :
    characters? (Text.encode text) = some text.toList := by
  have bytes : Text.encode text = Text.byte c :: Text.encodeChars others := by
    rw [Text.encode_eq, spelled, Text.encodeChars_cons, Text.utf8EncodeChar_ascii c ascii]
    rfl
  have small : (Text.byte c).toNat < 128 := by
    rw [Text.byte, UInt8.toNat_ofNat']
    omega
  have apart : ∀ mark : UInt8, 128 ≤ mark.toNat → Text.byte c ≠ mark := by
    rintro mark large rfl
    exact absurd small (Nat.not_lt.mpr large)
  have unmarked : characters? (Text.encode text) = Text.characters? (Text.pieces (Text.encode text)) := by
    rw [bytes, characters?] <;> rintro rest same <;>
      exact absurd (List.cons.inj same).1 (apart _ (by decide))
  rw [unmarked, Text.encode_eq, Text.pieces_encodeChars, Text.characters?_map_char]

/-- What was written line by line is read back. -/
theorem read_write (filled : items ≠ []) (each : ∀ item ∈ items, item.IsLines)
    (distinct : (items.map Item.key).Nodup) :
    Yaml.read (Text.encode (write items)) = some (treeOf items) := by
  have spelled := toList_write each
  have characters : characters? (Text.encode (write items)) = some (items.flatMap itemText) := by
    obtain ⟨c, others, begins, ascii⟩ := ascii_items filled each
    rw [← spelled]
    exact characters?_encode (spelled.trans begins) ascii
  have allowed : (items.flatMap itemText).all isAllowed = true := by
    rw [List.all_eq_true]
    intro c member
    obtain ⟨item, inside, member⟩ := List.mem_flatMap.mp member
    exact isAllowed_item (each item inside) member
  have gives : Reading.Gives (blockTokens itemTokens items)
      (.mapping (items.map fun item => (keyNode item.key, item.node))) :=
    Reading.gives_block fun item _ => gives_item item
  have root : root? ⟨blockTokens itemTokens items ++ [.streamEnd], true⟩ = some (some _) :=
    root?_of_gives gives
  rw [Yaml.read, characters, Option.bind_some, allowed, if_pos rfl, Tokens.ofText_items filled each]
  simp only [root, Option.bind_some]
  exact ofRoot?_items each distinct _

end Items

end SqlMapper.Yaml
