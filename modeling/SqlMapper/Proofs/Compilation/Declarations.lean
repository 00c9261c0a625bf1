import Mathlib.Data.List.Flatten
import Mathlib.Data.List.Pairwise
import SqlMapper.Proofs.Compilation.Conditions

/-!
The names that compiled code declares at file scope. A record type brings three of them, two by a
suffix, and a statement brings one. Types are compared with types and ids with ids when a mapper is
built, but neither with the names that come from a type; so all names are distinct exactly if no type
and no id is spelled like one of these.
-/

namespace SqlMapper.Code

open C Outcome

section Suffixes

/-- The names that come from a record type: the pointer type, the constructor and the destructor. -/
def typeNames (type : String) : List String :=
  [type, (constructorOf type).name, (destructorOf type).name]

theorem append_ne_self (type : String) {suffix : String} (filled : suffix ≠ "") :
    type ++ suffix ≠ type := by
  intro same
  apply filled
  have lengths := congrArg String.length same
  rw [String.length_append] at lengths
  exact String.length_eq_zero_iff.mp (by omega)

theorem append_suffix_cancel {type other suffix : String} (same : type ++ suffix = other ++ suffix) :
    type = other :=
  (String.append_left_inj suffix).mp same

/-- A constructor is no destructor, since their names end differently. -/
theorem constructor_ne_destructor (type other : String) :
    (constructorOf type).name ≠ (destructorOf other).name := by
  intro same
  have last := congrArg (fun name : String => name.toList.getLast?) same
  simp [constructorOf, destructorOf] at last

theorem typeNames_nodup (type : String) : (typeNames type).Nodup := by
  have new : type ≠ type ++ "_new" := (append_ne_self type (by decide)).symm
  have free : type ≠ type ++ "_free" := (append_ne_self type (by decide)).symm
  have apart := constructor_ne_destructor type type
  simp only [constructorOf, destructorOf] at apart
  simp [typeNames, constructorOf, destructorOf, new, free, apart]

/-- No type is spelled like a constructor or a destructor. -/
def Underived (types : List String) : Prop :=
  ∀ type ∈ types, ∀ other ∈ types, other ≠ type ++ "_new" ∧ other ≠ type ++ "_free"

instance (types : List String) : Decidable (Underived types) :=
  inferInstanceAs (Decidable (∀ type ∈ types, ∀ other ∈ types, _))

theorem disjoint_typeNames {type other : String} (apart : type ≠ other)
    (plain : other ≠ type ++ "_new" ∧ other ≠ type ++ "_free")
    (alsoPlain : type ≠ other ++ "_new" ∧ type ≠ other ++ "_free") :
    (typeNames type).Disjoint (typeNames other) := by
  have crossed := constructor_ne_destructor type other
  have crossedBack := constructor_ne_destructor other type
  simp only [constructorOf, destructorOf] at crossed crossedBack
  intro name first second
  simp only [typeNames, constructorOf, destructorOf, List.mem_cons, List.not_mem_nil,
    or_false] at first second
  -- A name on both sides is made by the same suffix, or else the suffixes or the types differ.
  rcases first with rfl | rfl | rfl
  · rcases second with same | same | same
    · exact apart same
    · exact alsoPlain.1 same
    · exact alsoPlain.2 same
  · rcases second with same | same | same
    · exact plain.1 same.symm
    · exact apart (append_suffix_cancel same)
    · exact crossed same
  · rcases second with same | same | same
    · exact plain.2 same.symm
    · exact crossedBack same.symm
    · exact apart (append_suffix_cancel same)

/-- Where no name comes twice, a name comes from one type only. -/
theorem type_eq_of_mem_typeNames {types : List String} (distinct : (types.flatMap typeNames).Nodup)
    {type other name : String} (listed : type ∈ types) (alsoListed : other ∈ types)
    (first : name ∈ typeNames type) (second : name ∈ typeNames other) : type = other := by
  by_contra apart
  rw [List.nodup_flatMap] at distinct
  have symmetric : Std.Symm (Function.onFun List.Disjoint typeNames) :=
    ⟨fun _ _ disjoint _ first second => disjoint second first⟩
  exact distinct.2.forall listed alsoListed apart first second

theorem nodup_typeNames_iff (types : List String) :
    (types.flatMap typeNames).Nodup ↔ types.Nodup ∧ Underived types := by
  constructor
  · intro distinct
    constructor
    · apply (List.nodup_flatMap.mp distinct).2.imp
      intro type other disjoint same
      subst same
      exact disjoint (List.mem_cons_self ..) (List.mem_cons_self ..)
    · intro type listed other alsoListed
      constructor
      · rintro rfl
        have derived : type ++ "_new" ∈ typeNames type := by simp [typeNames, constructorOf]
        have spelled : type ++ "_new" ∈ typeNames (type ++ "_new") := by simp [typeNames]
        have same := type_eq_of_mem_typeNames distinct listed alsoListed derived spelled
        exact append_ne_self type (by decide) same.symm
      · rintro rfl
        have derived : type ++ "_free" ∈ typeNames type := by simp [typeNames, destructorOf]
        have spelled : type ++ "_free" ∈ typeNames (type ++ "_free") := by simp [typeNames]
        have same := type_eq_of_mem_typeNames distinct listed alsoListed derived spelled
        exact append_ne_self type (by decide) same.symm
  · rintro ⟨distinct, plain⟩
    apply List.nodup_flatMap.mpr
    constructor
    · intro type _
      exact typeNames_nodup type
    · apply distinct.imp_of_mem
      intro type other listed alsoListed apart
      exact disjoint_typeNames apart (plain type listed other alsoListed)
        (plain other alsoListed type listed)

end Suffixes

section Files

theorem declared_recordHeader (shapes : List ResultMap) :
    (shapes.flatMap recordHeader).flatMap Item.declared =
      (shapes.map (·.type)).flatMap typeNames := by
  rw [List.flatMap_assoc, List.flatMap_map]
  rfl

theorem declared_recordSource (shapes : List ResultMap) :
    (shapes.flatMap recordSource).flatMap Item.declared =
      (shapes.map (·.type)).flatMap fun type => (typeNames type).tail := by
  rw [List.flatMap_assoc, List.flatMap_map]
  rfl

theorem declared_headerItems (space : String) (shapes : List ResultMap)
    (signatures : List Signature) :
    (headerItems space shapes signatures).flatMap Item.declared =
      (shapes.map (·.type)).flatMap typeNames ++ signatures.map (·.name) := by
  have prototypes : (signatures.map Item.prototype).flatMap Item.declared =
      signatures.map (·.name) := by
    rw [List.flatMap_map, List.map_eq_flatMap]
    rfl
  simp only [headerItems, List.flatMap_append, declared_recordHeader, prototypes]
  simp [Item.declared, localInclude]

theorem declared_sourceItems (space : String) (shapes : List ResultMap)
    (functions : List (Signature × List Stmt)) :
    (sourceItems space shapes functions).flatMap Item.declared =
      (shapes.map (·.type)).flatMap (fun type => (typeNames type).tail) ++
        functions.map (·.1.name) := by
  have definitions : (functions.flatMap fun f => [Item.function f.1 f.2, .blank]).flatMap
      Item.declared = functions.map (·.1.name) := by
    rw [List.flatMap_assoc, List.map_eq_flatMap]
    rfl
  simp only [sourceItems, List.flatMap_append, declared_recordSource, definitions]
  simp [Item.declared, localInclude, systemInclude]

/-- A function is named by the id of its statement. -/
theorem name_of_statementFunction {m : Mapper} {statement : Statement}
    {function : Signature × List Stmt}
    (built : (statementFunction m statement).outcome = .ok function) :
    function.1.name = statement.id := by
  simp only [statementFunction, Logged.bind_outcome_eq_ok_iff] at built
  obtain ⟨resolved, -, program, -, -, -, same⟩ := built
  cases same
  rfl

theorem names_of_functions {m : Mapper} {statements : List Statement}
    {functions : List (Signature × List Stmt)}
    (built : (Logged.mapList (statementFunction m) statements).outcome = .ok functions) :
    functions.map (·.1.name) = statements.map (·.id) := by
  rw [mapList_eq_ok_iff] at built
  induction built with
  | nil => rfl
  | cons here _ ih => rw [List.map_cons, List.map_cons, name_of_statementFunction here, ih]

/-- What the two files of a compiled mapper declare; the source defines what the header declares,
except for the pointer types. -/
theorem declared_of_compile {m : Mapper} {c : Compiled} (success : (compile m).outcome = .ok c) :
    c.header.flatMap Item.declared =
        (m.resultMaps.values.map (·.type)).flatMap typeNames ++ m.allStatements.map (·.id) ∧
      c.source.flatMap Item.declared =
        (m.resultMaps.values.map (·.type)).flatMap (fun type => (typeNames type).tail) ++
          m.allStatements.map (·.id) := by
  obtain ⟨_, _, functions, built, _, header, source⟩ := compile_eq_ok m c success
  have names := names_of_functions built
  rw [header, source, declared_headerItems, declared_sourceItems, List.map_map, names]
  exact ⟨congrArg _ names, rfl⟩

end Files

section Statements

variable {m : Mapper}

theorem ids_eq_keys_tableOf (keyed : Mapper.Keyed m) (kind : StatementKind) :
    (m.statementsOf kind).map (·.id) = (m.tableOf kind).keys := by
  rw [← Mapper.values_tableOf, Table.values, Table.keys, List.map_map]
  apply List.map_congr_left
  intro entry listed
  exact (keyed.statements entry (List.mem_of_mem_filter listed)).symm

/-- Ids are compared whatever the kinds are, so they are distinct in the order of the kinds too. -/
theorem nodup_ids (distinct : Mapper.Distinct m) (keyed : Mapper.Keyed m) :
    (m.allStatements.map (·.id)).Nodup := by
  rw [Mapper.allStatements, List.map_flatMap, List.nodup_flatMap]
  simp only [ids_eq_keys_tableOf keyed]
  constructor
  · intro kind _
    exact Mapper.nodup_keys_tableOf distinct kind
  · have kinds : StatementKind.all.Nodup := by decide
    apply kinds.imp
    intro kind other apart id first second
    exact apart (Mapper.kind_eq_of_mem_keys distinct first second)

end Statements

/-- In the code of a mapper that is built by additions, the types are distinct and so are the ids of
the statements. All names at file scope are distinct exactly if, beyond that, no type is spelled like
a constructor or a destructor, and no id like a type, a constructor or a destructor. -/
theorem declared_once_iff (space document : String) (calls : List Addition) (c : Compiled)
    (success : (compile (Mapper.built space document calls)).outcome = .ok c) :
    let m := Mapper.built space document calls
    let types := m.resultMaps.values.map (·.type)
    let ids := m.allStatements.map (·.id)
    let names := c.header.flatMap Item.declared
    names = types.flatMap typeNames ++ ids ∧
      (c.source.flatMap Item.declared).Sublist names ∧ types.Nodup ∧ ids.Nodup ∧
      (names.Nodup ↔ Underived types ∧ ∀ type ∈ types, ∀ id ∈ ids, id ∉ typeNames type) := by
  intro m types ids names
  have distinct := Mapper.distinct_built space document calls
  have once : types.Nodup := distinct.shapeTypes
  have fresh : ids.Nodup := nodup_ids distinct (Mapper.keyed_built space document calls)
  obtain ⟨header, source⟩ := declared_of_compile success
  have listed : names = types.flatMap typeNames ++ ids := header
  rw [source, listed]
  refine ⟨rfl, ?_, once, fresh, ?_⟩
  · apply List.Sublist.append_right
    apply List.Sublist.flatMap_right
    intro type _
    exact List.tail_sublist _
  · rw [List.nodup_append', nodup_typeNames_iff]
    constructor
    · rintro ⟨⟨-, plain⟩, -, apart⟩
      refine ⟨plain, ?_⟩
      intro type known id used same
      exact apart (List.mem_flatMap.mpr ⟨type, known, same⟩) used
    · rintro ⟨plain, apart⟩
      refine ⟨⟨once, plain⟩, fresh, ?_⟩
      intro name first used
      obtain ⟨type, known, same⟩ := List.mem_flatMap.mp first
      exact apart type known name used same

section Users

def userShape (id type : String) : Addition :=
  .resultMap ⟨id, type, [.make "id" "id" "int64_t"]⟩

def userRemoval (id : String) : Addition :=
  .statement ⟨.delete, id, "user", "", [.text "DELETE FROM users WHERE id = #\x7bid\x7d"]⟩

/-- Names that come close to one another and are distinct all the same. -/
def closelyNamed : List Addition :=
  [userShape "A" "user", userShape "B" "user_", userRemoval "users_new", userRemoval "new_user"]

theorem closelyNamed_declared_once : ∃ c,
    (compile (Mapper.built "u" "m.xml" closelyNamed)).outcome = .ok c ∧
      (c.header.flatMap Item.declared).Nodup := by
  obtain ⟨c, success⟩ : Accepted (Mapper.built "u" "m.xml" closelyNamed) := by decide +kernel
  refine ⟨c, success, ?_⟩
  have once := (declared_once_iff "u" "m.xml" closelyNamed c success).2.2.2.2
  exact once.mpr (by decide +kernel)

/-- A statement that is named like the constructor of its record. -/
def constructing : List Addition :=
  [userShape "A" "user", userRemoval "user_new"]

/-- A record type that is named like the destructor of another. -/
def destructing : List Addition :=
  [userShape "A" "user", userShape "B" "user_free"]

theorem constructing_declared_twice :
    (∃ c, (compile (Mapper.built "u" "m.xml" constructing)).outcome = .ok c ∧
      c.header.flatMap Item.declared = ["user", "user_new", "user_free", "user_new"] ∧
      ¬ (c.header.flatMap Item.declared).Nodup) ∧
    ∃ c, (compile (Mapper.built "u" "m.xml" destructing)).outcome = .ok c ∧
      ¬ (c.header.flatMap Item.declared).Nodup := by
  constructor
  · obtain ⟨c, success⟩ : Accepted (Mapper.built "u" "m.xml" constructing) := by decide +kernel
    have names := (declared_of_compile success).1
    refine ⟨c, success, names.trans (by decide +kernel), ?_⟩
    rw [names]
    decide +kernel
  · obtain ⟨c, success⟩ : Accepted (Mapper.built "u" "m.xml" destructing) := by decide +kernel
    refine ⟨c, success, ?_⟩
    rw [(declared_of_compile success).1]
    decide +kernel

end Users

end SqlMapper.Code
