import AtomData.Proofs.Feed.Entry
import AtomData.Proofs.Schema.Inheritance
import AtomData.Schema.Document

/-!
# Metadata documents

What a metadata document declares, element by element, and what its key references come to.  An element
marks only properties that it declares itself, and this before the properties of the base are put in front
of them.  `keys_decided` says which properties of a type are keys, and `inherited_reference_lost` that a
reference to an inherited property has no effect.
-/

namespace AtomData

open Xml (Node)

def typeElements (root : Node) : List Node :=
  (root.descendantsNamed "Schema").flatMap fun schema => schema.childrenNamed "EntityType"

def declaredNames (element : Node) : List String :=
  (element.childrenNamed "Property").filterMap fun property => property.attribute? "Name"

def referredNames (element : Node) : List String :=
  (keyReferences element).filterMap fun reference => reference.attribute? "Name"

/-- The declared names that the element refers to itself, each once. -/
def keyNames (element : Node) : List String :=
  (declaredNames element).eraseDups.filter fun name => name ∈ referredNames element

/-! ### Reading the elements -/

theorem requiredAttribute_eq_ok_iff {n : Node} {element name value : String} :
    requiredAttribute n element name = .ok value ↔ n.attribute? name = some value := by
  unfold requiredAttribute
  cases n.attribute? name <;> simp

theorem Property.ofNode_spec {n : Node} {p : Property} (read : Property.ofNode n = .ok p) :
    n.attribute? "Name" = some p.name ∧ p.key = false := by
  unfold Property.ofNode at read
  obtain ⟨name, named, read⟩ := Except.bind_eq_ok_iff.mp read
  obtain ⟨typeTag, -, read⟩ := Except.bind_eq_ok_iff.mp read
  obtain rfl := Except.ok.inj read
  exact ⟨requiredAttribute_eq_ok_iff.mp named, rfl⟩

/-- The properties of a declaration are those of the element, none of them a key, before the references
mark some of them. -/
theorem EntityTypeDecl.ofNode_spec {namespaceName : String} {n : Node} {d : EntityTypeDecl}
    (read : EntityTypeDecl.ofNode namespaceName n = .ok d) :
    ∃ ps : PropertyList, d.properties = PropertyList.markKeys (referredNames n) ps ∧
      ps.map Property.name = declaredNames n ∧ ∀ p ∈ ps, p.key = false := by
  unfold EntityTypeDecl.ofNode at read
  obtain ⟨name, -, read⟩ := Except.bind_eq_ok_iff.mp read
  obtain ⟨ps, properties, read⟩ := Except.bind_eq_ok_iff.mp read
  obtain ⟨names, references, read⟩ := Except.bind_eq_ok_iff.mp read
  obtain rfl := Except.ok.inj read
  have each := (Except.mapM_eq_ok_iff.mp properties).imp fun _ _ => Property.ofNode_spec
  have named := filterMap_eq_map_of_forall₂ (each.imp fun _ _ spec => spec.1)
  have referred : referredNames n = names := by
    have each := (Except.mapM_eq_ok_iff.mp references).imp fun _ _ => requiredAttribute_eq_ok_iff.mp
    exact (filterMap_eq_map_of_forall₂ each).trans (List.map_id names)
  refine ⟨ps, congrArg (PropertyList.markKeys · ps) referred.symm, named.symm, ?_⟩
  intro p mem
  obtain ⟨i, lt, rfl⟩ := List.mem_iff_getElem.mp mem
  exact ((List.forall₂_iff_get.mp each).2 i (each.length_eq ▸ lt) lt).2

theorem forall₂_of_schemaDecls {schema : Node} {ds : List EntityTypeDecl} (read : schemaDecls schema = .ok ds) :
    List.Forall₂ (fun n d => ∃ namespaceName, EntityTypeDecl.ofNode namespaceName n = .ok d)
      (schema.childrenNamed "EntityType") ds := by
  unfold schemaDecls at read
  obtain ⟨namespaceName, -, read⟩ := Except.bind_eq_ok_iff.mp read
  exact (Except.mapM_eq_ok_iff.mp read).imp fun _ _ made => ⟨namespaceName, made⟩

/-- A document that is accepted has one declaration for each element. -/
theorem forall₂_of_metadataDecls {root : Node} {decls : List EntityTypeDecl}
    (read : metadataDecls root = .ok decls) :
    List.Forall₂ (fun n d => ∃ namespaceName, EntityTypeDecl.ofNode namespaceName n = .ok d)
      (typeElements root) decls := by
  unfold metadataDecls at read
  obtain ⟨dss, schemas, read⟩ := Except.bind_eq_ok_iff.mp read
  obtain rfl := Except.ok.inj read
  have each := (Except.mapM_eq_ok_iff.mp schemas).imp fun _ _ => forall₂_of_schemaDecls
  rw [typeElements, List.flatMap]
  exact List.rel_flatten (List.forall₂_map_left_iff.mpr each)

/-! ### Marking properties -/

namespace PropertyList

theorem markKeys_cons (names : List String) (p : Property) (ps : PropertyList) :
    markKeys names (p :: ps) =
      (if p.name ∈ names then { p with key := true } else p) ::
        markKeys (names.filter fun name => name ≠ p.name) ps := by
  induction names generalizing p ps with
  | nil => simp [markKeys]
  | cons name names ih =>
    have step (qs : PropertyList) : markKeys (name :: names) qs =
        markKeys names (update name (fun p => { p with key := true }) qs) := rfl
    rw [step, update]
    by_cases here : p.name = name
    · rw [if_pos here, ih]
      simp [here]
    · have others : (name :: names).filter (fun name => name ≠ p.name) =
          name :: names.filter fun name => name ≠ p.name := by
        simp [Ne.symm here]
      rw [if_neg here, ih, others]
      simp [here, markKeys]

@[simp] theorem markKeys_nil (names : List String) : markKeys names [] = [] := by
  induction names with
  | nil => rfl
  | cons _ _ ih => exact ih

theorem map_name_markKeys (names : List String) (ps : PropertyList) :
    (markKeys names ps).map Property.name = ps.map Property.name := by
  induction ps generalizing names with
  | nil => rw [markKeys_nil]
  | cons p ps ih =>
    rw [markKeys_cons, List.map_cons, List.map_cons, ih]
    split <;> rfl

theorem named?_markKeys (names : List String) (ps : PropertyList) (name : String) :
    named? (markKeys names ps) name =
      (named? ps name).map fun p => if name ∈ names then { p with key := true } else p := by
  induction ps generalizing names with
  | nil =>
    rw [markKeys_nil]
    rfl
  | cons p ps ih =>
    rw [markKeys_cons]
    by_cases here : p.name = name
    · subst here
      by_cases marked : p.name ∈ names <;> simp [named?, marked]
    · have later (q : Property) (same : q.name = p.name) (qs : PropertyList) :
          named? (q :: qs) name = named? qs name := by
        simp [named?, same, here]
      have kept : (name ∈ names.filter fun name => name ≠ p.name) ↔ name ∈ names := by
        simp [Ne.symm here]
      rw [later _ (by split <;> rfl), later p rfl, ih]
      simp only [kept]

theorem names_keys_markKeys {ps : PropertyList} (names : List String) (plain : ∀ p ∈ ps, p.key = false) :
    (keys (markKeys names ps)).map Property.name =
      (ps.map Property.name).eraseDups.filter fun name => name ∈ names := by
  induction ps generalizing names with
  | nil =>
    rw [markKeys_nil]
    rfl
  | cons p ps ih =>
    obtain ⟨plainFirst, plain⟩ := List.forall_mem_cons.mp plain
    have later : (keys (markKeys (names.filter fun name => name ≠ p.name) ps)).map Property.name =
        ((ps.map Property.name).filter fun name => !name == p.name).eraseDups.filter
          fun name => name ∈ names := by
      rw [ih _ plain, eraseDups_filter, List.filter_filter]
      refine List.filter_congr fun name _ => ?_
      by_cases same : name = p.name <;> simp [same]
    rw [markKeys_cons, List.map_cons, List.eraseDups_cons, keys, List.filter_cons, ← keys, List.filter_cons]
    by_cases here : p.name ∈ names
    · rw [if_pos here, if_pos rfl, List.map_cons, later, if_pos (decide_eq_true here)]
    · rw [if_neg here, if_neg (by simp [plainFirst]), later, if_neg (by simpa using here)]

theorem named?_append (ps qs : PropertyList) (name : String) :
    named? (ps ++ qs) name = (named? ps name).or (named? qs name) := List.find?_append

theorem named?_eq_none_iff {ps : PropertyList} {name : String} :
    named? ps name = none ↔ name ∉ ps.map Property.name := by
  simp [named?]

theorem mem_names_of_named? {ps : PropertyList} {name : String} {p : Property}
    (found : named? ps name = some p) : name ∈ ps.map Property.name := by
  by_contra absent
  rw [named?_eq_none_iff.mpr absent] at found
  cases found

end PropertyList

/-! ### The properties of an element -/

/-- What the properties of a declaration have of its element. -/
structure Reads (element : Node) (ps : PropertyList) : Prop where
  names : ps.map Property.name = declaredNames element
  keys : (PropertyList.keys ps).map Property.name = keyNames element
  named : ∀ name p, PropertyList.named? ps name = some p → (p.key = true ↔ name ∈ referredNames element)

theorem reads_of_ofNode {namespaceName : String} {element : Node} {d : EntityTypeDecl}
    (read : EntityTypeDecl.ofNode namespaceName element = .ok d) : Reads element d.properties := by
  obtain ⟨ps, marked, names, plain⟩ := EntityTypeDecl.ofNode_spec read
  rw [marked]
  refine ⟨(PropertyList.map_name_markKeys _ ps).trans names, ?_, ?_⟩
  · rw [PropertyList.names_keys_markKeys _ plain, names, keyNames]
  · intro name p found
    rw [PropertyList.named?_markKeys] at found
    obtain ⟨q, first, rfl⟩ := Option.map_eq_some_iff.mp found
    have unmarked := plain q (List.mem_of_find?_eq_some first)
    split
    · rename_i referred
      simp [referred]
    · rename_i unreferred
      simp [unmarked, unreferred]

/-! ### The keys of a type -/

/-- The elements along the chain of ancestors of a declaration, its own element first. -/
def IsLineage (root : Node) (decls : List EntityTypeDecl) (i : Fin decls.length) (lineage : List Node) : Prop :=
  ∀ k : Nat, lineage[k]? = (Metadata.ancestor? decls i k).bind fun j => (typeElements root)[j.val]?

/-- The uppermost element of the lineage that declares the name refers to it as well. -/
inductive UppermostRefers (name : String) : List Node → Prop
  | here {element : Node} {above : List Node} (fresh : ∀ other ∈ above, name ∉ declaredNames other)
      (declared : name ∈ declaredNames element) (referred : name ∈ referredNames element) :
      UppermostRefers name (element :: above)
  | above {element : Node} {above : List Node} (higher : UppermostRefers name above) :
      UppermostRefers name (element :: above)

/-- The properties along a lineage of elements, and which of them are keys. -/
structure KeyedBy (lineage : List Node) (ps : PropertyList) : Prop where
  names : ps.map Property.name = lineage.reverse.flatMap declaredNames
  keys : (PropertyList.keys ps).map Property.name = lineage.reverse.flatMap keyNames
  named : ∀ name p, PropertyList.named? ps name = some p → (p.key = true ↔ UppermostRefers name lineage)

theorem UppermostRefers.declared {name : String} {lineage : List Node} (h : UppermostRefers name lineage) :
    ∃ element ∈ lineage, name ∈ declaredNames element ∧ name ∈ referredNames element := by
  induction h with
  | here _ declared referred => exact ⟨_, List.mem_cons_self, declared, referred⟩
  | above _ ih =>
    obtain ⟨element, mem, both⟩ := ih
    exact ⟨element, List.mem_cons_of_mem _ mem, both⟩

theorem KeyedBy.cons {element : Node} {lineage : List Node} {ps qs : PropertyList} (above : KeyedBy lineage ps)
    (own : Reads element qs) : KeyedBy (element :: lineage) (ps ++ qs) where
  names := by simp [above.names, own.names]
  keys := by
    have apart : PropertyList.keys (ps ++ qs) = PropertyList.keys ps ++ PropertyList.keys qs :=
      List.filter_append ..
    simp [apart, above.keys, own.keys]
  named := by
    intro name p found
    rw [PropertyList.named?_append, Option.or_eq_some_iff] at found
    rcases found with found | ⟨absent, found⟩
    · -- A property above shadows what the element itself says of the name.
      have declared := PropertyList.mem_names_of_named? found
      rw [above.names, List.mem_flatMap] at declared
      obtain ⟨other, mem, declared⟩ := declared
      rw [above.named name p found]
      constructor
      · exact .above
      · rintro (⟨fresh, -, -⟩ | higher)
        · exact absurd declared (fresh other (List.mem_reverse.mp mem))
        · exact higher
    · have fresh : ∀ other ∈ lineage, name ∉ declaredNames other := by
        have absent := PropertyList.named?_eq_none_iff.mp absent
        rw [above.names] at absent
        simpa using absent
      have declared : name ∈ declaredNames element :=
        own.names ▸ PropertyList.mem_names_of_named? found
      rw [own.named name p found]
      constructor
      · exact .here fresh declared
      · rintro (⟨-, -, referred⟩ | higher)
        · exact referred
        · obtain ⟨other, mem, declared, -⟩ := higher.declared
          exact absurd declared (fresh other mem)

theorem KeyedBy.referred {lineage : List Node} {ps : PropertyList} (h : KeyedBy lineage ps) {p : Property}
    (mem : p ∈ PropertyList.keys ps) : ∃ element ∈ lineage, p.name ∈ referredNames element := by
  have named := List.mem_map_of_mem (f := Property.name) mem
  rw [h.keys, List.mem_flatMap] at named
  obtain ⟨element, mem, named⟩ := named
  exact ⟨element, List.mem_reverse.mp mem, of_decide_eq_true (List.mem_filter.mp named).2⟩

section Resolved
variable {root : Node} {decls : List EntityTypeDecl} {policy : BaseTypePolicy}

theorem exists_lineage (read : metadataDecls root = .ok decls) {i : Fin decls.length} {t : EntityType}
    (resolves : Metadata.Resolves decls policy i t) :
    ∃ lineage, IsLineage root decls i lineage ∧ KeyedBy lineage t.properties := by
  have element_of (j : Fin decls.length) :
      ∃ element, (typeElements root)[j.val]? = some element ∧ Reads element (decls.get j).properties := by
    obtain ⟨same, made⟩ := List.forall₂_iff_get.mp (forall₂_of_metadataDecls read)
    have lt : j.val < (typeElements root).length := by
      rw [same]
      exact j.isLt
    obtain ⟨namespaceName, made⟩ := made j.val lt j.isLt
    exact ⟨_, List.getElem?_eq_getElem lt, reads_of_ofNode made⟩
  induction resolves with
  | @root i ends =>
    obtain ⟨element, found, own⟩ := element_of i
    have empty : KeyedBy [] [] := ⟨rfl, rfl, fun _ _ found => by cases found⟩
    refine ⟨[element], fun k => ?_, empty.cons own⟩
    cases k with
    | zero => exact found.symm
    | succ k =>
      rw [Metadata.ancestor?_succ, ends.base?_eq_none]
      rfl
  | @derived i j base step _ ih =>
    obtain ⟨element, found, own⟩ := element_of i
    obtain ⟨lineage, along, above⟩ := ih
    refine ⟨element :: lineage, fun k => ?_, above.cons own⟩
    cases k with
    | zero => exact found.symm
    | succ k => rw [Metadata.ancestor?_succ, step, Option.bind_some, List.getElem?_cons_succ, along]

end Resolved

theorem Entity.keys_of_ofEntry {m : Metadata} {coercions : CoercionRegistry} {entry : Node} {e : Entity}
    (made : ofEntry m coercions entry = .ok e) :
    (PropertyList.keys e.properties).map Property.cleared = e.entityType.keys.map Property.cleared := by
  have cleared_keys (ps : PropertyList) :
      (PropertyList.keys ps).map Property.cleared = PropertyList.keys (PropertyList.cleared ps) := by
    rw [PropertyList.keys, PropertyList.keys, PropertyList.cleared, List.filter_map]
    rfl
  obtain ⟨elements, -, -, fills⟩ := (describes_of_ofEntry made).filled
  rw [EntityType.keys, cleared_keys, cleared_keys, fills.cleared]

theorem Entity.key?_eq_none_iff {e : Entity} : e.key? = none ↔ PropertyList.keys e.properties = [] := by
  rw [key?]
  split <;> simp_all

/-- The keys of a type are, element by element along its lineage from above, the names that the element both
declares and refers to.  A reference to a property that only an element above declares has no effect, nor
has one to a property that such an element declares as well. -/
theorem Metadata.keys_decided {policy : BaseTypePolicy} {body : String} {m : Metadata}
    (accepted : ofText policy body = .ok m) :
    ∃ root decls, Xml.read body = .ok root ∧ metadataDecls root = .ok decls ∧
      (typeElements root).length = decls.length ∧ m.entityTypes.length = decls.length ∧
      (∀ (i : Fin decls.length) (t : EntityType), m.entityTypes[i.val]? = some t →
        ∃ lineage, IsLineage root decls i lineage ∧
          t.keys.map Property.name = lineage.reverse.flatMap keyNames ∧
          (∀ name p, PropertyList.named? t.properties name = some p →
            (p ∈ t.keys ↔ UppermostRefers name lineage)) ∧
          ∀ p ∈ t.keys, ∃ element ∈ lineage, p.name ∈ referredNames element) ∧
      ∀ coercions entry e, Entity.ofEntry m coercions entry = .ok e →
        (PropertyList.keys e.properties).map Property.cleared = e.entityType.keys.map Property.cleared ∧
        (e.key? = none ↔ e.entityType.keys = []) := by
  unfold ofText at accepted
  obtain ⟨root, document, accepted⟩ := Except.bind_eq_ok_iff.mp accepted
  obtain ⟨decls, read, resolved⟩ := Except.bind_eq_ok_iff.mp (Except.mapError_eq_ok_iff.mp accepted)
  have spec := resolve_spec decls policy
  rw [resolved] at spec
  obtain ⟨same, each⟩ := resolves_getElem spec.2
  refine ⟨root, decls, Except.mapError_eq_ok_iff.mp document, read,
    (forall₂_of_metadataDecls read).length_eq, same, ?_, ?_⟩
  · intro i t found
    obtain ⟨-, rfl⟩ := List.getElem?_eq_some_iff.mp found
    obtain ⟨lineage, isLineage, keyed⟩ := exists_lineage read (each i)
    refine ⟨lineage, isLineage, keyed.keys, ?_, fun p mem => keyed.referred mem⟩
    intro name p first
    have mem := List.mem_of_find?_eq_some first
    rw [EntityType.keys, PropertyList.keys, List.mem_filter, and_iff_right mem]
    exact keyed.named name p first
  · intro coercions entry e made
    have cleared := Entity.keys_of_ofEntry made
    refine ⟨cleared, ?_⟩
    rw [Entity.key?_eq_none_iff, ← List.map_eq_nil_iff, cleared, List.map_eq_nil_iff]

section Zoo

private def keyedPets : String :=
  "<Schema Namespace='Zoo'><EntityType Name='Pet'><Key><PropertyRef Name='Id'/></Key>" ++
    "<Property Name='Id' Type='Int'/></EntityType><EntityType Name='Dog' BaseType='Pet'/></Schema>"

private def keyedPet : EntityTypeDecl :=
  { namespaceName := "Zoo", name := "Pet", properties := [{ name := "Id", typeTag := "Int", key := true }] }

private def barePet : EntityTypeDecl :=
  { namespaceName := "Zoo", name := "Pet", properties := [{ name := "Id", typeTag := "Int" }] }

private def bareDog : EntityTypeDecl := { namespaceName := "Zoo", name := "Dog", baseTypeName := some "Pet" }

/-- A dog has the key of the pets, to which the element of the pets refers. -/
theorem Metadata.keys_decided_dog :
    ofText .strict keyedPets = .ok ⟨["Zoo"], [.root keyedPet, .derived bareDog (.root keyedPet)]⟩ ∧
    ∃ root lineage, Xml.read keyedPets = .ok root ∧ lineage.reverse.flatMap keyNames = ["Id"] ∧
      UppermostRefers "Id" lineage := by
  have accepted : ofText .strict keyedPets =
      .ok ⟨["Zoo"], [.root keyedPet, .derived bareDog (.root keyedPet)]⟩ := by
    decide +kernel
  obtain ⟨root, decls, read, -, -, same, each, -⟩ := keys_decided accepted
  have second : 1 < decls.length := by
    rw [← same]
    decide
  obtain ⟨lineage, -, keys, named, -⟩ := each ⟨1, second⟩ (.derived bareDog (.root keyedPet)) rfl
  refine ⟨accepted, root, lineage, read, keys.symm, ?_⟩
  exact (named "Id" { name := "Id", typeTag := "Int", key := true } (by decide)).mp (by decide)

private def keyedDogs : String :=
  "<Schema Namespace='Zoo'><EntityType Name='Pet'><Property Name='Id' Type='Int'/></EntityType>" ++
    "<EntityType Name='Dog' BaseType='Pet'><Key><PropertyRef Name='Id'/></Key></EntityType></Schema>"

/-- The element of the dogs refers to the property that they have as pets, and yet they have no key. -/
theorem Metadata.inherited_reference_lost :
    (Xml.read keyedDogs).map (fun root => (typeElements root).map referredNames) = .ok [[], ["Id"]] ∧
    ofText .strict keyedDogs = .ok ⟨["Zoo"], [.root barePet, .derived bareDog (.root barePet)]⟩ ∧
    PropertyList.has (EntityType.derived bareDog (.root barePet)).properties "Id" = true ∧
    (EntityType.derived bareDog (.root barePet)).keys = [] := by
  decide +kernel

end Zoo

end AtomData
