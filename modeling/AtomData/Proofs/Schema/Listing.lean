import AtomData.Proofs.Schema.Document

/-!
# What metadata list of their document

Metadata have one entity type for each element that declares one, with the namespace of the schema around the
element.  The namespaces are those of the declarations, so a schema that declares no entity type leaves no
trace.  `lists_document` says which types and namespaces are listed, and `empty_schema_unlisted` that the
namespace of a schema may be missing.
-/

namespace AtomData

open Xml (Node)

/-- The elements that declare entity types, each behind its schema, in document order. -/
def declarationSites (root : Node) : List (Node × Node) :=
  (root.descendantsNamed "Schema").flatMap fun schema =>
    (schema.childrenNamed "EntityType").map fun element => (schema, element)

def namespacesOf (schemas : List Node) : List String :=
  (schemas.filterMap fun schema => schema.attribute? "Namespace").eraseDups

def declaresTypes (schema : Node) : Bool := !(schema.childrenNamed "EntityType").isEmpty

structure Property.DeclaredBy (p : Property) (element : Node) : Prop where
  name : element.attribute? "Name" = some p.name
  typeTag : element.attribute? "Type" = some p.typeTag
  nullable : p.nullable = false ↔
    ∃ word, element.attribute? "Nullable" = some word ∧ word.toList.map Char.toLower = "false".toList
  raw : p.raw = none

structure EntityTypeDecl.DeclaredBy (d : EntityTypeDecl) (schema element : Node) : Prop where
  namespaceName : schema.attribute? "Namespace" = some d.namespaceName
  name : element.attribute? "Name" = some d.name
  baseTypeName : d.baseTypeName = element.attribute? "BaseType"
  properties : List.Forall₂ Property.DeclaredBy d.properties (element.childrenNamed "Property")

/-! ### One element -/

theorem Property.declaredBy_of_ofNode {element : Node} {p : Property}
    (read : Property.ofNode element = .ok p) : p.DeclaredBy element := by
  unfold Property.ofNode at read
  obtain ⟨name, named, read⟩ := Except.bind_eq_ok_iff.mp read
  obtain ⟨typeTag, tagged, read⟩ := Except.bind_eq_ok_iff.mp read
  obtain rfl := Except.ok.inj read
  refine ⟨requiredAttribute_eq_ok_iff.mp named, requiredAttribute_eq_ok_iff.mp tagged, ?_, rfl⟩
  cases element.attribute? "Nullable" <;> simp

theorem Property.DeclaredBy.marked {element : Node} {p : Property} (h : p.DeclaredBy element) :
    DeclaredBy { p with key := true } element :=
  ⟨h.name, h.typeTag, h.nullable, h.raw⟩

theorem PropertyList.declaredBy_markKeys {elements : List Node} {ps : PropertyList} (names : List String)
    (each : List.Forall₂ Property.DeclaredBy ps elements) :
    List.Forall₂ Property.DeclaredBy (markKeys names ps) elements := by
  induction each generalizing names with
  | nil =>
    rw [markKeys_nil]
    exact .nil
  | cons first _ ih =>
    rw [markKeys_cons]
    refine .cons ?_ (ih _)
    split
    · exact first.marked
    · exact first

theorem EntityTypeDecl.declaredBy_of_ofNode {namespaceName : String} {schema element : Node}
    {d : EntityTypeDecl} (spaced : schema.attribute? "Namespace" = some namespaceName)
    (read : EntityTypeDecl.ofNode namespaceName element = .ok d) : d.DeclaredBy schema element := by
  unfold EntityTypeDecl.ofNode at read
  obtain ⟨name, named, read⟩ := Except.bind_eq_ok_iff.mp read
  obtain ⟨ps, properties, read⟩ := Except.bind_eq_ok_iff.mp read
  obtain ⟨names, -, read⟩ := Except.bind_eq_ok_iff.mp read
  obtain rfl := Except.ok.inj read
  have each := (Except.mapM_eq_ok_iff.mp properties).imp fun _ _ => Property.declaredBy_of_ofNode
  exact ⟨spaced, requiredAttribute_eq_ok_iff.mp named, rfl,
    PropertyList.declaredBy_markKeys names each.flip⟩

theorem declaredBy_of_schemaDecls {schema : Node} {ds : List EntityTypeDecl}
    (read : schemaDecls schema = .ok ds) :
    (schema.attribute? "Namespace").isSome ∧
      List.Forall₂ (fun site d => d.DeclaredBy site.1 site.2)
        ((schema.childrenNamed "EntityType").map fun element => (schema, element)) ds := by
  unfold schemaDecls at read
  obtain ⟨namespaceName, spaced, read⟩ := Except.bind_eq_ok_iff.mp read
  have spaced := requiredAttribute_eq_ok_iff.mp spaced
  refine ⟨Option.isSome_of_eq_some spaced, List.forall₂_map_left_iff.mpr ?_⟩
  exact (Except.mapM_eq_ok_iff.mp read).imp fun _ _ => EntityTypeDecl.declaredBy_of_ofNode spaced

theorem declaredBy_of_metadataDecls {root : Node} {decls : List EntityTypeDecl}
    (read : metadataDecls root = .ok decls) :
    (∀ schema ∈ root.descendantsNamed "Schema", (schema.attribute? "Namespace").isSome) ∧
      List.Forall₂ (fun site d => d.DeclaredBy site.1 site.2) (declarationSites root) decls := by
  unfold metadataDecls at read
  obtain ⟨dss, schemas, read⟩ := Except.bind_eq_ok_iff.mp read
  obtain rfl := Except.ok.inj read
  have each := (Except.mapM_eq_ok_iff.mp schemas).imp fun _ _ => declaredBy_of_schemaDecls
  constructor
  · intro schema listed
    obtain ⟨i, lt, rfl⟩ := List.mem_iff_getElem.mp listed
    exact ((List.forall₂_iff_get.mp each).2 i lt (each.length_eq ▸ lt)).1
  · rw [declarationSites, List.flatMap]
    exact List.rel_flatten (List.forall₂_map_left_iff.mpr (each.imp fun _ _ both => both.2))

/-! ### Namespaces -/

/-- A schema counts once, however many types it declares, and not at all if it declares none. -/
theorem eraseDups_namespaces (schemas : List Node) :
    ((schemas.flatMap fun schema => (schema.childrenNamed "EntityType").map fun element =>
      (schema, element)).filterMap fun site => site.1.attribute? "Namespace").eraseDups =
      namespacesOf (schemas.filter declaresTypes) := by
  unfold namespacesOf
  induction schemas with
  | nil => rfl
  | cons schema schemas ih =>
    rw [List.flatMap_cons, List.filterMap_append]
    cases elements : schema.childrenNamed "EntityType" with
    | nil =>
      have passed : declaresTypes schema = false := by simp [declaresTypes, elements]
      rw [List.filter_cons_of_neg (by simp [passed]), List.map_nil, List.filterMap_nil, List.nil_append, ih]
    | cons element more =>
      have counted : declaresTypes schema = true := by simp [declaresTypes, elements]
      rw [List.filter_cons_of_pos counted, List.map_cons]
      cases spaced : schema.attribute? "Namespace" with
      | none =>
        have nothing : (((schema, element) :: more.map fun element => (schema, element)).filterMap
            fun site => site.1.attribute? "Namespace") = [] := by
          simp [spaced]
        rw [nothing, List.nil_append, List.filterMap_cons, spaced, ih]
      | some name =>
        have copies : ∀ b ∈ (more.map fun element => (schema, element)).filterMap
            fun site => site.1.attribute? "Namespace", b = name := by
          simp [spaced]
        simp only [List.filterMap_cons, spaced]
        rw [List.cons_append, eraseDups_cons_append copies, eraseDups_cons_eq, eraseDups_cons_eq, ih]

theorem mem_namespacesOf {schemas : List Node} {name : String} :
    name ∈ namespacesOf schemas ↔ ∃ schema ∈ schemas, schema.attribute? "Namespace" = some name := by
  rw [namespacesOf, List.mem_eraseDups, List.mem_filterMap]

/-- The first schema of the namespace. -/
def firstOf? (schemas : List Node) (name : String) : Option Node :=
  schemas.find? fun schema => schema.attribute? "Namespace" = some name

theorem namespacesOf_cons_of_none {schema : Node} (unspaced : schema.attribute? "Namespace" = none)
    (schemas : List Node) : namespacesOf (schema :: schemas) = namespacesOf schemas := by
  unfold namespacesOf
  simp only [List.filterMap_cons, unspaced]

theorem namespacesOf_cons_of_some {schema : Node} {name : String}
    (spaced : schema.attribute? "Namespace" = some name) (schemas : List Node) :
    namespacesOf (schema :: schemas) =
      name :: namespacesOf (schemas.filter fun other => other.attribute? "Namespace" ≠ some name) := by
  unfold namespacesOf
  simp only [List.filterMap_cons, spaced, List.eraseDups_cons, List.filter_filterMap, List.filterMap_filter]
  congr 3
  funext other
  cases named : other.attribute? "Namespace" with
  | none => simp
  | some b => by_cases same : b = name <;> simp [same]

/-- If the first schema of every namespace declares a type, the schemas that declare none add nothing. -/
theorem namespacesOf_filter_of_first {schemas : List Node}
    (first : ∀ name schema, firstOf? schemas name = some schema → declaresTypes schema = true) :
    namespacesOf (schemas.filter declaresTypes) = namespacesOf schemas := by
  -- Behind the first schema of a namespace only those of other ones count, so the induction is on the length.
  induction length : schemas.length using Nat.strong_induction_on generalizing schemas with
  | _ n ih =>
    cases schemas with
    | nil => rfl
    | cons schema schemas =>
      rw [List.length_cons] at length
      cases spaced : schema.attribute? "Namespace" with
      | none =>
        have rest : namespacesOf (schemas.filter declaresTypes) = namespacesOf schemas := by
          refine ih _ (by omega) (fun name other found => first name other ?_) rfl
          rw [firstOf?, List.find?_cons_of_neg (by simp [spaced])]
          exact found
        rw [namespacesOf_cons_of_none spaced, ← rest, List.filter_cons]
        split
        · exact namespacesOf_cons_of_none spaced _
        · rfl
      | some name =>
        have counted := first name schema (List.find?_cons_of_pos (by simp [spaced]))
        have shorter := List.length_filter_le (fun other => other.attribute? "Namespace" ≠ some name) schemas
        rw [List.filter_cons_of_pos counted, namespacesOf_cons_of_some spaced,
          namespacesOf_cons_of_some spaced, List.filter_comm]
        refine congrArg (name :: ·) (ih _ (by omega) (fun other found foundFirst => ?_) rfl)
        apply first other found
        rw [firstOf?, List.find?_filter] at foundFirst
        have member := List.find?_some foundFirst
        simp only [decide_eq_true_eq] at member
        obtain ⟨different, named⟩ := member
        rw [named] at different
        have passed : ¬schema.attribute? "Namespace" = some other := by
          rw [spaced]
          exact Ne.symm different
        rw [firstOf?, List.find?_cons_of_neg (by simpa using passed), ← foundFirst]
        congr 1
        funext later
        by_cases same : later.attribute? "Namespace" = some other <;> simp [same, different]

namespace Metadata

variable {policy : BaseTypePolicy} {body : String} {m : Metadata}

/-- The entity types of a document are the declared ones, schema by schema and in the order of their elements.
The namespaces are those of the schemas that declare any; one of a schema that does not is listed only for the
sake of others.  So all namespaces are there, in the order of the document, if the first schema of each one
declares a type. -/
theorem lists_document (accepted : ofText policy body = .ok m) :
    ∃ root, Xml.read body = .ok root ∧
      List.Forall₂ (fun site t => t.decl.DeclaredBy site.1 site.2) (declarationSites root) m.entityTypes ∧
      m.namespaces = namespacesOf ((root.descendantsNamed "Schema").filter declaresTypes) ∧
      (∀ schema ∈ root.descendantsNamed "Schema", ∃ name, schema.attribute? "Namespace" = some name ∧
        (name ∈ m.namespaces ↔ ∃ other ∈ root.descendantsNamed "Schema",
          declaresTypes other = true ∧ other.attribute? "Namespace" = some name)) ∧
      ((∀ name schema, firstOf? (root.descendantsNamed "Schema") name = some schema →
          declaresTypes schema = true) →
        m.namespaces = namespacesOf (root.descendantsNamed "Schema")) := by
  unfold ofText at accepted
  obtain ⟨root, document, accepted⟩ := Except.bind_eq_ok_iff.mp accepted
  obtain ⟨decls, read, resolved⟩ := Except.bind_eq_ok_iff.mp (Except.mapError_eq_ok_iff.mp accepted)
  obtain ⟨spaced, each⟩ := declaredBy_of_metadataDecls read
  have types := map_decl_of_resolve resolved
  have namespaces : m.namespaces = namespacesOf ((root.descendantsNamed "Schema").filter declaresTypes) := by
    have spec := resolve_spec decls policy
    rw [resolved] at spec
    have names := filterMap_eq_map_of_forall₂ (g := EntityTypeDecl.namespaceName)
      (each.imp fun _ _ declared => declared.namespaceName)
    rw [spec.1, ← names, declarationSites, eraseDups_namespaces]
  refine ⟨root, Except.mapError_eq_ok_iff.mp document, ?_, namespaces, ?_, ?_⟩
  · rw [← types] at each
    exact List.forall₂_map_right_iff.mp each
  · intro schema listed
    obtain ⟨name, named⟩ := Option.isSome_iff_exists.mp (spaced schema listed)
    refine ⟨name, named, ?_⟩
    rw [namespaces, mem_namespacesOf]
    simp only [List.mem_filter, and_assoc]
  · intro first
    rw [namespaces, namespacesOf_filter_of_first first]

section Zoo

private def twoSchemas : String :=
  "<D><Schema Namespace='Kennel'/><Schema Namespace='Zoo'><EntityType Name='Pet'>" ++
    "<Property Name='Id' Type='Int' Nullable='False'/></EntityType></Schema></D>"

private def zooPet : EntityTypeDecl :=
  { namespaceName := "Zoo", name := "Pet", properties := [{ name := "Id", typeTag := "Int", nullable := false }] }

private theorem twoSchemas_accepted : ofText .strict twoSchemas = .ok ⟨["Zoo"], [.root zooPet]⟩ := by
  decide +kernel

/-- The pets of the zoo are what their element declares, inside of the only schema that declares any type. -/
theorem lists_document_pet :
    ofText .strict twoSchemas = .ok ⟨["Zoo"], [.root zooPet]⟩ ∧
    ∃ schema element, zooPet.DeclaredBy schema element ∧ declaresTypes schema = true ∧
      schema.attribute? "Namespace" = some "Zoo" := by
  refine ⟨twoSchemas_accepted, ?_⟩
  obtain ⟨root, -, types, -, -, -⟩ := lists_document twoSchemas_accepted
  cases sites : declarationSites root with
  | nil =>
    rw [sites] at types
    cases types
  | cons site more =>
    rw [sites] at types
    cases types with
    | cons declared _ =>
      have listed : site ∈ declarationSites root := by simp [sites]
      obtain ⟨schema, -, inside⟩ := List.mem_flatMap.mp listed
      obtain ⟨element, child, rfl⟩ := List.mem_map.mp inside
      refine ⟨schema, element, declared, ?_, declared.namespaceName⟩
      rw [declaresTypes, Bool.not_eq_true', List.isEmpty_eq_false_iff]
      exact List.ne_nil_of_mem child

/-- The kennel's schema has a namespace, and the metadata do not list it. -/
theorem empty_schema_unlisted :
    (Xml.read twoSchemas).map (fun root => namespacesOf (root.descendantsNamed "Schema")) =
      .ok ["Kennel", "Zoo"] ∧
    ofText .strict twoSchemas = .ok ⟨["Zoo"], [.root zooPet]⟩ := by
  refine ⟨?_, twoSchemas_accepted⟩
  decide +kernel

end Zoo

end Metadata

end AtomData
