import AtomData.Proofs.Schema.Property
import AtomData.Proofs.Schema.Visit

/-!
# Inheritance

What the entity types of resolved metadata are, and when declarations do not resolve.
`entityTypes_of_resolve` reads every type off the chain of its declaration, and
`resolve_decided_by_chains` says which chain decides an error.
-/

namespace AtomData.Metadata

variable {decls : List EntityTypeDecl} {policy : BaseTypePolicy} {i : Fin decls.length}

/-! ### Types and the chains of their declarations -/

/-- The chain of ancestors of a declaration that resolves ends, and the type has the properties
declared along it, those of the last ancestor in front. -/
theorem Resolves.properties {t : EntityType} (h : Resolves decls policy i t) :
    ∃ chain : List (Fin decls.length), (∀ k, chain[k]? = ancestor? decls i k) ∧
      t.properties = chain.reverse.flatMap fun j => (decls.get j).properties := by
  induction h with
  | @root i ends =>
    refine ⟨[i], fun k => ?_, by simp [EntityType.properties]⟩
    cases k with
    | zero => rfl
    | succ k => rw [ancestor?_succ, ends.base?_eq_none]; rfl
  | @derived i j base step _ ih =>
    obtain ⟨chain, along, listed⟩ := ih
    refine ⟨i :: chain, fun k => ?_, by simp [EntityType.properties, listed]⟩
    cases k with
    | zero => rfl
    | succ k => rw [ancestor?_succ, step, List.getElem?_cons_succ, along, Option.bind_some]

theorem entityType?_eq {m : Metadata} (same : m.entityTypes.map EntityType.decl = decls)
    (reference : String) :
    m.entityType? reference =
      (decls.findFinIdx? (·.isNamedBy reference)).bind fun j => m.entityTypes[j]? := by
  have found : m.entityType? reference = m.entityTypes.find? fun t => t.decl.isNamedBy reference := by
    by_cases dotted : reference.toList.contains '.' = true
    · rw [entityType?, if_pos dotted]
      congr
      funext t
      rw [EntityTypeDecl.isNamedBy, if_pos dotted]
      rfl
    · rw [entityType?, if_neg dotted]
      congr
      funext t
      rw [EntityTypeDecl.isNamedBy, if_neg dotted]
      rfl
  rw [found, List.find?_eq_bind_findIdx?_getElem?]
  have index : (m.entityTypes.findIdx? fun t => t.decl.isNamedBy reference) =
      (decls.findFinIdx? (·.isNamedBy reference)).map (·.val) := by
    rw [← List.findIdx?_eq_map_findFinIdx?_val, ← same, List.findIdx?_map]
    rfl
  rw [index, Option.bind_map]
  rfl

theorem Resolves.base?_eq {t : EntityType} {ts : List EntityType} (h : Resolves decls policy i t)
    (all : List.Forall₂ (Resolves decls policy) (List.finRange decls.length) ts) :
    t.base? = (base? decls i).bind fun j => ts[j]? := by
  obtain ⟨same, each⟩ := resolves_getElem all
  cases h with
  | root ends => rw [ends.base?_eq_none]; rfl
  | @derived i j base step above =>
    rw [step, Option.bind_some, above.unique (each j)]
    exact (List.getElem?_eq_getElem _).symm

theorem map_decl_of_resolve {m : Metadata} (resolved : resolve decls policy = .ok m) :
    m.entityTypes.map EntityType.decl = decls := by
  have spec := resolve_spec decls policy
  rw [resolved] at spec
  obtain ⟨same, each⟩ := resolves_getElem spec.2
  apply List.ext_getElem (by simpa using same)
  intro k left right
  rw [List.getElem_map]
  exact (each ⟨k, right⟩).decl_eq

/-- Metadata have one type for each declaration, in the same order.  The base of a type is the type
of the first declaration that its reference names, and is what looking the reference up finds.  The
chain of ancestors ends, and the properties are those declared along it, the type's own at the end. -/
theorem entityTypes_of_resolve {m : Metadata} (resolved : resolve decls policy = .ok m) :
    m.entityTypes.map EntityType.decl = decls ∧
    ∀ (i : Fin decls.length) (t : EntityType), m.entityTypes[i]? = some t →
      t.base? = ((base? decls i).bind fun j => m.entityTypes[j]?) ∧
      t.base? = (decls.get i).baseTypeName.bind m.entityType? ∧
      (∃ chain : List (Fin decls.length), (∀ k, chain[k]? = ancestor? decls i k) ∧
        t.properties = chain.reverse.flatMap fun j => (decls.get j).properties) ∧
      t.coreProperties = (decls.get i).properties ∧
      t.propertyNames.Pairwise (· < ·) ∧
      (∀ name, name ∈ t.propertyNames ↔ ∃ p ∈ t.properties, p.name = name) ∧
      ∀ name, name ∈ t.propertyNames ↔ name ∈ t.basePropertyNames ∨ name ∈ t.corePropertyNames := by
  have spec := resolve_spec decls policy
  rw [resolved] at spec
  obtain ⟨-, all⟩ := spec
  obtain ⟨same, each⟩ := resolves_getElem all
  have decl_eq := map_decl_of_resolve resolved
  refine ⟨decl_eq, fun i t found => ?_⟩
  have resolves : Resolves decls policy i t := by
    have at_i : m.entityTypes[i]? = some m.entityTypes[i] := List.getElem?_eq_getElem _
    obtain rfl := Option.some.inj (at_i.symm.trans found)
    exact each i
  have base_eq := resolves.base?_eq all
  have lookup : t.base? = (decls.get i).baseTypeName.bind m.entityType? := by
    rw [base_eq, base?, Option.bind_assoc]
    congr
    funext reference
    exact (entityType?_eq decl_eq reference).symm
  refine ⟨base_eq, lookup, resolves.properties, ?_, PropertyList.pairwise_names _,
    fun _ => PropertyList.mem_names, fun _ => EntityType.mem_propertyNames⟩
  rw [EntityType.coreProperties, resolves.decl_eq]

section Kennel

private def animal : EntityTypeDecl :=
  { namespaceName := "Kennel", name := "Animal", properties := [{ name := "Id", typeTag := "Edm.Int32" }] }

private def dog : EntityTypeDecl :=
  { namespaceName := "Kennel", name := "Dog", baseTypeName := some "Animal",
    properties := [{ name := "Breed", typeTag := "Edm.String" }] }

private def zooAnimal : EntityTypeDecl :=
  { namespaceName := "Zoo", name := "Animal", baseTypeName := some "Kennel.Animal" }

private def kennel : Metadata :=
  ⟨["Kennel", "Zoo"], [.derived dog (.root animal), .root animal, .derived zooAnimal (.root animal)]⟩

/-- A dog, declared in front of its base type, is an animal of the kennel and not of the zoo. -/
theorem entityTypes_of_resolve_dog :
    resolve [dog, animal, zooAnimal] .strict = .ok kennel ∧
    kennel.entityType? "Animal" = some (.root animal) ∧
    (EntityType.derived dog (.root animal)).propertyNames.Pairwise (· < ·) := by
  have resolved : resolve [dog, animal, zooAnimal] .strict = .ok kennel := by decide +kernel
  obtain ⟨-, lookup, -, -, ascending, -⟩ :=
    (entityTypes_of_resolve resolved).2 0 (.derived dog (.root animal)) rfl
  exact ⟨resolved, lookup.symm, ascending⟩

end Kennel

/-! ### Which declarations resolve -/

theorem resolve_ok_iff (decls : List EntityTypeDecl) (policy : BaseTypePolicy) :
    (∃ m, resolve decls policy = .ok m) ↔ ∀ i, Grounded decls policy i := by
  have spec := resolve_spec decls policy
  cases outcome : resolve decls policy with
  | ok m =>
    simp only [outcome] at spec
    obtain ⟨same, each⟩ := resolves_getElem spec.2
    exact ⟨fun _ i => (each i).grounded, fun _ => ⟨m, rfl⟩⟩
  | error e =>
    simp only [outcome] at spec
    obtain ⟨i, -, fault⟩ := spec
    constructor
    · rintro ⟨m, ok⟩
      cases ok
    · intro grounded
      exact absurd fault (grounded i).not_fault

theorem resolve_error_iff (decls : List EntityTypeDecl) (policy : BaseTypePolicy) (e : SchemaError) :
    resolve decls policy = .error e ↔
      ∃ i, (∀ j < i, Grounded decls policy j) ∧ Fault decls policy i e := by
  constructor
  · intro failed
    have spec := resolve_spec decls policy
    rw [failed] at spec
    exact spec
  · rintro ⟨i, below, fault⟩
    have spec := resolve_spec decls policy
    cases outcome : resolve decls policy with
    | ok m => exact absurd fault ((resolve_ok_iff decls policy).mp ⟨m, outcome⟩ i).not_fault
    | error e' =>
      simp only [outcome] at spec
      obtain ⟨i', below', fault'⟩ := spec
      -- Neither index lies below the other, because all chains below either of them end.
      have notBefore : ¬i < i' := fun lt => (below' i lt).not_fault fault
      have notAfter : ¬i' < i := fun lt => (below i' lt).not_fault fault'
      obtain rfl : i = i' := le_antisymm (not_lt.mp notAfter) (not_lt.mp notBefore)
      rw [fault.unique fault']

theorem resolve_lenient_of_strict {m : Metadata} (resolved : resolve decls .strict = .ok m) :
    resolve decls .lenient = .ok m := by
  have grounded := (resolve_ok_iff decls .strict).mp ⟨m, resolved⟩
  obtain ⟨m', resolved'⟩ := (resolve_ok_iff decls .lenient).mpr fun i => (grounded i).lenient
  have spec := resolve_spec decls .strict
  have spec' := resolve_spec decls .lenient
  rw [resolved] at spec
  rw [resolved'] at spec'
  obtain ⟨same, each⟩ := resolves_getElem spec.2
  obtain ⟨same', each'⟩ := resolves_getElem spec'.2
  have types : m'.entityTypes = m.entityTypes := by
    apply List.ext_getElem (same'.trans same.symm)
    intro k left right
    exact (each' ⟨k, same' ▸ left⟩).unique (each ⟨k, same ▸ right⟩).lenient
  have namespaces : m'.namespaces = m.namespaces := spec'.1.trans spec.1.symm
  have whole : m' = m := by
    cases m
    cases m'
    simp only at types namespaces
    rw [types, namespaces]
  rw [resolved', whole]

/-- Declarations resolve when every chain of ancestors ends, and otherwise fail with the fault of the
first chain that has one.  What only a strict policy refuses is a reference that names nothing. -/
theorem resolve_decided_by_chains (decls : List EntityTypeDecl) :
    (∀ policy, (∃ m, resolve decls policy = .ok m) ↔ ∀ i, Grounded decls policy i) ∧
    (∀ policy e, resolve decls policy = .error e ↔
      ∃ i, (∀ j < i, Grounded decls policy j) ∧ Fault decls policy i e) ∧
    (∀ m, resolve decls .strict = .ok m → resolve decls .lenient = .ok m) ∧
    (∀ e, resolve decls .lenient = .error e →
      (∃ name, e = .inheritanceCycle name) ∧ ∃ e', resolve decls .strict = .error e') ∧
    ∀ e m, resolve decls .strict = .error e → resolve decls .lenient = .ok m →
      ∃ name reference, e = .unresolvedBaseType name reference := by
  refine ⟨resolve_ok_iff decls, resolve_error_iff decls, fun m => resolve_lenient_of_strict, ?_, ?_⟩
  · intro e failed
    obtain ⟨i, -, fault⟩ := (resolve_error_iff decls .lenient e).mp failed
    refine ⟨fault.of_lenient, ?_⟩
    cases strict : resolve decls .strict with
    | ok m => cases failed.symm.trans (resolve_lenient_of_strict strict)
    | error e' => exact ⟨e', rfl⟩
  · intro e m failed tolerated
    obtain ⟨i, -, fault⟩ := (resolve_error_iff decls .strict e).mp failed
    exact fault.of_strict ((resolve_ok_iff decls .lenient).mp ⟨m, tolerated⟩ i)

/-- A puppy leads into a cycle that it is no part of. -/
example : resolve [⟨"Kennel", "Puppy", some "Dog", []⟩, ⟨"Kennel", "Wolf", some "Dog", []⟩,
    ⟨"Kennel", "Dog", some "Wolf", []⟩] .lenient = .error (.inheritanceCycle "Kennel.Dog") := by
  decide +kernel

end AtomData.Metadata
