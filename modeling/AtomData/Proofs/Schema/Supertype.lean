import AtomData.Proofs.Schema.Inheritance

/-!
# Supertypes

Inheritance orders the entity types of resolved metadata: a type is below itself and the types on its
chain of bases, and below no others.  Types are compared by namespace and name, so this needs declarations
that differ in one of the two.  `isA_orders` gathers the laws of the order and what a type takes over from
the types above it.
-/

namespace AtomData

namespace EntityType

variable {s t : EntityType}

def ancestors : EntityType → List EntityType
  | root _ => []
  | derived _ base => base :: base.ancestors

theorem isA_iff_exists_same (t s : EntityType) :
    t.isA s = true ↔ ∃ u ∈ t :: t.ancestors, u.same s = true := by
  induction t with
  | root d => simp [isA, ancestors]
  | derived d base ih =>
    rw [isA, Bool.or_eq_true, ih, ancestors]
    simp

theorem suffix_of_mem (above : s ∈ t :: t.ancestors) : s :: s.ancestors <:+ t :: t.ancestors := by
  induction t with
  | root d =>
    obtain rfl := List.mem_singleton.mp above
    exact List.suffix_refl _
  | derived d base ih =>
    rcases List.mem_cons.mp above with rfl | above
    · exact List.suffix_refl _
    · exact (ih above).trans (List.suffix_cons _ _)

theorem mem_of_suffix (h : s :: s.ancestors <:+ t :: t.ancestors) : s ∈ t :: t.ancestors :=
  h.subset List.mem_cons_self

theorem eq_of_mem_of_mem (above : s ∈ t :: t.ancestors) (below : t ∈ s :: s.ancestors) : s = t := by
  have whole := (suffix_of_mem above).eq_of_length_le (suffix_of_mem below).length_le
  exact (List.cons.inj whole).1

theorem properties_prefix_of_mem (above : s ∈ t :: t.ancestors) : s.properties <+: t.properties := by
  induction t with
  | root d =>
    obtain rfl := List.mem_singleton.mp above
    exact List.prefix_refl _
  | derived d base ih =>
    rcases List.mem_cons.mp above with rfl | above
    · exact List.prefix_refl _
    · exact (ih above).trans (List.prefix_append _ _)

theorem keys_prefix_of_prefix (h : s.properties <+: t.properties) : s.keys <+: t.keys := by
  obtain ⟨more, same⟩ := h
  exact ⟨PropertyList.keys more, by rw [keys, keys, ← same]; exact (List.filter_append ..).symm⟩

theorem mem_or_mem_of_mem {u : EntityType} (first : s ∈ u :: u.ancestors) (second : t ∈ u :: u.ancestors) :
    s ∈ t :: t.ancestors ∨ t ∈ s :: s.ancestors := by
  have rests := List.suffix_or_suffix_of_suffix (suffix_of_mem first) (suffix_of_mem second)
  exact rests.imp mem_of_suffix mem_of_suffix

/-- Inheritance is an order on the types.  What a type has begins with what the types above it have, and
these form a chain. -/
structure Ordered (ts : List EntityType) : Prop where
  refl : ∀ a ∈ ts, a.isA a = true
  trans : ∀ a ∈ ts, ∀ b ∈ ts, ∀ c ∈ ts, a.isA b = true → b.isA c = true → a.isA c = true
  antisymm : ∀ a ∈ ts, ∀ b ∈ ts, a.isA b = true → b.isA a = true → a = b
  isA_iff : ∀ a ∈ ts, ∀ b ∈ ts, a.isA b = true ↔ b = a ∨ b ∈ a.ancestors
  closed : ∀ a ∈ ts, a.ancestors ⊆ ts
  properties : ∀ a ∈ ts, ∀ b ∈ ts, a.isA b = true → b.properties <+: a.properties
  keys : ∀ a ∈ ts, ∀ b ∈ ts, a.isA b = true → b.keys <+: a.keys
  comparable : ∀ a ∈ ts, ∀ b ∈ ts, ∀ c ∈ ts, a.isA b = true → a.isA c = true →
    b.isA c = true ∨ c.isA b = true

theorem ordered_of_same_iff {ts : List EntityType} (closed : ∀ a ∈ ts, a.ancestors ⊆ ts)
    (apart : ∀ a ∈ ts, ∀ b ∈ ts, a.same b = true → a = b) : Ordered ts := by
  have isA_iff_mem : ∀ a ∈ ts, ∀ b ∈ ts, a.isA b = true ↔ b ∈ a :: a.ancestors := by
    intro a ha b hb
    rw [isA_iff_exists_same]
    constructor
    · rintro ⟨u, above, same⟩
      have hu : u ∈ ts := (List.mem_cons.mp above).elim (· ▸ ha) fun above => closed a ha above
      exact apart u hu b hb same ▸ above
    · exact fun above => ⟨b, above, by simp [same]⟩
  exact {
    refl := fun a ha => (isA_iff_mem a ha a ha).mpr List.mem_cons_self
    trans := by
      intro a ha b hb c hc ab bc
      rw [isA_iff_mem a ha b hb] at ab
      rw [isA_iff_mem b hb c hc] at bc
      exact (isA_iff_mem a ha c hc).mpr ((suffix_of_mem ab).subset bc)
    antisymm := by
      intro a ha b hb ab ba
      rw [isA_iff_mem a ha b hb] at ab
      rw [isA_iff_mem b hb a ha] at ba
      exact eq_of_mem_of_mem ba ab
    isA_iff := fun a ha b hb => (isA_iff_mem a ha b hb).trans List.mem_cons
    closed := closed
    properties := fun a ha b hb ab => properties_prefix_of_mem ((isA_iff_mem a ha b hb).mp ab)
    keys := fun a ha b hb ab =>
      keys_prefix_of_prefix (properties_prefix_of_mem ((isA_iff_mem a ha b hb).mp ab))
    comparable := by
      intro a ha b hb c hc ab ac
      rw [isA_iff_mem a ha b hb] at ab
      rw [isA_iff_mem a ha c hc] at ac
      rw [isA_iff_mem b hb c hc, isA_iff_mem c hc b hb]
      exact mem_or_mem_of_mem ac ab }

end EntityType

namespace Metadata

variable {decls : List EntityTypeDecl} {policy : BaseTypePolicy}

theorem Resolves.of_mem_ancestors {i : Fin decls.length} {s t : EntityType} (h : Resolves decls policy i t)
    (above : s ∈ t.ancestors) : ∃ j, Resolves decls policy j s := by
  induction h with
  | root => cases above
  | derived _ base ih =>
    rcases List.mem_cons.mp above with rfl | above
    · exact ⟨_, base⟩
    · exact ih above

theorem Resolves.eq_of_same {i j : Fin decls.length} {s t : EntityType} (h : Resolves decls policy i s)
    (h' : Resolves decls policy j t) (distinct : (decls.map fun d => (d.namespaceName, d.name)).Nodup)
    (same : s.same t = true) : s = t := by
  rw [EntityType.same, Bool.and_eq_true, decide_eq_true_iff, decide_eq_true_iff] at same
  rw [EntityType.namespaceName, EntityType.namespaceName, EntityType.name, EntityType.name, h.decl_eq,
    h'.decl_eq] at same
  have lt : i.val < (decls.map fun d => (d.namespaceName, d.name)).length := by simp
  have lt' : j.val < (decls.map fun d => (d.namespaceName, d.name)).length := by simp
  have place : i.val = j.val := by
    refine (@List.Nodup.getElem_inj_iff _ _ distinct _ lt _ lt').mp ?_
    rw [List.getElem_map, List.getElem_map]
    exact Prod.ext same.1 same.2
  obtain rfl := Fin.ext place
  exact h.unique h'

/-- Inheritance orders the entity types of declarations that differ in namespace or name. -/
theorem isA_orders {m : Metadata} (resolved : resolve decls policy = .ok m)
    (distinct : (decls.map fun d => (d.namespaceName, d.name)).Nodup) :
    EntityType.Ordered m.entityTypes := by
  have spec := resolve_spec decls policy
  rw [resolved] at spec
  obtain ⟨same, each⟩ := resolves_getElem spec.2
  have resolves : ∀ t ∈ m.entityTypes, ∃ i, Resolves decls policy i t := by
    intro t mem
    obtain ⟨k, lt, rfl⟩ := List.mem_iff_getElem.mp mem
    exact ⟨⟨k, same ▸ lt⟩, each ⟨k, same ▸ lt⟩⟩
  refine EntityType.ordered_of_same_iff (fun a ha s above => ?_) fun a ha b hb same => ?_
  · obtain ⟨i, resolves⟩ := resolves a ha
    obtain ⟨j, found⟩ := resolves.of_mem_ancestors above
    rw [found.unique (each j)]
    exact List.getElem_mem _
  · obtain ⟨i, ofA⟩ := resolves a ha
    obtain ⟨j, ofB⟩ := resolves b hb
    exact ofA.eq_of_same ofB distinct same

section Kennel

private def hound : EntityTypeDecl :=
  { namespaceName := "Kennel", name := "Hound", baseTypeName := some "Kennel.Beast",
    properties := [{ name := "Tag", typeTag := "Edm.String", key := true }] }

private def beast : EntityTypeDecl :=
  { namespaceName := "Kennel", name := "Beast", baseTypeName := some "Thing",
    properties := [{ name := "Id", typeTag := "Edm.Int32", key := true }] }

private def wildBeast : EntityTypeDecl := { namespaceName := "Wild", name := "Beast" }

private def whelp : EntityTypeDecl :=
  { namespaceName := "Kennel", name := "Whelp", baseTypeName := some "Hound" }

private def beastType : EntityType := .root beast

private def houndType : EntityType := .derived hound beastType

private def whelpType : EntityType := .derived whelp houndType

private def beasts : Metadata := ⟨["Kennel", "Wild"], [whelpType, houndType, beastType, .root wildBeast]⟩

/-- A whelp is a beast of the kennel, two bases up, and has its key; it is no beast of the wild. -/
theorem isA_orders_whelp :
    resolve [whelp, hound, beast, wildBeast] .lenient = .ok beasts ∧
    ([whelp, hound, beast, wildBeast].map fun d => (d.namespaceName, d.name)).Nodup ∧
    whelpType.isA beastType = true ∧ whelpType.isA (.root wildBeast) = false ∧
    beastType.keys <+: whelpType.keys := by
  have resolved : resolve [whelp, hound, beast, wildBeast] .lenient = .ok beasts := by decide +kernel
  have distinct : ([whelp, hound, beast, wildBeast].map fun d => (d.namespaceName, d.name)).Nodup := by
    decide +kernel
  have ordered := isA_orders resolved distinct
  have whelpIn : whelpType ∈ beasts.entityTypes := List.mem_cons_self
  have beastIn : beastType ∈ beasts.entityTypes := by simp [beasts]
  have above : whelpType.isA beastType = true :=
    (ordered.isA_iff _ whelpIn _ beastIn).mpr (.inr (by decide +kernel))
  exact ⟨resolved, distinct, above, by decide +kernel, ordered.keys _ whelpIn _ beastIn above⟩

end Kennel

end Metadata
end AtomData
