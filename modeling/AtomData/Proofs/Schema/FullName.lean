import AtomData.Proofs.Feed.Entry
import AtomData.Proofs.Schema.Inheritance
import AtomData.Proofs.Text.Pieces

/-!
# Full names

How far the full name of a type tells it from the other types of its metadata.  Types are compared by
namespace and name, and a look-up by a name without a dot goes by short names, so a full name may belong to
several types, and may also be the short name of another.  `fullName_decides` says when it does not, and
`dotted_names_confused` that it may.
-/

namespace AtomData

open Xml (Node)

/-! ### Qualified names -/

theorem toList_qualify {namespaceName : String} (named : namespaceName ≠ "") (name : String) :
    (qualify namespaceName name).toList = namespaceName.toList ++ '.' :: name.toList := by
  rw [qualify, if_neg named]
  simp

theorem qualify_empty (name : String) : qualify "" name = name := if_pos rfl

theorem dot_mem_qualify {namespaceName : String} (named : namespaceName ≠ "") (name : String) :
    '.' ∈ (qualify namespaceName name).toList := by
  rw [toList_qualify named]
  simp

theorem namespaceName_eq_of_qualify_eq {first second name : String}
    (same : qualify first name = qualify second name) : first = second := by
  have longer {namespaceName : String} (named : namespaceName ≠ "") : qualify namespaceName name ≠ name := by
    intro equal
    have lengths := congrArg (fun s => s.toList.length) equal
    simp only [toList_qualify named, List.length_append, List.length_cons] at lengths
    omega
  by_cases named : first = "" <;> by_cases named' : second = ""
  · rw [named, named']
  · rw [named, qualify_empty] at same
    exact absurd same.symm (longer named')
  · rw [named', qualify_empty] at same
    exact absurd same (longer named)
  · have lists := congrArg String.toList same
    rw [toList_qualify named, toList_qualify named'] at lists
    exact String.toList_injective (List.append_cancel_right lists)

/-- A name without a dot is what stands behind the last dot of the qualified one. -/
theorem name_eq_of_qualify_eq {first second name other : String}
    (same : qualify first name = qualify second other) (plain : '.' ∉ name.toList)
    (plain' : '.' ∉ other.toList) : name = other := by
  by_cases named : first = "" <;> by_cases named' : second = ""
  · rwa [named, named', qualify_empty, qualify_empty] at same
  · rw [named, qualify_empty] at same
    exact absurd (same ▸ dot_mem_qualify named' other) plain
  · rw [named', qualify_empty] at same
    exact absurd (same ▸ dot_mem_qualify named name) plain'
  · have lists := congrArg (fun s => s.toList.reverse) same
    simp only [toList_qualify named, toList_qualify named', List.reverse_append, List.reverse_cons,
      List.append_assoc, List.singleton_append] at lists
    have ends (s : List Char) : ∀ c ∈ ('.' :: s).head?, ¬c ≠ '.' := by
      intro c head
      simpa using head.symm
    have undotted {s : List Char} (free : '.' ∉ s) : ∀ c ∈ s.reverse, c ≠ '.' := by
      rintro c member rfl
      exact free (List.mem_reverse.mp member)
    obtain ⟨names, -⟩ :=
      Text.run_append_inj (undotted plain) (undotted plain') (ends _) (ends _) lists
    exact String.toList_injective (List.reverse_injective names)

namespace EntityType

variable {s t : EntityType}

theorem same_iff_fullName : s.same t = true ↔ s.fullName = t.fullName ∧ s.name = t.name := by
  rw [same, Bool.and_eq_true, decide_eq_true_iff, decide_eq_true_iff]
  constructor
  · rintro ⟨namespaces, names⟩
    unfold fullName EntityTypeDecl.fullName
    unfold namespaceName at namespaces
    unfold name at names
    exact ⟨by rw [namespaces, names], names⟩
  · rintro ⟨full, names⟩
    unfold fullName EntityTypeDecl.fullName at full
    unfold name at names
    rw [names] at full
    exact ⟨namespaceName_eq_of_qualify_eq full, names⟩

/-- The name is the full name of the type, or it has no dot and is the short one. -/
def AnswersTo (t : EntityType) (name : String) : Prop :=
  t.fullName = name ∨ '.' ∉ name.toList ∧ t.name = name

theorem answersTo_fullName (t : EntityType) : t.AnswersTo t.fullName := .inl rfl

theorem name_eq_of_fullName_eq {name : String} (full : t.fullName = name) (plain : '.' ∉ name.toList) :
    t.namespaceName = "" ∧ t.name = name := by
  by_cases named : t.namespaceName = ""
  · refine ⟨named, ?_⟩
    unfold namespaceName at named
    rw [← full, fullName, EntityTypeDecl.fullName, named, qualify_empty]
    rfl
  · rw [← full] at plain
    exact absurd (dot_mem_qualify named t.decl.name) plain

theorem answersTo_iff {name : String} :
    t.AnswersTo name ↔ if name.toList.contains '.' then t.fullName = name else t.name = name := by
  unfold AnswersTo
  by_cases dotted : '.' ∈ name.toList
  · simp [dotted]
  · have short : t.fullName = name → t.name = name := fun full => (name_eq_of_fullName_eq full dotted).2
    simp only [List.contains_iff_mem, dotted, if_false, not_false_eq_true, true_and, or_iff_right_iff_imp]
    exact short

end EntityType

namespace Metadata

variable {m : Metadata} {a t : EntityType} {name : String}

theorem entityType?_eq_some_iff :
    m.entityType? name = some t ↔ ∃ before after, m.entityTypes = before ++ t :: after ∧ t.AnswersTo name ∧
      ∀ u ∈ before, ¬u.AnswersTo name := by
  simp only [EntityType.answersTo_iff]
  unfold entityType?
  split <;> simp [List.find?_eq_some_iff_append, and_left_comm]

theorem exists_entityType?_fullName (listed : a ∈ m.entityTypes) :
    ∃ t ∈ m.entityTypes, m.entityType? a.fullName = some t := by
  classical
  cases found : m.entityTypes.find? fun t => t.AnswersTo a.fullName with
  | none =>
    have silent := List.find?_eq_none.mp found a listed
    exact absurd (decide_eq_true a.answersTo_fullName) silent
  | some t =>
    obtain ⟨answers, before, after, split, others⟩ := List.find?_eq_some_iff_append.mp found
    refine ⟨t, List.mem_of_find?_eq_some found, entityType?_eq_some_iff.mpr ⟨before, after, split, ?_, ?_⟩⟩
    · exact of_decide_eq_true answers
    · intro u earlier
      simpa using others u earlier

theorem entityType?_same_iff {before after : List EntityType} (split : m.entityTypes = before ++ a :: after)
    (first : ∀ u ∈ before, u.same a = false) :
    (∃ t, m.entityType? a.fullName = some t ∧ t.same a = true) ↔ ∀ u ∈ before, ¬u.AnswersTo a.fullName := by
  constructor
  · rintro ⟨t, found, same⟩ u earlier answers
    obtain ⟨before', after', split', -, others⟩ := entityType?_eq_some_iff.mp found
    rw [split, List.append_eq_append_iff] at split'
    rcases split' with ⟨between, rfl, -⟩ | ⟨between, rfl, rest⟩
    · exact others u (List.mem_append_left _ earlier) answers
    · cases between with
      | nil => exact others u (by simpa using earlier) answers
      | cons v between =>
        -- The type that is found stands in front of the first one that is the same.
        obtain ⟨rfl, -⟩ := List.cons.inj rest
        have differs := first t (by simp)
        rw [same] at differs
        cases differs
  · intro silent
    refine ⟨a, entityType?_eq_some_iff.mpr ⟨before, after, split, a.answersTo_fullName, silent⟩, ?_⟩
    exact EntityType.same_iff_fullName.mpr ⟨rfl, rfl⟩

theorem entityType_of_named {coercions : CoercionRegistry} {entry : Node} {e : Entity}
    (named : Entity.NamesTerm entry (some name)) (made : Entity.ofEntry m coercions entry = .ok e) :
    m.entityType? name = some e.entityType := by
  obtain ⟨term, other, known⟩ := (Entity.describes_of_ofEntry made).typed
  have terms := (Entity.categoryTerm?_eq_iff.mpr named).symm.trans (Entity.categoryTerm?_eq_iff.mpr other)
  rwa [Option.some.inj terms]

variable {decls : List EntityTypeDecl} {policy : BaseTypePolicy}

theorem decl_mem_of_resolve (resolved : resolve decls policy = .ok m) (listed : t ∈ m.entityTypes) :
    t.decl ∈ decls := by
  rw [← map_decl_of_resolve resolved]
  exact List.mem_map_of_mem listed

theorem exists_type_of_resolve (resolved : resolve decls policy = .ok m) {d : EntityTypeDecl}
    (listed : d ∈ decls) : ∃ t ∈ m.entityTypes, t.decl = d := by
  rw [← map_decl_of_resolve resolved] at listed
  exact List.mem_map.mp listed

theorem fullName_tells_of_plain (resolved : resolve decls policy = .ok m)
    (plain : ∀ d ∈ decls, d.namespaceName ≠ "" ∧ '.' ∉ d.name.toList) (listed : a ∈ m.entityTypes) :
    (∀ b ∈ m.entityTypes, a.same b = true ↔ a.fullName = b.fullName) ∧
      ∃ t, m.entityType? a.fullName = some t ∧ t.same a = true := by
  have plain_of {t : EntityType} (listed : t ∈ m.entityTypes) := plain _ (decl_mem_of_resolve resolved listed)
  have same_iff {s t : EntityType} (left : s ∈ m.entityTypes) (right : t ∈ m.entityTypes) :
      s.same t = true ↔ s.fullName = t.fullName := by
    rw [EntityType.same_iff_fullName]
    exact and_iff_left_of_imp fun full =>
      name_eq_of_qualify_eq full (plain_of left).2 (plain_of right).2
  refine ⟨fun b => same_iff listed, ?_⟩
  obtain ⟨t, found, lookup⟩ := exists_entityType?_fullName listed
  refine ⟨t, lookup, (same_iff found listed).mpr ?_⟩
  obtain ⟨-, -, -, answers, -⟩ := entityType?_eq_some_iff.mp lookup
  rcases answers with full | ⟨undotted, -⟩
  · exact full
  · exact absurd (dot_mem_qualify (plain_of listed).1 a.decl.name) undotted

/-- Types are the same if their full names and their short names are, and so the full name alone tells the
types of declarations apart just if no two of these have the full name in common and not the name.  A look-up
by the full name of a type always finds one, and an entry that gives the full name for its term becomes an
entity of that one.  It is the type itself, or one that is the same, just if no type in front of the first
such one answers to the name.  Nothing of this can go wrong with names without dots in namespaces that are
not empty. -/
theorem fullName_decides (resolved : resolve decls policy = .ok m) :
    (∀ a ∈ m.entityTypes, ∀ b ∈ m.entityTypes,
      a.same b = true ↔ a.fullName = b.fullName ∧ a.name = b.name) ∧
    ((∀ a ∈ m.entityTypes, ∀ b ∈ m.entityTypes, a.same b = true ↔ a.fullName = b.fullName) ↔
      ∀ c ∈ decls, ∀ d ∈ decls, c.fullName = d.fullName → c.name = d.name) ∧
    (∀ a ∈ m.entityTypes, ∃ t ∈ m.entityTypes, m.entityType? a.fullName = some t ∧
      ∀ coercions entry e, Entity.NamesTerm entry (some a.fullName) →
        Entity.ofEntry m coercions entry = .ok e → e.entityType = t) ∧
    (∀ before a after, m.entityTypes = before ++ a :: after → (∀ u ∈ before, u.same a = false) →
      ((∃ t, m.entityType? a.fullName = some t ∧ t.same a = true) ↔
        ∀ u ∈ before, ¬u.AnswersTo a.fullName)) ∧
    ((∀ d ∈ decls, d.namespaceName ≠ "" ∧ '.' ∉ d.name.toList) → ∀ a ∈ m.entityTypes,
      (∀ b ∈ m.entityTypes, a.same b = true ↔ a.fullName = b.fullName) ∧
        ∃ t, m.entityType? a.fullName = some t ∧ t.same a = true) := by
  refine ⟨fun a _ b _ => EntityType.same_iff_fullName, ?_, ?_,
    fun before a after split first => entityType?_same_iff split first,
    fun plain a listed => fullName_tells_of_plain resolved plain listed⟩
  · constructor
    · intro tells c first d second full
      obtain ⟨a, left, rfl⟩ := exists_type_of_resolve resolved first
      obtain ⟨b, right, rfl⟩ := exists_type_of_resolve resolved second
      exact (EntityType.same_iff_fullName.mp ((tells a left b right).mpr full)).2
    · intro names a left b right
      rw [EntityType.same_iff_fullName]
      apply and_iff_left_of_imp
      exact names a.decl (decl_mem_of_resolve resolved left) b.decl (decl_mem_of_resolve resolved right)
  · intro a listed
    obtain ⟨t, found, lookup⟩ := exists_entityType?_fullName listed
    refine ⟨t, found, lookup, fun coercions entry e named made => ?_⟩
    exact Option.some.inj ((entityType_of_named named made).symm.trans lookup)

section Kennel

private def kennelHound : EntityTypeDecl := { namespaceName := "Kennel", name := "Hound" }

private def freeHound : EntityTypeDecl := { namespaceName := "", name := "Hound" }

/-- The full name of a hound without a namespace leads to the hounds of the kennel, which are declared first. -/
theorem fullName_decides_hound :
    resolve [kennelHound, freeHound] .strict = .ok ⟨["Kennel", ""], [.root kennelHound, .root freeHound]⟩ ∧
    (EntityType.root freeHound).fullName = "Hound" ∧
    ¬∃ t, (⟨["Kennel", ""], [.root kennelHound, .root freeHound]⟩ : Metadata).entityType? "Hound" = some t ∧
      t.same (.root freeHound) = true := by
  have resolved : resolve [kennelHound, freeHound] .strict =
      .ok ⟨["Kennel", ""], [.root kennelHound, .root freeHound]⟩ := by
    decide +kernel
  obtain ⟨-, -, -, found_iff, -⟩ := fullName_decides resolved
  refine ⟨resolved, by decide +kernel, fun found => ?_⟩
  have silent := (found_iff [.root kennelHound] (.root freeHound) [] rfl (by decide +kernel)).mp found
  exact silent (.root kennelHound) List.mem_cons_self (.inr (by decide +kernel))

private def dottedHound : EntityTypeDecl := { namespaceName := "Kennel", name := "Dogs.Hound" }

private def dogsHound : EntityTypeDecl := { namespaceName := "Kennel.Dogs", name := "Hound" }

/-- Two types of one full name that are not the same; the full name of the second leads to the first. -/
theorem dotted_names_confused :
    resolve [dottedHound, dogsHound] .strict =
      .ok ⟨["Kennel", "Kennel.Dogs"], [.root dottedHound, .root dogsHound]⟩ ∧
    (EntityType.root dogsHound).fullName = (EntityType.root dottedHound).fullName ∧
    (EntityType.root dogsHound).same (.root dottedHound) = false ∧
    (⟨["Kennel", "Kennel.Dogs"], [.root dottedHound, .root dogsHound]⟩ : Metadata).entityType?
      (EntityType.root dogsHound).fullName = some (.root dottedHound) := by
  decide +kernel

end Kennel

end Metadata

end AtomData
