import AtomData.Proofs.Text.Blank
import AtomData.Query.Plan

/-!
# Relative addresses

A text is an absolute address only if its first colon stands right behind a scheme.
`not_isAbsolute_of_mark` says that this is not so once a mark that no scheme holds comes ahead of all
colons, and `urlFor_of_relative` what becomes of such a path.
-/

namespace AtomData.Url

/-- The character ends a scheme without a colon, and cleaning an address keeps it. -/
def IsMark (c : Char) : Prop := isSchemeChar c = false ∧ c ≠ ':' ∧ 0x20 < c.toNat

variable {s a b : List Char} {c : Char}

theorem splitScheme?_of_head (h : (s.dropWhile isSchemeChar).head? ≠ some ':') : splitScheme? s = none := by
  cases s with
  | nil => rfl
  | cons d s =>
    unfold splitScheme?
    split
    · rename_i first rest eq
      rw [eq] at h
      exact absurd rfl h
    · rfl

theorem head?_dropWhile_of_mark (free : ':' ∉ a) (mark : IsMark c) :
    ((a ++ c :: b).dropWhile isSchemeChar).head? ≠ some ':' := by
  -- What the scheme leaves starts inside of `a`, which has no colon, or at the mark.
  induction a with
  | nil =>
    rw [List.nil_append, List.dropWhile_cons_of_neg (by simp [mark.1])]
    simpa using mark.2.1
  | cons d a ih =>
    rw [List.mem_cons, not_or] at free
    cases scheme : isSchemeChar d with
    | true => rw [List.cons_append, List.dropWhile_cons_of_pos scheme]; exact ih free.2
    | false =>
      rw [List.cons_append, List.dropWhile_cons_of_neg (by simp [scheme])]
      simpa using Ne.symm free.1

theorem mem_of_mem_clean {d : Char} (mem : d ∈ clean s) : d ∈ s := by
  have inside := (List.mem_filter.mp mem).1
  rw [Text.dropEndWhile, List.mem_reverse] at inside
  have behind := (List.dropWhile_sublist _).subset inside
  exact (List.dropWhile_sublist _).subset (List.mem_reverse.mp behind)

theorem clean_append_of_mark (mark : IsMark c) :
    ∃ a' b', clean (a ++ c :: b) = a' ++ c :: b' ∧ a' ⊆ a := by
  have outer : decide (c.toNat ≤ 0x20) = false := by simpa using mark.2.2
  have inner : (c != '\t' && c != '\n' && c != '\r') = true := by
    have large := mark.2.2
    simp only [Bool.and_eq_true, bne_iff_ne, ne_eq]
    refine ⟨⟨?_, ?_⟩, ?_⟩ <;> rintro rfl <;> exact absurd large (by decide)
  rw [clean, Text.dropWhile_append_of_not outer, Text.dropEndWhile_append_of_not outer, List.filter_append,
    List.filter_cons, if_pos inner]
  exact ⟨_, _, rfl, fun d mem => (List.dropWhile_sublist _).subset (List.mem_filter.mp mem).1⟩

theorem not_isAbsolute_of_head {s : String}
    (h : ((clean s.toList).dropWhile isSchemeChar).head? ≠ some ':') : isAbsolute s = false := by
  rw [isAbsolute, check, splitScheme?_of_head h]

theorem not_isAbsolute_of_no_colon {s : String} (free : ':' ∉ s.toList) : isAbsolute s = false := by
  refine not_isAbsolute_of_head fun head => free (mem_of_mem_clean ?_)
  exact (List.dropWhile_sublist _).subset (List.mem_of_head? head)

theorem not_isAbsolute_of_mark (free : ':' ∉ a) (mark : IsMark c) :
    isAbsolute (String.ofList (a ++ c :: b)) = false := by
  obtain ⟨a', b', cleaned, fewer⟩ := @clean_append_of_mark a b c mark
  refine not_isAbsolute_of_head ?_
  rw [String.toList_ofList, cleaned]
  exact head?_dropWhile_of_mark (fun colon => free (fewer colon)) mark

end AtomData.Url

namespace AtomData

open Url

theorem Service.urlFor_of_relative {path : String} (relative : Url.isAbsolute path = false) (s : Service) :
    s.urlFor path = Url.combine s.root path := by
  rw [urlFor, relative]
  rfl

/-! ### Paths below a collection -/

theorem QueryOptions.path_relative {href : String} (free : ':' ∉ href.toList) (options : QueryOptions) :
    isAbsolute (options.path href) = false := by
  unfold path
  split
  · exact not_isAbsolute_of_no_colon free
  · exact not_isAbsolute_of_mark free ⟨by decide, by decide, by decide⟩

theorem EntityKey.path?_relative {href path : String} {key : EntityKey} (free : ':' ∉ href.toList)
    (written : key.path? href = .ok path) : isAbsolute path = false := by
  cases text : key.text? with
  | error e => simp [path?, text, Except.map] at written
  | ok text' =>
    simp only [path?, text, Except.map, Except.ok.injEq, List.append_assoc, List.cons_append] at written
    rw [← written]
    exact not_isAbsolute_of_mark free ⟨by decide, by decide, by decide⟩

end AtomData
