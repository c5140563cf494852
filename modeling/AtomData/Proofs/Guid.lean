import AtomData.Proofs.Literal

/-!
# Identifiers read back

The hyphenated spelling of an identifier is read as that identifier, since none of the other spellings can
be meant: it holds no colon, no brace, and hyphens that no run of digits has.
-/

namespace AtomData.Guid

variable {α : Type}

/-! ### Cutting into groups -/

theorem flatten_cut {ns : List Nat} {s : List α} (long : s.length = ns.foldr (· + ·) 0) :
    (cut ns s).flatten = s := by
  induction ns generalizing s with
  | nil => simpa [cut, eq_comm] using long
  | cons n ns ih =>
    have rest : (s.drop n).length = ns.foldr (· + ·) 0 := by
      rw [List.foldr_cons] at long
      rw [List.length_drop]
      omega
    rw [cut, List.flatten_cons, ih rest, List.take_append_drop]

theorem map_length_cut {ns : List Nat} {s : List α} (long : s.length = ns.foldr (· + ·) 0) :
    (cut ns s).map List.length = ns := by
  induction ns generalizing s with
  | nil => rfl
  | cons n ns ih =>
    rw [List.foldr_cons] at long
    have first : (s.take n).length = n := by
      rw [List.length_take]
      omega
    have rest : (s.drop n).length = ns.foldr (· + ·) 0 := by
      rw [List.length_drop]
      omega
    rw [cut, List.map_cons, first, ih rest]

/-! ### Digits -/

theorem digit?_digitChar : ∀ d, digit? (digitChar d) = some d := by decide

theorem mapM_digit? (digits : List (Fin 16)) : (digits.map digitChar).mapM digit? = some digits := by
  induction digits with
  | nil => rfl
  | cons d digits ih => simp [digit?_digitChar, ih]

theorem isSome_of_mem_of_mapM {s : List Char} {digits : List (Fin 16)} (read : s.mapM digit? = some digits) :
    ∀ c ∈ s, (digit? c).isSome := by
  induction s generalizing digits with
  | nil => simp
  | cons c s ih =>
    simp only [List.mapM_cons, Option.bind_eq_bind, Option.bind_eq_some_iff] at read
    obtain ⟨d, first, ds, rest, -⟩ := read
    exact List.forall_mem_cons.mpr ⟨Option.isSome_of_eq_some first, ih rest⟩

theorem plain?_digits (g : Guid) : plain? (g.digits.map digitChar) = some g := by
  rw [plain?, mapM_digit?]
  exact dif_pos g.length_digits

theorem plain?_of_hyphen {s : List Char} (hyphen : '-' ∈ s) : plain? s = none := by
  rw [plain?]
  cases read : s.mapM digit? with
  | none => rfl
  | some digits => cases isSome_of_mem_of_mapM read '-' hyphen

/-! ### The hyphenated spelling -/

theorem length_digits_map (g : Guid) :
    (g.digits.map digitChar).length = groups.foldr (· + ·) 0 := by
  rw [List.length_map, g.length_digits]
  rfl

theorem pieces_text (g : Guid) : Text.pieces '-' g.text = cut groups (g.digits.map digitChar) := by
  refine Text.pieces_join (by simp [cut, groups]) fun p piece hyphen => ?_
  obtain ⟨d, -, same⟩ := List.mem_map.mp (mem_of_mem_cut piece hyphen)
  exact absurd same (by revert d; decide)

theorem hyphen_mem_text (g : Guid) : '-' ∈ g.text := by
  simp [text, cut, groups, Text.join]

theorem hyphenated?_text (g : Guid) : hyphenated? g.text = some g := by
  have long := g.length_digits_map
  rw [hyphenated?, pieces_text, map_length_cut long, flatten_cut long, plain?_digits]
  rfl

theorem exists_digit_of_mem_text {g : Guid} {c : Char} (member : c ∈ g.text) :
    (∃ d, c = digitChar d) ∨ c = '-' := by
  rcases Text.mem_join member with hyphen | ⟨p, piece, inside⟩
  · exact .inr (List.mem_singleton.mp hyphen)
  · obtain ⟨d, -, rfl⟩ := List.mem_map.mp (mem_of_mem_cut piece inside)
    exact .inl ⟨d, rfl⟩

theorem urnName?_text (g : Guid) : urnName? g.text = none := by
  have free : ':' ∉ (g.text.take 9).map Char.toLower := by
    intro colon
    obtain ⟨c, taken, lower⟩ := List.mem_map.mp colon
    rcases exists_digit_of_mem_text (List.mem_of_mem_take taken) with ⟨d, rfl⟩ | rfl
    · have noColon : ∀ d, (digitChar d).toLower ≠ ':' := by decide
      exact noColon d lower
    · cases lower
  have other : (g.text.take 9).map Char.toLower ≠ "urn:uuid:".toList := by
    intro same
    rw [same] at free
    exact free (by decide)
  exact if_neg other

theorem braced?_text (g : Guid) : braced? g.text = none := by
  rw [braced?.eq_def]
  split
  · rename_i opened
    have brace : '\x7b' ∈ g.text := opened ▸ List.mem_cons_self
    rcases exists_digit_of_mem_text brace with ⟨d, same⟩ | same
    · have noBrace : ∀ d, '\x7b' ≠ digitChar d := by decide
      exact absurd same (noBrace d)
    · cases same
  · rfl

theorem ofText?_text (g : Guid) : ofText? g.text = some g := by
  rw [ofText?, urnName?_text, braced?_text, plain?_of_hyphen g.hyphen_mem_text, hyphenated?_text]
  rfl

end AtomData.Guid
