import AtomData.Text.Percent
import AtomData.Proofs.Text.Pieces

/-!
# Percent encoding read back

What an encoded text stands for, and the characters it is made of.  `encodes_encodeComponent` and
`encodes_encodeQuery` show that both encodings lose nothing, and `escaped_of_decode` that every `%` in a
text that can be read begins an escape.
-/

namespace AtomData.Text.Percent

/-- The text that an encoded text stands for, if its octets are UTF-8. -/
def decodeText? (s : List Char) : Option String :=
  (decode s).bind fun octets => String.fromUTF8? octets.toByteArray

/-- The octets that the text stands for are those of the characters. -/
def Encodes (s content : List Char) : Prop := decode s = some (content.flatMap String.utf8EncodeChar)

instance (s content : List Char) : Decidable (Encodes s content) :=
  inferInstanceAs (Decidable (decode s = _))

/-- Every `%` has two hexadecimal digits behind it. -/
def Escaped (s : List Char) : Prop :=
  ∀ front back, s = front ++ '%' :: back →
    ∃ hi lo rest, back = hi :: lo :: rest ∧ (hexValue? hi).isSome ∧ (hexValue? lo).isSome

/-! ### Octets of a text -/

theorem hexValue?_hexDigit : ∀ n < 16, hexValue? (hexDigit n) = some n := by decide

theorem isUnreserved_hexDigit : ∀ n < 16, isUnreserved (hexDigit n) = true := by decide

theorem decode_cons {c : Char} (plain : c ≠ '%') (s : List Char) :
    decode (c :: s) = (decode s).map (String.utf8EncodeChar c ++ ·) := by
  rw [decode.eq_3 c s fun _ _ _ percent _ => plain percent, if_neg plain]

theorem decode_escape {a b : Char} {hi lo : Nat} (readHi : hexValue? a = some hi)
    (readLo : hexValue? b = some lo) (s : List Char) :
    decode ('%' :: a :: b :: s) = (decode s).map (UInt8.ofNat (16 * hi + lo) :: ·) := by
  simp only [decode, readHi, readLo, Option.bind_eq_bind, Option.bind_some]
  cases decode s <;> rfl

theorem escape_of_decode {back : List Char} {octets : List UInt8}
    (read : decode ('%' :: back) = some octets) :
    ∃ a b rest hi lo more, back = a :: b :: rest ∧ hexValue? a = some hi ∧ hexValue? b = some lo ∧
      decode rest = some more ∧ octets = UInt8.ofNat (16 * hi + lo) :: more := by
  match back with
  | [] => cases read
  | [_] => cases read
  | a :: b :: rest =>
    simp only [decode, Option.bind_eq_bind, Option.bind_eq_some_iff, Option.pure_def] at read
    obtain ⟨hi, readHi, lo, readLo, more, readMore, same⟩ := read
    exact ⟨a, b, rest, hi, lo, more, rfl, readHi, readLo, readMore, (Option.some.inj same).symm⟩

theorem decode_append {s : List Char} {octets : List UInt8} (read : decode s = some octets)
    (t : List Char) : decode (s ++ t) = (decode t).map (octets ++ ·) := by
  induction s using decode.induct generalizing octets with
  | case1 =>
    cases read
    simp
  | case2 a b s ih =>
    obtain ⟨_, _, _, hi, lo, more, split, readHi, readLo, readMore, rfl⟩ := escape_of_decode read
    cases split
    rw [List.cons_append, List.cons_append, List.cons_append, decode_escape readHi readLo, ih readMore,
      Option.map_map]
    rfl
  | case3 s short =>
    obtain ⟨a, b, rest, _, _, _, split, -⟩ := escape_of_decode read
    exact absurd split (short a b rest rfl)
  | case4 c s _ plain ih =>
    rw [decode_cons plain] at read
    obtain ⟨more, readMore, rfl⟩ := Option.map_eq_some_iff.mp read
    rw [List.cons_append, decode_cons plain, ih readMore, Option.map_map]
    simp [Function.comp_def]

theorem escaped_of_decode {s : List Char} {octets : List UInt8} (read : decode s = some octets) :
    Escaped s := by
  induction s using decode.induct generalizing octets with
  | case1 =>
    intro front back split
    simp at split
  | case2 a b s ih =>
    obtain ⟨_, _, _, hi, lo, more, same, readHi, readLo, readMore, -⟩ := escape_of_decode read
    cases same
    intro front back split
    match front with
    | [] =>
      cases split
      exact ⟨a, b, s, rfl, Option.isSome_of_eq_some readHi, Option.isSome_of_eq_some readLo⟩
    -- The digits of the escape are no `%` themselves.
    | [_] =>
      cases split
      cases readHi
    | [_, _] =>
      cases split
      cases readLo
    | _ :: _ :: _ :: front =>
      cases split
      exact ih readMore front back rfl
  | case3 s short =>
    obtain ⟨a, b, rest, _, _, _, split, -⟩ := escape_of_decode read
    exact absurd split (short a b rest rfl)
  | case4 c s _ plain ih =>
    rw [decode_cons plain] at read
    obtain ⟨more, readMore, -⟩ := Option.map_eq_some_iff.mp read
    intro front back split
    cases front with
    | nil => exact absurd (List.cons.inj split).1 plain
    | cons _ front =>
      cases split
      exact ih readMore front back rfl

namespace Encodes

variable {s t a b : List Char}

theorem nil : Encodes [] [] := rfl

theorem append (first : Encodes s a) (second : Encodes t b) : Encodes (s ++ t) (a ++ b) := by
  rw [Encodes, decode_append first, second, List.flatMap_append]
  rfl

theorem flatMap {f : Char → List Char} (each : ∀ c, Encodes (f c) [c]) (s : List Char) :
    Encodes (s.flatMap f) s := by
  induction s with
  | nil => exact nil
  | cons c s ih => exact (each c).append ih

theorem join {sep plainSep : List Char} {f : List Char → List Char} {items : List (List Char)}
    (between : Encodes sep plainSep) (each : ∀ item, Encodes (f item) item) :
    Encodes (Text.join sep (items.map f)) (Text.join plainSep items) := by
  induction items with
  | nil => exact nil
  | cons item items ih =>
    cases items with
    | nil => exact each item
    | cons next items => exact ((each item).append between).append ih

theorem plain (free : '%' ∉ s) : Encodes s s := by
  induction s with
  | nil => exact nil
  | cons c s ih =>
    have different := List.ne_of_not_mem_cons free
    rw [Encodes, decode_cons different.symm, ih (List.not_mem_of_not_mem_cons free)]
    rfl

theorem decodeText? (read : Encodes s a) : decodeText? s = some (String.ofList a) := by
  rw [Percent.decodeText?, read]
  exact dif_pos ByteArray.isValidUTF8_utf8Encode

end Encodes

/-! ### Encoding all but unreserved characters -/

theorem encodes_octets (octets : List UInt8) : decode (octets.flatMap encodeOctet) = some octets := by
  induction octets with
  | nil => rfl
  | cons b octets ih =>
    have lt := b.toNat_lt
    have whole : UInt8.ofNat (16 * (b.toNat / 16) + b.toNat % 16) = b := by
      rw [Nat.div_add_mod, UInt8.ofNat_toNat]
    rw [List.flatMap_cons, encodeOctet, List.cons_append, List.cons_append, List.cons_append,
      List.nil_append, decode_escape (hexValue?_hexDigit _ (by omega)) (hexValue?_hexDigit _ (by omega)),
      ih, whole]
    rfl

theorem ne_percent_of_isUnreserved {c : Char} (unreserved : isUnreserved c = true) : c ≠ '%' := by
  rintro rfl
  cases unreserved

theorem encodes_encodeComponent (s : List Char) : Encodes (encodeComponent s) s := by
  apply Encodes.flatMap
  intro c
  rw [encodeChar]
  split
  · rename_i unreserved
    exact Encodes.plain (by simpa using (ne_percent_of_isUnreserved unreserved).symm)
  · rw [Encodes, encodes_octets, List.flatMap_singleton]

theorem encodeComponent_injective {s t : List Char} (same : encodeComponent s = encodeComponent t) : s = t := by
  have read := (encodes_encodeComponent s).decodeText?
  rw [same, (encodes_encodeComponent t).decodeText?] at read
  exact (String.ofList_injective (Option.some.inj read)).symm

theorem unreserved_of_mem_encodeComponent {s : List Char} {c : Char} (member : c ∈ encodeComponent s) :
    isUnreserved c = true ∨ c = '%' := by
  obtain ⟨d, -, written⟩ := List.mem_flatMap.mp member
  rw [encodeChar] at written
  split at written
  · rename_i unreserved
    rw [List.mem_singleton.mp written]
    exact .inl unreserved
  · obtain ⟨b, -, digit⟩ := List.mem_flatMap.mp written
    have lt := b.toNat_lt
    simp only [encodeOctet, List.mem_cons, List.not_mem_nil, or_false] at digit
    rcases digit with rfl | rfl | rfl
    · exact .inr rfl
    · exact .inl (isUnreserved_hexDigit _ (by omega))
    · exact .inl (isUnreserved_hexDigit _ (by omega))

/-! ### Encoding the characters that would change how a query reads -/

/-- The characters that never stand for themselves in the value of an option. -/
def queryMarks : List Char := [' ', '\'', '&', '#', '+']

theorem not_mem_of_queryEscape?_eq_none {c : Char} (none : queryEscape? c = .none) :
    c ∉ '%' :: queryMarks := by
  intro member
  simp only [queryMarks, List.mem_cons, List.not_mem_nil, or_false] at member
  rcases member with rfl | rfl | rfl | rfl | rfl | rfl <;> cases none

theorem escape_of_queryEscape? {c : Char} {escape : List Char} (some : queryEscape? c = .some escape) :
    Encodes escape [c] ∧ ∀ d ∈ escape, isUnreserved d = true ∨ d = '%' := by
  unfold queryEscape? at some
  split at some <;> cases some <;> exact ⟨by decide, List.all_iff_forall_prop.mp (by decide)⟩

theorem encodes_encodeQueryChar (c : Char) : Encodes (encodeQueryChar c) [c] := by
  rw [encodeQueryChar]
  cases found : queryEscape? c with
  | some escape => exact (escape_of_queryEscape? found).1
  | none =>
    have free := List.ne_of_not_mem_cons (not_mem_of_queryEscape?_eq_none found)
    exact Encodes.plain (by simpa using free.symm)

theorem encodes_encodeQuery (s : List Char) : Encodes (encodeQuery s) s :=
  Encodes.flatMap encodes_encodeQueryChar s

theorem not_mem_queryMarks_of_escape {c : Char} (escape : isUnreserved c = true ∨ c = '%') :
    c ∉ queryMarks := by
  intro member
  simp only [queryMarks, List.mem_cons, List.not_mem_nil, or_false] at member
  rcases member with rfl | rfl | rfl | rfl | rfl <;> revert escape <;> decide

theorem not_mem_queryMarks_of_mem_encodeQuery {s : List Char} {c : Char} (member : c ∈ encodeQuery s) :
    c ∉ queryMarks := by
  obtain ⟨d, -, written⟩ := List.mem_flatMap.mp member
  rw [encodeQueryChar] at written
  cases found : queryEscape? d with
  | some escape =>
    rw [found] at written
    exact not_mem_queryMarks_of_escape ((escape_of_queryEscape? found).2 c written)
  | none =>
    rw [found] at written
    rw [List.mem_singleton.mp written]
    exact List.not_mem_of_not_mem_cons (not_mem_of_queryEscape?_eq_none found)

end AtomData.Text.Percent
