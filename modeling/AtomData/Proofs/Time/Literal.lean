import AtomData.Proofs.Coercion.Kind
import AtomData.Proofs.Key
import AtomData.Proofs.Text.Digits

/-!
# Date-time literals read back

A date-time literal is read by the relaxed grammar, since it has no offset.  `literal_reads_back` says that
it gives the instant to the millisecond, whatever its year, fraction or leap second, and so that instants
of whole milliseconds have different literals.
-/

namespace AtomData

/-! ### Scanners -/

namespace Text.Scanner

variable {α β : Type} {x : Scanner α} {s rest : List Char} {a : α}

theorem bind_of_some (read : x s = some (a, rest)) (f : α → Scanner β) : (x >>= f) s = f a rest := by
  simp [bind, StateT.bind, read]

theorem bind_of_none (refused : x s = none) (f : α → Scanner β) : (x >>= f) s = none := by
  simp [bind, StateT.bind, refused]

theorem symbol_cons (c : Char) (s : List Char) : symbol c (c :: s) = some ((), s) := if_pos rfl

theorem one_cons {p : Char → Bool} {c : Char} (holds : p c = true) (s : List Char) :
    one p (c :: s) = some (c, s) := if_pos holds

end Text.Scanner

namespace Instant

open Text (Scanner paddedText)
open Text.Scanner (bind_of_some bind_of_none symbol_cons one_cons one symbol whole?)

/-- The text does not go on with a digit. -/
def NoDigitAhead (rest : List Char) : Prop := ∀ c ∈ rest.head?, c.isDigit = false

theorem digits_append {least most : Nat} {run rest : List Char} (all : ∀ c ∈ run, c.isDigit = true)
    (lower : least ≤ run.length) (upper : run.length ≤ most)
    (ends : run.length = most ∨ NoDigitAhead rest) :
    digits least most (run ++ rest) = some (Text.digitsValue run, rest) := by
  have nothing : (rest.take (most - run.length)).takeWhile Char.isDigit = [] := by
    rcases ends with full | other
    · simp [full]
    · cases rest with
      | nil => simp
      | cons c rest =>
        have noDigit := other c rfl
        cases most - run.length <;> simp [noDigit]
  have kept : ((run ++ rest).take most).takeWhile Char.isDigit = run := by
    rw [List.take_append, List.take_of_length_le upper, List.takeWhile_append_of_pos all, nothing,
      List.append_nil]
  rw [digits, kept, if_neg (by omega), List.drop_left]

theorem digits_refused {least : Nat} (some : 0 < least) (most : Nat) {s : List Char} (other : NoDigitAhead s) :
    digits least most s = none := by
  have nothing : (s.take most).takeWhile Char.isDigit = [] := by
    cases s with
    | nil => simp
    | cons c s =>
      have noDigit := other c rfl
      cases most <;> simp [noDigit]
  rw [digits, nothing]
  exact if_pos some

theorem digits_paddedText {least width n : Nat} (some : 0 < width) (fits : n < 10 ^ width)
    (lower : least ≤ width) (rest : List Char) :
    digits least width (paddedText width n ++ rest) = .some (n, rest) := by
  have long := Text.length_paddedText_of_lt some fits
  rw [digits_append (fun _ => Text.isDigit_of_mem_paddedText) (by omega) (by omega) (.inl long),
    Text.digitsValue_paddedText]

theorem skipBlanks_of_head {s : List Char} (free : ∀ c ∈ s.head?, Text.isBlank c = false) :
    skipBlanks s = some ((), s) := by
  have same : Text.trimStart s = s := by
    cases s with
    | nil => rfl
    | cons c s => simp [Text.trimStart, free c rfl]
  rw [skipBlanks, same]

theorem skipBlanks_paddedText {width : Nat} (some : 0 < width) (n : Nat) (rest : List Char) :
    skipBlanks (paddedText width n ++ rest) = .some ((), paddedText width n ++ rest) := by
  obtain ⟨c, s, padded, digit⟩ := Text.exists_paddedText_eq_cons some n
  refine skipBlanks_of_head fun d first => ?_
  rw [padded] at first
  obtain rfl : c = d := Option.some.inj first
  exact not_isBlank_of_isNumeral (isNumeral_of_isDigit digit)

theorem field_paddedText {n : Nat} (lt : n < 100) (rest : List Char) :
    field (paddedText 2 n ++ rest) = some (n, rest) := by
  rw [field, bind_of_some (skipBlanks_paddedText (by decide) n rest)]
  exact digits_paddedText (by decide) lt (by decide) rest

/-! ### Years -/

theorem get_eq (s : List Char) : (get : Scanner (List Char)) s = some (s, s) := rfl

theorem signedYear_of_digit {c : Char} (digit : c.isDigit = true) {s rest : List Char} {n : Nat}
    (read : digits 1 4 (c :: s) = some (n, rest)) : signedYear (c :: s) = some ((n : Int), rest) := by
  have blankFree : ∀ d ∈ (c :: s).head?, Text.isBlank d = false := by
    rintro d ⟨⟩
    exact not_isBlank_of_isNumeral (isNumeral_of_isDigit digit)
  have noMinus : c ≠ '-' := Text.ne_of_isDigit digit rfl
  have noPlus : c ≠ '+' := Text.ne_of_isDigit digit rfl
  rw [signedYear, bind_of_some (skipBlanks_of_head blankFree), bind_of_some (get_eq _)]
  simp [noMinus, noPlus, Functor.map, StateT.map, read]

theorem signedYear_of_sign {sign : Char} (signed : sign = '-' ∨ sign = '+') {s rest : List Char} {n : Nat}
    (read : digits 1 s.length s = some (n, rest)) :
    signedYear (sign :: s) = some (if sign = '-' then -(n : Int) else n, rest) := by
  have blankFree : ∀ d ∈ (sign :: s).head?, Text.isBlank d = false := by
    rintro d ⟨⟩
    rcases signed with rfl | rfl <;> decide
  have stored : (set s : Scanner PUnit) (sign :: s) = some ((), s) := rfl
  rw [signedYear, bind_of_some (skipBlanks_of_head blankFree), bind_of_some (get_eq _)]
  rcases signed with rfl | rfl <;> exact (bind_of_some stored _).trans (bind_of_some read _)

theorem signedYear_yearText (year : Int) {rest : List Char} (ends : NoDigitAhead rest) :
    signedYear (yearText year ++ rest) = some (year, rest) := by
  rw [yearText]
  split
  · rename_i common
    have lt : year.toNat < 10 ^ 4 := by omega
    have same : (year.toNat : Int) = year := by omega
    obtain ⟨c, s, padded, digit⟩ := Text.exists_paddedText_eq_cons (by decide : 0 < 4) year.toNat
    have read := digits_paddedText (by decide) lt (by decide : 1 ≤ 4) rest
    rw [padded, List.cons_append] at read ⊢
    rw [signedYear_of_digit digit read, same]
  · have long : 1 ≤ (paddedText 4 year.natAbs).length := by
      rw [Text.length_paddedText]
      omega
    have read : digits 1 (paddedText 4 year.natAbs ++ rest).length (paddedText 4 year.natAbs ++ rest) =
        some (year.natAbs, rest) := by
      rw [digits_append (fun _ => Text.isDigit_of_mem_paddedText) long (by simp) (.inr ends),
        Text.digitsValue_paddedText]
    rw [List.cons_append, signedYear_of_sign (by split <;> simp) read]
    by_cases negative : year < 0
    · have same : -(year.natAbs : Int) = year := by omega
      rw [if_pos negative, if_pos rfl, same]
    · have same : (year.natAbs : Int) = year := by omega
      rw [if_neg negative, if_neg (by decide), same]

/-! ### The clock of an instant -/

theorem nanoseconds_of_end : nanoseconds [] = some (0, []) := rfl

theorem nanoseconds_of_fraction {n : Nat} (lt : n < 1000) :
    nanoseconds ('.' :: paddedText 3 n) = some (n * 1000000, []) := by
  have long : (paddedText 3 n).length = 3 := Text.length_paddedText_of_lt (by decide) lt
  have run : (paddedText 3 n).takeWhile Char.isDigit = paddedText 3 n :=
    List.takeWhile_eq_self_iff.mpr fun _ => Text.isDigit_of_mem_paddedText
  have kept : (paddedText 3 n).take 9 = paddedText 3 n := List.take_of_length_le (by omega)
  have some : paddedText 3 n ≠ [] := fun empty => by simp [empty] at long
  have read : (paddedText 3 n).drop 3 = [] := List.drop_eq_nil_of_le (by omega)
  simp [nanoseconds, run, kept, some, Text.digitsValue_paddedText, long, read]

def toMillisecond (t : Instant) : Instant where
  date := t.date
  second := t.second
  nano := t.nano / 1000000 * 1000000
  second_lt := t.second_lt
  nano_lt := by have := t.nano_lt; omega
  leap_second := fun leap => t.leap_second (by omega)

def literalFraction (t : Instant) : List Char :=
  if t.nano = 0 then [] else '.' :: paddedText 3 (t.fraction / 1000000)

theorem literalText_eq (t : Instant) :
    t.literalText = yearText t.date.year ++ '-' :: (paddedText 2 t.date.month ++ '-' ::
      (paddedText 2 t.date.day ++ 'T' :: (paddedText 2 t.hour ++ ':' :: (paddedText 2 t.minute ++
        ':' :: (paddedText 2 t.writtenSecond ++ t.literalFraction))))) := by
  simp [literalText, dateText, clockText, literalFraction]

theorem nanoseconds_literalFraction (t : Instant) :
    nanoseconds t.literalFraction = some (t.fraction / 1000000 * 1000000, []) := by
  rw [literalFraction]
  split
  · rename_i zero
    simp [nanoseconds_of_end, fraction, zero]
  · refine nanoseconds_of_fraction ?_
    have lt := Nat.mod_lt t.nano (by decide : 0 < 1000000000)
    rw [fraction]
    omega

theorem fields_lt (t : Instant) : t.hour < 24 ∧ t.minute < 60 ∧ t.writtenSecond ≤ 60 := by
  have day := t.second_lt
  refine ⟨by rw [hour]; omega, by rw [minute]; omega, ?_⟩
  rw [writtenSecond]
  split <;> omega

theorem date_lt (d : Date) : d.month < 100 ∧ d.day < 100 := by
  have real := d.isDate
  simp only [AtomData.isDate, Bool.and_eq_true, decide_eq_true_eq] at real
  obtain ⟨-, first, last⟩ := real
  unfold daysInMonth at last
  split at last <;> (try split at last) <;> omega

theorem fraction_of_leap {nano : Nat} (leap : 1000000000 ≤ nano) (lt : nano < 2000000000) :
    nano % 1000000000 / 1000000 * 1000000 + 1000000000 = nano / 1000000 * 1000000 := by
  omega

theorem clock_of_fields (t : Instant) :
    clock t.date.year t.date.month t.date.day t.hour t.minute t.writtenSecond
      (t.fraction / 1000000 * 1000000) =
        some ⟨t.date, t.second, t.nano / 1000000 * 1000000⟩ := by
  have parts : t.hour * 3600 + t.minute * 60 + t.second % 60 = t.second := by
    rw [hour, minute]
    omega
  rw [clock, Date.ofParts?_eq_some]
  simp only [Option.bind_eq_bind, Option.bind_some]
  rw [if_pos t.fields_lt]
  by_cases leap : t.nano < 1000000000
  · have written : t.writtenSecond = t.second % 60 := if_pos leap
    have whole : t.fraction = t.nano := Nat.mod_eq_of_lt leap
    rw [if_neg (by omega), written, parts, whole]
  · have last := t.leap_second (by omega)
    have written : t.writtenSecond = 60 := by rw [writtenSecond, if_neg leap, last]
    have cut : t.fraction / 1000000 * 1000000 + 1000000000 = t.nano / 1000000 * 1000000 :=
      fraction_of_leap (by omega) t.nano_lt
    rw [last] at parts
    simp only [if_pos written, cut, parts]

theorem noDigitAhead_cons {c : Char} (other : c.isDigit = false) (s : List Char) : NoDigitAhead (c :: s) := by
  rintro d ⟨⟩
  exact other

theorem relaxed_literalText (t : Instant) :
    relaxed seconds t.literalText = some (⟨t.date, t.second, t.nano / 1000000 * 1000000⟩, []) := by
  have ⟨hour, minute, second⟩ := t.fields_lt
  have ⟨month, day⟩ := date_lt t.date
  have read : seconds (':' :: (paddedText 2 t.writtenSecond ++ t.literalFraction)) =
      some ((t.writtenSecond, t.fraction / 1000000 * 1000000), []) := by
    rw [seconds, bind_of_some (symbol_cons ..), bind_of_some (field_paddedText (by omega) _),
      bind_of_some t.nanoseconds_literalFraction]
    rfl
  rw [literalText_eq, relaxed, bind_of_some (signedYear_yearText _ (noDigitAhead_cons (by decide) _)),
    bind_of_some (symbol_cons ..), bind_of_some (field_paddedText month _),
    bind_of_some (symbol_cons ..), bind_of_some (field_paddedText day _),
    bind_of_some (symbol_cons ..), bind_of_some (field_paddedText (by omega) _),
    bind_of_some (symbol_cons ..), bind_of_some (field_paddedText (by omega) _), bind_of_some read]
  simp only [t.clock_of_fields]
  rfl

theorem strict_literalText (t : Instant) : strict t.literalText = none := by
  have ⟨hour, minute, second⟩ := t.fields_lt
  have ⟨month, day⟩ := date_lt t.date
  rw [literalText_eq, strict, yearText]
  -- A year of four digits is read up to the missing offset; any other has a sign, which is no digit.
  split
  · rename_i common
    have year : t.date.year.toNat < 10 ^ 4 := by omega
    rw [bind_of_some (digits_paddedText (by decide) year (by decide) _),
      bind_of_some (symbol_cons ..), bind_of_some (digits_paddedText (by decide) month (by decide) _),
      bind_of_some (symbol_cons ..), bind_of_some (digits_paddedText (by decide) day (by decide) _),
      bind_of_some (one_cons (by decide) _),
      bind_of_some (digits_paddedText (by decide) (by omega) (by decide) _), bind_of_some (symbol_cons ..),
      bind_of_some (digits_paddedText (by decide) (by omega) (by decide) _), bind_of_some (symbol_cons ..),
      bind_of_some (digits_paddedText (by decide) (by omega) (by decide) _),
      bind_of_some t.nanoseconds_literalFraction]
    exact bind_of_none rfl _
  · refine bind_of_none (digits_refused (by decide) 4 ?_) _
    rw [List.cons_append]
    exact noDigitAhead_cons (by split <;> decide) _

theorem ofParts?_eq_some (t : Instant) : ofParts? t.date t.second t.nano = some t :=
  dif_pos ⟨t.second_lt, t.nano_lt, t.leap_second⟩

theorem ofClock?_zero (t : Instant) : ofClock? ⟨t.date, t.second, t.nano⟩ 0 = some t := by
  have day := t.second_lt
  have same : ((t.second : Int) - 60 * 0).toNat = t.second := by omega
  rw [ofClock?]
  simp only [same]
  rw [if_neg (by omega), if_neg (by omega), ofParts?_eq_some]

theorem ofText?_literalText (t : Instant) : ofText? t.literalText = some t.toMillisecond := by
  have noOffset : whole? strict t.literalText = none := by rw [whole?, strict_literalText]
  have clock : whole? (relaxed seconds) t.literalText =
      some ⟨t.date, t.second, t.nano / 1000000 * 1000000⟩ := by rw [whole?, relaxed_literalText]
  rw [ofText?, noOffset, clock]
  exact ofClock?_zero t.toMillisecond

/-! ### Literals -/

theorem coerce_literalText {tag : String} (dated : tag ∈ ["Edm.DateTime", "Edm.DateTimeOffset"]) (t : Instant) :
    CoercionRegistry.standard.coerce tag (String.ofList t.literalText) =
      some (some (.dateTime t.toMillisecond)) := by
  have read : Handler.dateTime (String.ofList t.literalText) = some (.dateTime t.toMillisecond) := by
    rw [Handler.dateTime, String.toList_ofList, Text.trim_of_isNumeral t.isNumeral_literalText,
      ofText?_literalText]
    rfl
  simp only [List.mem_cons, List.not_mem_nil, or_false] at dated
  rcases dated with rfl | rfl
  · rw [CoercionRegistry.coerce_of_handler? Handler.dateTime rfl, read]
  · rw [CoercionRegistry.coerce_of_handler? Handler.dateTime rfl, read]

theorem toMillisecond_eq_of_literalText {t u : Instant} (same : t.literalText = u.literalText) :
    t.toMillisecond = u.toMillisecond := by
  have read := t.ofText?_literalText
  rw [same, ofText?_literalText] at read
  exact (Option.some.inj read).symm

theorem literalText_eq_of_literal {t u : Instant}
    (same : (Value.dateTime t).literal = (Value.dateTime u).literal) : t.literalText = u.literalText := by
  have texts := congrArg String.toList same
  simpa [Value.toList_literal_dateTime] using texts

theorem literalText_eq_of_singleText {t u : Instant} {field : String}
    (same : EntityKey.singleText field (.dateTime t) = EntityKey.singleText field (.dateTime u)) :
    t.literalText = u.literalText := by
  have quoted := Except.ok.inj same
  apply Text.Percent.encodeComponent_injective
  simpa [EntityKey.quoted] using quoted

theorem literalText_eq_of_fieldText {t u : Instant} {field : String}
    (same : EntityKey.fieldText field (.dateTime t) = EntityKey.fieldText field (.dateTime u)) :
    t.literalText = u.literalText :=
  Text.Percent.encodeComponent_injective (Except.ok.inj same)

def IsWhole (t : Instant) : Prop := t.nano % 1000000 = 0

theorem toMillisecond_of_isWhole {t : Instant} (whole : t.IsWhole) : t.toMillisecond = t := by
  have same : t.nano / 1000000 * 1000000 = t.nano := Nat.div_mul_cancel (Nat.dvd_of_mod_eq_zero whole)
  simp [toMillisecond, same]

theorem literalText_ne {t u : Instant} (left : t.IsWhole) (right : u.IsWhole) (different : t ≠ u) :
    t.literalText ≠ u.literalText := by
  intro same
  have cut := toMillisecond_eq_of_literalText same
  rw [toMillisecond_of_isWhole left, toMillisecond_of_isWhole right] at cut
  exact different cut

/-- The literal of an instant is read with either tag of date-times, and gives the instant without what is
below its millisecond.  So an instant of whole milliseconds is the one that is read, and two of them have
different literals, in a filter and in a key of one value or of several. -/
theorem literal_reads_back (t : Instant) :
    (∀ tag ∈ ["Edm.DateTime", "Edm.DateTimeOffset"],
      CoercionRegistry.standard.coerce tag (String.ofList t.literalText) =
        some (some (.dateTime t.toMillisecond))) ∧
    (t.IsWhole → t.toMillisecond = t) ∧
    ∀ u : Instant, t.IsWhole → u.IsWhole → t ≠ u →
      (Value.dateTime t).literal ≠ (Value.dateTime u).literal ∧
      ∀ field, EntityKey.singleText field (.dateTime t) ≠ EntityKey.singleText field (.dateTime u) ∧
        EntityKey.fieldText field (.dateTime t) ≠ EntityKey.fieldText field (.dateTime u) := by
  refine ⟨fun tag dated => coerce_literalText dated t, toMillisecond_of_isWhole, ?_⟩
  intro u left right different
  have texts := literalText_ne left right different
  refine ⟨fun same => texts (literalText_eq_of_literal same), fun field => ⟨fun same => ?_, fun same => ?_⟩⟩
  · exact texts (literalText_eq_of_singleText same)
  · exact texts (literalText_eq_of_fieldText same)

end Instant
end AtomData
