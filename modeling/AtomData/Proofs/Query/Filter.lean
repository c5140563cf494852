import AtomData.Proofs.Literal
import AtomData.Query.Filter
import Mathlib.Data.List.Forall2

/-!
# Filter text

The text of a filter says how the filter is built: no value can change that.  `text_append_inj` shows
that a predicate is told apart from what follows it, and `text_unambiguous` goes along the chain.
-/

namespace AtomData

/-- The characters that stand next to properties in the text of a filter.  Letters, digits, underscores
and slashes are none of them. -/
def nameMarks : List Char := [' ', '(', ',', ')']

theorem name_append_inj {s t r r' : List Char} {c d : Char} (left : ∀ a ∈ s, a ∉ nameMarks)
    (right : ∀ a ∈ t, a ∉ nameMarks) (mark : c ∈ nameMarks) (mark' : d ∈ nameMarks)
    (same : s ++ c :: r = t ++ d :: r') : s = t ∧ c = d ∧ r = r' := by
  have ⟨name, after⟩ := Text.run_append_inj left right (by simpa using mark) (by simpa using mark') same
  exact ⟨name, List.cons.inj after⟩

theorem Comparison.text_injective : ∀ a b : Comparison, a.text = b.text → a = b := by
  intro a b
  cases a <;> cases b <;> decide

theorem Comparison.not_mem_nameMarks (op : Comparison) : ∀ c ∈ op.text.toList, c ∉ nameMarks := by
  cases op <;> exact List.all_iff_forall_prop.mp (by decide)

theorem Joiner.text_append_inj {a b : Joiner} {r r' : List Char}
    (same : a.text.toList ++ r = b.text.toList ++ r') : a = b ∧ r = r' := by
  cases a <;> cases b
  · exact ⟨rfl, List.append_cancel_left same⟩
  · cases same
  · cases same
  · exact ⟨rfl, List.append_cancel_left same⟩

/-! ### Tests -/

namespace StringTest

def word : StringTest → List Char
  | startsWith => "startswith".toList
  | endsWith => "endswith".toList
  | contains => "substringof".toList

def arguments (property literal : List Char) : StringTest → List Char
  | startsWith | endsWith => property ++ ',' :: ' ' :: literal
  | contains => literal ++ ',' :: ' ' :: property

theorem word_injective : ∀ a b : StringTest, a.word = b.word → a = b := by
  intro a b
  cases a <;> cases b <;> decide

theorem word_not_mem_nameMarks (op : StringTest) : ∀ c ∈ op.word, c ∉ nameMarks := by
  cases op <;> exact List.all_iff_forall_prop.mp (by decide)

theorem toList_text (op : StringTest) (property : String) (value : Value) :
    (Predicate.test property op value).text.toList =
      op.word ++ '(' :: (op.arguments property.toList value.literal.toList ++ ')' :: " eq true".toList) := by
  have startsOpening : "startswith(".toList = startsWith.word ++ ['('] := by decide
  have endsOpening : "endswith(".toList = endsWith.word ++ ['('] := by decide
  have containsOpening : "substringof(".toList = contains.word ++ ['('] := by decide
  have comma : ", ".toList = [',', ' '] := by decide
  have closing : ") eq true".toList = ')' :: " eq true".toList := by decide
  -- Deriving the equations of `Predicate.text` takes long, so the text is given by `change`.
  cases op with
  | startsWith =>
    change ("startswith(" ++ property ++ ", " ++ value.literal ++ ") eq true").toList = _
    simp only [String.toList_append, startsOpening, comma, closing, arguments, List.append_assoc,
      List.cons_append, List.nil_append]
  | endsWith =>
    change ("endswith(" ++ property ++ ", " ++ value.literal ++ ") eq true").toList = _
    simp only [String.toList_append, endsOpening, comma, closing, arguments, List.append_assoc,
      List.cons_append, List.nil_append]
  | contains =>
    change ("substringof(" ++ value.literal ++ ", " ++ property ++ ") eq true").toList = _
    simp only [String.toList_append, containsOpening, comma, closing, arguments, List.append_assoc,
      List.cons_append, List.nil_append]

theorem arguments_append_inj (op : StringTest) {p q : List Char} {v w : Value} {r r' : List Char}
    (left : ∀ c ∈ p, c ∉ nameMarks) (right : ∀ c ∈ q, c ∉ nameMarks)
    (same : op.arguments p v.literal.toList ++ ')' :: r = op.arguments q w.literal.toList ++ ')' :: r') :
    p = q ∧ v.literal = w.literal ∧ r = r' := by
  have propertyFirst (same : p ++ ',' :: ' ' :: (v.literal.toList ++ ')' :: r) =
      q ++ ',' :: ' ' :: (w.literal.toList ++ ')' :: r')) : p = q ∧ v.literal = w.literal ∧ r = r' := by
    obtain ⟨name, -, rest⟩ := name_append_inj left right (by decide) (by decide) same
    obtain ⟨literal, after⟩ := Value.literal_append_inj (by simp [Value.Delimited])
      (by simp [Value.Delimited]) (List.cons.inj rest).2
    exact ⟨name, literal, (List.cons.inj after).2⟩
  cases op with
  | startsWith => exact propertyFirst (by simpa [arguments] using same)
  | endsWith => exact propertyFirst (by simpa [arguments] using same)
  | contains =>
    simp only [arguments, List.append_assoc, List.cons_append] at same
    obtain ⟨literal, rest⟩ := Value.literal_append_inj (by simp [Value.Delimited])
      (by simp [Value.Delimited]) same
    obtain ⟨name, -, after⟩ := name_append_inj left right (by decide) (by decide)
      (List.cons.inj (List.cons.inj rest).2).2
    exact ⟨name, literal, after⟩

end StringTest

/-! ### Predicates -/

namespace Predicate

def isPlain : Predicate → Bool
  | raw _ => false
  | compare property _ _ | test property _ _ => property.toList.all (· ∉ nameMarks)

/-- The same kind, the same property, and values that are written in the same way. -/
inductive Alike : Predicate → Predicate → Prop
  | compare (property : String) (op : Comparison) {v w : Value} (same : v.literal = w.literal) :
    Alike (.compare property op v) (.compare property op w)
  | test (property : String) (op : StringTest) {v w : Value} (same : v.literal = w.literal) :
    Alike (.test property op v) (.test property op w)

theorem not_mem_nameMarks_of_all {s : String} (plain : s.toList.all (· ∉ nameMarks) = true) :
    ∀ c ∈ s.toList, c ∉ nameMarks := by
  simpa using plain

theorem toList_text_compare (property : String) (op : Comparison) (value : Value) :
    (compare property op value).text.toList =
      property.toList ++ ' ' :: (op.text.toList ++ ' ' :: value.literal.toList) := by
  change (property ++ " " ++ op.text ++ " " ++ value.literal).toList = _
  simp

theorem compare_append_ne_test {property property' : String} (op : Comparison) (op' : StringTest)
    (v w : Value) {r r' : List Char} (name : ∀ c ∈ property.toList, c ∉ nameMarks) :
    (compare property op v).text.toList ++ r ≠ (test property' op' w).text.toList ++ r' := by
  intro same
  simp only [toList_text_compare, op'.toList_text, List.append_assoc, List.cons_append] at same
  obtain ⟨-, mark, -⟩ := name_append_inj name op'.word_not_mem_nameMarks (by decide) (by decide) same
  exact absurd mark (by decide)

theorem text_append_inj {p q : Predicate} {r r' : List Char} (left : p.isPlain = true)
    (right : q.isPlain = true) (ends : ∀ c ∈ r.head?, c = ' ') (ends' : ∀ c ∈ r'.head?, c = ' ')
    (same : p.text.toList ++ r = q.text.toList ++ r') : Alike p q ∧ r = r' := by
  cases p with
  | raw => cases left
  | compare property op v =>
    cases q with
    | raw => cases right
    | compare property' op' w =>
      simp only [toList_text_compare, List.append_assoc, List.cons_append] at same
      obtain ⟨name, -, rest⟩ := name_append_inj (not_mem_nameMarks_of_all left)
        (not_mem_nameMarks_of_all right) (by decide) (by decide) same
      obtain ⟨sign, -, rest⟩ := name_append_inj op.not_mem_nameMarks op'.not_mem_nameMarks (by decide)
        (by decide) rest
      obtain ⟨literal, after⟩ := Value.literal_append_inj (fun c first => .inl (ends c first))
        (fun c first => .inl (ends' c first)) rest
      obtain rfl := String.toList_injective name
      obtain rfl := Comparison.text_injective op op' (String.toList_injective sign)
      exact ⟨.compare property op literal, after⟩
    | test property' op' w =>
      exact absurd same (compare_append_ne_test op op' v w (not_mem_nameMarks_of_all left))
  | test property op v =>
    cases q with
    | raw => cases right
    | compare property' op' w =>
      exact absurd same.symm (compare_append_ne_test op' op w v (not_mem_nameMarks_of_all right))
    | test property' op' w =>
      simp only [StringTest.toList_text, List.append_assoc, List.cons_append] at same
      obtain ⟨word, -, rest⟩ := name_append_inj op.word_not_mem_nameMarks op'.word_not_mem_nameMarks
        (by decide) (by decide) same
      obtain rfl := StringTest.word_injective op op' word
      obtain ⟨name, literal, after⟩ := op.arguments_append_inj (not_mem_nameMarks_of_all left)
        (not_mem_nameMarks_of_all right) rest
      obtain rfl := String.toList_injective name
      exact ⟨.test property op literal, List.append_cancel_left after⟩

theorem toList_text_ne_nil {p : Predicate} (plain : p.isPlain = true) : p.text.toList ≠ [] := by
  cases p with
  | raw => cases plain
  | compare property op v => simp [toList_text_compare]
  | test property op v => simp [op.toList_text]

end Predicate

/-! ### Chains -/

namespace FilterChain

def isPlain (c : FilterChain) : Bool := c.filters.all fun f => f.predicate.isPlain

theorem tailText_cons (f : Filter) (fs : List Filter) :
    tailText (f :: fs) = f.joiner.text ++ f.predicate.text ++ tailText fs := rfl

theorem tailText_append (fs gs : List Filter) : tailText (fs ++ gs) = tailText fs ++ tailText gs := by
  induction fs with
  | nil => exact String.empty_append.symm
  | cons f fs ih => rw [List.cons_append, tailText_cons, ih, tailText_cons, ← String.append_assoc]

theorem text_append {fs : List Filter} (some : fs ≠ []) (g : Filter) (gs : List Filter) :
    text ⟨fs ++ g :: gs⟩ = text ⟨fs⟩ ++ g.joiner.text ++ text ⟨g :: gs⟩ := by
  cases fs with
  | nil => exact absurd rfl some
  | cons f fs =>
    rw [List.cons_append, text, tailText_append, tailText_cons, text, text]
    simp only [String.append_assoc]

theorem toList_tailText_cons (f : Filter) (fs : List Filter) : (tailText (f :: fs)).toList =
    f.joiner.text.toList ++ (f.predicate.text.toList ++ (tailText fs).toList) := by
  rw [tailText_cons, String.toList_append, String.toList_append, List.append_assoc]

theorem toList_text_cons (f : Filter) (fs : List Filter) :
    (text ⟨f :: fs⟩).toList = f.predicate.text.toList ++ (tailText fs).toList := by
  rw [text, String.toList_append]

theorem head?_tailText_cons (f : Filter) (fs : List Filter) :
    (tailText (f :: fs)).toList.head? = some ' ' := by
  rw [toList_tailText_cons]
  cases f.joiner <;> rfl

theorem head?_tailText (fs : List Filter) : ∀ c ∈ (tailText fs).toList.head?, c = ' ' := by
  cases fs with
  | nil => simp [tailText]
  | cons f fs => simp [head?_tailText_cons]

theorem tailText_injective {fs gs : List Filter} (left : fs.all (·.predicate.isPlain) = true)
    (right : gs.all (·.predicate.isPlain) = true) (same : (tailText fs).toList = (tailText gs).toList) :
    List.Forall₂ Predicate.Alike (fs.map Filter.predicate) (gs.map Filter.predicate) ∧
      fs.map Filter.joiner = gs.map Filter.joiner := by
  induction fs generalizing gs with
  | nil =>
    cases gs with
    | nil => exact ⟨.nil, rfl⟩
    | cons g gs => cases (congrArg List.head? same).trans (head?_tailText_cons g gs)
  | cons f fs ih =>
    cases gs with
    | nil => cases (congrArg List.head? same).symm.trans (head?_tailText_cons f fs)
    | cons g gs =>
      rw [List.all_cons, Bool.and_eq_true] at left right
      rw [toList_tailText_cons, toList_tailText_cons] at same
      obtain ⟨joiner, rest⟩ := Joiner.text_append_inj same
      obtain ⟨predicate, after⟩ := Predicate.text_append_inj left.1 right.1 (head?_tailText fs)
        (head?_tailText gs) rest
      obtain ⟨predicates, joiners⟩ := ih left.2 right.2 after
      exact ⟨.cons predicate predicates, by rw [List.map_cons, List.map_cons, joiner, joiners]⟩

theorem toList_text_cons_ne_nil {f : Filter} (plain : f.predicate.isPlain = true) (fs : List Filter) :
    (text ⟨f :: fs⟩).toList ≠ [] := by
  intro none
  rw [toList_text_cons, List.append_eq_nil_iff] at none
  exact Predicate.toList_text_ne_nil plain none.1

theorem alike_of_text_eq {fs gs : List Filter} (left : fs.all (·.predicate.isPlain) = true)
    (right : gs.all (·.predicate.isPlain) = true) (same : (text ⟨fs⟩).toList = (text ⟨gs⟩).toList) :
    List.Forall₂ Predicate.Alike (fs.map Filter.predicate) (gs.map Filter.predicate) ∧
      fs.tail.map Filter.joiner = gs.tail.map Filter.joiner := by
  cases fs with
  | nil =>
    cases gs with
    | nil => exact ⟨.nil, rfl⟩
    | cons g gs =>
      rw [List.all_cons, Bool.and_eq_true] at right
      exact absurd same.symm (toList_text_cons_ne_nil right.1 gs)
  | cons f fs =>
    rw [List.all_cons, Bool.and_eq_true] at left
    cases gs with
    | nil => exact absurd same (toList_text_cons_ne_nil left.1 fs)
    | cons g gs =>
      rw [List.all_cons, Bool.and_eq_true] at right
      rw [toList_text_cons, toList_text_cons] at same
      obtain ⟨predicate, after⟩ := Predicate.text_append_inj left.1 right.1 (head?_tailText fs)
        (head?_tailText gs) same
      obtain ⟨predicates, joiners⟩ := tailText_injective left.2 right.2 after
      exact ⟨.cons predicate predicates, joiners⟩

/-- Chains with one text are built alike, whatever values they hold: the same comparisons and tests of
the same properties with the same literals, joined in the same way.  What would join the first filter is
not written.  A literal stands for one string only. -/
theorem text_unambiguous {c d : FilterChain} (left : c.isPlain = true) (right : d.isPlain = true)
    (same : c.text = d.text) :
    c.filters.length = d.filters.length ∧
    List.Forall₂ Predicate.Alike (c.filters.map Filter.predicate) (d.filters.map Filter.predicate) ∧
    c.filters.tail.map Filter.joiner = d.filters.tail.map Filter.joiner ∧
    ∀ s t : String, (Value.string s).literal = (Value.string t).literal → s = t := by
  have ⟨predicates, joiners⟩ := alike_of_text_eq left right (congrArg String.toList same)
  exact ⟨by simpa using predicates.length_eq, predicates, joiners,
    fun _ _ => Value.string_literal_injective⟩

section Dogs

private def fiveOrQuoted (joiner : Joiner) (five : Value) : FilterChain :=
  ⟨[⟨joiner, .compare "Age" .eq five⟩,
    ⟨.or, .test "Owner/Name" .contains (.string "x', Name) eq true or ('")⟩]⟩

/-- Whole numbers of either width have one literal, and the word in front of the first filter is not
written.  All else is the same in chains with one text. -/
theorem text_unambiguous_five :
    (fiveOrQuoted .and (.int 5)).text = (fiveOrQuoted .or (.long 5)).text ∧
    Predicate.Alike (.compare "Age" .eq (.int 5)) (.compare "Age" .eq (.long 5)) := by
  have same : (fiveOrQuoted .and (.int 5)).text = (fiveOrQuoted .or (.long 5)).text := by decide +kernel
  obtain ⟨-, alike, -⟩ := text_unambiguous (c := fiveOrQuoted .and (.int 5))
    (d := fiveOrQuoted .or (.long 5)) (by decide) (by decide) same
  exact ⟨same, (List.forall₂_cons.mp alike).1⟩

end Dogs

end FilterChain
end AtomData
