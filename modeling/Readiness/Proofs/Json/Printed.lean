import Readiness.Json.Path
import Readiness.Proofs.Text.Parts

/-! What a document is written as that is neither a text nor null: something that no blank begins or
ends, and no word that begins with a capital letter. -/
namespace Readiness.Json

def isMark (c : Char) : Bool := c.isDigit || ['+', '-', '.', 'e'].contains c

theorem isMark_of_isDigit {c : Char} (digit : c.isDigit = true) : isMark c = true := by
  simp [isMark, digit]

/-- A text that visible characters begin and end, the first of them no capital letter. -/
structure Framed (text : List Char) : Prop where
  first : ∃ c, text.head? = some c ∧ Text.isBlank c = false ∧ c.isUpper = false
  last : ∃ c, text.getLast? = some c ∧ Text.isBlank c = false

theorem isMark_visible {c : Char} (mark : isMark c = true) :
    Text.isBlank c = false ∧ c.isUpper = false := by
  simp only [isMark, Bool.or_eq_true, List.contains_iff_mem, List.mem_cons, List.not_mem_nil,
    or_false] at mark
  rcases mark with digit | rfl | rfl | rfl | rfl
  · refine ⟨Text.not_isBlank_of_isDigit digit, Bool.eq_false_iff.2 fun upper => ?_⟩
    have code := Text.isDigit_iff.1 digit
    have capital := Text.isUpper_iff.1 upper
    omega
  all_goals decide

theorem framed_of_marks {text : List Char} (nonempty : text ≠ [])
    (marks : ∀ c ∈ text, isMark c = true) : Framed text := by
  refine ⟨⟨_, List.head?_eq_some_head nonempty, ?_⟩, ⟨_, List.getLast?_eq_some_getLast nonempty, ?_⟩⟩
  · exact isMark_visible (marks _ (List.head_mem nonempty))
  · exact (isMark_visible (marks _ (List.getLast_mem nonempty))).1

theorem isMark_of_mem_toDigits {n : Nat} {c : Char} (member : c ∈ Nat.toDigits 10 n) :
    isMark c = true :=
  isMark_of_isDigit (Nat.isDigit_of_mem_toDigits (by decide) (by decide) member)

theorem isMark_of_mem_repr {n : Int} {c : Char} (member : c ∈ (toString n).toList) :
    isMark c = true := by
  rw [Int.toString_eq_repr, Int.repr_eq_if] at member
  split at member
  · rw [Nat.toList_repr] at member
    exact isMark_of_mem_toDigits member
  · rw [String.toList_append, Nat.toList_repr] at member
    rcases List.mem_append.1 member with sign | digit
    · simp at sign
      subst sign
      decide
    · exact isMark_of_mem_toDigits digit

def Marks (text : List Char) : Prop := ∀ c ∈ text, isMark c = true

instance : DecidablePred Marks := fun _ => decidable_of_iff _ List.all_eq_true

theorem Marks.append {a b : List Char} (first : Marks a) (second : Marks b) : Marks (a ++ b) :=
  List.forall_mem_append.2 ⟨first, second⟩

theorem Marks.cons {c : Char} {a : List Char} (mark : isMark c = true) (rest : Marks a) :
    Marks (c :: a) :=
  List.forall_mem_cons.2 ⟨mark, rest⟩

theorem marks_zeros (n : Nat) : Marks (List.replicate n '0') := by
  intro c member
  rw [List.eq_of_mem_replicate member]
  rfl

theorem marks_mantissa (digits : List Char) : Marks digits →
    Marks (match digits with
      | first :: second :: rest => first :: '.' :: second :: rest
      | short => short) := by
  intro marks
  split
  · next first second rest =>
    obtain ⟨one, more⟩ := List.forall_mem_cons.1 marks
    exact .cons one (.cons rfl more)
  · exact marks

theorem Number.decimalText_marks (d : Decimal) : Marks (decimalText d).toList := by
  have digits : Marks (Nat.toDigits 10 d.digits) := fun c => isMark_of_mem_toDigits
  unfold decimalText
  simp only
  split
  · rw [String.toList_append, String.toList_ofList]
    exact (digits.append (marks_zeros _)).append (by decide)
  · split
    · rw [String.toList_ofList]
      refine Marks.append (fun c member => digits c (List.mem_of_mem_take member)) (.cons rfl ?_)
      exact fun c member => digits c (List.mem_of_mem_drop member)
    · split
      · simp only [String.toList_append, String.toList_ofList]
        exact Marks.append (by decide) ((marks_zeros _).append digits)
      · rw [String.toList_append, String.toList_append, String.toList_ofList]
        refine ((marks_mantissa _ digits).append ?_).append fun c => isMark_of_mem_repr
        split <;> decide

theorem Number.decimalText_ne_nil (d : Decimal) : (decimalText d).toList ≠ [] := by
  have some := Nat.toDigits_ne_nil (n := d.digits) (b := 10)
  unfold decimalText
  simp only
  split
  · simp
  · split
    · simp
    · split
      · simp
      · split <;> simp

theorem Number.text_marks (n : Number) : n.text.toList ≠ [] ∧ Marks n.text.toList := by
  cases n with
  | whole value =>
    refine ⟨?_, fun c => isMark_of_mem_repr⟩
    rw [text, Int.toString_eq_repr, Int.repr_eq_if]
    split <;> simp [Nat.toDigits_ne_nil]
  | real x =>
    simp only [text, String.toList_append]
    constructor
    · apply List.append_ne_nil_of_right_ne_nil
      split
      · decide
      · exact decimalText_ne_nil _
    · refine Marks.append ?_ ?_
      · split <;> decide
      · split
        · decide
        · exact decimalText_marks _

theorem Value.null_or_text (v : Value) :
    v = .null ∨ (∃ s, v = .string s) ∨ v.isNull = false ∧ v.string? = none := by
  cases v <;> simp [isNull, string?]

theorem framed_of_ends (first last : Char) (inner : List Char)
    (opens : Text.isBlank first = false ∧ first.isUpper = false) (closes : Text.isBlank last = false) :
    Framed (first :: (inner ++ [last])) := by
  refine ⟨⟨first, rfl, opens⟩, ⟨last, ?_, closes⟩⟩
  rw [← List.cons_append, List.getLast?_concat]

theorem Value.text_framed {v : Value} (notNull : v.isNull = false) (noText : v.string? = none) :
    Framed v.text.toList := by
  cases v with
  | null => cases notNull
  | string => cases noText
  | bool b => cases b <;> exact ⟨⟨_, rfl, rfl, rfl⟩, ⟨_, rfl, rfl⟩⟩
  | number n => exact framed_of_marks n.text_marks.1 n.text_marks.2
  | array items =>
    simp only [Value.text, String.toList_append]
    exact framed_of_ends '[' ']' _ ⟨rfl, rfl⟩ rfl
  | object members =>
    simp only [Value.text, String.toList_append]
    exact framed_of_ends '\x7b' '\x7d' _ ⟨rfl, rfl⟩ rfl

theorem Path.shown_eq_text {v : Value} (notNull : v.isNull = false) (noText : v.string? = none) :
    shown v = v.text := by
  cases v with
  | null => cases notNull
  | string => cases noText
  | _ => rfl

end Readiness.Json
