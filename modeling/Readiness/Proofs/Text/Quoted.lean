import Mathlib.Data.List.TakeWhile
import Readiness.Text.Parts
import Readiness.Text.Quoted

/-! Quoted texts are read back character by character, so two of them are the same only if they quote the
same text; and whatever a text holds, its quoted form is a single line. -/
namespace Readiness.Text

namespace Quoted

theorem digit_spec : ∀ d < 16, hexValue (Nat.digitChar d) = some d ∧ Nat.digitChar d ≠ '\x7d' ∧
    Nat.digitChar d ≠ '\n' := by
  decide

theorem exists_digit {n : Nat} {c : Char} (member : c ∈ hex n) : ∃ d < 16, c = Nat.digitChar d := by
  induction n using Nat.strong_induction_on with
  | h n ih =>
    rw [hex, Nat.toDigits_eq_if (by decide)] at member
    split at member
    · next below => exact ⟨n, below, List.mem_singleton.1 member⟩
    · rcases List.mem_append.1 member with earlier | last
      · exact ih (n / 16) (by omega) earlier
      · exact ⟨n % 16, Nat.mod_lt _ (by decide), List.mem_singleton.1 last⟩

theorem valueIn_hex (n : Nat) : valueIn 16 (hex n) = some n := by
  induction n using Nat.strong_induction_on with
  | h n ih =>
    have digit (value : Nat) {d : Nat} (below : d < 16) :
        ((hexValue (Nat.digitChar d)).filter (· < 16)).map (value * 16 + ·) = some (value * 16 + d) := by
      simp [(digit_spec d below).1, below]
    rw [hex, Nat.toDigits_eq_if (by decide), valueIn]
    split
    · next below => simpa using digit 0 below
    · rw [List.foldlM_append]
      have front := ih (n / 16) (by omega)
      rw [hex, valueIn] at front
      rw [front, Option.bind_eq_bind, Option.bind_some]
      simpa [Nat.div_add_mod'] using digit (n / 16) (Nat.mod_lt n (by decide))

/-- The first character that a quoted text holds, and the rest after it. -/
def read : List Char → Option (Char × List Char)
  | '\\' :: '0' :: rest => some ('\x00', rest)
  | '\\' :: 't' :: rest => some ('\t', rest)
  | '\\' :: 'r' :: rest => some ('\r', rest)
  | '\\' :: 'n' :: rest => some ('\n', rest)
  | '\\' :: '\\' :: rest => some ('\\', rest)
  | '\\' :: '"' :: rest => some ('"', rest)
  | '\\' :: 'u' :: '\x7b' :: rest =>
    (valueIn 16 (rest.takeWhile (· ≠ '\x7d'))).map fun n =>
      (Char.ofNat n, (rest.dropWhile (· ≠ '\x7d')).tail)
  | '\\' :: _ => none
  | c :: rest => some (c, rest)
  | [] => none

theorem read_hidden (c : Char) (rest : List Char) :
    read ('\\' :: 'u' :: '\x7b' :: (hex c.toNat ++ ['\x7d'] ++ rest)) = some (c, rest) := by
  have open_digits : ∀ d ∈ hex c.toNat, decide (d ≠ '\x7d') = true := by
    intro d member
    obtain ⟨n, below, rfl⟩ := exists_digit member
    exact decide_eq_true (digit_spec n below).2.1
  rw [List.append_assoc, read, List.takeWhile_append_of_pos open_digits,
    List.dropWhile_append_of_pos open_digits]
  simp [valueIn_hex, Char.ofNat_toNat]

theorem read_escape (c : Char) (rest : List Char) : read (escape c ++ rest) = some (c, rest) := by
  unfold escape
  split
  case h_7 =>
    split
    · exact read_hidden c rest
    · rw [List.singleton_append, read]
      all_goals grind
  all_goals rfl

theorem flatMap_escape_inj {text other : List Char}
    (same : text.flatMap escape = other.flatMap escape) : text = other := by
  induction text generalizing other with
  | nil =>
    cases other with
    | nil => rfl
    | cons d rest =>
      have reads := read_escape d (rest.flatMap escape)
      rw [← List.flatMap_cons, ← same] at reads
      cases reads
  | cons c text ih =>
    have reads := read_escape c (text.flatMap escape)
    rw [← List.flatMap_cons, same] at reads
    cases other with
    | nil => cases reads
    | cons d rest =>
      rw [List.flatMap_cons, read_escape] at reads
      obtain ⟨rfl, later⟩ := Prod.mk.inj (Option.some.inj reads)
      rw [ih later.symm]

theorem not_mem_escape (c : Char) : '\n' ∉ escape c := by
  unfold escape
  split
  case h_7 feed _ _ =>
    split
    · simp only [List.mem_cons, List.mem_append, not_or, List.not_mem_nil, not_false_eq_true, and_true]
      refine ⟨by decide, by decide, by decide, fun member => ?_, by decide⟩
      obtain ⟨n, below, same⟩ := exists_digit member
      exact (digit_spec n below).2.2 same.symm
    · exact fun member => feed (List.mem_singleton.1 member).symm
  all_goals decide

end Quoted

theorem quoted_inj {s t : String} : quoted s = quoted t ↔ s = t := by
  refine ⟨fun same => ?_, congrArg quoted⟩
  have encoded : Quoted.encode s.toList = Quoted.encode t.toList := String.ofList_injective same
  exact String.toList_injective
    (Quoted.flatMap_escape_inj (List.append_cancel_right (List.cons.inj encoded).2))

def Unbroken (s : String) : Prop := '\n' ∉ s.toList

instance (s : String) : Decidable (Unbroken s) := inferInstanceAs (Decidable ('\n' ∉ s.toList))

theorem unbroken_ofList {text : List Char} : Unbroken (String.ofList text) ↔ '\n' ∉ text := by
  rw [Unbroken, String.toList_ofList]

@[simp] theorem unbroken_append {s t : String} : Unbroken (s ++ t) ↔ Unbroken s ∧ Unbroken t := by
  rw [Unbroken, String.toList_append, List.mem_append, not_or]
  rfl

theorem not_mem_toDigits (n : Nat) : '\n' ∉ Nat.toDigits 10 n :=
  fun member => absurd (Nat.isDigit_of_mem_toDigits (by decide) (by decide) member) (by decide)

theorem unbroken_toString (n : Nat) : Unbroken (toString n) := by
  rw [Nat.toString_eq_ofList_toDigits, unbroken_ofList]
  exact not_mem_toDigits n

theorem unbroken_quoted (s : String) : Unbroken (quoted s) := by
  rw [quoted, unbroken_ofList, Quoted.encode]
  simp only [List.mem_cons, List.mem_append, List.mem_flatMap, List.not_mem_nil, or_false, not_or,
    not_exists, not_and]
  exact ⟨by decide, fun c _ => Quoted.not_mem_escape c, by decide⟩

end Readiness.Text
