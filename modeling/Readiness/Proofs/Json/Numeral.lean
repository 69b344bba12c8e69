import Readiness.Json.Number
import Readiness.Proofs.Json.Nearest
import Readiness.Proofs.Text.Parts

/-! Numbers as they are written: an optional sign, digits, and for a number that is not kept whole a
point with more digits, an exponent or both. What is read of a number is one of 64 bits, and what is
written of such a number stands for it. -/
namespace Readiness.Json

namespace Number

/-- Decimal digits, without a zero in front that could be left out. -/
structure IsPlain (digits : List Char) : Prop where
  nonempty : digits ≠ []
  decimal : ∀ d ∈ digits, d.isDigit = true
  lead : digits.head? = some '0' → digits = ['0']

/-- What follows the whole part: nothing, or a point and digits. -/
inductive WritesFraction : List Char → List Char → Prop
  | none : WritesFraction [] []
  | point {digits : List Char} (nonempty : digits ≠ []) (decimal : ∀ d ∈ digits, d.isDigit = true) :
    WritesFraction digits ('.' :: digits)

/-- What follows the fraction: nothing, or an exponent with its sign. -/
inductive WritesExponent : Int → List Char → Prop
  | none : WritesExponent 0 []
  | up {digits : List Char} (plain : IsPlain digits) :
    WritesExponent (Text.decimal digits) ('e' :: '+' :: digits)
  | down {digits : List Char} (plain : IsPlain digits) :
    WritesExponent (-Text.decimal digits) ('e' :: '-' :: digits)

/-- A written number that is not kept whole, without its sign. -/
inductive WritesReal : ℚ → List Char → Prop
  | intro {whole digits fraction power : List Char} {exponent : Int} (plain : IsPlain whole)
    (point : WritesFraction digits fraction) (raised : WritesExponent exponent power)
    (notWhole : fraction ++ power ≠ []) :
    WritesReal (Text.decimal (whole ++ digits) * 10 ^ (exponent - digits.length))
      (whole ++ fraction ++ power)

/-- The texts that a number may be written as. A number that is not whole is nearest to what its text
says; those that are read are finite (`ofWritten_isFinite`). -/
inductive Writes : Number → List Char → Prop
  | natural {digits : List Char} (plain : IsPlain digits) :
    Writes (.whole (Text.decimal digits)) digits
  | negative {digits : List Char} (plain : IsPlain digits) (nonzero : Text.decimal digits ≠ 0) :
    Writes (.whole (-Text.decimal digits)) ('-' :: digits)
  | real {x : Binary64} {text : List Char}
    (finite : x.IsFinite → ∃ q, WritesReal q text ∧ x.IsNearest q) :
    Writes (.real x) (if x.negative then '-' :: text else text)

theorem eq_zero_of_toDigits {n : ℕ} (zero : (Nat.toDigits 10 n).head? = some '0') : n = 0 := by
  induction n using Nat.strongRecOn with
  | ind n ih =>
    rw [Nat.toDigits_eq_if (by decide)] at zero
    split at zero
    · next small =>
      have digits : ∀ d < 10, Nat.digitChar d = '0' → d = 0 := by decide
      exact digits n small (Option.some.inj zero)
    · next large =>
      rw [List.head?_append_of_ne_nil _ Nat.toDigits_ne_nil] at zero
      have := ih (n / 10) (by omega) zero
      omega

theorem isPlain_toDigits (n : ℕ) : IsPlain (Nat.toDigits 10 n) where
  nonempty := Nat.toDigits_ne_nil
  decimal _ := Nat.isDigit_of_mem_toDigits (by decide) (by decide)
  lead zero := by rw [eq_zero_of_toDigits zero]; rfl

theorem isPlain_append {n : ℕ} (positive : 0 < n) {more : List Char}
    (digits : ∀ d ∈ more, d.isDigit = true) : IsPlain (Nat.toDigits 10 n ++ more) where
  nonempty := List.append_ne_nil_of_left_ne_nil Nat.toDigits_ne_nil more
  decimal := List.forall_mem_append.2 ⟨(isPlain_toDigits n).decimal, digits⟩
  lead zero := by
    rw [List.head?_append_of_ne_nil _ Nat.toDigits_ne_nil] at zero
    exact absurd (eq_zero_of_toDigits zero) positive.ne'

theorem isPlain_take {n k : ℕ} (positive : 0 < n) (some : 0 < k) :
    IsPlain ((Nat.toDigits 10 n).take k) where
  nonempty := by simp [Nat.toDigits_ne_nil, some.ne']
  decimal d member := (isPlain_toDigits n).decimal d (List.mem_of_mem_take member)
  lead zero := by
    rw [List.head?_take, if_neg some.ne'] at zero
    exact absurd (eq_zero_of_toDigits zero) positive.ne'

theorem isDigit_of_mem_zeros (n : ℕ) : ∀ d ∈ List.replicate n '0', d.isDigit = true := by
  intro d member
  rw [List.eq_of_mem_replicate member]
  rfl

theorem writes_whole (n : Int) : Writes (.whole n) (toString n).toList := by
  rw [Int.toString_eq_repr, Int.repr_eq_if]
  split
  · next nonneg =>
    rw [Nat.toList_repr]
    have natural := Writes.natural (isPlain_toDigits n.toNat)
    rwa [Text.decimal_toDigits, Int.toNat_of_nonneg nonneg] at natural
  · next negative =>
    rw [String.toList_append, Nat.toList_repr]
    have written := Writes.negative (isPlain_toDigits (-n).toNat)
    rw [Text.decimal_toDigits, Int.toNat_of_nonneg (by omega), Int.neg_neg] at written
    exact written (by omega)

theorem writesExponent_text (n : Int) :
    WritesExponent n (((if 0 < n + 1 then "e+" else "e") ++ toString n).toList) := by
  rw [String.toList_append, Int.toString_eq_repr, Int.repr_eq_if]
  split
  · next nonneg =>
    rw [if_pos (by omega), Nat.toList_repr]
    have raised := WritesExponent.up (isPlain_toDigits n.toNat)
    rwa [Text.decimal_toDigits, Int.toNat_of_nonneg (by omega)] at raised
  · next negative =>
    rw [if_neg (by omega), String.toList_append, Nat.toList_repr]
    have lowered := WritesExponent.down (isPlain_toDigits (-n).toNat)
    rwa [Text.decimal_toDigits, Int.toNat_of_nonneg (by omega), Int.neg_neg] at lowered

/-- One digit before the point, and the others, if there are any, after it. -/
theorem exists_mantissa {n : ℕ} (positive : 0 < n) :
    ∃ first rest fraction, Nat.toDigits 10 n = first :: rest ∧ IsPlain [first] ∧
      WritesFraction rest fraction ∧
      (match Nat.toDigits 10 n with
        | first :: second :: rest => first :: '.' :: second :: rest
        | short => short) = [first] ++ fraction := by
  have plain := isPlain_take positive Nat.one_pos
  have all := (isPlain_toDigits n).decimal
  cases digits : Nat.toDigits 10 n with
  | nil => exact absurd digits Nat.toDigits_ne_nil
  | cons first rest =>
    rw [digits] at plain all
    cases rest with
    | nil => exact ⟨first, [], [], rfl, plain, .none, rfl⟩
    | cons second rest =>
      exact ⟨first, second :: rest, '.' :: second :: rest, rfl, plain,
        .point (List.cons_ne_nil _ _) fun d member => all d (List.mem_cons_of_mem _ member), rfl⟩

section Decimals

variable {n : ℕ}

theorem writesReal_padded (positive : 0 < n) (k : ℕ) :
    WritesReal (n * 10 ^ (k : Int)) (Nat.toDigits 10 n ++ List.replicate k '0' ++ ['.', '0']) := by
  have written := WritesReal.intro (isPlain_append positive (isDigit_of_mem_zeros k))
    (.point (List.cons_ne_nil '0' []) (isDigit_of_mem_zeros 1)) .none (List.cons_ne_nil _ _)
  have value : (Text.decimal (Nat.toDigits 10 n ++ List.replicate k '0' ++ ['0']) : ℚ) *
      10 ^ ((0 : Int) - (['0'] : List Char).length) = n * 10 ^ (k : Int) := by
    have zero : Text.decimal ['0'] = 0 := by decide
    rw [Text.decimal_append, Text.decimal_append, Text.decimal_zeros, Text.decimal_toDigits, zero,
      List.length_replicate, List.length_singleton]
    norm_num
    ring
  rwa [value, List.append_nil] at written

theorem writesReal_zero : WritesReal 0 "0.0".toList := by
  have written := WritesReal.intro (isPlain_toDigits 0)
    (.point (List.cons_ne_nil '0' []) (isDigit_of_mem_zeros 1)) .none (List.cons_ne_nil _ _)
  have zero : Text.decimal (Nat.toDigits 10 0 ++ ['0']) = 0 := by decide
  rwa [zero, Nat.cast_zero, zero_mul] at written

theorem writesReal_split (positive : 0 < n) {k : ℕ} (some : 0 < k)
    (digits : k < (Nat.toDigits 10 n).length) :
    WritesReal (n * 10 ^ ((k : Int) - (Nat.toDigits 10 n).length))
      ((Nat.toDigits 10 n).take k ++ '.' :: (Nat.toDigits 10 n).drop k) := by
  have all := (isPlain_toDigits n).decimal
  have rest : (Nat.toDigits 10 n).drop k ≠ [] := by simp [digits]
  have written := WritesReal.intro (isPlain_take positive some)
    (.point rest fun d member => all d (List.mem_of_mem_drop member)) .none (List.cons_ne_nil _ _)
  have power : (0 : Int) - ((Nat.toDigits 10 n).drop k).length = k - (Nat.toDigits 10 n).length := by
    rw [List.length_drop]
    omega
  rwa [power, List.take_append_drop, Text.decimal_toDigits, List.append_nil] at written

theorem writesReal_belowOne (n k : ℕ) :
    WritesReal (n * 10 ^ (-(k + (Nat.toDigits 10 n).length : Int)))
      ('0' :: '.' :: (List.replicate k '0' ++ Nat.toDigits 10 n)) := by
  have some : List.replicate k '0' ++ Nat.toDigits 10 n ≠ [] :=
    List.append_ne_nil_of_right_ne_nil _ Nat.toDigits_ne_nil
  have all : ∀ d ∈ List.replicate k '0' ++ Nat.toDigits 10 n, d.isDigit = true :=
    List.forall_mem_append.2 ⟨isDigit_of_mem_zeros k, (isPlain_toDigits n).decimal⟩
  have written := WritesReal.intro (isPlain_toDigits 0) (.point some all) .none (List.cons_ne_nil _ _)
  have power : (0 : Int) - (List.replicate k '0' ++ Nat.toDigits 10 n).length =
      -(k + (Nat.toDigits 10 n).length) := by
    rw [List.length_append, List.length_replicate]
    omega
  rwa [power, Text.decimal_append, Text.decimal_append, Text.decimal_zeros, Text.decimal_toDigits,
    Text.decimal_toDigits, zero_mul, zero_mul, zero_add, zero_add, List.append_nil] at written

theorem writesReal_raised (positive : 0 < n) (exponent : Int) :
    WritesReal (n * 10 ^ (exponent + 1 - (Nat.toDigits 10 n).length))
      ((match Nat.toDigits 10 n with
        | first :: second :: rest => first :: '.' :: second :: rest
        | short => short) ++
        ((if 0 < exponent + 1 then "e+" else "e") ++ toString exponent).toList) := by
  obtain ⟨first, rest, fraction, digits, plain, point, mantissa⟩ := exists_mantissa positive
  have marked : fraction ++ ((if 0 < exponent + 1 then "e+" else "e") ++ toString exponent).toList ≠
      [] := by
    rw [String.toList_append]
    split <;> simp
  have written := WritesReal.intro plain point (writesExponent_text exponent) marked
  have power : exponent - rest.length = exponent + 1 - (Nat.toDigits 10 n).length := by
    rw [digits, List.length_cons]
    push_cast
    ring
  rwa [power, List.singleton_append, ← digits, Text.decimal_toDigits, ← mantissa] at written

end Decimals

theorem writesReal_decimalText {d : Decimal} (positive : 0 < d.digits) :
    WritesReal d.value (decimalText d).toList := by
  obtain ⟨n, exponent⟩ := d
  rw [Decimal.value]
  unfold decimalText
  dsimp only at positive ⊢
  -- The place of the point among the digits decides between the four ways to write the number.
  generalize point : exponent + ((Nat.toDigits 10 n).length : Int) = position
  obtain rfl : exponent = position - (Nat.toDigits 10 n).length := by omega
  split
  case isTrue whole =>
    obtain ⟨k, zeros⟩ := Int.eq_ofNat_of_zero_le whole.1
    have written := writesReal_padded positive k
    rw [zeros, Int.toNat_natCast, String.toList_append, String.toList_ofList]
    exact written
  case isFalse notWhole =>
    split
    case isTrue inside =>
      obtain ⟨k, rfl⟩ := Int.eq_ofNat_of_zero_le inside.1.le
      have written := writesReal_split positive (by omega : 0 < k) (by omega)
      rw [String.toList_ofList, Int.toNat_natCast]
      exact written
    case isFalse =>
      split
      case isTrue small =>
        obtain ⟨k, zeros⟩ := Int.eq_ofNat_of_zero_le (by omega : 0 ≤ -position)
        have written := writesReal_belowOne n k
        have power : position - (Nat.toDigits 10 n).length = -(k + (Nat.toDigits 10 n).length) := by
          omega
        rw [zeros, Int.toNat_natCast, String.toList_append, String.toList_ofList,
          String.toList_ofList, power]
        exact written
      case isFalse =>
        have written := writesReal_raised positive (position - 1)
        rw [sub_add_cancel] at written
        simp only [String.toList_append, String.toList_ofList, List.append_assoc] at written ⊢
        exact written

theorem writes_text (n : Number) : Writes n n.text.toList := by
  cases n with
  | whole n => exact writes_whole n
  | real x =>
    have signed : (Number.real x).text.toList = if x.negative then
        '-' :: (if x.significand = 0 then "0.0" else decimalText x.shortest).toList
      else (if x.significand = 0 then "0.0" else decimalText x.shortest).toList := by
      rw [text]
      cases x.negative <;> simp
    rw [signed]
    refine .real fun finite => ?_
    split
    · next zero =>
      have nothing : x.value = 0 := by rw [Binary64.value, zero, Nat.cast_zero, zero_mul]
      exact ⟨0, writesReal_zero, nothing ▸ x.isNearest_value⟩
    · next nonzero =>
      obtain ⟨nearest, positive⟩ := x.shortest_isNearest finite (Nat.pos_of_ne_zero nonzero)
      exact ⟨_, writesReal_decimalText positive, nearest⟩

/-! ## Reading -/

open Binary64

theorem ofNat_isFinite {n : ℕ} {x : Binary64} (read : Binary64.ofNat n = some x) : x.IsFinite :=
  ofFraction_isFinite Nat.one_pos read

theorem mul_isFinite {x y z : Binary64} (product : x.mul y = some z) : z.IsFinite :=
  ofFraction_isFinite (Fraction.den_scaled_pos two_pos _ _) product

theorem div_isFinite {x y z : Binary64} (positive : 0 < y.significand)
    (quotient : x.div y = some z) : z.IsFinite :=
  ofFraction_isFinite (Nat.mul_pos (Fraction.den_scaled_pos two_pos _ _) positive) quotient

theorem powerOfTen_positive {n : ℕ} {x : Binary64} (made : powerOfTen n = some x) :
    0 < x.significand := by
  refine ofFraction_positive Nat.one_pos ?_ made
  rw [Fraction.value, Nat.cast_one, div_one]
  exact_mod_cast Nat.pow_pos (by decide)

theorem scale_isFinite {x y : Binary64} {exponent : Int} {steps : ℕ} (finite : x.IsFinite)
    (scaled : scale x exponent steps = some y) : y.IsFinite := by
  induction steps generalizing x exponent with
  | zero =>
    cases scaled
    exact isFinite_zero false
  | succ steps ih =>
    rw [scale] at scaled
    split at scaled
    · obtain ⟨power, made, rest⟩ := Option.bind_eq_some_iff.1 scaled
      split at rest
      · exact mul_isFinite rest
      · exact div_isFinite (powerOfTen_positive made) rest
    · split at scaled
      · cases scaled
        exact finite
      · split at scaled
        · cases scaled
        · obtain ⟨power, made, rest⟩ := Option.bind_eq_some_iff.1 scaled
          obtain ⟨quotient, divided, rest⟩ := Option.bind_eq_some_iff.1 rest
          exact ih (div_isFinite (powerOfTen_positive made) divided) rest

theorem Written.real_isFinite {w : Written} {x : Binary64} (read : w.real = some (.real x)) :
    x.IsFinite := by
  obtain ⟨whole, made, rest⟩ := Option.bind_eq_some_iff.1 read
  obtain ⟨magnitude, scaled, same⟩ := Option.bind_eq_some_iff.1 rest
  cases same
  obtain ⟨fits, greatest⟩ := scale_isFinite (ofNat_isFinite made) scaled
  exact ⟨⟨fits.short, fits.least, fits.full⟩, greatest⟩

/-- What is read of a number is a number of 64 bits. -/
theorem ofWritten_isFinite {w : Written} {x : Binary64} (read : ofWritten w = some (.real x)) :
    x.IsFinite := by
  unfold ofWritten at read
  split at read
  · dsimp only at read
    split at read
    · split at read
      · cases read
      · exact w.real_isFinite read
    · split at read
      · cases read
      · exact w.real_isFinite read
  · exact w.real_isFinite read

end Number

end Readiness.Json
