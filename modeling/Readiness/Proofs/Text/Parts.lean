import Mathlib.Data.List.Induction
import Mathlib.Data.List.TakeWhile
import Mathlib.Data.Nat.Digits.Defs
import Readiness.Text.Parts

/-! What trimming, cutting and reading a number give, said of the text and not of the way it is gone
through. -/
namespace Readiness.Text

/-- `core` is what is left of a text without the blanks at its ends. -/
structure Trims (text core : List Char) : Prop where
  parts : ∃ lead trail, text = lead ++ core ++ trail ∧
    (∀ c ∈ lead, isBlank c = true) ∧ ∀ c ∈ trail, isBlank c = true
  first : ∀ c, core.head? = some c → isBlank c = false
  last : ∀ c, core.getLast? = some c → isBlank c = false

section Ends

variable {lead core trail : List Char}

theorem trimStart_append (blank : ∀ c ∈ lead, isBlank c = true)
    (first : ∀ c, core.head? = some c → isBlank c = false) : trimStart (lead ++ core) = core := by
  have none : lead.dropWhile isBlank = [] := List.dropWhile_eq_nil_iff.2 blank
  rw [trimStart, List.dropWhile_append, none]
  cases core with
  | nil => simp
  | cons c rest => simp [first c rfl]

theorem trimEnd_append (blank : ∀ c ∈ trail, isBlank c = true)
    (last : ∀ c, core.getLast? = some c → isBlank c = false) : trimEnd (core ++ trail) = core := by
  have reversed : trimStart (trail.reverse ++ core.reverse) = core.reverse :=
    trimStart_append (by simpa using blank) (by simpa using last)
  rw [trimStart] at reversed
  rw [trimEnd, List.reverse_append, reversed, List.reverse_reverse]

end Ends

theorem Trims.eq {text core : List Char} (trims : Trims text core) : trim text = core := by
  obtain ⟨lead, trail, rfl, before, after⟩ := trims.parts
  by_cases none : core = []
  · subst none
    have blank : ∀ c ∈ lead ++ [] ++ trail, isBlank c = true := by
      simpa [or_imp, forall_and] using And.intro before after
    rw [trim, trimStart, List.dropWhile_eq_nil_iff.2 blank]
    rfl
  · rw [trim, List.append_assoc, trimStart_append before, trimEnd_append after trims.last]
    intro c first
    obtain ⟨d, rest, rfl⟩ := List.exists_cons_of_ne_nil none
    exact trims.first c first

theorem exists_trimStart (text : List Char) : ∃ lead, text = lead ++ trimStart text ∧
    ∀ c ∈ lead, isBlank c = true := by
  refine ⟨text.takeWhile isBlank, List.takeWhile_append_dropWhile.symm, ?_⟩
  intro c member
  exact List.mem_takeWhile_imp member

theorem exists_trimEnd (text : List Char) : ∃ trail, text = trimEnd text ++ trail ∧
    ∀ c ∈ trail, isBlank c = true := by
  obtain ⟨lead, split, blank⟩ := exists_trimStart text.reverse
  refine ⟨lead.reverse, ?_, by simpa using blank⟩
  have turned := congrArg List.reverse split
  rw [List.reverse_reverse, List.reverse_append] at turned
  exact turned

theorem head?_trimStart (text : List Char) {c : Char} (first : (trimStart text).head? = some c) :
    isBlank c = false := by
  have stops := List.head?_dropWhile_not isBlank text
  rw [trimStart] at first
  simpa [first] using stops

theorem trims_trim (text : List Char) : Trims text (trim text) := by
  obtain ⟨lead, start, before⟩ := exists_trimStart text
  obtain ⟨trail, stop, after⟩ := exists_trimEnd (trimStart text)
  change trimStart text = trim text ++ trail at stop
  constructor
  · refine ⟨lead, trail, ?_, before, after⟩
    rw [List.append_assoc, ← stop, ← start]
  · intro c first
    apply head?_trimStart text
    rw [stop]
    cases kept : trim text with
    | nil => simp [kept] at first
    | cons d rest => simpa [kept] using first
  · intro c last
    apply head?_trimStart (trimStart text).reverse
    rw [← last, trim, trimEnd, List.getLast?_reverse]
    rfl

theorem trim_eq_iff {text core : List Char} : trim text = core ↔ Trims text core :=
  ⟨fun same => same ▸ trims_trim text, Trims.eq⟩

theorem trims_of_trimmed_eq {s : String} (trimmed : Text.trimmed s = s) :
    Trims s.toList s.toList := by
  have kept := congrArg String.toList trimmed
  rw [Text.trimmed, String.toList_ofList] at kept
  exact trim_eq_iff.1 kept

theorem Trims.trimmed_eq {s : String} (trims : Trims s.toList s.toList) : Text.trimmed s = s := by
  rw [Text.trimmed, trims.eq, String.ofList_toList]

theorem trims_self_iff {text : List Char} :
    Trims text text ↔ (∀ c, text.head? = some c → isBlank c = false) ∧
      ∀ c, text.getLast? = some c → isBlank c = false :=
  ⟨fun trims => ⟨trims.first, trims.last⟩, fun ends => ⟨⟨[], [], by simp, nofun, nofun⟩, ends.1, ends.2⟩⟩

theorem trims_self {text : List Char} {first last : Char} (begins : text.head? = some first)
    (ends : text.getLast? = some last) (solid : isBlank first = false ∧ isBlank last = false) :
    Trims text text := by
  refine trims_self_iff.2 ⟨fun c same => ?_, fun c same => ?_⟩
  · obtain rfl := Option.some.inj (begins.symm.trans same)
    exact solid.1
  · obtain rfl := Option.some.inj (ends.symm.trans same)
    exact solid.2

theorem Trims.mem {text core : List Char} (trims : Trims text core) {c : Char} (member : c ∈ text) :
    c ∈ core ∨ isBlank c = true := by
  obtain ⟨lead, trail, rfl, before, after⟩ := trims.parts
  simp only [List.mem_append] at member
  rcases member with (member | member) | member
  · exact .inr (before c member)
  · exact .inl member
  · exact .inr (after c member)

/-- Texts that no blank begins or ends make one that no blank begins or ends. -/
theorem Trims.append {front back : List Char} (first : Trims front front)
    (second : Trims back back) : Trims (front ++ back) (front ++ back) := by
  refine trims_self_iff.2 ⟨?_, ?_⟩
  · intro c begins
    rw [List.head?_append, Option.or_eq_some_iff] at begins
    rcases begins with begins | ⟨-, begins⟩
    · exact first.first c begins
    · exact second.first c begins
  · intro c ends
    rw [List.getLast?_append, Option.or_eq_some_iff] at ends
    rcases ends with ends | ⟨-, ends⟩
    · exact second.last c ends
    · exact first.last c ends

theorem isDigit_iff {c : Char} : c.isDigit = true ↔ 48 ≤ c.toNat ∧ c.toNat ≤ 57 := by
  rw [Char.isDigit, Bool.and_eq_true, decide_eq_true_iff, decide_eq_true_iff]
  exact and_congr UInt32.le_iff_toNat_le UInt32.le_iff_toNat_le

theorem isLower_iff {c : Char} : c.isLower = true ↔ 97 ≤ c.toNat ∧ c.toNat ≤ 122 := by
  refine Iff.trans (Bool.and_eq_true ..).to_iff ?_
  rw [decide_eq_true_iff, decide_eq_true_iff]
  exact and_congr UInt32.le_iff_toNat_le UInt32.le_iff_toNat_le

theorem isUpper_iff {c : Char} : c.isUpper = true ↔ 65 ≤ c.toNat ∧ c.toNat ≤ 90 :=
  decide_eq_true_iff.trans (and_congr UInt32.le_iff_toNat_le UInt32.le_iff_toNat_le)

theorem not_isBlank_of_isDigit {c : Char} (digit : c.isDigit = true) : isBlank c = false := by
  have code := isDigit_iff.1 digit
  simp [isBlank]
  omega

theorem exists_words_eq {front : List Char} (nonempty : front ≠ [])
    (whole : ∀ c ∈ front, isBlank c = false) (rest : List Char) :
    ∃ more others, words (front ++ rest) = (front ++ more) :: others := by
  obtain ⟨more, others, split⟩ :
      ∃ more others, (front ++ rest).splitOnP isBlank = (front ++ more) :: others := by
    clear nonempty
    induction front with
    | nil => exact List.exists_cons_of_ne_nil (List.splitOnP_ne_nil isBlank rest)
    | cons c front ih =>
      rw [List.forall_mem_cons] at whole
      obtain ⟨more, others, split⟩ := ih whole.2
      refine ⟨more, others, ?_⟩
      rw [List.cons_append, List.splitOnP_cons_eq_if_modifyHead, if_neg (by simp [whole.1]), split]
      rfl
  refine ⟨more, others.filter fun word => !word.isEmpty, ?_⟩
  rw [words, split, List.filter_cons_of_pos]
  simp [nonempty]

structure IsWord (word : List Char) : Prop where
  nonempty : word ≠ []
  solid : ∀ c ∈ word, isBlank c = false

theorem IsWord.words_eq {word : List Char} (isWord : IsWord word) : words word = [word] := by
  have whole : word.splitOnP isBlank = [word] :=
    List.splitOnP_eq_singleton isWord.solid
  rw [words, whole]
  simp [isWord.nonempty]

theorem words_append_cons {blank : Char} (ends : isBlank blank = true) (front rest : List Char) :
    words (front ++ blank :: rest) = words front ++ words rest := by
  rw [words, List.splitOnP_append_cons front rest ends, List.filter_append]
  rfl

theorem IsWord.words_append {word : List Char} (isWord : IsWord word) {blank : Char}
    (ends : isBlank blank = true) (rest : List Char) :
    words (word ++ blank :: rest) = word :: words rest := by
  rw [words_append_cons ends, isWord.words_eq, List.singleton_append]

theorem words_eq_nil_iff {text : List Char} : words text = [] ↔ ∀ c ∈ text, isBlank c = true := by
  induction text with
  | nil => exact iff_of_true rfl nofun
  | cons c rest ih =>
    rw [List.forall_mem_cons]
    cases blank : isBlank c with
    | true =>
      have skipped : words (c :: rest) = words rest := words_append_cons blank [] rest
      rw [skipped, ih]
      simp
    | false =>
      obtain ⟨more, others, first⟩ := exists_words_eq (List.cons_ne_nil c [])
        (List.forall_mem_singleton.2 blank) rest
      rw [List.singleton_append] at first
      simp [first]

theorem exists_solid_end (text : List Char) : ∃ front solid, text = front ++ solid ∧
    (∀ c ∈ solid, isBlank c = false) ∧
      (front = [] ∨ ∃ before blank, front = before ++ [blank] ∧ isBlank blank = true) := by
  induction text using List.reverseRecOn with
  | nil => exact ⟨[], [], rfl, nofun, .inl rfl⟩
  | append_singleton text c ih =>
    cases blank : isBlank c with
    | true => exact ⟨text ++ [c], [], (List.append_nil _).symm, nofun, .inr ⟨text, c, rfl, blank⟩⟩
    | false =>
      obtain ⟨front, solid, rfl, whole, ends⟩ := ih
      refine ⟨front, solid ++ [c], List.append_assoc .., ?_, ends⟩
      exact List.forall_mem_append.2 ⟨whole, List.forall_mem_singleton.2 blank⟩

/-- Nothing but blanks comes after the last word of a text. -/
theorem exists_last_word {text : List Char} (some_word : words text ≠ []) :
    ∃ front word trail, text = front ++ (word ++ trail) ∧ IsWord word ∧
      (∀ c ∈ trail, isBlank c = true) ∧ words text = words front ++ [word] := by
  induction text using List.reverseRecOn with
  | nil => exact absurd rfl some_word
  | append_singleton text c ih =>
    cases blank : isBlank c with
    | true =>
      have skipped : words (text ++ [c]) = words text := by
        rw [words_append_cons blank]
        exact List.append_nil _
      rw [skipped] at some_word ⊢
      obtain ⟨front, word, trail, rfl, isWord, after, all⟩ := ih some_word
      refine ⟨front, word, trail ++ [c], by simp, isWord, ?_, all⟩
      exact List.forall_mem_append.2 ⟨after, List.forall_mem_singleton.2 blank⟩
    | false =>
      obtain ⟨front, solid, rfl, whole, ends⟩ := exists_solid_end text
      have isWord : IsWord (solid ++ [c]) :=
        ⟨by simp, List.forall_mem_append.2 ⟨whole, List.forall_mem_singleton.2 blank⟩⟩
      refine ⟨front, solid ++ [c], [], by simp, isWord, nofun, ?_⟩
      rw [List.append_assoc]
      rcases ends with rfl | ⟨before, last, rfl, cuts⟩
      · exact isWord.words_eq
      · rw [List.append_assoc, List.singleton_append, words_append_cons cuts,
          words_append_cons cuts, isWord.words_eq]
        exact congrArg (· ++ _) (List.append_nil _).symm

theorem words_intercalate {all : List (List Char)} (allWords : ∀ word ∈ all, IsWord word) :
    words ([' '].intercalate all) = all := by
  induction all with
  | nil => rfl
  | cons word more ih =>
    obtain ⟨here, later⟩ := List.forall_mem_cons.1 allWords
    cases more with
    | nil => simpa using here.words_eq
    | cons next more =>
      rw [List.intercalate_cons_cons, List.append_assoc, List.singleton_append,
        here.words_append (by decide), ih later]

theorem wordsOf_intercalate {all : List String} (allWords : ∀ word ∈ all, IsWord word.toList) :
    wordsOf (String.intercalate " " all) = all := by
  rw [wordsOf, String.toList_intercalate]
  change (words ([' '].intercalate _)).map _ = _
  rw [words_intercalate (by simpa using allWords), List.map_map]
  simp [Function.comp_def]

section Containing

/-- A part that does not hold the mark lies before it or after it. -/
theorem infix_append_cons_iff {mark : Char} {part before after : List Char} (apart : mark ∉ part) :
    part <:+: before ++ mark :: after ↔ part <:+: before ∨ part <:+: after := by
  constructor
  · intro within
    induction before with
    | nil =>
      rcases List.infix_cons_iff.1 within with first | later
      · cases part with
        | nil => exact .inl List.nil_infix
        | cons c part =>
          obtain ⟨rfl, -⟩ := List.cons_prefix_cons.1 first
          exact absurd List.mem_cons_self apart
      · exact .inr later
    | cons c before ih =>
      rw [List.cons_append, List.infix_cons_iff] at within
      rcases within with first | later
      · left
        have whole : c :: before ++ [mark] <+: c :: (before ++ mark :: after) := ⟨after, by simp⟩
        rcases List.prefix_or_prefix_of_prefix first whole with short | long
        · rcases List.prefix_concat_iff.1 short with rfl | inside
          · exact absurd (by simp) apart
          · exact inside.isInfix
        · exact absurd (long.subset (by simp)) apart
      · exact (ih later).imp List.infix_cons id
  · rintro (⟨lead, trail, rfl⟩ | ⟨lead, trail, rfl⟩)
    · exact ⟨lead, trail ++ mark :: after, by simp⟩
    · exact ⟨before ++ mark :: lead, trail, by simp⟩

/-- A part that no space begins or ends does not reach the spaces around a text. -/
theorem infix_spaced_iff {part text : List Char} (begins : part.head? ≠ some ' ')
    (ends : part.getLast? ≠ some ' ') : part <:+: ' ' :: (text ++ [' ']) ↔ part <:+: text := by
  constructor
  · intro within
    have closed : part <:+: text ++ [' '] := by
      rcases List.infix_cons_iff.1 within with first | later
      · cases part with
        | nil => exact List.nil_infix
        | cons c part =>
          obtain ⟨rfl, -⟩ := List.cons_prefix_cons.1 first
          exact absurd rfl begins
      · exact later
    rcases List.infix_concat_iff.1 closed with last | inside
    · rcases List.suffix_concat_iff.1 last with rfl | ⟨front, rfl, -⟩
      · exact List.nil_infix
      · exact absurd List.getLast?_concat ends
    · exact inside
  · exact fun within => List.infix_cons (within.trans (List.prefix_append _ _).isInfix)

/-- A part without a space lies in one of the texts that are written with a space between them. -/
theorem infix_intercalate_iff {part : List Char} (nonempty : part ≠ []) (solid : ' ' ∉ part)
    (texts : List (List Char)) :
    part <:+: [' '].intercalate texts ↔ ∃ text ∈ texts, part <:+: text := by
  induction texts with
  | nil => simp [nonempty]
  | cons text more ih =>
    cases more with
    | nil => simp
    | cons next more =>
      rw [List.intercalate_cons_cons, List.append_assoc, List.singleton_append,
        infix_append_cons_iff solid, ih]
      simp

theorem contains_iff {s part : String} : contains s part = true ↔ part.toList <:+: s.toList :=
  hasPart_iff

theorem contains_intercalate_iff {part : String} (nonempty : part.toList ≠ [])
    (solid : ' ' ∉ part.toList) (texts : List String) :
    contains (String.intercalate " " texts) part = true ↔
      ∃ text ∈ texts, contains text part = true := by
  simp only [contains_iff, String.toList_intercalate]
  change part.toList <:+: [' '].intercalate _ ↔ _
  rw [infix_intercalate_iff nonempty solid]
  simp

theorem isAllBlank_intercalate_iff (texts : List String) :
    isAllBlank (String.intercalate " " texts) = true ↔
      ∀ text ∈ texts, isAllBlank text = true := by
  rw [isAllBlank, String.toList_intercalate]
  change ([' '].intercalate (texts.map String.toList)).all isBlank = true ↔ _
  induction texts with
  | nil => simp
  | cons text more ih =>
    cases more with
    | nil => simp [isAllBlank]
    | cons next more =>
      have space : isBlank ' ' = true := by decide
      rw [List.map_cons] at ih
      rw [List.map_cons, List.map_cons, List.intercalate_cons_cons, List.all_append,
        List.all_append, List.forall_mem_cons, ← ih]
      simp [space, isAllBlank]

end Containing

theorem cut_eq_some_iff {mark : Char} {text before after : List Char} :
    cut mark text = some (before, after) ↔ text = before ++ mark :: after ∧ mark ∉ before := by
  induction text generalizing before with
  | nil => simp [cut]
  | cons c rest ih =>
    rw [cut]
    by_cases here : c = mark
    · subst here
      cases before with
      | nil => simp [eq_comm]
      | cons d more => simp; tauto
    · rw [if_neg here, Option.map_eq_some_iff]
      constructor
      · rintro ⟨⟨first, last⟩, found, same⟩
        obtain ⟨rfl, rfl⟩ : c :: first = before ∧ last = after := by simpa using same
        obtain ⟨rfl, apart⟩ := ih.1 found
        exact ⟨rfl, by simp [apart, Ne.symm here]⟩
      · rintro ⟨split, apart⟩
        cases before with
        | nil => exact absurd (List.cons.inj split).1 here
        | cons d more =>
          obtain ⟨rfl, rfl⟩ := List.cons.inj split
          exact ⟨(more, after), ih.2 ⟨rfl, fun member => apart (by simp [member])⟩, rfl⟩

section Lines

variable {line : List Char}

theorem lines_append_cons (whole : '\n' ∉ line) (rest : List Char) :
    lines (line ++ '\n' :: rest) = dropReturn line :: lines rest := by
  have parted : (line ++ '\n' :: rest).splitOnP (· == '\n') = line :: rest.splitOnP (· == '\n') := by
    refine List.splitOnP_append_cons_of_forall_mem (fun c member => ?_) '\n' rfl rest
    exact beq_false_of_ne fun same => whole (same ▸ member)
  obtain ⟨piece, more, split⟩ :=
    List.exists_cons_of_ne_nil (List.splitOnP_ne_nil (· == '\n') rest)
  rw [lines, parted, lines, split]
  rfl

theorem dropReturn_eq_self (bare : line.getLast? ≠ some '\r') : dropReturn line = line :=
  if_neg bare

theorem dropReturn_subset (line : List Char) : dropReturn line ⊆ line := by
  unfold dropReturn
  split
  · exact List.dropLast_subset line
  · exact List.Subset.refl line

theorem trim_of_blank (blank : ∀ c ∈ line, isBlank c = true) : trim line = [] :=
  (⟨⟨line, [], by simp, blank, nofun⟩, nofun, nofun⟩ : Trims line []).eq

end Lines

/-- The value of decimal digits, of which the last one counts the units. -/
def decimal (digits : List Char) : Nat :=
  Nat.ofDigits 10 (digits.reverse.map fun d => d.toNat - '0'.toNat)

theorem digitsValue_eq (digits : List Char) : digitsValue digits = decimal digits := by
  induction digits using List.reverseRecOn with
  | nil => rfl
  | append_singleton digits d ih =>
    rw [digitsValue, List.foldl_append, decimal, List.reverse_append, List.reverse_singleton,
      List.singleton_append, List.map_cons, Nat.ofDigits_cons, ← decimal, ← ih, Nat.add_comm,
      Nat.mul_comm]
    rfl

/-- A numeral is an optional plus sign and decimal digits, with a value below `bound`. -/
structure Counts (bound : Nat) (text : List Char) (n : Nat) : Prop where
  written : ∃ digits, (text = digits ∨ text = '+' :: digits) ∧ digits ≠ [] ∧
    (∀ d ∈ digits, d.isDigit = true) ∧ decimal digits = n
  below : n < bound

theorem Counts.exists_cons {bound : Nat} {text : List Char} {n : Nat} (counts : Counts bound text n) :
    ∃ c rest, text = c :: rest ∧ (c = '+' ∨ c.isDigit = true) := by
  obtain ⟨digits, rfl | rfl, nonempty, decimal, -⟩ := counts.written
  · obtain ⟨d, rest, rfl⟩ := List.exists_cons_of_ne_nil nonempty
    exact ⟨d, rest, rfl, .inr (decimal d List.mem_cons_self)⟩
  · exact ⟨'+', digits, rfl, .inl rfl⟩

theorem readNumeral_eq_some_iff {bound : Nat} {text : List Char} {n : Nat} :
    readNumeral bound text = some n ↔ Counts bound text n := by
  constructor
  · intro read
    simp only [readNumeral, digitsValue_eq, Option.ite_none_right_eq_some, Option.some.injEq,
      List.all_eq_true] at read
    obtain ⟨⟨nonempty, digits, below⟩, rfl⟩ := read
    refine ⟨⟨_, ?_, nonempty, digits, rfl⟩, below⟩
    split
    · exact .inr rfl
    · exact .inl rfl
  · rintro ⟨⟨digits, sign, nonempty, all, rfl⟩, below⟩
    rcases sign with rfl | rfl
    · obtain ⟨d, rest, rfl⟩ := List.exists_cons_of_ne_nil nonempty
      have unsigned : d ≠ '+' := by
        rintro rfl
        exact absurd (all '+' List.mem_cons_self) (by decide)
      rw [List.forall_mem_cons] at all
      simpa [readNumeral, unsigned, digitsValue_eq, below] using all
    · simp [readNumeral, digitsValue_eq, nonempty, below, List.all_eq_true.2 all]

theorem decimal_toDigits (n : ℕ) : decimal (Nat.toDigits 10 n) = n := by
  have value : Nat.ofDigitChars 10 (Nat.toDigits 10 n) 0 = n :=
    Nat.ofDigitChars_toDigits (by decide) (by decide)
  rw [Nat.ofDigitChars] at value
  rw [← digitsValue_eq, digitsValue]
  simpa only [Nat.mul_comm] using value

theorem decimal_append (a b : List Char) :
    decimal (a ++ b) = decimal a * 10 ^ b.length + decimal b := by
  rw [decimal, List.reverse_append, List.map_append, Nat.ofDigits_append, List.length_map,
    List.length_reverse, Nat.add_comm, Nat.mul_comm]
  rfl

theorem decimal_zeros (n : ℕ) : decimal (List.replicate n '0') = 0 := by
  induction n with
  | zero => rfl
  | succ n ih => rw [List.replicate_succ', decimal_append, ih, Nat.zero_mul]; rfl

theorem counts_toDigits {n bound : Nat} (below : n < bound) :
    Counts bound (Nat.toDigits 10 n) n :=
  ⟨⟨_, .inl rfl, Nat.toDigits_ne_nil,
    fun _ member => Nat.isDigit_of_mem_toDigits (by decide) (by decide) member, decimal_toDigits n⟩,
    below⟩

end Readiness.Text
