import Mathlib.Data.List.Basic
import Mathlib.Data.List.Pairwise
import Readiness.Proofs.Text.Parts
import Readiness.Scenario.Phrase

/-! Phrases, and the texts that are written in them. What is in quotes may look like another phrase; that
no text is written in two phrases is read off the first place where their wordings part. -/
namespace Readiness.Scenario

namespace Piece

/-- What may stand between two quotes: no such quote and no backslash, but for those that a backslash
stands before; what it stands before is in the same line. -/
inductive Quotable (quote : Char) : List Char → Prop
  | nil : Quotable quote []
  | plain {c : Char} {text : List Char} (unmarked : c ≠ quote ∧ c ≠ '\\')
    (more : Quotable quote text) : Quotable quote (c :: text)
  | escaped {c : Char} {text : List Char} (sameLine : c ≠ '\n') (more : Quotable quote text) :
    Quotable quote ('\\' :: c :: text)

inductive Spells : Piece → List Char → List String → Prop
  | words (wording : String) : Spells (.words wording) wording.toList []
  | oneOf {wordings : List String} {wording : String} (listed : wording ∈ wordings) :
    Spells (.oneOf wordings) wording.toList [wording]
  | quoted {quote : Char} {text : List Char} (sort : quote = '"' ∨ quote = '\'')
    (inside : Quotable quote text) :
    Spells .quoted (quote :: (text ++ [quote])) [String.ofList text]
  | name {text : List Char} (nonempty : text ≠ []) (unquoted : '"' ∉ text) :
    Spells .name ('"' :: (text ++ ['"'])) [String.ofList text]
  | word {text : List Char} (nonempty : text ≠ [])
    (solid : ∀ c ∈ text, Text.isWordChar c = true) : Spells .word text [String.ofList text]

inductive SpellAll : List Piece → List Char → List String → Prop
  | nil : SpellAll [] [] []
  | cons {piece : Piece} {pieces : List Piece} {text rest : List Char} {found others : List String}
    (first : piece.Spells text found) (more : SpellAll pieces rest others) :
    SpellAll (piece :: pieces) (text ++ rest) (found ++ others)

theorem exists_closing {quote : Char} {text inside rest : List Char}
    (closes : closing quote text = some (inside, rest)) :
    text = inside ++ quote :: rest ∧ Quotable quote inside := by
  fun_induction closing quote text generalizing inside with
  | case1 => cases closes
  | case2 => cases closes
  | case3 c more sameLine ih =>
    obtain ⟨⟨chars, left⟩, found, same⟩ := Option.map_eq_some_iff.1 closes
    obtain ⟨rfl, rfl⟩ := Prod.mk.inj same
    obtain ⟨rfl, quotable⟩ := ih found
    exact ⟨rfl, .escaped sameLine quotable⟩
  | case4 =>
    obtain ⟨rfl, rfl⟩ := Prod.mk.inj (Option.some.inj closes)
    exact ⟨rfl, .nil⟩
  | case5 => cases closes
  | case6 c more _ unquoted plain ih =>
    obtain ⟨⟨chars, left⟩, found, same⟩ := Option.map_eq_some_iff.1 closes
    obtain ⟨rfl, rfl⟩ := Prod.mk.inj same
    obtain ⟨rfl, quotable⟩ := ih found
    exact ⟨rfl, .plain ⟨unquoted, plain⟩ quotable⟩

theorem Quotable.closing_eq {quote : Char} {inside : List Char} (quotable : Quotable quote inside)
    (unescaping : quote ≠ '\\') (rest : List Char) :
    closing quote (inside ++ quote :: rest) = some (inside, rest) := by
  induction quotable with
  | nil => simp [closing, unescaping]
  | plain unmarked more ih => simp [closing, unmarked, ih]
  | escaped sameLine more ih => simp [closing, sameLine, ih]

theorem afterWords_eq_some_iff {wording : String} {text rest : List Char} :
    afterWords wording text = some rest ↔ text = wording.toList ++ rest := by
  simp only [afterWords, Option.ite_none_right_eq_some, Option.some.injEq, List.isPrefixOf_iff_prefix]
  constructor
  · rintro ⟨⟨more, rfl⟩, rfl⟩
    simp
  · rintro rfl
    simp

theorem exists_spelled {piece : Piece} {text rest : List Char} {found : List String}
    (read : (found, rest) ∈ piece.readings text) :
    ∃ written, text = written ++ rest ∧ piece.Spells written found := by
  unfold readings at read
  split at read
  · next wording =>
    simp only [List.mem_map, Option.mem_toList, afterWords_eq_some_iff, Prod.mk.injEq] at read
    obtain ⟨_, rfl, rfl, rfl⟩ := read
    exact ⟨_, rfl, .words wording⟩
  · simp only [List.mem_flatMap, List.mem_map, Option.mem_toList, afterWords_eq_some_iff,
      Prod.mk.injEq] at read
    obtain ⟨wording, listed, _, rfl, rfl, rfl⟩ := read
    exact ⟨_, rfl, .oneOf listed⟩
  · simp only [List.mem_map, Option.mem_toList, Prod.mk.injEq, Prod.exists] at read
    obtain ⟨inside, _, closes, rfl, rfl⟩ := read
    obtain ⟨rfl, quotable⟩ := exists_closing closes
    exact ⟨_, by simp, .quoted (.inl rfl) quotable⟩
  · simp only [List.mem_map, Option.mem_toList, Prod.mk.injEq, Prod.exists] at read
    obtain ⟨inside, _, closes, rfl, rfl⟩ := read
    obtain ⟨rfl, quotable⟩ := exists_closing closes
    exact ⟨_, by simp, .quoted (.inr rfl) quotable⟩
  · split at read
    · next c inside left cut =>
      obtain ⟨rfl, rfl⟩ := Prod.mk.inj (List.mem_singleton.1 read)
      obtain ⟨rfl, unquoted⟩ := Text.cut_eq_some_iff.1 cut
      exact ⟨_, by simp, .name (List.cons_ne_nil c inside) unquoted⟩
    · cases read
  · split at read
    · cases read
    · next taken some =>
      obtain ⟨rfl, rfl⟩ := Prod.mk.inj (List.mem_singleton.1 read)
      refine ⟨_, List.takeWhile_append_dropWhile.symm, .word some fun c member => ?_⟩
      exact List.mem_takeWhile_imp member
  · cases read

theorem Spells.mem_readings {piece : Piece} {text rest : List Char} {found : List String}
    (spells : piece.Spells text found)
    (ends : piece = .word → ∀ c, rest.head? = some c → Text.isWordChar c = false) :
    (found, rest) ∈ piece.readings (text ++ rest) := by
  cases spells with
  | words wording => simp [readings, afterWords_eq_some_iff.2]
  | oneOf listed => simp [readings, afterWords_eq_some_iff, listed]
  | @quoted quote inside sort quotable =>
    have closes := quotable.closing_eq (by rcases sort with rfl | rfl <;> decide) rest
    rcases sort with rfl | rfl <;> simp [readings, closes]
  | @name inside nonempty unquoted =>
    obtain ⟨c, more, rfl⟩ := List.exists_cons_of_ne_nil nonempty
    have cut : Text.cut '"' (c :: more ++ '"' :: rest) = some (c :: more, rest) :=
      Text.cut_eq_some_iff.2 ⟨rfl, unquoted⟩
    simp at cut
    simp [readings, cut]
  | word nonempty solid =>
    have stop : rest.takeWhile Text.isWordChar = [] ∧ rest.dropWhile Text.isWordChar = rest := by
      cases rest with
      | nil => exact ⟨rfl, rfl⟩
      | cons c more => simp [ends rfl c rfl]
    obtain ⟨c, more, rfl⟩ := List.exists_cons_of_ne_nil nonempty
    have taken : (c :: more ++ rest).takeWhile Text.isWordChar = c :: more := by
      rw [List.takeWhile_append_of_pos solid, stop.1, List.append_nil]
    have left : (c :: more ++ rest).dropWhile Text.isWordChar = rest := by
      rw [List.dropWhile_append_of_pos solid, stop.2]
    simp only [readings, taken, left]
    simp

/-- Whether no word goes on in what the pieces begin with. -/
def endsWord : List Piece → Bool
  | [] => true
  | .words wording :: _ => wording.toList.head?.any fun c => !Text.isWordChar c
  | _ => false

def settled : List Piece → Bool
  | [] => true
  | piece :: rest => (piece != .word || endsWord rest) && settled rest

theorem mem_readAll_nil {text : List Char} {arguments : List String} :
    arguments ∈ readAll [] text ↔ text = [] ∧ arguments = [] := by
  cases text <;> simp [readAll]

theorem mem_readAll_cons {piece : Piece} {pieces : List Piece} {text : List Char}
    {arguments : List String} : arguments ∈ readAll (piece :: pieces) text ↔
      ∃ found rest others, (found, rest) ∈ piece.readings text ∧ others ∈ readAll pieces rest ∧
        arguments = found ++ others := by
  simp only [readAll, List.mem_flatMap, List.mem_map, Prod.exists]
  constructor
  · rintro ⟨found, rest, first, others, more, rfl⟩
    exact ⟨found, rest, others, first, more, rfl⟩
  · rintro ⟨found, rest, others, first, more, rfl⟩
    exact ⟨found, rest, first, others, more, rfl⟩

theorem spellAll_of_mem {pieces : List Piece} {text : List Char} {arguments : List String}
    (read : arguments ∈ readAll pieces text) : SpellAll pieces text arguments := by
  induction pieces generalizing text arguments with
  | nil =>
    obtain ⟨rfl, rfl⟩ := mem_readAll_nil.1 read
    exact .nil
  | cons piece pieces ih =>
    obtain ⟨found, rest, others, first, more, rfl⟩ := mem_readAll_cons.1 read
    obtain ⟨written, rfl, spells⟩ := exists_spelled first
    exact .cons spells (ih more)

theorem SpellAll.head_not_word {pieces : List Piece} {text : List Char} {arguments : List String}
    (spells : SpellAll pieces text arguments) (ends : endsWord pieces = true) :
    ∀ c, text.head? = some c → Text.isWordChar c = false := by
  cases spells with
  | nil => exact nofun
  | cons first more =>
    cases first with
    | words wording =>
      simp only [endsWord] at ends
      cases begins : wording.toList with
      | nil => simp [begins] at ends
      | cons c rest => simpa [begins] using ends
    | oneOf | quoted | name | word => cases ends

theorem SpellAll.mem_readAll {pieces : List Piece} {text : List Char} {arguments : List String}
    (spells : SpellAll pieces text arguments) (ends : settled pieces = true) :
    arguments ∈ readAll pieces text := by
  induction spells with
  | nil => exact List.mem_singleton_self _
  | @cons piece pieces text rest found others first more ih =>
    simp only [settled, Bool.and_eq_true, Bool.or_eq_true, bne_iff_ne, ne_eq] at ends
    refine mem_readAll_cons.2 ⟨found, rest, others, first.mem_readings ?_, ih ends.2, rfl⟩
    rintro rfl
    exact more.head_not_word (ends.1.resolve_left (· rfl))

/-- The pieces with one wording for each that leaves a choice. -/
def forms : List Piece → List (List Piece)
  | [] => [[]]
  | .oneOf wordings :: rest =>
    wordings.flatMap fun wording => (forms rest).map (.oneOf [wording] :: ·)
  | piece :: rest => (forms rest).map (piece :: ·)

def IsFixed : Piece → Prop
  | .oneOf wordings => wordings.length = 1
  | _ => True

theorem fixed_of_mem_forms {pieces form : List Piece} (member : form ∈ forms pieces) :
    ∀ piece ∈ form, piece.IsFixed := by
  induction pieces generalizing form with
  | nil =>
    obtain rfl := List.mem_singleton.1 member
    exact nofun
  | cons piece pieces ih =>
    cases piece with
    | oneOf wordings =>
      simp only [forms, List.mem_flatMap, List.mem_map] at member
      obtain ⟨wording, -, rest, inside, rfl⟩ := member
      exact List.forall_mem_cons.2 ⟨rfl, ih inside⟩
    | words | quoted | name | word =>
      obtain ⟨rest, inside, rfl⟩ := List.mem_map.1 member
      exact List.forall_mem_cons.2 ⟨trivial, ih inside⟩

theorem exists_form {pieces : List Piece} {text : List Char} {arguments : List String}
    (read : arguments ∈ readAll pieces text) :
    ∃ form ∈ forms pieces, arguments ∈ readAll form text := by
  induction pieces generalizing text arguments with
  | nil => exact ⟨[], List.mem_singleton_self _, read⟩
  | cons piece pieces ih =>
    obtain ⟨found, rest, others, first, more, rfl⟩ := mem_readAll_cons.1 read
    obtain ⟨form, member, inside⟩ := ih more
    have whole {piece' : Piece} (first : (found, rest) ∈ piece'.readings text) :
        found ++ others ∈ readAll (piece' :: form) text :=
      mem_readAll_cons.2 ⟨found, rest, others, first, inside, rfl⟩
    cases piece with
    | oneOf wordings =>
      simp only [readings, List.mem_flatMap, List.mem_map] at first
      obtain ⟨wording, listed, left, after, same⟩ := first
      refine ⟨.oneOf [wording] :: form, ?_, whole ?_⟩
      · simp only [forms, List.mem_flatMap, List.mem_map]
        exact ⟨wording, listed, form, member, rfl⟩
      · simp only [readings, List.flatMap_singleton, List.mem_map]
        exact ⟨left, after, same⟩
    | words | quoted | name | word =>
      exact ⟨_, List.mem_map.2 ⟨form, member, rfl⟩, whole first⟩

theorem readings_unique {piece : Piece} (fixed : piece.IsFixed) {text : List Char}
    {one other : List String × List Char} (first : one ∈ piece.readings text)
    (second : other ∈ piece.readings text) : one = other := by
  have short : (piece.readings text).length ≤ 1 := by
    unfold readings
    split
    · simp [Option.length_toList_le]
    · next wordings =>
      obtain ⟨wording, rfl⟩ := List.length_eq_one_iff.1 fixed
      simp [Option.length_toList_le]
    · simp [Option.length_toList_le]
    · simp [Option.length_toList_le]
    · split <;> simp
    · split <;> simp
    · simp
  cases all : piece.readings text with
  | nil => simp [all] at first
  | cons only rest =>
    obtain rfl : rest = [] := by simpa [all] using short
    rw [all, List.mem_singleton] at first second
    rw [first, second]

theorem readAll_unique {form : List Piece} (fixed : ∀ piece ∈ form, piece.IsFixed)
    {text : List Char} {one other : List String} (first : one ∈ readAll form text)
    (second : other ∈ readAll form text) : one = other := by
  induction form generalizing text one other with
  | nil => rw [(mem_readAll_nil.1 first).2, (mem_readAll_nil.1 second).2]
  | cons piece form ih =>
    obtain ⟨here, later⟩ := List.forall_mem_cons.1 fixed
    obtain ⟨found, rest, arguments, read, inside, rfl⟩ := mem_readAll_cons.1 first
    obtain ⟨found', rest', others, read', inside', rfl⟩ := mem_readAll_cons.1 second
    obtain ⟨rfl, rfl⟩ := Prod.mk.inj (readings_unique here read read')
    rw [ih later inside inside']

def isArgument : Piece → Bool
  | .words _ => false
  | _ => true

theorem SpellAll.length_eq {pieces : List Piece} {text : List Char} {arguments : List String}
    (spells : SpellAll pieces text arguments) :
    arguments.length = pieces.countP isArgument := by
  induction spells with
  | nil => rfl
  | cons first more ih =>
    rw [List.length_append, ih]
    cases first <;> simp [List.countP_cons, isArgument, Nat.add_comm]

/-- What stands in a piece that leaves no choice: a character, or an argument in quotes or as a word. -/
inductive Mark where
  | char (c : Char)
  | argument (piece : Piece)

def marks : Piece → List Mark
  | .words wording => wording.toList.map .char
  | .oneOf wordings => wordings.flatMap fun wording => wording.toList.map .char
  | piece => [.argument piece]

def formMarks (form : List Piece) : List Mark := form.flatMap marks

/-- Whether a text in which the piece is read can begin with the character. -/
def begins (piece : Piece) (c : Char) : Bool :=
  match piece with
  | .quoted => c == '"' || c == '\''
  | .name => c == '"'
  | .word => Text.isWordChar c
  | .words _ | .oneOf _ => true

theorem readings_eq_nil {piece : Piece} {c : Char} (other : piece.begins c = false)
    (rest : List Char) : piece.readings (c :: rest) = [] := by
  cases piece with
  | words | oneOf => cases other
  | quoted | name =>
    simp only [begins, Bool.or_eq_false_iff, beq_eq_false_iff_ne] at other
    simp [readings, other]
  | word =>
    simp only [begins] at other
    simp [readings, other]

def Mark.after (text : List Char) : Mark → Option (List Char)
  | .char c => match text with
    | d :: rest => if c = d then some rest else none
    | [] => none
  | .argument piece => (piece.readings text).head?.map (·.2)

def follow (text : List Char) (marks : List Mark) : Option (List Char) :=
  marks.foldlM Mark.after text

theorem follow_chars (chars rest : List Char) :
    follow (chars ++ rest) (chars.map .char) = some rest := by
  induction chars with
  | nil => rfl
  | cons c chars ih => simpa [follow, Mark.after] using ih

theorem follow_marks {piece : Piece} (fixed : piece.IsFixed) {text rest : List Char}
    {found : List String} (read : (found, rest) ∈ piece.readings text) :
    follow text piece.marks = some rest := by
  have only : (piece.readings text).head?.map (·.2) = some rest := by
    obtain ⟨one, others, all⟩ := List.exists_cons_of_ne_nil (List.ne_nil_of_mem read)
    have same := readings_unique fixed read (all ▸ List.mem_cons_self)
    rw [all, List.head?_cons, ← same]
    rfl
  cases piece with
  | words wording =>
    simp only [readings, List.mem_map, Option.mem_toList, afterWords_eq_some_iff,
      Prod.mk.injEq] at read
    obtain ⟨_, rfl, -, rfl⟩ := read
    exact follow_chars _ _
  | oneOf wordings =>
    obtain ⟨wording, rfl⟩ := List.length_eq_one_iff.1 fixed
    simp only [readings, List.flatMap_singleton, List.mem_map, Option.mem_toList,
      afterWords_eq_some_iff, Prod.mk.injEq] at read
    obtain ⟨_, rfl, -, rfl⟩ := read
    rw [marks, List.flatMap_singleton]
    exact follow_chars _ _
  | quoted | name | word => simpa [follow, marks, Mark.after] using only

theorem follow_formMarks {form : List Piece} (fixed : ∀ piece ∈ form, piece.IsFixed)
    {text : List Char} {arguments : List String} (read : arguments ∈ readAll form text) :
    follow text (formMarks form) = some [] := by
  induction form generalizing text arguments with
  | nil =>
    obtain ⟨rfl, -⟩ := mem_readAll_nil.1 read
    rfl
  | cons piece form ih =>
    obtain ⟨here, later⟩ := List.forall_mem_cons.1 fixed
    obtain ⟨found, rest, others, first, more, -⟩ := mem_readAll_cons.1 read
    have begun := follow_marks here first
    rw [follow] at begun
    rw [follow, formMarks, List.flatMap_cons, List.foldlM_append, begun]
    exact ih later more

/-- Whether it is plain that no text is made of the one marks and of the others as well. -/
def clash : List Mark → List Mark → Bool
  | .char c :: first, .char d :: second => c != d || clash first second
  | .char c :: _, .argument piece :: _ => !piece.begins c
  | .argument piece :: _, .char c :: _ => !piece.begins c
  | .argument piece :: first, .argument other :: second => piece == other && clash first second
  | _, _ => false

theorem not_follow_of_begins {piece : Piece} {c : Char} (other : piece.begins c = false)
    (text : List Char) (more rest : List Mark) :
    follow text (.char c :: more) = none ∨ follow text (.argument piece :: rest) = none := by
  cases text with
  | nil => exact .inl rfl
  | cons d text =>
    by_cases same : c = d
    · subst same
      exact .inr (by simp [follow, Mark.after, readings_eq_nil other])
    · exact .inl (by simp [follow, Mark.after, same])

theorem not_follow_of_clash {first second : List Mark} (apart : clash first second = true)
    (text : List Char) : follow text first = none ∨ follow text second = none := by
  fun_induction clash first second generalizing text with
  | case1 c first d second ih =>
    cases text with
    | nil => exact .inl rfl
    | cons e text =>
      by_cases this : c = e
      · by_cases that : d = e
        · subst this that
          simpa [follow, Mark.after] using ih (by simpa using apart) text
        · exact .inr (by simp [follow, Mark.after, that])
      · exact .inl (by simp [follow, Mark.after, this])
  | case2 => exact not_follow_of_begins (by simpa using apart) ..
  | case3 => exact (not_follow_of_begins (by simpa using apart) ..).symm
  | case4 piece first other second ih =>
    simp only [Bool.and_eq_true, beq_iff_eq] at apart
    obtain ⟨rfl, apart⟩ := apart
    cases left : (piece.readings text).head? with
    | none => exact .inl (by simp [follow, Mark.after, left])
    | some found => simpa [follow, Mark.after, left] using ih apart found.2
  | case5 => cases apart

end Piece

namespace Phrase

/-- The phrases by their place in the list of all, with the forms in which each is written. -/
def numberedForms : List (Nat × List Piece) :=
  all.zipIdx.flatMap fun (phrase, number) => (Piece.forms phrase.pieces).map (number, ·)

theorem numberedForms_clash : numberedForms.Pairwise fun one other =>
    Piece.clash (Piece.formMarks one.2) (Piece.formMarks other.2) = true := by
  decide +kernel

/-- How many arguments a text holds that is written in the phrase. -/
def arity (phrase : Phrase) : Nat := phrase.pieces.countP Piece.isArgument

/-- The phrase means something with any arguments, if there are as many as it holds. -/
def Means (phrase : Phrase) : Prop :=
  ∀ arguments, arguments.length = phrase.arity → ∃ action, phrase.meaning arguments = some action

section Meanings

variable {keywords : List Keyword}

theorem means_fixed {text : String} {action : Action} : (fixed keywords text action).Means := by
  intro arguments count
  obtain rfl := List.eq_nil_of_length_eq_zero count
  exact ⟨_, rfl⟩

theorem means_around {before after : String} {meaning : String → Action} :
    (around keywords before after meaning).Means := by
  intro arguments count
  obtain ⟨argument, rfl⟩ := List.length_eq_one_iff.1 count
  exact ⟨_, rfl⟩

theorem means_between {before middle : String} {meaning : String → String → Action} :
    (between keywords before middle meaning).Means := by
  intro arguments count
  obtain ⟨first, second, rfl⟩ := List.length_eq_two.1 count
  exact ⟨_, rfl⟩

theorem means_projectFromVariable : projectFromVariable.Means := by
  intro arguments count
  obtain ⟨name, rfl⟩ := List.length_eq_one_iff.1 count
  exact ⟨_, rfl⟩

theorem means_manifestCreated : manifestCreated.Means := by
  intro arguments count
  obtain ⟨label, verb, manifest, rfl⟩ := List.length_eq_three.1 count
  exact ⟨_, rfl⟩

theorem means_resourceExists : resourceExists.Means := by
  intro arguments count
  obtain ⟨label, name, rfl⟩ := List.length_eq_two.1 count
  exact ⟨_, rfl⟩

theorem means_resourcesExist : resourcesExist.Means := by
  intro arguments count
  obtain ⟨label, names, rfl⟩ := List.length_eq_two.1 count
  exact ⟨_, rfl⟩

theorem all_mean : ∀ phrase ∈ all, phrase.Means := by
  simp only [all, List.forall_mem_cons, means_fixed, means_around, means_between,
    means_projectFromVariable, means_manifestCreated, means_resourceExists, means_resourcesExist,
    List.not_mem_nil, false_implies, implies_true, and_true]

end Meanings

theorem all_settled : ∀ phrase ∈ all, Piece.settled phrase.pieces = true := by
  decide +kernel

/-- The phrase with this number is a phrase for the keyword, and the text is written in it, with these
arguments. -/
structure Fits (keyword : Keyword) (text : String) (number : Nat) (phrase : Phrase)
    (arguments : List String) : Prop where
  listed : all[number]? = some phrase
  keyed : keyword ∈ phrase.keywords
  spelled : Piece.SpellAll phrase.pieces text.toList arguments

variable {keyword : Keyword} {text : String} {number : Nat} {phrase : Phrase}
variable {arguments : List String}

theorem Fits.read (fits : Fits keyword text number phrase arguments) :
    arguments ∈ Piece.readAll phrase.pieces text.toList :=
  fits.spelled.mem_readAll (all_settled phrase (List.mem_of_getElem? fits.listed))

theorem Fits.exists_form (fits : Fits keyword text number phrase arguments) :
    ∃ form, (number, form) ∈ numberedForms ∧ arguments ∈ Piece.readAll form text.toList ∧
      ∀ piece ∈ form, piece.IsFixed := by
  obtain ⟨form, member, read⟩ := Piece.exists_form fits.read
  refine ⟨form, ?_, read, Piece.fixed_of_mem_forms member⟩
  simp only [numberedForms, List.mem_flatMap, List.mem_map, Prod.exists]
  exact ⟨phrase, number, List.mk_mem_zipIdx_iff_getElem?.2 fits.listed, form, member, rfl⟩

theorem numberedForms_apart {one other : Nat × List Piece} (listed : one ∈ numberedForms)
    (alsoListed : other ∈ numberedForms) (text : List Char)
    (first : Piece.follow text (Piece.formMarks one.2) = some [])
    (second : Piece.follow text (Piece.formMarks other.2) = some []) : one = other := by
  have apart : numberedForms.Pairwise fun one other =>
      Piece.follow text (Piece.formMarks one.2) = none ∨
        Piece.follow text (Piece.formMarks other.2) = none :=
    numberedForms_clash.imp fun clash => Piece.not_follow_of_clash clash text
  by_contra different
  have symmetric : Std.Symm fun one other : Nat × List Piece =>
      Piece.follow text (Piece.formMarks one.2) = none ∨
        Piece.follow text (Piece.formMarks other.2) = none := ⟨fun _ _ => Or.symm⟩
  rcases apart.forall listed alsoListed different with none | none
  · rw [none] at first
    cases first
  · rw [none] at second
    cases second

theorem Fits.unique {number' : Nat} {phrase' : Phrase} {others : List String}
    (fits : Fits keyword text number phrase arguments)
    (also : Fits keyword text number' phrase' others) : number = number' ∧ arguments = others := by
  obtain ⟨form, listed, read, fixed⟩ := fits.exists_form
  obtain ⟨form', listed', read', fixed'⟩ := also.exists_form
  obtain ⟨rfl, rfl⟩ := Prod.mk.inj (numberedForms_apart listed listed' text.toList
    (Piece.follow_formMarks fixed read) (Piece.follow_formMarks fixed' read'))
  exact ⟨rfl, Piece.readAll_unique fixed read read'⟩

theorem Fits.exists_meaning (fits : Fits keyword text number phrase arguments) :
    ∃ action, phrase.meaning arguments = some action :=
  all_mean phrase (List.mem_of_getElem? fits.listed) arguments fits.spelled.length_eq

theorem mem_meanings_iff {action : Action} :
    (action ∈ all.flatMap fun phrase => phrase.meanings keyword text) ↔
      ∃ number phrase arguments, Fits keyword text number phrase arguments ∧
        phrase.meaning arguments = some action := by
  have inOne (phrase : Phrase) : action ∈ phrase.meanings keyword text ↔
      keyword ∈ phrase.keywords ∧ ∃ arguments ∈ Piece.readAll phrase.pieces text.toList,
        phrase.meaning arguments = some action := by
    simp [meanings]
  simp only [List.mem_flatMap, inOne]
  constructor
  · rintro ⟨phrase, member, keyed, arguments, read, means⟩
    obtain ⟨number, listed⟩ := List.getElem?_of_mem member
    exact ⟨number, phrase, arguments, ⟨listed, keyed, Piece.spellAll_of_mem read⟩, means⟩
  · rintro ⟨number, phrase, arguments, fits, means⟩
    exact ⟨phrase, List.mem_of_getElem? fits.listed, fits.keyed, arguments, fits.read, means⟩

theorem exists_fits {action : Action} (found : read keyword text = some action) :
    ∃ number phrase arguments, Fits keyword text number phrase arguments ∧
      phrase.meaning arguments = some action :=
  mem_meanings_iff.1 (List.mem_of_mem_head? found)

theorem Fits.read_eq (fits : Fits keyword text number phrase arguments) :
    Phrase.read keyword text = phrase.meaning arguments := by
  obtain ⟨action, means⟩ := fits.exists_meaning
  have member := mem_meanings_iff.2 ⟨number, phrase, arguments, fits, means⟩
  obtain ⟨first, rest, listed⟩ := List.exists_cons_of_ne_nil (List.ne_nil_of_mem member)
  obtain ⟨number', phrase', others, also, means'⟩ :=
    mem_meanings_iff.1 (listed ▸ List.mem_cons_self)
  obtain ⟨rfl, rfl⟩ := fits.unique also
  obtain rfl := Option.some.inj (fits.listed.symm.trans also.listed)
  rw [Phrase.read, listed, means']
  rfl

/-- A text is written in at most one phrase for a keyword, which determines its arguments. One that is
written in a phrase means what this makes of them; one that is written in none means nothing. -/
theorem step_unambiguous (keyword : Keyword) (text : String) :
    (∀ number number' phrase phrase' arguments others,
      Fits keyword text number phrase arguments → Fits keyword text number' phrase' others →
        number = number' ∧ phrase = phrase' ∧ arguments = others) ∧
    (∀ number phrase arguments, Fits keyword text number phrase arguments →
      ∃ action, phrase.meaning arguments = some action ∧ read keyword text = some action) ∧
    ((∀ number phrase arguments, ¬Fits keyword text number phrase arguments) →
      read keyword text = none) := by
  refine ⟨fun number number' phrase phrase' arguments others fits also => ?_,
    fun number phrase arguments fits => ?_, fun unwritten => ?_⟩
  · obtain ⟨rfl, rfl⟩ := fits.unique also
    exact ⟨rfl, Option.some.inj (fits.listed.symm.trans also.listed), rfl⟩
  · obtain ⟨action, means⟩ := fits.exists_meaning
    exact ⟨action, means, fits.read_eq.trans means⟩
  · refine Option.eq_none_iff_forall_ne_some.2 fun action found => ?_
    obtain ⟨number, phrase, arguments, fits, -⟩ := exists_fits found
    exact unwritten number phrase arguments fits

/-- The name of a template may look like the phrase about templates that are processed. -/
theorem template_unambiguous :
    ∃ phrase, Fits .when "the template 'in \"a\" is processed into the project' is created from \"b\"" 11
        phrase ["in \"a\" is processed into the project", "b"] ∧
      read .when "the template 'in \"a\" is processed into the project' is created from \"b\"" =
        some (.createTemplate "in \"a\" is processed into the project" "b") := by
  have fits : Fits .when
      "the template 'in \"a\" is processed into the project' is created from \"b\"" 11
      (between [.when] "the template " " is created from " .createTemplate)
      ["in \"a\" is processed into the project", "b"] :=
    ⟨rfl, by decide, Piece.spellAll_of_mem (by decide +kernel)⟩
  obtain ⟨action, means, found⟩ := (step_unambiguous _ _).2.1 _ _ _ fits
  exact ⟨_, fits, found.trans means.symm⟩

end Phrase

end Readiness.Scenario
