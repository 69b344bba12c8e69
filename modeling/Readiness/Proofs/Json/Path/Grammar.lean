import Readiness.Json.Path.Reader
import Readiness.Proofs.Text.Parts

/-! The texts that write a path. The grammar says which these are, without a reader; the reader of
paths accepts them and no others, and reads of each the segments that it writes. -/
namespace Readiness.Json.Path

/-- How a name is written: a backslash may stand before any character, and has to stand before a
point, an opening bracket and a backslash. -/
inductive Spells : List Char → List Char → Prop
  | nil : Spells [] []
  | plain {c : Char} {text name : List Char} (unmarked : c ≠ '.' ∧ c ≠ '[' ∧ c ≠ '\\')
    (rest : Spells text name) : Spells (c :: text) (c :: name)
  | escaped {c : Char} {text name : List Char} (rest : Spells text name) :
    Spells ('\\' :: c :: text) (c :: name)

inductive Selects : List Char → Segment → Prop
  | wildcard : Selects ['*'] .wildcard
  | field (key : List Char) : Selects ('\'' :: (key ++ ['\''])) (.field (String.ofList key))
  | index {text : List Char} {n : Nat} (counts : Text.Counts (2 ^ 64) text n) :
    Selects text (.index n)

inductive WritesSegment : List Char → Segment → Prop
  | name {text name : List Char} (spells : Spells text name) (nonempty : name ≠ []) :
    WritesSegment ('.' :: text)
      (if name = ['*'] then .wildcard else .field (String.ofList name))
  | subscript {body core : List Char} {s : Segment} (closed : ']' ∉ body)
    (trims : Text.Trims body core) (selects : Selects core s) :
    WritesSegment ('[' :: (body ++ [']'])) s

inductive Writes : List Char → Path → Prop
  | nil : Writes [] []
  | cons {first rest : List Char} {s : Segment} {path : Path} (segment : WritesSegment first s)
    (more : Writes rest path) : Writes (first ++ rest) (s :: path)

/-- A text between braces, or one that neither begins with a brace nor ends with one. -/
inductive Braces : List Char → List Char → Prop
  | both (inner : List Char) : Braces ('\x7b' :: (inner ++ ['\x7d'])) inner
  | neither {text : List Char} (first : text.head? ≠ some '\x7b')
    (last : text.getLast? ≠ some '\x7d') : Braces text text

/-- Without blanks at its ends, without braces and without a dollar sign the text is what the
segments of the path are written as, one after another. -/
def IsWritten (text : List Char) (path : Path) : Prop :=
  ∃ core inner body, Text.Trims text core ∧ Braces core inner ∧
    (inner = body ∨ inner = '$' :: body) ∧ Writes body path

/-- A name is over before a point, before an opening bracket and at the end. -/
def EndsName (rest : List Char) : Prop := ∀ c, rest.head? = some c → c = '.' ∨ c = '['

theorem exists_of_map_cons {c : Char} {name rest : List Char}
    {read : Except Fault (List Char × List Char)}
    (made : (read.map fun (chars, rest) => (c :: chars, rest)) = .ok (name, rest)) :
    ∃ chars, name = c :: chars ∧ read = .ok (chars, rest) := by
  cases read with
  | error => cases made
  | ok pair =>
    obtain ⟨rfl, rfl⟩ : c :: pair.1 = name ∧ pair.2 = rest := by simpa [Except.map] using made
    exact ⟨_, rfl, rfl⟩

theorem name_spells {text name rest : List Char} (read : Path.name text = .ok (name, rest)) :
    ∃ written, text = written ++ rest ∧ Spells written name := by
  fun_induction Path.name text generalizing name rest with
  | case1 =>
    obtain ⟨rfl, rfl⟩ : [] = name ∧ [] = rest := by simpa using read
    exact ⟨[], rfl, .nil⟩
  | case2 => cases read
  | case3 c more ih =>
    obtain ⟨chars, rfl, found⟩ := exists_of_map_cons read
    obtain ⟨written, rfl, spells⟩ := ih found
    exact ⟨_, rfl, .escaped spells⟩
  | case4 c more _ _ ends =>
    obtain ⟨rfl, rfl⟩ : [] = name ∧ c :: more = rest := by simpa using read
    exact ⟨[], rfl, .nil⟩
  | case5 c more dangling escape goesOn ih =>
    obtain ⟨chars, rfl, found⟩ := exists_of_map_cons read
    obtain ⟨written, rfl, spells⟩ := ih found
    have unescaped : c ≠ '\\' := by
      rintro rfl
      cases ahead : written ++ rest with
      | nil => exact dangling rfl ahead
      | cons d tail => exact escape d tail rfl ahead
    refine ⟨_, rfl, .plain ?_ spells⟩
    tauto

theorem Spells.name_eq {written name rest : List Char} (spells : Spells written name)
    (ends : EndsName rest) : Path.name (written ++ rest) = .ok (name, rest) := by
  induction spells with
  | nil =>
    cases rest with
    | nil => rfl
    | cons c more =>
      have stop := ends c rfl
      rcases stop with rfl | rfl <;> simp [Path.name]
  | @plain c text name unmarked _ ih =>
    obtain ⟨point, bracket, escape⟩ := unmarked
    simp [Path.name, escape, point, bracket, ih, Except.map]
  | escaped _ ih => simp [Path.name, ih, Except.map]

theorem unquoted_eq_some_iff {core key : List Char} :
    unquoted core = some key ↔ core = '\'' :: (key ++ ['\'']) := by
  unfold unquoted
  split
  · next rest =>
    rw [Option.ite_none_right_eq_some, Option.some.injEq, List.cons.injEq,
      List.getLast?_eq_some_iff]
    constructor
    · rintro ⟨⟨front, rfl⟩, rfl⟩
      simp
    · rintro ⟨-, rfl⟩
      exact ⟨⟨key, rfl⟩, by simp⟩
  · next unquoted =>
    refine iff_of_false nofun ?_
    rintro rfl
    exact unquoted _ rfl

theorem Selects.subscript_eq {body core : List Char} {s : Segment} (trims : Text.Trims body core)
    (selects : Selects core s) : subscript body = .ok s := by
  rw [subscript, trims.eq]
  cases selects with
  | wildcard => rfl
  | field key => simp [unquoted_eq_some_iff.2]
  | index counts =>
    obtain ⟨c, rest, rfl, initial⟩ := counts.exists_cons
    have neither : c ≠ '*' ∧ c ≠ '\'' := by
      refine ⟨?_, ?_⟩ <;> rintro rfl <;> simp_all
    have unquoted : unquoted (c :: rest) = none := by
      rw [Option.eq_none_iff_forall_ne_some]
      intro key found
      exact neither.2 (List.cons.inj (unquoted_eq_some_iff.1 found)).1
    have read : Text.readNumeral Text.wordBound (c :: rest) = some _ :=
      Text.readNumeral_eq_some_iff.2 counts
    simp [neither.1, unquoted, read]

theorem subscript_selects {body : List Char} {s : Segment} (read : subscript body = .ok s) :
    Selects (Text.trim body) s := by
  unfold subscript at read
  simp only at read
  split at read
  · next wildcard =>
    obtain rfl := Except.ok.inj read
    exact wildcard ▸ .wildcard
  · split at read
    · next key found =>
      obtain rfl := Except.ok.inj read
      rw [unquoted_eq_some_iff.1 found]
      exact .field key
    · split at read
      · next n found =>
        obtain rfl := Except.ok.inj read
        exact .index (Text.readNumeral_eq_some_iff.1 found)
      · cases read

theorem segment_writes {text rest : List Char} {s : Segment} (read : segment text = .ok (s, rest)) :
    ∃ written, text = written ++ rest ∧ WritesSegment written s := by
  unfold segment at read
  split at read
  · next text =>
    cases found : Path.name text with
    | error => simp [found, Except.bind] at read
    | ok pair =>
      by_cases empty : pair.1 = []
      · simp [found, empty, Except.bind] at read
      · obtain ⟨rfl, rfl⟩ : named pair.1 = s ∧ pair.2 = rest := by
          simpa [found, empty, Except.bind] using read
        obtain ⟨written, rfl, spells⟩ := name_spells found
        exact ⟨_, rfl, .name spells empty⟩
  · next text =>
    cases found : Text.cut ']' text with
    | none => simp [found] at read
    | some pair =>
      obtain ⟨split, closed⟩ := Text.cut_eq_some_iff.1 found
      cases selected : subscript pair.1 with
      | error => simp [found, selected, Except.map] at read
      | ok s' =>
        obtain ⟨rfl, rfl⟩ : s' = s ∧ pair.2 = rest := by
          simpa [found, selected, Except.map] using read
        refine ⟨_, ?_, .subscript closed (Text.trims_trim _) (subscript_selects selected)⟩
        simp [split]
  · cases read

theorem WritesSegment.segment_eq {written rest : List Char} {s : Segment}
    (writes : WritesSegment written s) (ends : EndsName rest) :
    segment (written ++ rest) = .ok (s, rest) := by
  cases writes with
  | name spells nonempty =>
    simp [segment, spells.name_eq ends, nonempty, Except.bind, named]
  | @subscript body core _ closed trims selects =>
    have found : Text.cut ']' (body ++ ']' :: rest) = some (body, rest) :=
      Text.cut_eq_some_iff.2 ⟨rfl, closed⟩
    simp [segment, found, selects.subscript_eq trims, Except.map]

theorem WritesSegment.endsName {written : List Char} {s : Segment} (writes : WritesSegment written s)
    (rest : List Char) : written ++ rest ≠ [] ∧ EndsName (written ++ rest) := by
  cases writes <;> simp [EndsName, eq_comm]

theorem Writes.endsName {text : List Char} {path : Path} (writes : Writes text path) :
    EndsName text := by
  cases writes with
  | nil => exact nofun
  | cons segment => exact (segment.endsName _).2

theorem segments_cons {text : List Char} {path : Path} (nonempty : text ≠ [])
    (read : segments text = .ok path) : ∃ s rest more, path = s :: more ∧
      segment text = .ok (s, rest) ∧ segments rest = .ok more := by
  rw [segments_of_ne_nil nonempty] at read
  cases first : segment text with
  | error => simp [first, Except.bind] at read
  | ok pair =>
    cases following : segments pair.2 with
    | error => simp [first, following, Except.bind, Except.map] at read
    | ok more =>
      obtain rfl : pair.1 :: more = path := by
        simpa [first, following, Except.bind, Except.map] using read
      exact ⟨_, _, _, rfl, rfl, following⟩

theorem segments_write {text : List Char} {path : Path} (read : segments text = .ok path) :
    Writes text path := by
  induction path generalizing text with
  | nil =>
    by_cases nonempty : text = []
    · subst nonempty
      exact .nil
    · obtain ⟨_, _, _, same, -⟩ := segments_cons nonempty read
      cases same
  | cons s path ih =>
    have nonempty : text ≠ [] := by
      rintro rfl
      rw [segments_nil] at read
      cases read
    obtain ⟨s', rest, more, same, first, following⟩ := segments_cons nonempty read
    obtain ⟨rfl, rfl⟩ := List.cons.inj same
    obtain ⟨written, rfl, writes⟩ := segment_writes first
    exact .cons writes (ih following)

theorem Writes.segments_eq {text : List Char} {path : Path} (writes : Writes text path) :
    segments text = .ok path := by
  induction writes with
  | nil => exact segments_nil
  | cons segment more ih =>
    rw [segments_of_ne_nil (segment.endsName _).1, segment.segment_eq more.endsName]
    simp [Except.bind, ih, Except.map]

theorem writes_dropRoot_iff {inner : List Char} {path : Path} :
    Writes (dropRoot inner) path ↔
      ∃ body, (inner = body ∨ inner = '$' :: body) ∧ Writes body path := by
  constructor
  · intro writes
    unfold dropRoot at writes
    split at writes
    · exact ⟨_, .inr rfl, writes⟩
    · exact ⟨_, .inl rfl, writes⟩
  · rintro ⟨body, rfl | rfl, writes⟩
    · unfold dropRoot
      split
      · have := writes.endsName '$' rfl
        simp at this
      · exact writes
    · exact writes

theorem braces_of_ends {core : List Char} (first : core.head? = some '\x7b')
    (last : core.getLast? = some '\x7d') : Braces core core.tail.dropLast := by
  obtain ⟨rest, rfl⟩ := List.head?_eq_some_iff.1 first
  cases rest using List.reverseRecOn with
  | nil => simp at last
  | append_singleton inner c =>
    rw [← List.cons_append, List.getLast?_concat, Option.some.injEq] at last
    subst last
    simpa using .both inner

theorem unbraced_eq_ok_iff {core inner : List Char} :
    unbraced core = .ok inner ↔ Braces core inner := by
  unfold unbraced
  constructor
  · intro read
    split at read
    · next first last =>
      obtain rfl := Except.ok.inj read
      exact braces_of_ends (by simpa using first) (by simpa using last)
    · next first last =>
      obtain rfl := Except.ok.inj read
      exact .neither (by simpa using first) (by simpa using last)
    · cases read
  · intro braces
    cases braces with
    | both inner =>
      have last : ('\x7b' :: (inner ++ ['\x7d'])).getLast? = some '\x7d' := by
        rw [← List.cons_append, List.getLast?_concat]
      simp [last]
    | neither first last => simp [beq_false_of_ne first, beq_false_of_ne last]

theorem parse_eq_ok_iff {text : List Char} {path : Path} :
    parse text = .ok path ↔ IsWritten text path := by
  constructor
  · intro read
    unfold parse at read
    cases bare : unbraced (Text.trim text) with
    | error => simp [bare, Except.bind] at read
    | ok inner =>
      rw [bare] at read
      obtain ⟨body, root, writes⟩ := writes_dropRoot_iff.1 (segments_write read)
      exact ⟨_, inner, body, Text.trims_trim text, unbraced_eq_ok_iff.1 bare, root, writes⟩
  · rintro ⟨core, inner, body, trims, braces, root, writes⟩
    have rooted : Writes (dropRoot inner) path := writes_dropRoot_iff.2 ⟨body, root, writes⟩
    rw [parse, trims.eq, unbraced_eq_ok_iff.2 braces]
    exact rooted.segments_eq

theorem IsWritten.unique {text : List Char} {p q : Path} (first : IsWritten text p)
    (second : IsWritten text q) : p = q :=
  Except.ok.inj ((parse_eq_ok_iff.2 first).symm.trans (parse_eq_ok_iff.2 second))

/-- A path is read from the texts that write one, and from no others. -/
theorem ofText_reads_written (s : String) :
    (∀ path, ofText s = .ok path ↔ IsWritten s.toList path) ∧
      ((∃ fault, ofText s = .error ⟨s, fault⟩) ↔ ∀ path, ¬ IsWritten s.toList path) := by
  simp only [← parse_eq_ok_iff]
  unfold ofText
  cases read : parse s.toList with
  | ok path => simp
  | error fault => simp

end Readiness.Json.Path
