import Mathlib.Data.List.Forall2
import Readiness.Proofs.Json.Compact
import Readiness.Proofs.Json.Path.Grammar

/-! Paths written one after the other. The end of a written path is always the end of a segment, so
the segments of two paths follow each other as their texts do; and the values that a path leads to
are the same whether they are gathered segment by segment over the whole document or followed from
each value on its own. -/
namespace Readiness.Json.Path

/-- A text without blanks at its ends and without braces around it. -/
structure IsBare (s : String) : Prop where
  trimmed : Text.trimmed s = s
  unbraced : ¬ (s.toList.head? = some '\x7b' ∧ s.toList.getLast? = some '\x7d')

theorem ofText_eq_ok_iff {s : String} {path : Path} :
    ofText s = .ok path ↔ IsWritten s.toList path := by
  rw [← parse_eq_ok_iff, ofText]
  cases parse s.toList <;> simp

/-- What a bare text writes, it writes as it is but for a dollar sign in front. -/
theorem IsBare.writes {s : String} {path : Path} (bare : IsBare s) (read : ofText s = .ok path) :
    s.toList.head? ≠ some '\x7b' ∧ s.toList.getLast? ≠ some '\x7d' ∧
      ∃ body, (s.toList = body ∨ s.toList = '$' :: body) ∧ Writes body path := by
  obtain ⟨core, inner, body, trims, braces, root, writes⟩ := ofText_eq_ok_iff.1 read
  obtain rfl : s.toList = core := (Text.trims_of_trimmed_eq bare.trimmed).eq.symm.trans trims.eq
  generalize text : s.toList = written at *
  cases braces with
  | both =>
    refine absurd ⟨?_, ?_⟩ bare.unbraced <;> rw [text]
    · rfl
    · rw [← List.cons_append, List.getLast?_concat]
  | neither first last => exact ⟨first, last, body, root, writes⟩

theorem IsBare.writes_of_rootless {s : String} {path : Path} (bare : IsBare s)
    (rootless : s.toList.head? ≠ some '$') (read : ofText s = .ok path) : Writes s.toList path := by
  obtain ⟨-, -, body, same | dollar, writes⟩ := bare.writes read
  · rwa [same]
  · exact absurd (by rw [dollar]; rfl) rootless

theorem ofText_of_writes {s : String} {path : Path} (trimmed : Text.trimmed s = s)
    (ends : s.toList.head? ≠ some '\x7b' ∧ s.toList.getLast? ≠ some '\x7d') {body : List Char}
    (root : s.toList = body ∨ s.toList = '$' :: body) (writes : Writes body path) :
    ofText s = .ok path :=
  ofText_eq_ok_iff.2 ⟨_, _, _, Text.trims_of_trimmed_eq trimmed, .neither ends.1 ends.2, root, writes⟩

theorem Writes.append {first second : List Char} {p q : Path} (writes : Writes first p)
    (more : Writes second q) : Writes (first ++ second) (p ++ q) := by
  induction writes with
  | nil => exact more
  | cons segment _ ih =>
    rw [List.append_assoc]
    exact .cons segment ih

theorem ofText_concat {s t : String} {p q : Path} (front : IsBare s) (back : IsBare t)
    (rootless : t.toList.head? ≠ some '$') (readFront : ofText s = .ok p)
    (readBack : ofText t = .ok q) : ofText (s ++ t) = .ok (p ++ q) := by
  have more := back.writes_of_rootless rootless readBack
  obtain ⟨opens, closes, body, root, writes⟩ := front.writes readFront
  obtain ⟨opens', closes', -⟩ := back.writes readBack
  have whole : (s ++ t).toList = s.toList ++ t.toList := String.toList_append
  refine ofText_of_writes (Text.Trims.trimmed_eq ?_) ⟨?_, ?_⟩ ?_
    (writes.append more) <;> rw [whole]
  · exact (Text.trims_of_trimmed_eq front.trimmed).append (Text.trims_of_trimmed_eq back.trimmed)
  · rw [List.head?_append, Ne, Option.or_eq_some_iff]
    tauto
  · rw [List.getLast?_append, Ne, Option.or_eq_some_iff]
    tauto
  · rcases root with same | dollar
    · exact .inl (by rw [same])
    · exact .inr (by rw [dollar, List.cons_append])

section Subscripts

theorem isBare_wildcard : IsBare "[*]" := by
  constructor <;> decide

theorem writesSegment_wildcard : WritesSegment "[*]".toList .wildcard := by
  have trims : Text.Trims ['*'] ['*'] := Text.trims_self rfl rfl (by decide)
  exact .subscript (by decide) trims .wildcard

theorem ofText_wildcard : ofText "[*]" = .ok [.wildcard] :=
  ofText_of_writes isBare_wildcard.trimmed (by decide) (.inl rfl) (.cons writesSegment_wildcard .nil)

def placeText (i : Nat) : String := "[" ++ toString i ++ "]"

theorem toList_placeText (i : Nat) :
    (placeText i).toList = '[' :: (Nat.toDigits 10 i ++ [']']) := by
  rw [placeText, String.toList_append, String.toList_append, Nat.toString_eq_repr, Nat.toList_repr]
  rfl

theorem head?_placeText (i : Nat) : (placeText i).toList.head? = some '[' := by
  rw [toList_placeText]
  rfl

theorem getLast?_placeText (i : Nat) : (placeText i).toList.getLast? = some ']' := by
  rw [toList_placeText, ← List.cons_append, List.getLast?_concat]

theorem isBare_placeText (i : Nat) : IsBare (placeText i) where
  trimmed := Text.Trims.trimmed_eq
    (Text.trims_self (head?_placeText i) (getLast?_placeText i) (by decide))
  unbraced := by
    rw [getLast?_placeText]
    exact fun braces => absurd braces.2 (by decide)

theorem selects_toDigits {i : Nat} (below : i < 2 ^ 64) :
    Selects (Nat.toDigits 10 i) (.index i) :=
  .index (Text.counts_toDigits below)

theorem writesSegment_place {i : Nat} (below : i < 2 ^ 64) :
    WritesSegment (placeText i).toList (.index i) := by
  have digits {c : Char} (member : c ∈ Nat.toDigits 10 i) : c.isDigit = true :=
    Nat.isDigit_of_mem_toDigits (by decide) (by decide) member
  have trims : Text.Trims (Nat.toDigits 10 i) (Nat.toDigits 10 i) := Text.trims_self_iff.2
    ⟨fun c first => Text.not_isBlank_of_isDigit (digits (List.mem_of_head? first)),
      fun c last => Text.not_isBlank_of_isDigit (digits (List.mem_of_getLast? last))⟩
  have closed : ']' ∉ Nat.toDigits 10 i := fun member => absurd (digits member) (by decide)
  rw [toList_placeText]
  exact .subscript closed trims (selects_toDigits below)

theorem ofText_placeText {i : Nat} (below : i < 2 ^ 64) : ofText (placeText i) = .ok [.index i] := by
  refine ofText_of_writes (isBare_placeText i).trimmed ⟨?_, ?_⟩ (.inl rfl) ?_
  · rw [head?_placeText]
    decide
  · rw [getLast?_placeText]
    decide
  · rw [← List.append_nil (placeText i).toList]
    exact .cons (writesSegment_place below) .nil

end Subscripts

/-- How a value is shown: a text as it is, null as nothing and all else as a compact document. -/
inductive Shows : Value → String → Prop
  | text (s : String) : Shows (.string s) s
  | null : Shows .null ""
  | document {v : Value} {text : String} (notNull : v.isNull = false) (noText : v.string? = none)
    (compact : Compact v text.toList) : Shows v text

theorem shows_shown (v : Value) : Shows v (shown v) := by
  cases v with
  | null => exact .null
  | string s => exact .text s
  | bool | number | array | object => exact .document rfl rfl (compact_text _)

theorem foldl_step (path : Path) (found : List Value) :
    path.foldl (fun found segment => found.flatMap segment.step) found =
      found.flatMap path.targets := by
  induction path generalizing found with
  | nil => exact (List.flatMap_singleton' found).symm
  | cons segment rest ih =>
    rw [List.foldl_cons, ih, List.flatMap_assoc]
    rfl

structure Composes (p q : Path) (v : Value) : Prop where
  followed : (p ++ q).targets v = (p.targets v).flatMap q.targets
  gathered : (p ++ q).foldl (fun found segment => found.flatMap segment.step) [v] =
    (p.targets v).flatMap q.targets
  extracted : ∃ texts, List.Forall₂ Shows ((p.targets v).flatMap q.targets) texts ∧
    (p ++ q).extract v = String.intercalate " " texts

theorem composes (p q : Path) (v : Value) : Composes p q v := by
  have followed := targets_append p q v
  refine ⟨followed, ?_, ((p.targets v).flatMap q.targets).map shown, ?_, ?_⟩
  · rw [foldl_step, List.flatMap_singleton, followed]
  · exact List.forall₂_map_right_iff.2 (List.forall₂_same.2 fun w _ => shows_shown w)
  · rw [extract, followed]

theorem flatMap_getElem? {α : Type} (items : List α) :
    (List.range items.length).flatMap (fun i => (items[i]?).toList) = items := by
  induction items with
  | nil => rfl
  | cons item rest ih =>
    rw [List.length_cons, List.range_succ_eq_map, List.flatMap_cons, List.flatMap_map]
    exact congrArg (item :: ·) ih

/-- What a path leads to that begins with all elements of an array, one element after another. -/
structure Spreads (rest : Path) (items : List Value) : Prop where
  inTurn : targets (.wildcard :: rest) (.array items) =
    (List.range items.length).flatMap fun i => targets (.index i :: rest) (.array items)
  /-- An element in which the rest of the path leads nowhere is passed over. -/
  passes : targets (.wildcard :: rest) (.array items) =
    (items.filter fun item => !(rest.targets item).isEmpty).flatMap rest.targets

theorem spreads (rest : Path) (items : List Value) : Spreads rest items where
  inTurn := by
    change items.flatMap rest.targets = _
    conv_lhs => rw [← flatMap_getElem? items, List.flatMap_assoc]
    rfl
  passes := by
    change items.flatMap rest.targets = _
    induction items with
    | nil => rfl
    | cons item items ih =>
      rw [List.flatMap_cons, List.filter_cons, ih]
      cases led : rest.targets item <;> simp [led]

/-- Two paths written one after the other are one path, which leads from each value that the first
leads to on along the second. -/
theorem ofText_append (s t : String) (p q : Path) (front : IsBare s) (back : IsBare t)
    (rootless : t.toList.head? ≠ some '$') (readFront : ofText s = .ok p)
    (readBack : ofText t = .ok q) :
    ofText (s ++ t) = .ok (p ++ q) ∧ (∀ v, Composes p q v) ∧
      ofText ("[*]" ++ t) = .ok (.wildcard :: q) ∧
      (∀ i < 2 ^ 64, ofText (placeText i ++ t) = .ok (.index i :: q)) ∧
      ∀ items, Spreads q items :=
  ⟨ofText_concat front back rootless readFront readBack, composes p q,
    ofText_concat isBare_wildcard back rootless ofText_wildcard readBack,
    fun i below =>
      ofText_concat (isBare_placeText i) back rootless (ofText_placeText below) readBack,
    spreads q⟩

theorem ofText_append_ready :
    let all : Path := [.field "status", .field "containerStatuses", .wildcard]
    ofText (".status.containerStatuses[*]" ++ ".ready") = .ok (all ++ [.field "ready"]) ∧
      (∀ v, Composes all [.field "ready"] v) ∧
      ofText ("[*]" ++ ".ready") = .ok [.wildcard, .field "ready"] ∧
      (∀ i < 2 ^ 64, ofText (placeText i ++ ".ready") = .ok [.index i, .field "ready"]) ∧
      ∀ items, Spreads [.field "ready"] items :=
  ofText_append _ _ _ _ (by constructor <;> decide) (by constructor <;> decide)
    (by decide) (by cbv) (by cbv)

end Readiness.Json.Path
