import Readiness.Cluster
import Readiness.Proofs.Json.Path.Composition

/-! Braces in the text of a path. One brace at the ends without the other is refused. Between the ends the
reader makes no difference between a brace and another character of a name: what is read as a path has
either no other braces than a pair around it, or a brace in one of its names, and then it leads nowhere in
a document that has no member of this name. -/
namespace Readiness.Json

def Value.Inside (document : Value) : Value → Prop :=
  Relation.ReflTransGen (fun outer inner => inner ∈ outer.children) document

namespace Path

theorem mem_children_of_mem_step {s : Segment} {v w : Value} (led : w ∈ s.step v) :
    w ∈ v.children := by
  cases s with
  | field name =>
    have found : v.member? name = some w := Option.mem_toList.1 led
    cases v with
    | object members =>
      obtain ⟨before, after, rfl, -⟩ := List.lookup_eq_some_iff.1 found
      simp [Value.children]
    | null | bool | number | string | array => cases found
  | index n =>
    have found : v.item? n = some w := Option.mem_toList.1 led
    cases v with
    | array items => exact List.mem_of_getElem? found
    | null | bool | number | string | object => cases found
  | wildcard => exact led

theorem inside_of_mem_targets {path : Path} {v w : Value} (led : w ∈ path.targets v) :
    v.Inside w := by
  induction path generalizing v with
  | nil =>
    obtain rfl := List.mem_singleton.1 led
    exact .refl
  | cons s rest ih =>
    obtain ⟨next, stepped, onward⟩ := List.mem_flatMap.1 led
    exact .head (mem_children_of_mem_step stepped) (ih onward)

/-- A name that no object in a document has for a member leads nowhere, wherever it stands in a path. -/
theorem targets_eq_nil_of_absent {path : Path} {name : String} {v : Value}
    (member : .field name ∈ path) (absent : ∀ w, v.Inside w → w.member? name = none) :
    path.targets v = [] := by
  obtain ⟨before, after, rfl⟩ := List.append_of_mem member
  rw [targets_append, List.flatMap_eq_nil_iff]
  intro w led
  simp [targets, Segment.step, absent w (inside_of_mem_targets led)]

section Bare

def IsBrace (c : Char) : Prop := c = '\x7b' ∨ c = '\x7d'

instance : DecidablePred IsBrace := fun _ => inferInstanceAs (Decidable (_ ∨ _))

/-- The characters of a text from which neither a backslash in a name nor quotes in brackets take their
meaning. -/
def bare : List Char → List Char
  | [] => []
  | ['\\'] => []
  | '\\' :: _ :: rest => bare rest
  | c :: rest =>
    if c = '[' then
      match _h : Text.cut ']' rest with
      | none => rest
      | some (body, after) => (if (unquoted (Text.trim body)).isSome then [] else body) ++ bare after
    else c :: bare rest
termination_by text => text.length
decreasing_by
  · simp only [List.length_cons]
    omega
  · have := length_of_cut _h
    simp only [List.length_cons]
    omega
  · simp

theorem bare_escaped (c : Char) (rest : List Char) : bare ('\\' :: c :: rest) = bare rest := by
  rw [bare]

theorem bare_cons {c : Char} (unmarked : c ≠ '[' ∧ c ≠ '\\') (rest : List Char) :
    bare (c :: rest) = c :: bare rest := by
  rw [bare]
  · rw [if_neg unmarked.1]
  · exact fun escape _ => unmarked.2 escape
  · exact fun _ _ escape _ => unmarked.2 escape

theorem bare_subscript {body : List Char} (closed : ']' ∉ body) (rest : List Char) :
    bare ('[' :: (body ++ ']' :: rest)) =
      (if (unquoted (Text.trim body)).isSome then [] else body) ++ bare rest := by
  have cut : Text.cut ']' (body ++ ']' :: rest) = some (body, rest) :=
    Text.cut_eq_some_iff.2 ⟨rfl, closed⟩
  rw [bare]
  · rw [if_pos rfl]
    split
    · next none => cases none.symm.trans cut
    · next some =>
      obtain ⟨rfl, rfl⟩ := Prod.mk.inj (Option.some.inj (some.symm.trans cut))
      rfl
  · exact nofun
  · exact nofun

theorem Spells.exists_bare {text name : List Char} (spells : Spells text name) (rest : List Char) :
    ∃ shown, bare (text ++ rest) = shown ++ bare rest ∧ ∀ c ∈ shown, c ∈ name := by
  induction spells with
  | nil => exact ⟨[], rfl, nofun⟩
  | @plain c text name unmarked _ ih =>
    obtain ⟨shown, same, among⟩ := ih
    refine ⟨c :: shown, ?_, ?_⟩
    · rw [List.cons_append, bare_cons unmarked.2, same, List.cons_append]
    · exact fun d member => List.mem_cons.2 ((List.mem_cons.1 member).imp id (among d))
  | escaped _ ih =>
    obtain ⟨shown, same, among⟩ := ih
    refine ⟨shown, ?_, fun d member => List.mem_cons_of_mem _ (among d member)⟩
    rw [List.cons_append, List.cons_append, bare_escaped, same]

theorem Selects.no_brace {core : List Char} {s : Segment} (selects : Selects core s)
    (unquoted : unquoted core = none) : ∀ c ∈ core, ¬ IsBrace c := by
  cases selects with
  | wildcard => exact List.forall_mem_singleton.2 (by decide)
  | field key =>
    rw [unquoted_eq_some_iff.2 rfl] at unquoted
    cases unquoted
  | index counts =>
    obtain ⟨digits, rfl | rfl, -, decimal, -⟩ := counts.written
    · rintro c member (rfl | rfl) <;> exact absurd (decimal _ member) (by decide)
    · rintro c member (rfl | rfl) <;>
        exact absurd (decimal _ ((List.mem_cons.1 member).resolve_left (by decide))) (by decide)

def Names (path : Path) (c : Char) : Prop := ∃ name, .field name ∈ path ∧ c ∈ name.toList

theorem WritesSegment.exists_bare {written : List Char} {s : Segment} (writes : WritesSegment written s)
    (rest : List Char) : ∃ shown, bare (written ++ rest) = shown ++ bare rest ∧
      ∀ c ∈ shown, IsBrace c → Names [s] c := by
  cases writes with
  | @name text name spells nonempty =>
    obtain ⟨shown, same, among⟩ := spells.exists_bare rest
    refine ⟨'.' :: shown, ?_, ?_⟩
    · rw [List.cons_append, bare_cons (by decide), same, List.cons_append]
    · intro c member brace
      rcases List.mem_cons.1 member with rfl | member
      · exact absurd brace (by decide)
      · have inName := among c member
        split
        · next star =>
          rw [star, List.mem_singleton] at inName
          subst inName
          exact absurd brace (by decide)
        · exact ⟨_, List.mem_singleton.2 rfl, by rwa [String.toList_ofList]⟩
  | @subscript body core _ closed trims selects =>
    have shown := bare_subscript closed rest
    rw [trims.eq] at shown
    refine ⟨if (unquoted core).isSome then [] else body, ?_, ?_⟩
    · rwa [List.cons_append, List.append_assoc, List.singleton_append]
    · intro c member brace
      exfalso
      split at member
      · cases member
      · next unquoted =>
        rcases trims.mem member with inside | blank
        · exact selects.no_brace (by simpa using unquoted) c inside brace
        · rcases brace with rfl | rfl <;> exact absurd blank (by decide)

theorem Writes.names_of_bare {text : List Char} {path : Path} (writes : Writes text path) {c : Char}
    (member : c ∈ bare text) (brace : IsBrace c) : Names path c := by
  induction writes with
  | nil =>
    rw [bare] at member
    cases member
  | @cons first rest s path segment _ ih =>
    obtain ⟨shown, same, among⟩ := segment.exists_bare rest
    rw [same] at member
    rcases List.mem_append.1 member with here | later
    · obtain ⟨name, named, inName⟩ := among c here brace
      exact ⟨name, by simp [List.mem_singleton.1 named], inName⟩
    · obtain ⟨name, named, inName⟩ := ih later
      exact ⟨name, List.mem_cons_of_mem _ named, inName⟩

end Bare

/-- There are no braces but one pair around the whole text, or none. Braces count where they are bare. -/
inductive Balanced : List Char → Prop
  | both {inner : List Char} (none : ∀ c ∈ bare inner, ¬ IsBrace c) :
    Balanced ('\x7b' :: (inner ++ ['\x7d']))
  | neither {text : List Char} (none : ∀ c ∈ bare text, ¬ IsBrace c) : Balanced text

theorem balanced_between_iff {inner : List Char} :
    Balanced ('\x7b' :: (inner ++ ['\x7d'])) ↔ ∀ c ∈ bare inner, ¬ IsBrace c := by
  refine ⟨fun balanced => ?_, .both⟩
  generalize between : '\x7b' :: (inner ++ ['\x7d']) = text at balanced
  cases balanced with
  | both none =>
    obtain rfl := List.append_cancel_right (List.cons.inj between).2
    exact none
  | neither none =>
    rw [← between, bare_cons (by decide)] at none
    exact absurd (.inl rfl) (none _ List.mem_cons_self)

theorem IsWritten.balanced_or_names {text : List Char} {path : Path} (written : IsWritten text path) :
    Balanced (Text.trim text) ∨ ∃ c, IsBrace c ∧ Names path c := by
  obtain ⟨core, inner, body, trims, braces, root, writes⟩ := written
  rw [trims.eq]
  by_cases none : ∀ c ∈ bare inner, ¬ IsBrace c
  · left
    cases braces with
    | both => exact .both none
    | neither => exact .neither none
  · right
    simp only [not_forall, not_not] at none
    obtain ⟨c, member, brace⟩ := none
    refine ⟨c, brace, writes.names_of_bare ?_ brace⟩
    rcases root with rfl | rfl
    · exact member
    · rw [bare_cons (by decide)] at member
      refine (List.mem_cons.1 member).resolve_left ?_
      rintro rfl
      exact absurd brace (by decide)

/-- What becomes of a text that should be a path, by the braces in it. -/
inductive BracesRead (s : String) : Prop
  | balanced {path : Path} (read : ofText s = .ok path) (balanced : Balanced (Text.trim s.toList))
  /-- A brace out of place is taken for a part of a name, which no document need have. -/
  | named {path : Path} {name : String} {c : Char} (read : ofText s = .ok path)
    (stray : ¬ Balanced (Text.trim s.toList)) (brace : IsBrace c) (member : .field name ∈ path)
    (inName : c ∈ name.toList)
    (nowhere : ∀ object : Value, (∀ w, object.Inside w → w.member? name = none) →
      Cluster.stateAt object (some s) = .ok "")
  | refused {fault : Fault} (read : ofText s = .error ⟨s, fault⟩)
    (fatal : ∀ object, ∃ e : FetchError, Cluster.stateAt object (some s) = .error e ∧
      e = .invalid (complaint s fault.text) ∧ e.isFatal = true)

theorem ofText_ok_or_error (s : String) :
    (∃ path, ofText s = .ok path) ∨ ∃ fault, ofText s = .error ⟨s, fault⟩ := by
  unfold ofText
  cases parse s.toList with
  | ok path => exact .inl ⟨path, rfl⟩
  | error fault => exact .inr ⟨fault, rfl⟩

theorem bracesRead_of_ok {s : String} {path : Path} (read : ofText s = .ok path) : BracesRead s := by
  by_cases balanced : Balanced (Text.trim s.toList)
  · exact .balanced read balanced
  · obtain ⟨c, brace, name, member, inName⟩ :=
      (ofText_eq_ok_iff.1 read).balanced_or_names.resolve_left balanced
    refine .named read balanced brace member inName fun object absent => ?_
    rw [Cluster.stateAt, read]
    simp only [extract, targets_eq_nil_of_absent member absent, List.map_nil,
      String.intercalate_nil]

theorem bracesRead_of_error {s : String} {fault : Fault} (read : ofText s = .error ⟨s, fault⟩) :
    BracesRead s := by
  refine .refused read fun object => ⟨_, ?_, rfl, rfl⟩
  rw [Cluster.stateAt, read]
  rfl

theorem ofText_uneven {s : String} (uneven : ¬ ((Text.trim s.toList).head? = some '\x7b' ↔
    (Text.trim s.toList).getLast? = some '\x7d')) : ofText s = .error ⟨s, .unbalancedBraces⟩ := by
  have refused : unbraced (Text.trim s.toList) = .error .unbalancedBraces := by
    unfold unbraced
    split
    · next first last => exact absurd (by simp_all) uneven
    · next first last => exact absurd (by simp_all) uneven
    · rfl
  rw [ofText, parse, refused]
  rfl

/-- A text that is accepted as a path has no braces but a pair around it, unless it has a brace in one of
its names; such a path shows nothing of a document without this name. All other texts are refused for good,
and one brace at the ends without the other is refused as what it is. -/
theorem braces_read_or_refused (s : String) :
    BracesRead s ∧ (¬ ((Text.trim s.toList).head? = some '\x7b' ↔
      (Text.trim s.toList).getLast? = some '\x7d') → ofText s = .error ⟨s, .unbalancedBraces⟩) := by
  refine ⟨?_, ofText_uneven⟩
  rcases ofText_ok_or_error s with ⟨path, read⟩ | ⟨fault, read⟩
  · exact bracesRead_of_ok read
  · exact bracesRead_of_error read

theorem lone_brace_refused :
    ¬ ((Text.trim "\x7b.status.phase".toList).head? = some '\x7b' ↔
        (Text.trim "\x7b.status.phase".toList).getLast? = some '\x7d') ∧
      ofText "\x7b.status.phase" = .error ⟨"\x7b.status.phase", .unbalancedBraces⟩ :=
  ⟨by decide, (braces_read_or_refused _).2 (by decide)⟩

/-- One brace too many is a part of the name before it, and the phase that is there is not found. -/
theorem stray_brace_accepted :
    ofText "\x7b.status.phase\x7d\x7d" = .ok [.field "status", .field "phase\x7d"] ∧
      ¬ Balanced (Text.trim "\x7b.status.phase\x7d\x7d".toList) ∧
      Cluster.stateAt (.object [("status", .object [("phase", .string "Running")])])
        (some "\x7b.status.phase\x7d\x7d") = .ok "" := by
  have read : ofText "\x7b.status.phase\x7d\x7d" = .ok [.field "status", .field "phase\x7d"] := by
    decide +kernel
  refine ⟨read, ?_, ?_⟩
  · have inner : Text.trim "\x7b.status.phase\x7d\x7d".toList =
        '\x7b' :: (".status.phase\x7d".toList ++ ['\x7d']) := by decide
    have shown : bare ".status.phase\x7d".toList = ".status.phase\x7d".toList := by decide +kernel
    rw [inner, balanced_between_iff, shown]
    exact fun none => none '\x7d' (by decide) (.inr rfl)
  · rw [Cluster.stateAt, read]
    rfl

end Path

end Readiness.Json
