import Mathlib.Data.List.Basic
import Readiness.Json.Skim

/-! Readers of one text. Whether a value is read or passed, and however many calls may be nested below
it, the readers that go through end at one place. What is read of the value does not depend on the
calls. -/
namespace Readiness.Json

namespace Cursor

theorem pass_nil (cursor : Cursor) : cursor.pass [] = cursor := rfl

theorem rest_skipBlanks (cursor : Cursor) :
    cursor.skipBlanks.rest = cursor.rest.dropWhile isBlank := by
  have split := List.takeWhile_append_dropWhile (p := isBlank) (l := cursor.rest)
  exact (congrArg (List.drop _) split).symm.trans List.drop_left

theorem skipBlanks_idem (cursor : Cursor) : cursor.skipBlanks.skipBlanks = cursor.skipBlanks := by
  have none : cursor.skipBlanks.rest.takeWhile isBlank = [] := by
    have visible := List.head?_dropWhile_not isBlank cursor.rest
    rw [rest_skipBlanks]
    cases ahead : cursor.rest.dropWhile isBlank with
    | nil => rfl
    | cons c rest =>
      rw [ahead] at visible
      exact List.takeWhile_cons_of_neg (by simpa using visible)
  rw [skipBlanks, passWhile, none, pass_nil]

end Cursor

namespace Reader

variable {α β γ δ : Type}

theorem bind_eq_ok {first : Reader α} {next : α → Reader β} {start stop : Cursor} {b : β} :
    (first >>= next) start = .ok (b, stop) ↔
      ∃ a middle, first start = .ok (a, middle) ∧ next a middle = .ok (b, stop) := by
  change Except.bind (first start) (fun out => next out.1 out.2) = _ ↔ _
  cases first start with
  | error e => simp [Except.bind]
  | ok out => simp [Except.bind, Prod.ext_iff]

theorem pure_eq_ok {a b : α} {start stop : Cursor} :
    (pure a : Reader α) start = .ok (b, stop) ↔ a = b ∧ start = stop := by
  change Except.ok (a, start) = .ok (b, stop) ↔ _
  simp

/-! ## One reader -/

def Fails (reader : Reader α) : Prop := ∀ start a stop, reader start ≠ .ok (a, stop)

/-- If the reader goes through from a place, what it gives and where it ends satisfy `P`. -/
def LeavesAt (start : Cursor) (P : α → Cursor → Prop) (reader : Reader α) : Prop :=
  ∀ ⦃a stop⦄, reader start = .ok (a, stop) → P a stop

/-- A reader that goes through does the same without the blanks ahead. -/
def SkipsBlanks (reader : Reader α) : Prop :=
  ∀ start out, reader start = .ok out → reader start.skipBlanks = .ok out

section One

variable {P : α → Cursor → Prop} {start : Cursor} {reader : Reader α}

theorem failHere_fails (fault : Fault) : Fails (failHere fault : Reader α) := fun _ _ _ => nofun

theorem failNext_fails (fault : Fault) : Fails (failNext fault : Reader α) := fun _ _ _ => nofun

theorem failAfter_fails (octets : Nat) (fault : Fault) : Fails (failAfter octets fault : Reader α) :=
  fun _ _ _ => nofun

theorem Fails.bind {next : α → Reader β} (fails : Fails reader) : Fails (reader >>= next) := by
  intro start b stop ran
  obtain ⟨a, middle, here, -⟩ := bind_eq_ok.1 ran
  exact fails _ _ _ here

theorem Fails.after {next : β → Reader α} (fails : ∀ b, Fails (next b)) (reader : Reader β) :
    Fails (reader >>= next) := by
  intro start a stop ran
  obtain ⟨b, middle, -, there⟩ := bind_eq_ok.1 ran
  exact fails b _ _ _ there

theorem Fails.leaves (fails : Fails reader) : LeavesAt start P reader :=
  fun _ _ ran => absurd ran (fails _ _ _)

theorem LeavesAt.pure {a : α} (holds : P a start) : LeavesAt start P (pure a) := by
  intro b stop ran
  obtain ⟨rfl, rfl⟩ := pure_eq_ok.1 ran
  exact holds

theorem LeavesAt.after {reader : Reader β} {next : β → Reader α}
    (after : ∀ b middle, reader start = .ok (b, middle) → LeavesAt middle P (next b)) :
    LeavesAt start P (reader >>= next) := by
  intro a stop ran
  obtain ⟨b, middle, here, there⟩ := bind_eq_ok.1 ran
  exact after b middle here there

theorem LeavesAt.mark {next : Option Char → Reader α}
    (after : LeavesAt start.skipBlanks P (next start.skipBlanks.rest.head?)) :
    LeavesAt start P (peekMark >>= next) := after

theorem peekMark_skipsBlanks (next : Option Char → Reader α) : SkipsBlanks (peekMark >>= next) := by
  intro start out ran
  change next start.skipBlanks.skipBlanks.rest.head? start.skipBlanks.skipBlanks = _
  rw [start.skipBlanks_idem]
  exact ran

theorem SkipsBlanks.bind {next : α → Reader β} (skips : SkipsBlanks reader) :
    SkipsBlanks (reader >>= next) := by
  rintro start ⟨b, stop⟩ ran
  obtain ⟨a, middle, here, there⟩ := bind_eq_ok.1 ran
  exact bind_eq_ok.2 ⟨a, middle, skips _ _ here, there⟩

theorem Fails.skipsBlanks (fails : Fails reader) : SkipsBlanks reader :=
  fun _ _ ran => absurd ran (fails _ _ _)

theorem peekMark_settled {next : Option Char → Reader α} (settled : start.skipBlanks = start) :
    (peekMark >>= next) start = next start.rest.head? start := by
  change next start.skipBlanks.rest.head? start.skipBlanks = _
  rw [settled]

end One

/-! ## Two readers -/

/-- If both readers go through from a place, they end at one place, with results that are related. -/
def MeetsAt (start : Cursor) (R : α → β → Prop) (first : Reader α) (second : Reader β) : Prop :=
  ∀ ⦃a b stop stop'⦄, first start = .ok (a, stop) → second start = .ok (b, stop') →
    stop = stop' ∧ R a b

def Meets (R : α → β → Prop) (first : Reader α) (second : Reader β) : Prop :=
  ∀ start, MeetsAt start R first second

abbrev EndAlike (first : Reader α) (second : Reader β) : Prop := Meets (fun _ _ => True) first second

section Two

variable {R : α → β → Prop} {S : γ → δ → Prop} {first : Reader α} {second : Reader β}

theorem Fails.meets (fails : Fails first) : Meets R first second :=
  fun _ _ _ _ _ ran _ => absurd ran (fails _ _ _)

theorem Fails.meets' (fails : Fails second) : Meets R first second :=
  fun _ _ _ _ _ _ ran => absurd ran (fails _ _ _)

theorem Meets.pure {a : α} {b : β} (related : R a b) : Meets R (pure a) (pure b) := by
  intro start _ _ stop stop' ran ran'
  obtain ⟨rfl, rfl⟩ := pure_eq_ok.1 ran
  obtain ⟨rfl, rfl⟩ := pure_eq_ok.1 ran'
  exact ⟨rfl, related⟩

theorem Meets.refl (reader : Reader α) : Meets Eq reader reader := by
  intro start a b stop stop' ran ran'
  obtain ⟨rfl, rfl⟩ : a = b ∧ stop = stop' := by simpa using ran.symm.trans ran'
  exact ⟨rfl, rfl⟩

theorem Meets.mono {R' : α → β → Prop} (meets : Meets R first second)
    (implies : ∀ a b, R a b → R' a b) : Meets R' first second := by
  intro start a b stop stop' ran ran'
  obtain ⟨same, related⟩ := meets _ ran ran'
  exact ⟨same, implies _ _ related⟩

theorem Meets.symm {T : β → α → Prop} (meets : Meets R first second)
    (implies : ∀ a b, R a b → T b a) : Meets T second first := by
  intro start b a stop stop' ran ran'
  obtain ⟨same, related⟩ := meets _ ran' ran
  exact ⟨same.symm, implies _ _ related⟩

theorem Meets.bind {next : α → Reader γ} {next' : β → Reader δ} (meets : Meets R first second)
    (after : ∀ a b, R a b → Meets S (next a) (next' b)) :
    Meets S (first >>= next) (second >>= next') := by
  intro start c d stop stop' ran ran'
  obtain ⟨a, middle, here, there⟩ := bind_eq_ok.1 ran
  obtain ⟨b, middle', here', there'⟩ := bind_eq_ok.1 ran'
  obtain ⟨rfl, related⟩ := meets _ here here'
  exact after a b related _ there there'

theorem Meets.next {first second : Reader α} {next : α → Reader γ} {next' : α → Reader δ}
    (meets : Meets Eq first second) (after : ∀ a, Meets S (next a) (next' a)) :
    Meets S (first >>= next) (second >>= next') := by
  refine meets.bind ?_
  rintro a _ rfl
  exact after a

theorem Meets.step (reader : Reader α) {next : α → Reader γ} {next' : α → Reader δ}
    (after : ∀ a, Meets S (next a) (next' a)) : Meets S (reader >>= next) (reader >>= next') :=
  (Meets.refl reader).next after

/-- Both readers begin alike, and go on from where that ends. -/
theorem Meets.stepFrom (reader : Reader α) {next : α → Reader γ} {next' : α → Reader δ}
    (after : ∀ start a stop, reader start = .ok (a, stop) → MeetsAt stop S (next a) (next' a)) :
    Meets S (reader >>= next) (reader >>= next') := by
  intro start c d stop stop' ran ran'
  obtain ⟨a, middle, here, there⟩ := bind_eq_ok.1 ran
  obtain ⟨b, middle', here', there'⟩ := bind_eq_ok.1 ran'
  obtain ⟨rfl, rfl⟩ : a = b ∧ middle = middle' := by simpa using here.symm.trans here'
  exact after _ _ _ here there there'

theorem Meets.mark {next : Option Char → Reader γ} {next' : Option Char → Reader δ}
    (after : ∀ start : Cursor, start.skipBlanks = start →
      MeetsAt start S (next start.rest.head?) (next' start.rest.head?)) :
    Meets S (peekMark >>= next) (peekMark >>= next') := fun start =>
  after start.skipBlanks start.skipBlanks_idem

theorem Meets.past {next : Option Char → Reader α} (skips : SkipsBlanks second)
    (after : ∀ start : Cursor, start.skipBlanks = start →
      MeetsAt start R (next start.rest.head?) second) : Meets R (peekMark >>= next) second := by
  intro start a b stop stop' ran ran'
  exact after _ start.skipBlanks_idem ran (skips _ _ ran')

theorem Meets.left {T : γ → β → Prop} {f : α → γ} (meets : Meets R first second)
    (after : ∀ a b, R a b → T (f a) b) : Meets T (do return f (← first)) second := by
  intro start c b stop stop' ran ran'
  obtain ⟨a, middle, here, same⟩ := bind_eq_ok.1 ran
  obtain ⟨rfl, rfl⟩ := pure_eq_ok.1 same
  obtain ⟨same, related⟩ := meets _ here ran'
  exact ⟨same, after _ _ related⟩

theorem Meets.right {T : α → δ → Prop} {g : β → δ} (meets : Meets R first second)
    (after : ∀ a b, R a b → T a (g b)) : Meets T first (do return g (← second)) :=
  ((meets.symm fun _ _ => id).left fun b a related => after a b related).symm fun _ _ => id

end Two

/-! ## Tokens -/

theorem someDigits_meets : Meets Eq (someDigits strict) (someDigits lenient) := by
  unfold someDigits
  refine .step _ fun digits => ?_
  cases digits with
  | nil =>
    refine .step _ fun next => ?_
    cases next with
    | none => exact (failHere_fails _).meets
    | some c => exact (failNext_fails _).meets
  | cons d rest => exact .refl _

theorem wholeDigits_meets : Meets Eq (wholeDigits strict) (wholeDigits lenient) := by
  unfold wholeDigits
  refine .step _ fun next => ?_
  split
  · exact .refl _
  · exact someDigits_meets

theorem fraction_meets : Meets Eq (fraction strict) (fraction lenient) := by
  unfold fraction
  refine .step _ fun next => ?_
  split
  · exact .step _ fun _ => someDigits_meets.next fun digits => .refl _
  · exact .refl _

/-- An exponent that is too large for a number to be read is no hindrance to passing it. -/
theorem exponent_meets (isZero : Bool) :
    Meets Eq (exponent strict isZero) (exponent lenient isZero) := by
  unfold exponent
  refine .step _ fun next => ?_
  split
  case h_3 => exact .refl _
  all_goals
    refine .step _ fun _ => .step _ fun sign => ?_
    dsimp only
    split
    on_goal 1 => refine .step _ fun _ => ?_
    all_goals
      refine .step _ fun before => someDigits_meets.next fun digits => ?_
      rw [if_neg fun sized : lenient.sized = true ∧ _ => nomatch sized.1]
      split
      · exact (Fails.after (fun _ => failAfter_fails _ _) _).meets
      · exact .refl _

theorem written_meets : Meets Eq (written strict) (written lenient) := by
  unfold written
  refine .step _ fun sign => ?_
  dsimp only
  split
  on_goal 1 => refine .step _ fun _ => ?_
  all_goals
    refine wholeDigits_meets.next fun whole => fraction_meets.next fun fraction => ?_
    exact (exponent_meets _).next fun exponent => .refl _

theorem number_ends : EndAlike number skimNumber := by
  unfold number skimNumber
  refine written_meets.next fun written => ?_
  cases Number.ofWritten written with
  | none => exact (failHere_fails _).meets
  | some n => exact .pure trivial

theorem Meets.link {R : α → β → Prop} {c : Char} {next : Unit → Reader α}
    {next' : Option Char → Reader β} (after : Meets R (pass >>= next) (next' (some c))) :
    Meets R (link c >>= next) (peek >>= next') := by
  simp only [Reader.link, bind_assoc]
  refine .step _ fun found => ?_
  cases found with
  | none => exact (failHere_fails _).bind.meets
  | some found =>
    simp only
    split
    · next same => exact same ▸ after
    · exact (failNext_fails _).bind.meets

/-- The second half of a pair is an escape of its own to a reader that passes it. -/
theorem pair_ends {rest : Char → Reader α} {pair : Nat → Char}
    (later : ∀ c m, EndAlike (rest c) (skimStringRest m)) (m : Nat) :
    EndAlike
      (do
        link '\\'
        link 'u'
        let second ← unit
        let c ← (if isLow second then return pair second else failHere .loneSurrogate)
        rest c)
      (skimStringRest m) := by
  cases m with
  | zero => exact (failHere_fails _).meets'
  | succ m =>
    refine .link (.step _ fun _ => ?_)
    simp only [escaped, bind_assoc, anyUnit]
    refine .link ?_
    simp only [bind_assoc]
    refine .step _ fun _ => .step _ fun second => ?_
    split
    · exact later _ _
    · exact (failHere_fails _).bind.meets

theorem stringRest_ends (read : List Char) (n m : Nat) :
    EndAlike (stringRest read n) (skimStringRest m) := by
  induction n generalizing read m with
  | zero => exact (failHere_fails _).meets
  | succ n ih =>
    cases m with
    | zero => exact (failHere_fails _).meets'
    | succ m =>
      simp only [stringRest, skimStringRest]
      refine .step _ fun next => ?_
      split
      · exact (failHere_fails _).meets
      · exact .step _ fun _ => .pure trivial
      · refine .step _ fun _ => ?_
        simp only [escaped, bind_assoc]
        refine .step _ fun next => ?_
        split
        · exact (failHere_fails _).bind.meets
        · simp only [bind_assoc, numbered, anyUnit]
          refine .step _ fun _ => .step _ fun first => ?_
          split
          · exact (failHere_fails _).bind.meets
          · split
            · simp only [pure_bind, bind_assoc]
              exact pair_ends (fun _ => ih _) m
            · exact ih _ _
        · split
          · simp only [bind_assoc]
            exact .step _ fun _ => ih _ _
          · exact (failNext_fails _).bind.meets
      · split
        · exact (failNext_fails _).meets
        · exact .step _ fun _ => ih _ _

theorem string_ends : EndAlike string skimString := by
  unfold string skimString
  exact .step _ fun _ => .step _ fun _ => stringRest_ends _ _ _

theorem scalar_number {c : Char} (starts : isNumberStart c = true) :
    scalar c = do return .number (← number) := by
  unfold scalar
  split
  iterate 4 exact absurd starts (by decide)
  rw [if_pos starts]

theorem scalar_ends (c : Char) :
    EndAlike (scalar c)
      (if c = '"' then skimString else if isNumberStart c then skimNumber else do
        let _ ← scalar c) := by
  split
  · next quote =>
    subst quote
    exact string_ends.left fun _ _ _ => trivial
  · split
    · next starts =>
      rw [scalar_number starts]
      exact number_ends.left fun _ _ _ => trivial
    · exact (Meets.refl _).right fun _ _ _ => trivial

/-! ## Values -/

theorem value_skipsBlanks (d n : Nat) : SkipsBlanks (value d n) := by
  cases n with
  | zero => exact (failHere_fails _).skipsBlanks
  | succ n => exact peekMark_skipsBlanks _

theorem skim_skipsBlanks (n : Nat) : SkipsBlanks (skim n) := by
  cases n with
  | zero => exact (failHere_fails _).skipsBlanks
  | succ n => exact peekMark_skipsBlanks _

theorem skimItems_skipsBlanks (n : Nat) : SkipsBlanks (skimItems n) := by
  cases n with
  | zero => exact (failHere_fails _).skipsBlanks
  | succ n => exact (skim_skipsBlanks n).bind

theorem skimMembers_skipsBlanks (n : Nat) : SkipsBlanks (skimMembers n) := by
  cases n with
  | zero => exact (failHere_fails _).skipsBlanks
  | succ n => exact (peekMark_skipsBlanks _).bind

theorem enter_ends (d d' : Nat) : EndAlike (enter d) (enter d') := by
  unfold enter
  split
  · exact (failNext_fails _).meets
  · split
    · exact (failNext_fails _).meets'
    · exact (Meets.refl _).mono fun _ _ _ => trivial

/-- How deep values may be nested, and how many calls, matters only to whether a value is read. -/
structure ReadAlike (n : Nat) : Prop where
  value : ∀ d d' m, Meets Eq (value d n) (value d' m)
  items : ∀ d d' first m, Meets Eq (items d first n) (items d' first m)
  members : ∀ d d' first m, Meets Eq (members d first n) (members d' first m)

theorem readAlike (n : Nat) : ReadAlike n := by
  induction n with
  | zero =>
    exact ⟨fun _ _ _ => (failHere_fails _).meets, fun _ _ _ _ => (failHere_fails _).meets,
      fun _ _ _ _ => (failHere_fails _).meets⟩
  | succ n ih =>
    refine ⟨fun d d' m => ?value, fun d d' first m => ?items, fun d d' first m => ?members⟩ <;>
      cases m with
      | zero => exact (failHere_fails _).meets'
      | succ m => ?_
    case value =>
      simp only [Reader.value]
      refine .step _ fun next => ?_
      split
      · exact .refl _
      · exact (enter_ends _ _).bind fun _ _ _ => (ih.items _ _ _ _).next fun items => .refl _
      · exact (enter_ends _ _).bind fun _ _ _ => (ih.members _ _ _ _).next fun members => .refl _
      · exact .refl _
    case items =>
      simp only [Reader.items]
      refine .step _ fun more => ?_
      split
      · exact (ih.value _ _ _).next fun item => (ih.items _ _ _ _).next fun items => .refl _
      · exact .refl _
    case members =>
      simp only [Reader.members]
      refine .step _ fun more => ?_
      split
      · refine .step _ fun key => .step _ fun _ => (ih.value _ _ _).next fun item => ?_
        exact (ih.members _ _ _ _).next fun members => .refl _
      · exact .refl _

structure AtKey (start : Cursor) : Prop where
  settled : start.skipBlanks = start
  quote : start.rest.head? = some '"'

/-- A value ends where it ends when it is passed. -/
structure PassedAlike (n : Nat) : Prop where
  value : ∀ d m, EndAlike (value d n) (skim m)
  items : ∀ d m (list : Value → List Value → Value), EndAlike
    (do
      let item ← Reader.value d n
      let rest ← items d false n
      pass
      return list item rest)
    (skimItems m)
  members : ∀ d m (object : String → Value → List (String × Value) → Value) (start : Cursor),
    AtKey start → MeetsAt start (fun _ _ => True)
      (do
        let key ← string
        colon
        let item ← Reader.value d n
        let rest ← members d false n
        pass
        return object key item rest)
      (skimMembers m)

section Passing

variable {n : Nat} (ih : ∀ k ≤ n, PassedAlike k)

include ih

theorem value_passed (d m : Nat) : EndAlike (value d (n + 1)) (skim m) := by
  cases m with
  | zero => exact (failHere_fails _).meets'
  | succ m =>
    simp only [value, skim]
    refine .step _ fun next => ?_
    split
    · exact (failHere_fails _).meets
    · unfold enter
      split
      · exact (failNext_fails _).bind.meets
      · refine .step _ fun _ => ?_
        cases n with
        | zero => exact (failHere_fails _).bind.meets
        | succ n =>
          simp only [items, moreItems, bind_assoc]
          refine .step _ fun next => ?_
          split
          · exact (failHere_fails _).bind.meets
          · simp only [pure_bind, Bool.false_eq_true, if_false]
            exact (Meets.refl _).left fun _ _ _ => trivial
          · simp only [pure_bind, if_true, bind_assoc]
            exact (ih n (Nat.le_succ n)).items _ _ _
    · unfold enter
      split
      · exact (failNext_fails _).bind.meets
      · refine .step _ fun _ => ?_
        cases n with
        | zero => exact (failHere_fails _).bind.meets
        | succ n =>
          simp only [members, moreMembers, bind_assoc]
          refine .mark fun start settled => ?_
          generalize ahead : start.rest.head? = next
          split
          · exact (failHere_fails _).bind.meets _
          · simp only [pure_bind, Bool.false_eq_true, if_false]
            exact (Meets.refl _).left (fun _ _ _ => trivial) _
          · simp only [if_true]
            split
            · next c _ quote =>
              subst quote
              simp only [pure_bind, if_true, bind_assoc]
              exact (ih n (Nat.le_succ n)).members _ _ _ _ ⟨settled, ahead⟩
            · exact (failNext_fails _).bind.meets _
    · next c noList noObject =>
      have ends := scalar_ends c
      split
      · next absent => cases absent
      · next list => exact absurd (Option.some.inj list) noList
      · next object => exact absurd (Option.some.inj object) noObject
      · next quote =>
        obtain rfl := Option.some.inj quote
        exact ends
      · next _ _ noQuote this =>
        obtain rfl := Option.some.inj this
        rwa [if_neg noQuote] at ends

theorem items_passed (d m : Nat) (list : Value → List Value → Value) :
    EndAlike
      (do
        let item ← value d (n + 1)
        let rest ← items d false (n + 1)
        pass
        return list item rest)
      (skimItems m) := by
  cases m with
  | zero => exact (failHere_fails _).meets'
  | succ m =>
    simp only [skimItems]
    refine (value_passed ih d m).bind fun item _ _ => ?_
    simp only [items, moreItems, bind_assoc]
    refine .step _ fun next => ?_
    split
    · exact (failHere_fails _).bind.meets
    · simp only [pure_bind, Bool.false_eq_true, if_false]
      exact (Meets.refl _).left fun _ _ _ => trivial
    · next c _ =>
      simp only [Bool.false_eq_true, if_false]
      by_cases comma : c = ','
      · subst comma
        simp only [if_true, bind_assoc]
        refine .step _ fun _ => .past (skimItems_skipsBlanks m) fun start _ => ?_
        split
        · exact (failNext_fails _).bind.meets _
        · simp only [pure_bind, if_true, bind_assoc]
          exact (ih n (Nat.le_refl n)).items _ _ _ _
        · exact (failHere_fails _).bind.meets _
      · rw [if_neg comma]
        exact (failNext_fails _).bind.meets

theorem members_passed (d m : Nat) (object : String → Value → List (String × Value) → Value)
    {start : Cursor} (key : AtKey start) :
    MeetsAt start (fun _ _ => True)
      (do
        let key ← string
        colon
        let item ← value d (n + 1)
        let rest ← members d false (n + 1)
        pass
        return object key item rest)
      (skimMembers m) := by
  cases m with
  | zero => exact (failHere_fails _).meets' _
  | succ m =>
    simp only [skimMembers, skimKey, bind_assoc]
    unfold MeetsAt
    simp only [peekMark_settled key.settled, key.quote, bind_assoc]
    refine Meets.bind string_ends (fun key _ _ => .step _ fun _ => ?_) start
    refine (value_passed ih d m).bind fun item _ _ => ?_
    simp only [members, moreMembers, bind_assoc]
    refine .step _ fun next => ?_
    split
    · exact (failHere_fails _).bind.meets
    · simp only [pure_bind, Bool.false_eq_true, if_false]
      exact (Meets.refl _).left fun _ _ _ => trivial
    · next c _ =>
      simp only [Bool.false_eq_true, if_false]
      by_cases comma : c = ','
      · subst comma
        simp only [if_true, bind_assoc]
        refine .step _ fun _ => .past (skimMembers_skipsBlanks m) fun start settled => ?_
        generalize ahead : start.rest.head? = next
        split
        · simp only [pure_bind, if_true, bind_assoc]
          exact (ih n (Nat.le_refl n)).members _ _ _ _ ⟨settled, ahead⟩
        · exact (failNext_fails _).bind.meets _
        · exact (failNext_fails _).bind.meets _
        · exact (failHere_fails _).bind.meets _
      · rw [if_neg comma]
        exact (failNext_fails _).bind.meets

end Passing

theorem passedAlike (n : Nat) : PassedAlike n := by
  induction n using Nat.strongRecOn with
  | ind n ih =>
  cases n with
  | zero =>
    refine ⟨fun _ _ => (failHere_fails _).meets, fun _ _ _ => (failHere_fails _).bind.meets, ?_⟩
    intro d m object start _
    refine Fails.meets (Fails.after (fun _ => Fails.after (fun _ => ?_) _) _) start
    exact (failHere_fails _).bind
  | succ n =>
    have earlier : ∀ k ≤ n, PassedAlike k := fun k le => ih k (Nat.lt_succ_of_le le)
    exact ⟨value_passed earlier, items_passed earlier, fun d m object _ => members_passed earlier d m object⟩

end Reader

end Readiness.Json
