import Mathlib.Data.List.Induction
import Readiness.Json.Shape
import Readiness.Proofs.Json.Meeting

/-! What a document that is read by a shape keeps of the document that the text writes. A reader by a
shape ends where the value ends, whatever it keeps of it; of an object that keeps more than its fields,
all other members are kept as they are, but for those that say what the object is. -/
namespace Readiness.Json

namespace Reader

theorem mismatch_fails {α : Type} (expected : String) (c : Char) :
    Fails (mismatch expected c : Reader α) := by
  unfold mismatch
  split
  · exact failHere_fails _
  · exact failHere_fails _
  · exact Fails.after (fun _ => failHere_fails _) _

theorem failInList_fails {α : Type} (fault : Fault) : Fails (failInList fault : Reader α) := by
  unfold failInList
  refine Fails.after (fun next => ?_) _
  split
  · exact Fails.after (fun _ => failHere_fails _) _
  · exact Fails.after (fun _ => Fails.after (fun _ => failHere_fails _) _) _
  · exact failHere_fails _

theorem failInObject_fails {α : Type} (fault : Fault) : Fails (failInObject fault : Reader α) := by
  unfold failInObject
  refine Fails.after (fun next => ?_) _
  dsimp only
  split
  · exact Fails.after (fun _ => failHere_fails _) _
  · exact failHere_fails _

theorem integer_ends (name : String) (bits : Nat) (signed : Bool) (c : Char) :
    EndAlike (integer name bits signed c) (scalar c) := by
  unfold integer
  by_cases starts : isNumberStart c
  · rw [if_pos starts, scalar_number starts]
    refine .step _ fun n => ?_
    cases n with
    | whole =>
      simp only
      generalize (if signed then _ else _ : Int) = least
      split
      · exact .pure trivial
      · exact (failHere_fails _).meets
    | real => exact (failHere_fails _).meets
  · rw [if_neg starts]
    exact (mismatch_fails _ _).meets

/-- A reader that goes through only where a list is closed, and past its bracket. -/
def Closes (reader : Reader Value) : Prop := ∀ start, LeavesAt start (fun _ stop =>
  start.skipBlanks.rest.head? = some ']' ∧ pass start.skipBlanks = .ok ((), stop)) reader

theorem moreItems_settled (first : Bool) (start : Cursor) :
    LeavesAt start (fun more stop => more = false → stop.skipBlanks = stop) (moreItems first) := by
  unfold moreItems
  refine .mark ?_
  split
  · exact (failHere_fails _).leaves
  · exact .pure fun _ => start.skipBlanks_idem
  · split
    · exact .pure nofun
    · split
      · refine .after fun _ _ _ => .after fun next _ _ => ?_
        split
        · exact (failNext_fails _).leaves
        · exact .pure nofun
        · exact (failHere_fails _).leaves
      · exact (failNext_fails _).leaves

theorem closed_leaves (d : Nat) (first : Bool) (m : Nat) (finish : List Value → Value) {start : Cursor}
    (bracket : start.skipBlanks.rest.head? = some ']') :
    LeavesAt start (fun _ stop => pass start.skipBlanks = .ok ((), stop))
      (do
        let items ← items d first (m + 1)
        pass
        return finish items) := by
  simp only [items, moreItems, bind_assoc]
  refine .mark ?_
  rw [bracket]
  simp only [pure_bind, Bool.false_eq_true, if_false]
  exact .after fun _ _ passed => .pure passed

theorem meets_of_callLimit {α β : Type} {R : α → β → Prop} {next : Nat → Reader α} {reader : Reader β}
    (after : ∀ n, Meets R (next n) reader) : Meets R (callLimit >>= next) reader :=
  fun start => after _ start

end Reader

namespace Shape

open Reader

def beside (fields : List Field) (members : List (String × Value)) : List (String × Value) :=
  members.filter fun member => !isField fields member.1

theorem isField_eq (fields : List Field) (key : String) :
    isField fields key = (fields.lookup key).isSome := by
  induction fields with
  | nil => rfl
  | cons field rest ih =>
    rw [isField] at ih ⊢
    rw [List.any_cons, List.lookup_cons, Bool.beq_comm, ih]
    cases key == field.1 <;> simp

/-- What is read of a value by a shape, against the value: of an object that keeps other members than
its fields, these. -/
structure Keeps (shape : Shape) (kept whole : Value) : Prop where
  wide : ∀ name fields, shape = .object .wide name fields → ∃ parts members,
    kept = assemble fields parts ∧ whole = .ofMembers members ∧
      beside fields parts = beside fields members

theorem keeps_of_ne {shape : Shape} {kept whole : Value}
    (other : ∀ name fields, shape ≠ .object .wide name fields) : Keeps shape kept whole :=
  ⟨fun name fields same => absurd same (other name fields)⟩

theorem keeps_of_meets {R : Value → Value → Prop} {shape : Shape} {reader other : Reader Value}
    (met : Meets R reader other) (notWide : ∀ name fields, shape ≠ .object .wide name fields) :
    Meets (Keeps shape) reader other :=
  met.mono fun _ _ _ => keeps_of_ne notWide

theorem expected_meets {R : Value → Value → Prop} {p : Prop} [Decidable p] {expected : String}
    {c : Char} {reader other : Reader Value} (met : p → Meets R reader other) :
    Meets R (if p then reader else mismatch expected c) other := by
  split
  · next holds => exact met holds
  · exact (mismatch_fails _ _).meets

/-- A reader by a shape ends where the value ends. -/
structure ShapedAlike (n : Nat) : Prop where
  read : ∀ d shape d' m, Meets (Keeps shape) (read d shape n) (value d' m)
  items : ∀ d item first d' m, EndAlike (readItems d item first n) (Reader.items d' first m)
  entries : ∀ d item first d' m, EndAlike (readEntries d item first n) (Reader.members d' first m)
  members : ∀ d form fields first parts d' m,
    Meets (fun parts' members => form = .wide →
        beside fields parts' = beside fields parts ++ beside fields members)
      (readMembers d form fields first parts n) (Reader.members d' first m)
  field : ∀ d use shape d' m, EndAlike (readField d use shape n) (value d' m)
  listed : ∀ d first fields d' m (close : List (String × Value) → Reader Value)
    (finish : List Value → Value), (∀ parts, Closes (close parts)) → EndAlike
      (do
        let parts ← readListed d first fields n
        close parts)
      (do
        let items ← Reader.items d' first m
        pass
        return finish items)

section Shaped

variable {n : Nat} (ih : ShapedAlike n)

include ih

theorem list_ends (d : Nat) (item : Shape) (d' m : Nat) :
    EndAlike
      (do
        enter d
        let items ← readItems (d - 1) item true n
        pass
        return Value.array items)
      (do
        enter d'
        let items ← Reader.items (d' - 1) true m
        pass
        return Value.array items) := by
  refine (enter_ends _ _).bind fun _ _ _ => (ih.items _ _ _ _ _).bind fun _ _ _ => ?_
  exact .step _ fun _ => .pure trivial

theorem table_ends (d : Nat) (item : Shape) (d' m : Nat) :
    EndAlike
      (do
        enter d
        let members ← readEntries (d - 1) item true n
        pass
        return Value.ofMembers members)
      (do
        enter d'
        let members ← Reader.members (d' - 1) true m
        pass
        return Value.ofMembers members) := by
  refine (enter_ends _ _).bind fun _ _ _ => (ih.entries _ _ _ _ _).bind fun _ _ _ => ?_
  exact .step _ fun _ => .pure trivial

theorem braces_meets (d : Nat) (form : Form) (name : String) (fields : List Field) (d' m : Nat) :
    Meets (Keeps (.object form name fields))
      (do
        enter d
        let members ← readMembers (d - 1) form fields true [] n
        match missing? fields members with
        | some key => failInObject (.missingField key)
        | none =>
          pass
          return assemble fields members)
      (do
        enter d'
        let members ← Reader.members (d' - 1) true m
        pass
        return .ofMembers members) := by
  refine (enter_ends _ _).bind fun _ _ _ => (ih.members _ _ _ _ _ _ _).bind ?_
  intro parts members same
  split
  · exact (failInObject_fails _).meets
  · refine .step _ fun _ => .pure ⟨?_⟩
    rintro _ _ wide
    obtain ⟨rfl, -, rfl⟩ := Shape.object.inj wide
    exact ⟨parts, members, rfl, rfl, same rfl⟩

/-- An object that is written as a list of its fields keeps nothing beside them. -/
theorem brackets_ends (d : Nat) (form : Form) (name : String) (fields : List Field) (d' m : Nat) :
    EndAlike
      (do
        enter d
        if form = .closed then failInList (.wrongKind (Value.array []).found name)
        else
          let members ← readListed (d - 1) true fields n
          match missing? fields members with
          | some key => failInList (.missingField key)
          | none =>
            match ← peekMark with
            | some ']' =>
              pass
              return assemble fields members
            | _ => failNext .trailingText)
      (do
        enter d'
        let items ← Reader.items (d' - 1) true m
        pass
        return Value.array items) := by
  refine (enter_ends _ _).bind fun _ _ _ => ?_
  split
  · exact (failInList_fails _).meets
  · refine ih.listed _ _ _ _ _ _ _ fun parts start => ?_
    split
    · exact (failInList_fails _).leaves
    · refine .mark ?_
      generalize start.skipBlanks.rest.head? = next
      split
      · exact .after fun _ _ passed => .pure ⟨rfl, passed⟩
      · exact (failNext_fails _).leaves

theorem read_meets (d : Nat) (shape : Shape) (d' m : Nat) :
    Meets (Keeps shape) (read d shape (n + 1)) (value d' m) := by
  cases m with
  | zero => exact (failHere_fails _).meets'
  | succ m =>
    cases shape
    case anything =>
      simp only [read]
      refine .past (value_skipsBlanks d' (m + 1)) fun start _ => ?_
      split
      · exact (failHere_fails _).meets _
      · exact keeps_of_meets ((readAlike n).value _ _ _) (by simp) start
    all_goals
      simp only [read, Reader.value]
      refine .step _ fun next => ?_
      cases next
      case none => exact (failHere_fails _).meets
    case text.some c =>
      refine expected_meets fun quote => ?_
      subst quote
      exact keeps_of_meets (Meets.refl _) (by simp)
    case boolean.some c =>
      refine expected_meets fun word => ?_
      rcases word with rfl | rfl <;> exact keeps_of_meets (Meets.refl _) (by simp)
    case integer.some name bits signed c =>
      simp only
      split
      · next absent => cases absent
      · next list =>
        obtain rfl := Option.some.inj list
        exact Fails.meets (mismatch_fails name '[')
      · next object =>
        obtain rfl := Option.some.inj object
        exact Fails.meets (mismatch_fails name '\x7b')
      · next this =>
        obtain rfl := Option.some.inj this
        exact keeps_of_meets (integer_ends _ _ _ _) (by simp)
    case timestamp.some c =>
      refine expected_meets fun quote => ?_
      subst quote
      refine .step _ fun text => ?_
      split
      · exact .pure (keeps_of_ne (by simp))
      · exact (failHere_fails _).meets
    case list.some item c =>
      refine expected_meets fun bracket => ?_
      subst bracket
      exact keeps_of_meets (list_ends ih d item d' m) (by simp)
    case table.some item c =>
      refine expected_meets fun brace => ?_
      subst brace
      exact keeps_of_meets (table_ends ih d item d' m) (by simp)
    case object.some form name fields c =>
      simp only
      split
      · next brace =>
        subst brace
        exact braces_meets ih d form name fields d' m
      · refine expected_meets fun bracket => ?_
        obtain ⟨rfl, notWide⟩ := bracket
        exact keeps_of_meets (brackets_ends ih d form name fields d' m) fun _ _ same =>
          notWide (Shape.object.inj same).1

theorem readMembers_meets (d : Nat) (form : Form) (fields : List Field) (first : Bool)
    (parts : List (String × Value)) (d' m : Nat) :
    Meets (fun parts' members => form = .wide →
        beside fields parts' = beside fields parts ++ beside fields members)
      (readMembers d form fields first parts (n + 1)) (Reader.members d' first m) := by
  cases m with
  | zero => exact (failHere_fails _).meets'
  | succ m =>
    simp only [readMembers, Reader.members]
    refine .step _ fun more => ?_
    split
    · refine .step _ fun key => ?_
      split
      · next use shape field =>
        have named : isField fields key = true := by rw [isField_eq, field, Option.isSome_some]
        split
        · exact (failInObject_fails _).meets
        · refine .step _ fun _ => (ih.field _ _ _ _ _).bind fun part whole _ => ?_
          refine (ih.members _ _ _ _ _ _ _).right fun parts' members same wide => ?_
          rw [same wide]
          simp [beside, named]
      · next unnamed =>
        have other : isField fields key = false := by rw [isField_eq, unnamed, Option.isSome_none]
        refine .step _ fun _ => ?_
        split
        · refine ((readAlike n).value _ _ _).next fun value => ?_
          refine (ih.members _ _ _ _ _ _ _).right fun parts' members same wide => ?_
          rw [same wide]
          simp [beside, other]
        · next notWide =>
          refine meets_of_callLimit fun limit => ?_
          refine (((passedAlike _).value _ _).symm fun _ _ => id).bind fun _ _ _ => ?_
          exact (ih.members _ _ _ _ _ _ _).right fun _ _ _ wide => absurd wide notWide
    · exact .pure fun _ => by simp [beside]

theorem readField_ends (d : Nat) (use : Use) (shape : Shape) (d' m : Nat) :
    EndAlike (readField d use shape (n + 1)) (value d' m) := by
  cases m with
  | zero => exact (failHere_fails _).meets'
  | succ m =>
    cases use
    case fixed expected =>
      simp only [readField, fixedText, Reader.value, bind_assoc]
      refine .step _ fun next => ?_
      split
      · exact (failHere_fails _).bind.meets
      · simp only [scalar, bind_assoc]
        refine .step _ fun found => ?_
        split
        · exact (failInObject_fails _).bind.meets
        · exact .pure trivial
      · exact (mismatch_fails _ _).bind.meets
    all_goals
      simp only [readField]
      refine .past (value_skipsBlanks d' (m + 1)) fun start settled => ?_
      split
      · next null =>
        unfold MeetsAt
        simp only [Reader.value, peekMark_settled settled, null.1]
        exact ((Meets.refl _).mono fun _ _ _ => trivial) start
      · exact (ih.read _ _ _ _).mono (fun _ _ _ => trivial) start

/-- An array may have more items than there are fields, but then it is not closed where they end. -/
theorem readListed_ends (d : Nat) (first : Bool) (fields : List Field) (d' m : Nat)
    {close : List (String × Value) → Reader Value} (finish : List Value → Value)
    (closes : ∀ parts, Closes (close parts)) :
    EndAlike
      (do
        let parts ← readListed d first fields (n + 1)
        close parts)
      (do
        let items ← Reader.items d' first m
        pass
        return finish items) := by
  cases m with
  | zero => exact (failHere_fails _).bind.meets'
  | succ m =>
    cases fields with
    | nil =>
      simp only [readListed, pure_bind]
      intro start v items stop stop' ran ran'
      obtain ⟨bracket, passed⟩ := closes _ _ ran
      have leaves := closed_leaves d' first m finish bracket ran'
      obtain rfl : stop = stop' := by simpa using passed.symm.trans leaves
      exact ⟨rfl, trivial⟩
    | cons field rest =>
      obtain ⟨key, use, shape⟩ := field
      simp only [readListed, Reader.items, bind_assoc]
      refine .stepFrom _ fun start more stop found => ?_
      cases more with
      | true =>
        simp only [if_true, bind_assoc, pure_bind]
        refine Meets.bind (ih.field _ _ _ _ _) (fun _ _ _ => ?_) stop
        exact ih.listed _ _ _ _ _ _ _ fun _ => closes _
      | false =>
        have settled := moreItems_settled first start found rfl
        simp only [Bool.false_eq_true, if_false, pure_bind]
        intro v items stop' stop'' ran ran'
        obtain ⟨-, passed⟩ := closes _ _ ran
        obtain ⟨_, _, passed', same⟩ := bind_eq_ok.1 ran'
        obtain ⟨-, rfl⟩ := pure_eq_ok.1 same
        obtain rfl : stop' = _ := by simpa [settled, passed'] using passed.symm
        exact ⟨rfl, trivial⟩

end Shaped

theorem shapedAlike (n : Nat) : ShapedAlike n := by
  induction n with
  | zero =>
    refine ⟨?_, ?_, ?_, ?_, ?_, ?_⟩ <;> intros
    on_goal 6 => exact (failHere_fails _).bind.meets
    all_goals exact (failHere_fails _).meets
  | succ n ih =>
    refine ⟨read_meets ih, ?items, ?entries, readMembers_meets ih, readField_ends ih,
      fun d first fields d' m close finish => readListed_ends ih d first fields d' m finish⟩
    case items =>
      intro d item first d' m
      cases m with
      | zero => exact (failHere_fails _).meets'
      | succ m =>
        simp only [readItems, Reader.items]
        refine .step _ fun more => ?_
        split
        · refine (ih.read _ _ _ _).bind fun _ _ _ => (ih.items _ _ _ _ _).bind fun _ _ _ => ?_
          exact .pure trivial
        · exact .pure trivial
    case entries =>
      intro d item first d' m
      cases m with
      | zero => exact (failHere_fails _).meets'
      | succ m =>
        simp only [readEntries, Reader.members]
        refine .step _ fun more => ?_
        split
        · refine .step _ fun key => .step _ fun _ => (ih.read _ _ _ _).bind fun _ _ _ => ?_
          exact (ih.entries _ _ _ _ _).bind fun _ _ _ => .pure trivial
        · exact .pure trivial

/-! ## Whole documents -/

theorem assemble_beside (fields : List Field) (parts : List (String × Value)) :
    assemble fields parts =
      .ofMembers (settle none none (beside fields parts) ++ fields.filterMap (keptOf parts)) := rfl

def isType (key : String) : Bool := key == "apiVersion" || key == "kind"

theorem settle_untyped (version kind : Option Value) (members : List (String × Value)) :
    (settle version kind members).filter (fun member => !isType member.1) =
      members.filter fun member => !isType member.1 := by
  fun_induction settle version kind members <;> simp_all [isType]

theorem outcome_eq_ok {α : Type} {reader : Reader α} {start : Cursor} {a : α} :
    reader.run' start = .ok a ↔ ∃ stop, reader start = .ok (a, stop) := by
  change Except.map Prod.fst (reader start) = _ ↔ _
  cases reader start with
  | error e => simp [Except.map]
  | ok out => simp [Except.map, Prod.ext_iff]

theorem whole_eq_ok {α : Type} {reader : Reader α} {s : String} {a : α}
    (read : whole reader s = .ok a) : ∃ stop, reader (.ofText s) = .ok (a, stop) := by
  obtain ⟨_, ran⟩ := outcome_eq_ok.1 read
  obtain ⟨result, middle, here, there⟩ := bind_eq_ok.1 ran
  obtain ⟨next, stop, -, last⟩ := bind_eq_ok.1 there
  cases next with
  | none =>
    obtain ⟨rfl, -⟩ := pure_eq_ok.1 last
    exact ⟨_, here⟩
  | some c => cases last

theorem ofText_keeps {shape : Shape} {s : String} {kept written : Value}
    (read : shape.ofText s = .ok kept) (given : Value.ofText? s = some written) :
    Keeps shape kept written := by
  obtain ⟨stop, ran⟩ := whole_eq_ok read
  have plain : whole (do value nestingLimit (← callLimit)) s = .ok written := by
    unfold Value.ofText? at given
    cases found : whole (do value nestingLimit (← callLimit)) s with
    | error e => rw [found] at given; cases given
    | ok v => rw [found] at given; rw [Option.some.inj given]
  obtain ⟨stop', ran'⟩ := whole_eq_ok plain
  exact ((shapedAlike _).read _ _ _ _ _ ran ran').2

theorem member?_ofMembers (members : List (String × Value)) (key : String) :
    (Value.ofMembers members).member? key =
      (members.filter (·.1 == key)).getLast?.map Prod.snd := by
  change (Ledger.ofList members).get? key = _
  induction members using List.reverseRecOn with
  | nil => rfl
  | append_singleton members last ih =>
    rw [Ledger.ofList, List.foldl_append, ← Ledger.ofList, List.foldl_cons, List.foldl_nil]
    by_cases same : last.1 = key
    · subst same
      simp
    · rw [Ledger.get?_put_of_ne _ (Ne.symm same), ih]
      simp [same]

theorem fst_of_keptOf {parts : List (String × Value)} {field : Field} {member : String × Value}
    (kept : keptOf parts field = some member) : member.1 = field.1 := by
  unfold keptOf at kept
  split at kept
  · obtain ⟨_, -, rfl⟩ := Option.map_eq_some_iff.1 kept
    rfl
  · rw [← Option.some.inj kept]
  · rw [← Option.some.inj kept]
  · obtain ⟨_, -, rfl⟩ := Option.map_eq_some_iff.1 kept
    rfl
  · cases kept

theorem filter_key_eq {members members' : List (String × Value)} (p : String → Bool) {key : String}
    (holds : p key = true)
    (same : members.filter (fun member => p member.1) = members'.filter fun member => p member.1) :
    members.filter (·.1 == key) = members'.filter (·.1 == key) := by
  have narrow (list : List (String × Value)) :
      list.filter (·.1 == key) = (list.filter fun member => p member.1).filter (·.1 == key) := by
    rw [List.filter_filter]
    apply List.filter_congr
    intro member _
    cases found : member.1 == key with
    | false => rfl
    | true => rw [eq_of_beq found, holds]; rfl
  rw [narrow members, narrow members', same]

/-- An object keeps what no field names and what does not say what it is. -/
theorem Keeps.member?_eq {name : String} {fields : List Field} {kept written : Value}
    (keeps : Keeps (.object .wide name fields) kept written) {key : String}
    (other : isField fields key = false) (untyped : isType key = false) :
    kept.member? key = written.member? key := by
  obtain ⟨parts, members, rfl, rfl, same⟩ := keeps.wide name fields rfl
  have named : (fields.filterMap (keptOf parts)).filter (·.1 == key) = [] := by
    rw [List.filter_eq_nil_iff]
    intro member found isKey
    obtain ⟨field, among, made⟩ := List.mem_filterMap.1 found
    have fieldKey : isField fields key = true :=
      List.any_eq_true.2 ⟨field, among, by rw [← fst_of_keptOf made, isKey]⟩
    cases other.symm.trans fieldKey
  have once : (beside fields members).filter (fun member => !isField fields member.1) =
      members.filter fun member => !isField fields member.1 := by simp [beside]
  rw [assemble_beside, member?_ofMembers, member?_ofMembers, List.filter_append, named,
    List.append_nil, filter_key_eq (fun key => !isType key) (by simp [untyped])
      (settle_untyped none none _),
    same, filter_key_eq (fun key => !isField fields key) (by simp [other]) once]

end Shape

end Readiness.Json
