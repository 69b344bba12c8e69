import Readiness.Proofs.Ledger
import Readiness.Proofs.Poll.Laps

/-! What a poll knows of its queries is what their latest reads left. The queries come round in their
order, so the latest reads are the last ones made, as many as there are queries. -/
namespace Readiness.Poll

def Visit.noteIn (ledger : Ledger LastState) (visit : Visit) : Ledger LastState :=
  match visit.state? with
  | some state => ledger.put visit.query.key state
  | none => ledger

def known (queries : List Query) (visits : List Visit) : Ledger LastState :=
  visits.foldl Visit.noteIn (.ofList (queries.map fun q => (q.key, .unknown)))

theorem Visit.get?_noteIn_of_ne {visit : Visit} {key : String} (apart : visit.query.key ≠ key)
    (ledger : Ledger LastState) : (visit.noteIn ledger).get? key = ledger.get? key := by
  unfold Visit.noteIn
  split
  · exact Ledger.get?_put_of_ne _ apart.symm _
  · rfl

theorem Visit.noteIn_comm {first second : Visit} (apart : first.query.key ≠ second.query.key)
    (ledger : Ledger LastState) :
    second.noteIn (first.noteIn ledger) = first.noteIn (second.noteIn ledger) := by
  unfold Visit.noteIn
  split <;> split <;> first | rfl | exact Ledger.put_comm _ apart _ _

theorem get?_foldl_noteIn_of_ne {visits : List Visit} {key : String}
    (apart : ∀ visit ∈ visits, visit.query.key ≠ key) (ledger : Ledger LastState) :
    (visits.foldl Visit.noteIn ledger).get? key = ledger.get? key := by
  induction visits generalizing ledger with
  | nil => rfl
  | cons visit rest ih =>
    obtain ⟨here, later⟩ := List.forall_mem_cons.1 apart
    rw [List.foldl_cons, ih later, Visit.get?_noteIn_of_ne here]

/-- A read prevails over those before it, and is not touched by those after it with other keys. -/
theorem get?_foldl_noteIn {visit : Visit} {state : LastState} (left : visit.state? = some state)
    (before : List Visit) {after : List Visit}
    (apart : ∀ later ∈ after, later.query.key ≠ visit.query.key) (ledger : Ledger LastState) :
    ((before ++ visit :: after).foldl Visit.noteIn ledger).get? visit.query.key = some state := by
  rw [List.foldl_append, List.foldl_cons, get?_foldl_noteIn_of_ne apart, Visit.noteIn, left]
  exact Ledger.get?_put_self ..

/-- The queries are read in their order, again and again. -/
def InTurn (queries : List Query) (visits : List Visit) : Prop :=
  ∀ i visit, visits[i]? = some visit → queries[i % queries.length]? = some visit.query

theorem InTurn.prepend {queries : List Query} {lap visits : List Visit}
    (inTurn : InTurn queries visits) (asked : lap.map (·.query) = queries) :
    InTurn queries (lap ++ visits) := by
  have size : lap.length = queries.length := by rw [← asked, List.length_map]
  intro i visit here
  rcases Nat.lt_or_ge i queries.length with early | late
  · rw [List.getElem?_append_left (size ▸ early)] at here
    rw [Nat.mod_eq_of_lt early, ← asked, List.getElem?_map, here, Option.map_some]
  · obtain ⟨j, rfl⟩ := Nat.exists_eq_add_of_le late
    rw [List.getElem?_append_right (by lia), size, Nat.add_sub_cancel_left] at here
    rw [Nat.add_mod_left]
    exact inTurn j visit here

theorem inTurn_of_round {queries : List Query} {visits : List Visit}
    (asked : visits.map (·.query) <+: queries) : InTurn queries visits := by
  intro i visit here
  have short : visits.length ≤ queries.length := by simpa using asked.length_le
  have bound : i < visits.length := (List.getElem?_eq_some_iff.1 here).1
  obtain ⟨more, rfl⟩ := asked
  rw [Nat.mod_eq_of_lt (by lia), List.getElem?_append_left (by simpa using bound),
    List.getElem?_map, here, Option.map_some]

theorem mod_ne_of_lt {i j n : Nat} (later : i < j) (near : j < i + n) : j % n ≠ i % n := by
  intro same
  have distance := Nat.sub_mod_eq_zero_of_mod_eq same
  rw [Nat.mod_eq_of_lt (by lia)] at distance
  lia

section Known

variable {queries : List Query} {visits : List Visit}

theorem key_ne_of_position (distinct : (queries.map Query.key).Nodup) {i j : Nat} {p q : Query}
    (first : queries[i]? = some p) (second : queries[j]? = some q) (apart : i ≠ j) :
    p.key ≠ q.key := by
  intro same
  have bound : i < queries.length := (List.getElem?_eq_some_iff.1 first).1
  apply apart
  apply (List.getElem?_inj (by simpa using bound) distinct).1
  rw [List.getElem?_map, List.getElem?_map, first, second, Option.map_some, Option.map_some, same]

/-- Of a query that is among the last ones read, what its read left is known. -/
theorem get?_known (inTurn : InTurn queries visits) (distinct : (queries.map Query.key).Nodup)
    {i : Nat} {visit : Visit} (here : visits[i]? = some visit)
    (latest : visits.length ≤ i + queries.length) {state : LastState}
    (left : visit.state? = some state) :
    (known queries visits).get? visit.query.key = some state := by
  obtain ⟨bound, same⟩ := List.getElem?_eq_some_iff.1 here
  have split : visits = visits.take i ++ visit :: visits.drop (i + 1) := by
    rw [← same, ← List.drop_eq_getElem_cons bound, List.take_append_drop]
  rw [known, split]
  apply get?_foldl_noteIn left
  intro later member
  obtain ⟨d, inside, rfl⟩ := List.mem_iff_getElem.1 member
  rw [List.length_drop] at inside
  have there : visits[i + 1 + d]? = some (visits.drop (i + 1))[d] := by
    rw [List.getElem_drop, List.getElem?_eq_getElem]
  exact key_ne_of_position distinct (inTurn _ _ there) (inTurn _ _ here)
    (mod_ne_of_lt (by lia) (by lia))

theorem get?_known_of_unread (inTurn : InTurn queries visits)
    (distinct : (queries.map Query.key).Nodup) {j : Nat} {q : Query} (asked : queries[j]? = some q)
    (unread : visits.length ≤ j) : (known queries visits).get? q.key = some .unknown := by
  have bound : j < queries.length := (List.getElem?_eq_some_iff.1 asked).1
  have apart : ∀ visit ∈ visits, visit.query.key ≠ q.key := by
    intro visit member
    obtain ⟨i, inside, rfl⟩ := List.mem_iff_getElem.1 member
    have here := inTurn i visits[i] (List.getElem?_eq_getElem inside)
    rw [Nat.mod_eq_of_lt (by lia)] at here
    exact key_ne_of_position distinct here asked (by lia)
  rw [known, get?_foldl_noteIn_of_ne apart]
  exact Ledger.get?_ofList_map queries Query.key _ (List.mem_of_getElem? asked)

end Known

namespace Timeline

variable {σ : Type} {timeline : Timeline σ} {run later : Run} {before after : Moment σ}
variable {visits : List Visit} {laps : List (List Visit)}

theorem Reads.last_eq (reads : timeline.Reads run before visits later after) :
    later.last = visits.foldl Visit.noteIn run.last := by
  induction reads with
  | none => rfl
  | next read left _ ih =>
    rw [ih, List.foldl_cons, Visit.noteIn, left]
    rfl

theorem Lap.asked (lap : timeline.Lap run before visits later after) :
    visits.map (·.query) = run.queries := by
  cases lap with
  | turn reads asked => exact asked

theorem Lap.settled (lap : timeline.Lap run before visits later after) :
    ∀ visit ∈ visits, visit.state?.isSome := by
  cases lap with
  | turn reads => exact reads.settled

theorem Lap.last_eq (lap : timeline.Lap run before visits later after) :
    later.last = visits.foldl Visit.noteIn run.last := by
  cases lap with
  | turn reads => exact reads.last_eq

theorem Laps.last_eq (taken : timeline.Laps run before laps later after) :
    later.last = laps.flatten.foldl Visit.noteIn run.last := by
  induction taken with
  | none => rfl
  | next lap _ ih => rw [ih, lap.last_eq, List.flatten_cons, List.foldl_append]

theorem Laps.settled (taken : timeline.Laps run before laps later after) :
    ∀ visit ∈ laps.flatten, visit.state?.isSome := by
  induction taken with
  | none => simp
  | next lap _ ih =>
    rw [List.flatten_cons]
    exact List.forall_mem_append.2 ⟨lap.settled, ih⟩

theorem Laps.inTurn (taken : timeline.Laps run before laps later after)
    (inTurn : InTurn run.queries visits) : InTurn run.queries (laps.flatten ++ visits) := by
  induction taken with
  | none => exact inTurn
  | next lap _ ih =>
    rw [List.flatten_cons, List.append_assoc]
    rw [lap.queries_eq] at ih
    exact (ih inTurn).prepend lap.asked

/-- Before and after some reads of a round of a poll, its ledger holds what is known. -/
theorem Laps.known_eq {plan : Plan} {queries : List Query} {round : Run} {moment : Moment σ}
    (taken : timeline.Laps (.first plan queries before.now) before laps later after)
    (reads : timeline.Reads later.again after visits round moment) :
    round.last = known queries (laps.flatten ++ visits) := by
  have whole_laps : later.last = known queries laps.flatten := taken.last_eq
  rw [reads.last_eq, known, List.foldl_append]
  exact congrArg (visits.foldl Visit.noteIn) whole_laps

end Timeline

end Readiness.Poll
