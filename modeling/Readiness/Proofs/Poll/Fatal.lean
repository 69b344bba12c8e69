import Readiness.Proofs.Poll.FetchLaw
import Readiness.Proofs.Poll.Known

/-! A poll is ended for good by the first read that fails for lack of access or for a query that means
nothing, and by no other failure. The failing read leaves nothing in the report: each query is shown
there as its latest read before left it. -/
namespace Readiness

/-- Failures that waiting longer cannot mend. -/
inductive FetchError.Final : FetchError → Prop
  | unauthorized (detail : String) : Final (.unauthorized detail)
  | invalid (detail : String) : Final (.invalid detail)

theorem FetchError.isFatal_iff {e : FetchError} : e.isFatal = true ↔ e.Final := by
  constructor
  · intro fatal
    cases e with
    | unauthorized detail => exact .unauthorized detail
    | invalid detail => exact .invalid detail
    | notFound | transient => cases fatal
  · intro final
    cases final <;> rfl

namespace Poll

def Visit.Failed (visit : Visit) (e : FetchError) : Prop := visit.outcome = .answered (.error e)

theorem Visit.Failed.state? {visit : Visit} {e : FetchError} (failed : visit.Failed e) :
    visit.state? = if e.isFatal then none else some (.missing e.message) := by
  rw [Visit.state?, failed]
  rfl

theorem Visit.Failed.not_final {visit : Visit} {e : FetchError} (failed : visit.Failed e)
    (settled : visit.state?.isSome) : ¬ e.Final := by
  intro final
  rw [failed.state?, if_pos (FetchError.isFatal_iff.2 final)] at settled
  cases settled

theorem Visit.Failed.not_meets {visit : Visit} {e : FetchError} (failed : visit.Failed e)
    (condition : Condition) : visit.meets condition = false := by
  rw [Visit.meets, failed.state?]
  split <;> rfl

/-- What the report shows of a query is what the read at a position left of it. -/
def Report.Shows (report : Report) (q : Query) (visits : List Visit) (position : Nat) : Prop :=
  ∃ visit state, visits[position]? = some visit ∧ visit.query = q ∧ visit.state? = some state ∧
    report.stateOf? q = some state

/-- The report of a poll begun at `start` that ended with the error `e` to a read of `q`, the one at
place `turn` of a round, both counted from 0. -/
structure Report.Aborts (report : Report) (queries : List Query) (start : Instant)
    (visits : List Visit) (q : Query) (e : FetchError) (round turn : Nat) : Prop where
  final : e.Final
  size : visits.length = round * queries.length + turn + 1
  place : queries[turn]? = some q
  last : ∃ visit, visits.getLast? = some visit ∧ visit.query = q ∧ visit.Failed e ∧
    report.elapsed = visit.endedAt - start
  stage : report.stage = .aborted
  succeeded : report.succeeded = false
  /-- The queries before the failing one were read in its round. -/
  earlier : ∀ j p, j < turn → queries[j]? = some p →
    report.Shows p visits (round * queries.length + j)
  /-- The failing query and those after it were not read before, if it is the first round. -/
  unread : round = 0 → ∀ j p, turn ≤ j → queries[j]? = some p → report.stateOf? p = some .unknown
  /-- In a later round, they were last read in the round before. -/
  older : ∀ before, round = before + 1 → ∀ j p, turn ≤ j → queries[j]? = some p →
    report.Shows p visits (before * queries.length + j)

/-- How fatal failures and failures that may pass show in the reads and the result of a poll. -/
structure FatalLaw (plan : Plan) (queries : List Query) (start : Instant) (visits : List Visit)
    (result : Option Ending) : Prop where
  fatal_iff : (∃ ending q e report, result = some ending ∧
      ending.verdict = .error (.fatal q e report)) ↔
    ∃ visit ∈ visits, ∃ e, visit.Failed e ∧ e.Final
  last : ∀ i visit e, visits[i]? = some visit → visit.Failed e → e.Final → i + 1 = visits.length
  aborts : ∀ ending q e report, result = some ending →
    ending.verdict = .error (.fatal q e report) →
    ∃ round turn, report.Aborts queries start visits q e round turn
  /-- A failure that may pass is followed by another read, unless it ends a round after which no
  other fits the time, or the poll is called off. -/
  retried : ∀ ending i visit e, result = some ending → visits[i]? = some visit →
    visit.Failed e → ¬ e.Final →
    i + 1 < visits.length ∨
    ((i + 1) % queries.length = 0 ∧ ∃ report, ending.verdict = .ok report ∧
      report.stage = .timedOut ∧ plan.timeout < report.elapsed + plan.interval) ∨
    ∃ report, ending.verdict = .error (.cancelled report)

namespace Timeline

variable {σ : Type} {timeline : Timeline σ} {run later : Run} {before middle after : Moment σ}
variable {visits : List Visit} {laps : List (List Visit)} {ending : Ending}

theorem Closes.failed_of_fatal (closes : timeline.Closes run before visits ending after) {q : Query}
    {e : FetchError} {report : Report} (verdict : ending.verdict = .error (.fatal q e report)) :
    ∃ reads round moment last rest, timeline.Reads run.again before reads round moment ∧
      visits = reads ++ [last] ∧ reads.map (·.query) ++ last.query :: rest = run.queries ∧
      last.query = q ∧ last.Failed e ∧ e.Final ∧
      report = Run.report { round with now := last.endedAt } .aborted := by
  cases closes with
  | satisfied | overdue | calledOffInPause | calledOff => cases verdict
  | @stopped round moment _ reads last rest _ read asked visit stops =>
    generalize made : last.outcome = outcome at stops
    cases stops with
    | cancelled | late => cases verdict
    | fatal isFatal =>
      obtain ⟨rfl, rfl, rfl⟩ : last.query = q ∧ _ = e ∧ _ = report := by
        simpa [Run.finish] using verdict
      exact ⟨_, _, _, _, _, read, rfl, asked, rfl, made, FetchError.isFatal_iff.1 isFatal, rfl⟩

/-- Only the last read of a last round can have failed for good, and then the verdict is fatal. -/
theorem Closes.fatal_of_failed (closes : timeline.Closes run before visits ending after) {i : Nat}
    {visit : Visit} (here : visits[i]? = some visit) {e : FetchError} (failed : visit.Failed e)
    (final : e.Final) :
    i + 1 = visits.length ∧ ∃ q report, ending.verdict = .error (.fatal q e report) := by
  cases closes with
  | satisfied reads | overdue reads | calledOffInPause reads | calledOff reads =>
    exact absurd final (failed.not_final (reads.settled visit (List.mem_of_getElem? here)))
  | @stopped _ _ _ reads_made last _ _ reads asked read stops =>
    rcases Nat.lt_or_ge i reads_made.length with early | late
    · rw [List.getElem?_append_left early] at here
      exact absurd final (failed.not_final (reads.settled visit (List.mem_of_getElem? here)))
    · have bound := (List.getElem?_eq_some_iff.1 here).1
      rw [List.length_append, List.length_singleton] at bound ⊢
      obtain rfl : i = reads_made.length := by lia
      rw [List.getElem?_concat_length, Option.some.injEq] at here
      subst here
      rw [failed] at stops
      cases stops with
      | fatal => exact ⟨rfl, _, _, rfl⟩

theorem Closes.cancelled_of_nil (closes : timeline.Closes run before [] ending after)
    (nonempty : run.queries ≠ []) : ∃ report, ending.verdict = .error (.cancelled report) := by
  generalize none : ([] : List Visit) = visits at closes
  cases closes with
  | satisfied reads asked | overdue reads asked =>
    subst none
    exact absurd asked.symm nonempty
  | calledOffInPause | calledOff => exact ⟨_, rfl⟩
  | stopped => simp at none

/-- After a failure that may pass the poll ends only if the round is over and no other round fits, or
if it is called off. -/
theorem Closes.ends_after_retryable (closes : timeline.Closes run before visits ending after)
    {visit : Visit} (last : visits.getLast? = some visit) {e : FetchError}
    (failed : visit.Failed e) (passing : ¬ e.Final) :
    (visits.length = run.queries.length ∧ ∃ report, ending.verdict = .ok report ∧
      report.stage = .timedOut ∧ run.plan.timeout < report.elapsed + run.plan.interval) ∨
    ∃ report, ending.verdict = .error (.cancelled report) := by
  have member : visit ∈ visits := List.mem_of_getLast? last
  cases closes with
  | satisfied reads asked met =>
    have meets := List.all_eq_true.1 met visit member
    rw [failed.not_meets] at meets
    cases meets
  | overdue reads asked unmet overdue =>
    exact .inl ⟨by rw [← asked, List.length_map], _, rfl, rfl, overdue⟩
  | calledOffInPause | calledOff => exact .inr ⟨_, rfl⟩
  | stopped reads asked read stops =>
    rw [List.getLast?_concat, Option.some.injEq] at last
    subst last
    rw [failed] at stops
    cases stops with
    | fatal isFatal => exact absurd (FetchError.isFatal_iff.1 isFatal) passing

theorem aborts_of_fatal {plan : Plan} {queries : List Query}
    (distinct : (queries.map Query.key).Nodup)
    (taken : timeline.Laps (.first plan queries before.now) before laps later middle)
    (closes : timeline.Closes later middle visits ending after) {q : Query} {e : FetchError}
    {report : Report} (verdict : ending.verdict = .error (.fatal q e report)) :
    ∃ turn, report.Aborts queries before.now (laps.flatten ++ visits) q e laps.length turn := by
  obtain ⟨made, round, moment, last, rest, reads, rfl, asked, rfl, failed, final, rfl⟩ :=
    closes.failed_of_fatal verdict
  have queries_eq : later.queries = queries := taken.queries_eq
  have started : round.started = before.now := reads.started_eq.trans taken.started_eq
  rw [queries_eq] at asked
  have size : laps.flatten.length = laps.length * queries.length := taken.length_flatten
  have inTurn : InTurn queries (laps.flatten ++ made) :=
    taken.inTurn (inTurn_of_round ⟨_, asked⟩)
  have ledger : round.last = known queries (laps.flatten ++ made) := taken.known_eq reads
  have place : queries[made.length]? = some last.query := by
    rw [← asked, List.getElem?_append_right (by simp)]
    simp
  have bound : made.length < queries.length := (List.getElem?_eq_some_iff.1 place).1
  have settled : ∀ visit ∈ laps.flatten ++ made, visit.state?.isSome :=
    List.forall_mem_append.2 ⟨taken.settled, reads.settled⟩
  -- The reads before the failing one that are not a round ago are those that are shown.
  have shows {i j : Nat} {p : Query} (here : queries[j]? = some p) (same : i % queries.length = j)
      (inside : i < (laps.flatten ++ made).length)
      (latest : (laps.flatten ++ made).length ≤ i + queries.length) :
      Report.Shows (Run.report { round with now := last.endedAt } .aborted) p
        (laps.flatten ++ (made ++ [last])) i := by
    have found := List.getElem?_eq_getElem inside
    have read := inTurn _ _ found
    rw [same, here, Option.some.injEq] at read
    obtain ⟨state, left⟩ := Option.isSome_iff_exists.1 (settled _ (List.getElem_mem inside))
    refine ⟨_, state, ?_, read.symm, left, ?_⟩
    · rw [← List.append_assoc, List.getElem?_append_left inside, found]
    · rw [read]
      change round.last.get? _ = _
      rw [ledger]
      exact get?_known inTurn distinct found latest left
  refine ⟨made.length, final, ?_, place, ⟨last, ?_, rfl, failed, ?_⟩, rfl, rfl, ?_, ?_, ?_⟩
  · rw [List.length_append, size, List.length_append, List.length_singleton, Nat.add_assoc]
  · rw [← List.append_assoc, List.getLast?_concat]
  · rw [← started]
    rfl
  · intro j p early here
    apply shows here
    · rw [Nat.mul_comm, Nat.mul_add_mod, Nat.mod_eq_of_lt (by lia)]
    · rw [List.length_append, size]
      lia
    · rw [List.length_append, size]
      lia
  · intro first j p late here
    change round.last.get? _ = _
    rw [ledger]
    apply get?_known_of_unread inTurn distinct here
    rw [List.length_append, size, first]
    lia
  · intro count rounds j p late here
    have inside : j < queries.length := (List.getElem?_eq_some_iff.1 here).1
    apply shows here
    · rw [Nat.mul_comm, Nat.mul_add_mod, Nat.mod_eq_of_lt inside]
    · rw [List.length_append, size, rounds, Nat.succ_mul]
      lia
    · rw [List.length_append, size, rounds, Nat.succ_mul]
      lia

theorem Laps.located (taken : timeline.Laps run before laps later middle)
    (closes : timeline.Closes later middle visits ending after) {i : Nat} {visit : Visit}
    (here : (laps.flatten ++ visits)[i]? = some visit) {e : FetchError} (failed : visit.Failed e)
    (final : e.Final) : i + 1 = (laps.flatten ++ visits).length ∧
      ∃ q report, ending.verdict = .error (.fatal q e report) := by
  rcases Nat.lt_or_ge i laps.flatten.length with early | late
  · rw [List.getElem?_append_left early] at here
    exact absurd final (failed.not_final (taken.settled visit (List.mem_of_getElem? here)))
  · rw [List.getElem?_append_right late] at here
    obtain ⟨last, verdict⟩ := closes.fatal_of_failed here failed final
    refine ⟨?_, verdict⟩
    rw [List.length_append]
    lia

theorem Laps.ends_after_retryable (taken : timeline.Laps run before laps later middle)
    (closes : timeline.Closes later middle visits ending after) {visit : Visit}
    (last : (laps.flatten ++ visits).getLast? = some visit) {e : FetchError}
    (failed : visit.Failed e) (passing : ¬ e.Final) :
    ((laps.flatten ++ visits).length % run.queries.length = 0 ∧ ∃ report,
      ending.verdict = .ok report ∧ report.stage = .timedOut ∧
      run.plan.timeout < report.elapsed + run.plan.interval) ∨
    ∃ report, ending.verdict = .error (.cancelled report) := by
  have size := taken.length_flatten
  rcases List.eq_nil_or_concat visits with rfl | ⟨front, final, made⟩
  · right
    apply closes.cancelled_of_nil
    intro none
    rw [taken.queries_eq] at none
    rw [none, List.length_nil, Nat.mul_zero, List.length_eq_zero_iff] at size
    simp [size] at last
  · rw [List.concat_eq_append] at made
    subst made
    rw [← List.append_assoc, List.getLast?_concat, Option.some.injEq] at last
    subst last
    rcases closes.ends_after_retryable (List.getLast?_concat ..) failed passing with
      ⟨whole, given⟩ | calledOff
    · left
      rw [taken.plan_eq] at given
      rw [taken.queries_eq] at whole
      refine ⟨?_, given⟩
      rw [List.length_append, size, whole, ← Nat.succ_mul, Nat.mul_mod_left]
    · exact .inr calledOff

theorem Laps.fatalLaw {plan : Plan} {queries : List Query}
    (distinct : (queries.map Query.key).Nodup)
    (taken : timeline.Laps (.first plan queries before.now) before laps later middle)
    (closes : timeline.Closes later middle visits ending after) :
    FatalLaw plan queries before.now (laps.flatten ++ visits) (some ending) := by
  constructor
  case fatal_iff =>
    constructor
    · rintro ⟨_, q, e, report, same, verdict⟩
      obtain rfl := Option.some.inj same
      obtain ⟨made, _, _, last, _, _, rfl, _, _, failed, final, _⟩ :=
        closes.failed_of_fatal verdict
      exact ⟨last, by simp, e, failed, final⟩
    · rintro ⟨visit, member, e, failed, final⟩
      obtain ⟨i, here⟩ := List.mem_iff_getElem?.1 member
      obtain ⟨-, q, report, verdict⟩ := taken.located closes here failed final
      exact ⟨ending, q, e, report, rfl, verdict⟩
  case last =>
    intro i visit e here failed final
    exact (taken.located closes here failed final).1
  case aborts =>
    intro _ q e report same verdict
    obtain rfl := Option.some.inj same
    exact ⟨laps.length, aborts_of_fatal distinct taken closes verdict⟩
  case retried =>
    intro _ i visit e same here failed passing
    obtain rfl := Option.some.inj same
    have bound := (List.getElem?_eq_some_iff.1 here).1
    rcases Nat.lt_or_eq_of_le bound with more | final
    · exact .inl more
    · rw [← Nat.succ_eq_add_one, final]
      rw [← Nat.add_sub_cancel i 1, ← Nat.succ_eq_add_one, final, ← List.getLast?_eq_getElem?]
        at here
      exact .inr (taken.ends_after_retryable closes here failed passing)

theorem Laps.fatalLaw_of_endless {plan : Plan} {queries : List Query} (start : Instant)
    (taken : timeline.Laps run before laps later middle) :
    FatalLaw plan queries start laps.flatten .none := by
  have passing {visit : Visit} (member : visit ∈ laps.flatten) {e : FetchError}
      (failed : visit.Failed e) : ¬ e.Final := failed.not_final (taken.settled visit member)
  constructor
  case fatal_iff =>
    constructor
    · rintro ⟨_, _, _, _, same, -⟩
      cases same
    · rintro ⟨visit, member, e, failed, final⟩
      exact absurd final (passing member failed)
  case last =>
    intro i visit e here failed final
    exact absurd final (passing (List.mem_of_getElem? here) failed)
  case aborts =>
    intro _ _ _ _ same
    cases same
  case retried =>
    intro _ _ _ _ same
    cases same

end Timeline

/-- A poll ends fatally if and only if one of its reads fails for good, and then at once; no other
failure ends it. -/
theorem poll_obeys_fatalLaw {σ : Type} (timeline : Timeline σ) (plan : Plan) (queries : List Query)
    (distinct : (queries.map Query.key).Nodup) (start : Instant) (source : σ) :
    ∃ result after, timeline.run (poll plan queries) ⟨start, source, []⟩ = some (result, after) ∧
      FatalLaw plan queries start after.visits result := by
  obtain ⟨laps, later, middle, taken, rest⟩ :=
    timeline.poll_takes_laps plan queries ⟨start, source, []⟩
  have made := taken.visits_eq
  rw [List.nil_append] at made
  rcases rest with ⟨-, ran⟩ | ⟨-, visits, ending, after, closes, ran⟩
  · refine ⟨none, middle, ran, ?_⟩
    rw [made]
    exact taken.fatalLaw_of_endless start
  · refine ⟨some ending, after, ran, ?_⟩
    rw [closes.visits_eq, made]
    exact taken.fatalLaw distinct closes

/-- A database that is not there at first, and then may not be read. -/
def denied : Timeline Unit where
  answer q now source :=
    (.after (Duration.ofSecs 1),
      if q.name ≠ "db" then .ok ⟨q.name, "Running"⟩
      else if now < Duration.ofSecs 5 then .error (.notFound "no db")
      else .error (.unauthorized "token expired"),
      source)
  cancelAt := none

theorem poll_denied_obeys_fatalLaw :
    let plan : Plan := { condition := .equals "Running" }
    let db : Query := ⟨"pod", "db", "shop", none⟩
    let queries : List Query := [⟨"pod", "api", "shop", none⟩, db]
    (queries.map Query.key).Nodup ∧ ∃ ending report after,
      denied.run (poll plan queries) ⟨0, (), []⟩ = some (some ending, after) ∧
        ending.verdict = .error (.fatal db (.unauthorized "token expired") report) ∧
        report.Aborts queries 0 after.visits db (.unauthorized "token expired") 1 1 := by
  intro plan db queries
  have distinct : (queries.map Query.key).Nodup := by decide
  obtain ⟨result, after, ran, law⟩ := poll_obeys_fatalLaw denied plan queries distinct 0 ()
  have ended : (denied.run (poll plan queries) ⟨0, (), []⟩).map (fun out =>
      (out.1.bind fun ending => match ending.verdict with
        | .error (.fatal q e _) => some (q, e)
        | _ => none, out.2.visits.length)) =
      some (some (db, .unauthorized "token expired"), 4) := by decide +kernel
  rw [ran, Option.map_some, Option.some.injEq, Prod.mk.injEq, Option.bind_eq_some_iff] at ended
  obtain ⟨⟨ending, rfl, fatal⟩, size⟩ := ended
  split at fatal
  · next q e report verdict =>
    obtain ⟨rfl, rfl⟩ : q = db ∧ e = .unauthorized "token expired" := by simpa using fatal
    obtain ⟨round, turn, aborts⟩ := law.aborts ending _ _ report rfl verdict
    have place := aborts.size
    have bound := (List.getElem?_eq_some_iff.1 aborts.place).1
    have two : queries.length = 2 := rfl
    rw [size, two] at place
    rw [two] at bound
    obtain rfl : round = 1 := by lia
    obtain rfl : turn = 1 := by lia
    exact ⟨distinct, ending, report, after, ran, verdict, aborts⟩
  · cases fatal

end Poll

end Readiness
