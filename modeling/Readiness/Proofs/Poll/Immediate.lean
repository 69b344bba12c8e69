import Readiness.Proofs.Poll.Deadline

/-! Polls whose reads are answered at once, by what is asked and when. Such a poll takes no time but
its pauses, so its rounds begin at multiples of the interval, and the first round that decides it
tells how it ends. -/
namespace Readiness.Poll

abbrev Reply := Except FetchError Reading

namespace Reply

def isFatal : Reply → Bool
  | .ok _ => false
  | .error e => e.isFatal

def meets (condition : Condition) : Reply → Bool
  | .ok reading => condition.holds reading.state
  | .error _ => false

theorem not_isFatal_of_meets {condition : Condition} {reply : Reply}
    (met : reply.meets condition = true) : reply.isFatal = false := by
  cases reply with
  | ok => rfl
  | error => simp [meets] at met

theorem isSome_state? (reply : Reply) (now : Instant) :
    (Timed.state? now (.answered reply)).isSome = !reply.isFatal := by
  cases reply with
  | ok => rfl
  | error e => cases fatal : e.isFatal <;> simp [Timed.state?, isFatal, fatal]

theorem any_meets_state? (condition : Condition) (reply : Reply) (now : Instant) :
    (Timed.state? now (.answered reply)).any (·.meets condition) = reply.meets condition := by
  cases reply with
  | ok => rfl
  | error e => cases fatal : e.isFatal <;> simp [Timed.state?, meets, fatal, LastState.meets]

end Reply

def Decisive (condition : Condition) (queries : List Query) (replies : Query → Reply) : Prop :=
  (∃ q ∈ queries, (replies q).isFatal = true) ∨
    ∀ q ∈ queries, (replies q).meets condition = true

instance (condition : Condition) (queries : List Query) (replies : Query → Reply) :
    Decidable (Decisive condition queries replies) := inferInstanceAs (Decidable (_ ∨ _))

/-- The replies to round `j`, counted from 0, of a poll that waits for nothing but its pauses. -/
def Plan.replies (plan : Plan) (reply : Query → Instant → Reply) (start : Instant) (j : Nat)
    (q : Query) : Reply := reply q (start + j * plan.interval)

theorem Plan.replies_zero (plan : Plan) (reply : Query → Instant → Reply) (start : Instant) :
    plan.replies reply start 0 = (reply · start) := by
  funext q
  rw [replies, Nat.zero_mul, Nat.add_zero]

theorem Plan.replies_succ (plan : Plan) (reply : Query → Instant → Reply) (start : Instant)
    (j : Nat) : plan.replies reply start (j + 1) = plan.replies reply (start + plan.interval) j := by
  funext q
  rw [replies, replies, Nat.succ_mul, Nat.add_assoc, Nat.add_comm plan.interval]

inductive Settles (plan : Plan) (queries : List Query) (replies : Query → Reply)
    (elapsed : Duration) : Except Error Report → Prop
  | satisfied {report : Report} (met : ∀ q ∈ queries, (replies q).meets plan.condition = true)
    (stage : report.stage = .satisfied) : Settles plan queries replies elapsed (.ok report)
  | overdue {report : Report} (undecided : ¬ Decisive plan.condition queries replies)
    (late : plan.timeout < elapsed + plan.interval) (stage : report.stage = .timedOut) :
    Settles plan queries replies elapsed (.ok report)
  | fatal {q : Query} {e : FetchError} {report : Report}
    (first : queries.find? (fun q => (replies q).isFatal) = some q) (failed : replies q = .error e) :
    Settles plan queries replies elapsed (.error (.fatal q e report))

section Settles

variable {plan : Plan} {queries : List Query} {replies : Query → Reply} {elapsed : Duration}
variable {verdict : Except Error Report}

theorem decisive_of_first {condition : Condition} {q : Query}
    (first : queries.find? (fun q => (replies q).isFatal) = some q) :
    Decisive condition queries replies := by
  have fatal := List.find?_some first
  exact .inl ⟨q, List.mem_of_find?_eq_some first, fatal⟩

theorem Settles.satisfied_of_met (settles : Settles plan queries replies elapsed verdict)
    (met : ∀ q ∈ queries, (replies q).meets plan.condition = true) :
    ∃ report, verdict = .ok report ∧ report.stage = .satisfied := by
  cases settles with
  | satisfied _ stage => exact ⟨_, rfl, stage⟩
  | overdue undecided => exact absurd (.inr met) undecided
  | fatal first =>
    have fatal := List.find?_some first
    rw [Reply.not_isFatal_of_meets (met _ (List.mem_of_find?_eq_some first))] at fatal
    cases fatal

theorem Settles.overdue_of_undecided (settles : Settles plan queries replies elapsed verdict)
    (undecided : ¬ Decisive plan.condition queries replies) :
    ∃ report, verdict = .ok report ∧ report.stage = .timedOut ∧
      plan.timeout < elapsed + plan.interval := by
  cases settles with
  | satisfied met => exact absurd (.inr met) undecided
  | overdue _ late stage => exact ⟨_, rfl, stage, late⟩
  | fatal first => exact absurd (decisive_of_first first) undecided

theorem Settles.fatal_of_first (settles : Settles plan queries replies elapsed verdict) {q : Query}
    (first : queries.find? (fun q => (replies q).isFatal) = some q) :
    ∃ e report, replies q = .error e ∧ verdict = .error (.fatal q e report) := by
  cases settles with
  | satisfied met =>
    have fatal := List.find?_some first
    rw [Reply.not_isFatal_of_meets (met _ (List.mem_of_find?_eq_some first))] at fatal
    cases fatal
  | overdue undecided => exact absurd (decisive_of_first first) undecided
  | fatal found failed =>
    obtain rfl := Option.some.inj (found.symm.trans first)
    exact ⟨_, _, failed, rfl⟩

end Settles

namespace Timeline

variable {σ : Type} {timeline : Timeline σ} {reply : Query → Instant → Reply}
variable {run later : Run} {before middle after : Moment σ} {visits : List Visit}
variable {laps : List (List Visit)} {ending : Ending}

/-- Nothing is waited for but pauses, and nothing is called off. -/
structure AnswersAtOnce (timeline : Timeline σ) (reply : Query → Instant → Reply) : Prop where
  answer : ∀ q now source, ∃ left, timeline.answer q now source = (.ready, reply q now, left)
  uncancelled : timeline.cancelAt = none

theorem Read.at_once {budget : Duration} {visit : Visit}
    (read : timeline.Read budget before visit after) (atOnce : timeline.AnswersAtOnce reply) :
    visit.outcome = .answered (reply visit.query before.now) ∧ visit.endedAt = before.now := by
  have comes := read.comes
  obtain ⟨left, answer⟩ := atOnce.answer visit.query before.now before.source
  rw [answer] at comes
  generalize visit.outcome = outcome, visit.endedAt = ended at comes ⊢
  cases comes with
  | answered found =>
    obtain rfl := Option.some.inj found
    exact ⟨rfl, rfl⟩
  | late missed => cases missed
  | cancelled set =>
    rw [atOnce.uncancelled] at set
    cases set

theorem Reads.at_once (reads : timeline.Reads run before visits later after)
    (atOnce : timeline.AnswersAtOnce reply) : after.now = before.now ∧
      ∀ visit ∈ visits, visit.outcome = .answered (reply visit.query before.now) := by
  induction reads with
  | none => exact ⟨rfl, nofun⟩
  | next read left _ ih =>
    obtain ⟨answered, ended⟩ := read.at_once atOnce
    rw [read.ended, ended] at ih
    exact ⟨ih.1, List.forall_mem_cons.2 ⟨answered, ih.2⟩⟩

theorem Reads.not_fatal (reads : timeline.Reads run before visits later after)
    (atOnce : timeline.AnswersAtOnce reply) :
    ∀ visit ∈ visits, (reply visit.query before.now).isFatal = false := by
  intro visit member
  have settled := reads.settled visit member
  rw [Visit.state?, (reads.at_once atOnce).2 visit member, Reply.isSome_state?] at settled
  simpa using settled

theorem Reads.all_meets (reads : timeline.Reads run before visits later after)
    (atOnce : timeline.AnswersAtOnce reply) (condition : Condition) :
    visits.all (·.meets condition) =
      (visits.map (·.query)).all fun q => (reply q before.now).meets condition := by
  rw [List.all_map, Bool.eq_iff_iff, List.all_eq_true, List.all_eq_true]
  refine forall₂_congr fun visit member => ?_
  rw [Visit.meets, Visit.state?, (reads.at_once atOnce).2 visit member, Reply.any_meets_state?]
  rfl

theorem Reads.undecided {queries : List Query} {condition : Condition}
    (reads : timeline.Reads run before visits later after)
    (atOnce : timeline.AnswersAtOnce reply) (asked : visits.map (·.query) = queries)
    (unmet : visits.all (·.meets condition) = false) :
    ¬ Decisive condition queries (reply · before.now) := by
  subst asked
  rw [reads.all_meets atOnce] at unmet
  rintro (⟨q, member, fatal⟩ | met)
  · obtain ⟨visit, visited, rfl⟩ := List.mem_map.1 member
    rw [reads.not_fatal atOnce visit visited] at fatal
    cases fatal
  · rw [List.all_eq_true.2 met] at unmet
    cases unmet

theorem not_isCancelled (atOnce : timeline.AnswersAtOnce reply) (now : Instant) :
    timeline.isCancelled now = false := by
  simp [isCancelled, cutBefore, atOnce.uncancelled]

theorem Lap.undecided (lap : timeline.Lap run before visits later after)
    (atOnce : timeline.AnswersAtOnce reply) :
    ¬ Decisive run.plan.condition run.queries (reply · before.now) := by
  cases lap with
  | turn reads asked unmet => exact reads.undecided atOnce asked unmet

theorem Lap.lasts (lap : timeline.Lap run before visits later after)
    (atOnce : timeline.AnswersAtOnce reply) :
    after.now = before.now + timeline.timer run.plan.interval := by
  cases lap with
  | turn reads asked unmet early pause =>
    cases pause
    rw [(reads.at_once atOnce).1]

theorem Lap.at_once (lap : timeline.Lap run before visits later after)
    (atOnce : timeline.AnswersAtOnce reply) (exact : timeline.IsExactUpTo run.plan.timeout) :
    after.now = before.now + run.plan.interval ∧
      ¬ Decisive run.plan.condition run.queries (reply · before.now) := by
  refine ⟨?_, lap.undecided atOnce⟩
  rw [lap.lasts atOnce]
  cases lap with
  | turn reads asked unmet early => rw [exact _ (by lia)]

theorem Laps.at_once (taken : timeline.Laps run before laps later after)
    (atOnce : timeline.AnswersAtOnce reply) (exact : timeline.IsExactUpTo run.plan.timeout) :
    after.now = before.now + laps.length * run.plan.interval ∧ ∀ j < laps.length,
      ¬ Decisive run.plan.condition run.queries (run.plan.replies reply before.now j) := by
  induction taken with
  | none => exact ⟨by simp, nofun⟩
  | @next run between _ before _ _ _ rest lap _ ih =>
    obtain ⟨lasted, undecided⟩ := lap.at_once atOnce exact
    rw [lap.plan_eq, lap.queries_eq, lasted] at ih
    obtain ⟨total, rest⟩ := ih exact
    refine ⟨?_, fun j bound => ?_⟩
    · rw [total, List.length_cons, Nat.succ_mul]
      lia
    · cases j with
      | zero => rwa [Plan.replies_zero]
      | succ j =>
        rw [Plan.replies_succ]
        exact rest j (by simpa using bound)

/-- The last round settles the poll at the instant at which it begins. -/
theorem Closes.at_once (closes : timeline.Closes run before visits ending after)
    (atOnce : timeline.AnswersAtOnce reply) (synced : run.now = before.now) :
    after.now = before.now ∧
      Settles run.plan run.queries (reply · before.now) run.elapsed ending.verdict := by
  cases closes with
  | satisfied reads asked met =>
    rw [reads.all_meets atOnce, asked, List.all_eq_true] at met
    exact ⟨(reads.at_once atOnce).1, .satisfied met rfl⟩
  | @overdue later _ _ reads asked unmet overdue =>
    have ended := (reads.at_once atOnce).1
    have elapsed : later.elapsed = run.elapsed := by
      have started : later.started = run.started := reads.started_eq
      rw [Run.elapsed, Run.elapsed, started, reads.synced synced, ended, synced]
    exact ⟨ended, .overdue (reads.undecided atOnce asked unmet) (elapsed ▸ overdue) rfl⟩
  | calledOffInPause reads asked unmet early pause =>
    cases pause with
    | calledOff set =>
      rw [atOnce.uncancelled] at set
      cases set
  | calledOff reads asked cancelled =>
    rw [not_isCancelled atOnce] at cancelled
    cases cancelled
  | @stopped _ _ _ _ last rest _ reads asked read stops =>
    obtain ⟨answered, ended⟩ := read.at_once atOnce
    have begun := (reads.at_once atOnce).1
    rw [begun] at answered ended
    rw [answered] at stops
    refine ⟨read.ended.trans ended, ?_⟩
    generalize made : reply last.query before.now = result at stops
    cases stops with
    | fatal isFatal =>
      refine .fatal ?_ made
      rw [← asked, List.find?_append, List.find?_eq_none.2 ?_, List.find?_cons_of_pos]
      · rfl
      · rwa [made]
      · intro q member
        obtain ⟨visit, visited, rfl⟩ := List.mem_map.1 member
        simp [reads.not_fatal atOnce visit visited]

theorem Closes.counts (closes : timeline.Closes run before visits ending after)
    (atOnce : timeline.AnswersAtOnce reply) (synced : run.now = before.now)
    {report : Report} (reported : ending.report? = some report) :
    report.attempts = run.attempts + 1 ∧ report.elapsed = run.elapsed := by
  obtain ⟨last, stage, same, made⟩ := closes.reports synced
  obtain rfl := Option.some.inj (same.symm.trans reported)
  rw [made, (closes.at_once atOnce synced).1, ← synced]
  exact ⟨rfl, rfl⟩

end Timeline

/-- The closed form of a poll whose reads are answered at once: undecided rounds go on until the next
one would begin past the deadline, and the first decisive round before that ends the poll with the
verdict that its replies make. -/
theorem poll_closed_form {σ : Type} (timeline : Timeline σ) (reply : Query → Instant → Reply)
    (plan : Plan) (queries : List Query) (before : Moment σ)
    (atOnce : timeline.AnswersAtOnce reply) (paced : 0 < plan.interval)
    (exact : timeline.IsExactUpTo plan.timeout) :
    ∃ ending after, timeline.run (poll plan queries) before = some (some ending, after) ∧
      ((∀ j, j * plan.interval ≤ plan.timeout →
          ¬ Decisive plan.condition queries (plan.replies reply before.now j)) →
        ∃ report, ending.verdict = .ok report ∧ report.stage = .timedOut ∧
          report.attempts = plan.timeout / plan.interval + 1 ∧
          report.elapsed = plan.timeout / plan.interval * plan.interval) ∧
      ∀ k, k * plan.interval ≤ plan.timeout →
        (∀ j < k, ¬ Decisive plan.condition queries (plan.replies reply before.now j)) →
        ((∀ q ∈ queries, (plan.replies reply before.now k q).meets plan.condition = true) →
          ∃ report, ending.verdict = .ok report ∧ report.stage = .satisfied ∧
            report.attempts = k + 1 ∧ report.elapsed = k * plan.interval) ∧
        ∀ q, queries.find? (fun q => (plan.replies reply before.now k q).isFatal) = some q →
          ∃ e report, plan.replies reply before.now k q = .error e ∧
            ending.verdict = .error (.fatal q e report) ∧
            report.attempts = k + 1 ∧ report.elapsed = k * plan.interval := by
  obtain ⟨laps, later, middle, visits, ending, after, taken, closes, ran, bound⟩ :=
    timeline.poll_closes paced exact queries before
  obtain ⟨begun, undecided⟩ := taken.at_once atOnce exact
  have synced := taken.synced rfl
  have started : later.started = before.now := taken.started_eq
  have plan_eq : later.plan = plan := taken.plan_eq
  have queries_eq : later.queries = queries := taken.queries_eq
  have attempts : later.attempts = laps.length := taken.attempts_eq.trans (Nat.zero_add _)
  rw [Run.first_plan] at begun
  have elapsed : later.elapsed = laps.length * plan.interval := by
    rw [Run.elapsed, started, synced, begun, Nat.add_sub_cancel_left]
  obtain ⟨ended, settles⟩ := closes.at_once atOnce synced
  rw [plan_eq, queries_eq, begun, elapsed] at settles
  -- Every report with which the poll can end counts the laps and the last round.
  have counts {report : Report} (reported : ending.report? = some report) :
      report.attempts = laps.length + 1 ∧ report.elapsed = laps.length * plan.interval := by
    obtain ⟨last, stage, same, made⟩ := closes.reports synced
    obtain rfl := Option.some.inj (same.symm.trans reported)
    rw [← elapsed, ← attempts, made, ended, ← synced]
    exact ⟨rfl, rfl⟩
  have fits : laps.length * plan.interval ≤ plan.timeout := (Nat.le_div_iff_mul_le paced).1 bound
  refine ⟨ending, after, ran, fun never => ?_, fun k inTime first => ?_⟩
  · obtain ⟨report, made, stage, late⟩ := settles.overdue_of_undecided (never _ fits)
    obtain ⟨rounds, lasted⟩ := counts (by rw [Ending.report?, made])
    have last : laps.length = plan.timeout / plan.interval := by
      rw [← Nat.succ_mul] at late
      exact (Nat.div_eq_of_lt_le fits late).symm
    rw [last] at rounds lasted
    exact ⟨report, made, stage, rounds, lasted⟩
  · have reached : Decisive plan.condition queries (plan.replies reply before.now k) →
        laps.length = k := by
      intro decided
      rcases Nat.lt_trichotomy laps.length k with short | same | long
      · obtain ⟨-, -, -, late⟩ := settles.overdue_of_undecided (first _ short)
        have : (laps.length + 1) * plan.interval ≤ k * plan.interval :=
          Nat.mul_le_mul_right _ short
        rw [Nat.succ_mul] at this
        lia
      · exact same
      · exact absurd decided (undecided k long)
    constructor
    · intro met
      obtain rfl := reached (.inr met)
      obtain ⟨report, made, stage⟩ := settles.satisfied_of_met met
      exact ⟨report, made, stage, counts (by rw [Ending.report?, made])⟩
    · intro q found
      obtain rfl := reached (decisive_of_first found)
      obtain ⟨e, report, failed, made⟩ := settles.fatal_of_first found
      exact ⟨e, report, failed, made, counts (by rw [Ending.report?, made]; rfl)⟩

/-- A pod that runs from its tenth second on. -/
def startingReply (q : Query) (now : Instant) : Reply :=
  .ok ⟨q.name, if now < Duration.ofSecs 10 then "Pending" else "Running"⟩

def starting : Timeline Unit where
  answer q now source := (.ready, startingReply q now, source)
  cancelAt := none

theorem poll_starting_closed_form :
    starting.AnswersAtOnce startingReply ∧ 0 < Duration.ofSecs 5 ∧
      starting.IsExactUpTo (Duration.ofSecs 60) ∧
      ∃ ending report after, starting.run
          (poll { condition := .equals "Running" } [⟨"pod", "api", "shop", none⟩]) ⟨0, (), []⟩ =
        some (some ending, after) ∧ ending.verdict = .ok report ∧ report.stage = .satisfied ∧
        report.attempts = 3 ∧ report.elapsed = Duration.ofSecs 10 := by
  have atOnce : starting.AnswersAtOnce startingReply := ⟨fun _ _ _ => ⟨_, rfl⟩, rfl⟩
  have exact : starting.IsExactUpTo (Duration.ofSecs 60) :=
    Timeline.isExactUpTo_of_waited rfl (by decide)
  obtain ⟨ending, after, ran, -, decided⟩ := poll_closed_form starting startingReply
    { condition := .equals "Running" } [⟨"pod", "api", "shop", none⟩] ⟨0, (), []⟩ atOnce
    (by decide) exact
  obtain ⟨report, made, stage, attempts, elapsed⟩ :=
    (decided 2 (by decide) (by decide)).1 (by decide)
  exact ⟨atOnce, by decide, exact, ending, report, after, ran, made, stage, attempts, elapsed⟩

/-- A timeout shorter than the interval leaves time for one round. -/
example :
    let pending : Timeline Unit :=
      { answer := fun q _ source => (.ready, .ok ⟨q.name, "Pending"⟩, source), cancelAt := none }
    (pending.run (poll { condition := .equals "Running", timeout := Duration.ofSecs 3 }
      [⟨"pod", "api", "shop", none⟩]) ⟨0, (), []⟩).map (·.2.visits.length) = some 1 := rfl

end Readiness.Poll
