import Readiness.Poll.Timeline
import Readiness.Proofs.Poll.Absorb
import Readiness.Proofs.Program

/-! A round of reads on a timeline. Reads follow each other without a gap; each either leaves a state
and the round goes on, or is the last of the poll. `round_ends` lists all ways to end a round. -/
namespace Readiness.Poll

namespace Visit

/-- What is known of the query after a visit that does not end the poll. -/
def state? (visit : Visit) : Option LastState := visit.outcome.state? visit.endedAt

def meets (condition : Condition) (visit : Visit) : Bool := visit.state?.any (·.meets condition)

end Visit

def Spans : Instant → List Visit → Instant → Prop
  | start, [], stop => start = stop
  | start, visit :: rest, stop => visit.startedAt = start ∧ Spans visit.endedAt rest stop

theorem Spans.append {start middle stop : Instant} {first rest : List Visit}
    (before : Spans start first middle) (after : Spans middle rest stop) :
    Spans start (first ++ rest) stop := by
  induction first generalizing start with
  | nil => exact before ▸ after
  | cons visit visits ih => exact ⟨before.1, ih before.2⟩

namespace Run

/-- A run after a read that left a state. -/
def learn (run : Run) (visit : Visit) (state : LastState) : Run :=
  { run with now := visit.endedAt }.record visit.query state

@[simp] theorem learn_plan (run : Run) (visit : Visit) (state : LastState) :
    (run.learn visit state).plan = run.plan := rfl

end Run

namespace Timeline

variable {σ α : Type} {timeline : Timeline σ}

theorem run_bind (program : Polling α) {β : Type} (next : α → Polling β) (before : Moment σ) :
    timeline.run (program >>= next) before =
      (timeline.run program before).bind fun out => timeline.run (next out.1) out.2 :=
  Program.run_bind program next before

@[simp] theorem run_pure (value : α) (before : Moment σ) :
    timeline.run (pure value) before = some (value, before) := rfl

@[simp] theorem run_clock (before : Moment σ) :
    timeline.run clock before = some (before.now, before) := rfl

@[simp] theorem run_fetch (q : Query) (budget : Duration) (before : Moment σ) :
    timeline.run (fetch q budget) before = timeline.respond (.fetch q budget) before :=
  Program.run_perform ..

@[simp] theorem run_pause (length : Duration) (before : Moment σ) :
    timeline.run (pause length) before = timeline.respond (.pause length) before :=
  Program.run_perform ..

theorem lt_cancelAt {now c : Instant} (live : timeline.isCancelled now = false)
    (cancelled : timeline.cancelAt = some c) : now < c := by
  simp only [isCancelled, cutBefore, cancelled] at live
  split at live
  · simp at live
  · lia

theorem cutBefore_eq_some {limit c : Instant} (cut : timeline.cutBefore limit = some c) :
    timeline.cancelAt = some c ∧ c < limit := by
  unfold cutBefore at cut
  cases cancelled : timeline.cancelAt with
  | none => simp [cancelled] at cut
  | some instant =>
    simp only [cancelled, Option.ite_none_right_eq_some, Option.some.injEq] at cut
    exact ⟨congrArg some cut.2, cut.2 ▸ cut.1⟩

theorem exists_cancelAt {now : Instant} (cancelled : timeline.isCancelled now = true) :
    ∃ c, timeline.cancelAt = some c ∧ c ≤ now := by
  obtain ⟨c, cut⟩ := Option.isSome_iff_exists.1 cancelled
  obtain ⟨set, passed⟩ := cutBefore_eq_some cut
  exact ⟨c, set, by lia⟩

theorem le_cancelAt {limit c : Instant} (uncut : timeline.cutBefore limit = none)
    (set : timeline.cancelAt = some c) : limit ≤ c := by
  simp only [cutBefore, set] at uncut
  split at uncut
  · simp at uncut
  · lia

theorem cutBefore_eq_none {limit : Instant}
    (later : ∀ c, timeline.cancelAt = some c → limit ≤ c) : timeline.cutBefore limit = none := by
  cases set : timeline.cancelAt with
  | none => simp [cutBefore, set]
  | some c =>
    have := later c set
    simp only [cutBefore, set, ite_eq_right_iff]
    lia

/-- Timers set for at most `limit` end exactly at their deadline. -/
def IsExactUpTo (timeline : Timeline σ) (limit : Duration) : Prop :=
  ∀ length ≤ limit, timeline.timer length = length

/-- The usual timers are exact for all that takes no longer than the longest wait. -/
theorem isExactUpTo_of_waited (usual : timeline.timer = Duration.waited) {limit : Duration}
    (short : limit ≤ Duration.longestWait) : timeline.IsExactUpTo limit := by
  intro length bound
  rw [usual, Duration.waited, Nat.min_eq_left (Nat.le_trans bound short)]

/-- `visit` is a read with a budget, from one moment to another. -/
structure Read (timeline : Timeline σ) (budget : Duration) (before : Moment σ) (visit : Visit)
    (after : Moment σ) : Prop where
  live : timeline.isCancelled before.now = false
  answer : timeline.respond (.fetch visit.query budget) before =
    some ((visit.outcome, visit.endedAt), after)
  started : visit.startedAt = before.now
  ended : after.now = visit.endedAt
  visits : after.visits = before.visits ++ [visit]

theorem respond_fetch_live {before : Moment σ} (live : timeline.isCancelled before.now = false)
    (q : Query) (budget : Duration) :
    timeline.respond (.fetch q budget) before =
      let reply := timeline.answer q before.now before.source
      let outcome := timeline.outcome before.now budget reply.1 reply.2.1
      some (outcome, visited before q reply.2.2 outcome) := by
  rw [respond, if_neg (by simp [live])]
  rfl

theorem respond_fetch (timeline : Timeline σ) (q : Query) (budget : Duration) (before : Moment σ) :
    (timeline.isCancelled before.now = true ∧
      timeline.respond (.fetch q budget) before = some ((.cancelled, before.now), before)) ∨
    ∃ visit after, visit.query = q ∧ timeline.Read budget before visit after := by
  cases live : timeline.isCancelled before.now with
  | true => exact .inl ⟨rfl, by rw [respond, if_pos live]; rfl⟩
  | false =>
    let reply := timeline.answer q before.now before.source
    let outcome := timeline.outcome before.now budget reply.1 reply.2.1
    refine .inr ⟨⟨q, before.now, outcome.1, outcome.2⟩, visited before q reply.2.2 outcome,
      rfl, live, ?_, rfl, rfl, rfl⟩
    exact respond_fetch_live live q budget

theorem Arrival.within_le {timer : Duration → Duration} {budget wait : Duration} {arrival : Arrival}
    (found : arrival.within timer budget = some wait) : wait ≤ timer budget := by
  cases arrival with
  | ready =>
    simp only [Arrival.within, Option.some.injEq] at found
    lia
  | after length =>
    simp only [Arrival.within, Option.ite_none_right_eq_some, Option.some.injEq] at found
    exact found.2 ▸ found.1.2
  | never => simp [Arrival.within] at found

inductive Comes (timeline : Timeline σ) (now : Instant) (budget : Duration) (arrival : Arrival)
    (result : Except FetchError Reading) : Timed (Except FetchError Reading) → Instant → Prop
  | answered {wait : Duration} (found : arrival.within timeline.timer budget = some wait) :
    Comes timeline now budget arrival result (.answered result) (now + wait)
  | late (missed : arrival.within timeline.timer budget = none) :
    Comes timeline now budget arrival result .late (now + timeline.timer budget)
  | cancelled {c : Instant} (set : timeline.cancelAt = some c)
    (inTime : c < now + timeline.timer budget) :
    Comes timeline now budget arrival result .cancelled c

theorem outcome_comes (timeline : Timeline σ) (now : Instant) (budget : Duration)
    (arrival : Arrival) (result : Except FetchError Reading) :
    timeline.Comes now budget arrival result (timeline.outcome now budget arrival result).1
      (timeline.outcome now budget arrival result).2 := by
  cases found : arrival.within timeline.timer budget with
  | some wait =>
    cases cut : timeline.cutBefore (now + wait) with
    | none => simpa only [outcome, found, cut] using .answered found
    | some c =>
      obtain ⟨set, before⟩ := cutBefore_eq_some cut
      have := Arrival.within_le found
      simpa only [outcome, found, cut] using .cancelled set (by lia)
  | none =>
    cases cut : timeline.cutBefore (now + timeline.timer budget) with
    | none => simpa only [outcome, found, cut] using .late found
    | some c =>
      obtain ⟨set, before⟩ := cutBefore_eq_some cut
      simpa only [outcome, found, cut] using .cancelled set before

theorem Read.outcome_eq {budget : Duration} {before after : Moment σ} {visit : Visit}
    (read : timeline.Read budget before visit after) :
    timeline.outcome before.now budget (timeline.answer visit.query before.now before.source).1
      (timeline.answer visit.query before.now before.source).2.1 =
        (visit.outcome, visit.endedAt) := by
  have answer := read.answer
  rw [respond_fetch_live read.live] at answer
  exact congrArg Prod.fst (Option.some.inj answer)

theorem Read.comes {budget : Duration} {before after : Moment σ} {visit : Visit}
    (read : timeline.Read budget before visit after) :
    timeline.Comes before.now budget (timeline.answer visit.query before.now before.source).1
      (timeline.answer visit.query before.now before.source).2.1 visit.outcome visit.endedAt := by
  have comes := outcome_comes timeline before.now budget
    (timeline.answer visit.query before.now before.source).1
    (timeline.answer visit.query before.now before.source).2.1
  rw [read.outcome_eq] at comes
  exact comes

theorem Read.inTime {budget : Duration} {before after : Moment σ} {visit : Visit}
    (read : timeline.Read budget before visit after) :
    before.now ≤ visit.endedAt ∧ visit.endedAt ≤ before.now + timeline.timer budget ∧
      (visit.outcome = .late → visit.endedAt = before.now + timeline.timer budget) := by
  have comes := read.comes
  generalize visit.outcome = outcome, visit.endedAt = ended at comes ⊢
  cases comes with
  | answered found =>
    have := Arrival.within_le found
    exact ⟨by lia, by lia, nofun⟩
  | late missed => exact ⟨by lia, by lia, fun _ => rfl⟩
  | cancelled set inTime =>
    have := lt_cancelAt read.live set
    exact ⟨by lia, by lia, nofun⟩

/-- The reads lead a run from one moment to another, and the poll goes on after them. -/
inductive Reads (timeline : Timeline σ) : Run → Moment σ → List Visit → Run → Moment σ → Prop
  | none {run : Run} {moment : Moment σ} : Reads timeline run moment [] run moment
  | next {run later : Run} {before middle after : Moment σ} {visit : Visit} {state : LastState}
    {rest : List Visit} (read : timeline.Read run.remaining before visit middle)
    (left : visit.state? = some state)
    (reads : Reads timeline (run.learn visit state) middle rest later after) :
    Reads timeline run before (visit :: rest) later after

variable {run later : Run} {before middle after : Moment σ} {visits : List Visit}

theorem Reads.synced (reads : timeline.Reads run before visits later after)
    (synced : run.now = before.now) : later.now = after.now := by
  induction reads with
  | none => exact synced
  | next read _ _ ih => exact ih read.ended.symm

theorem Reads.frame (reads : timeline.Reads run before visits later after) :
    later = { run with now := later.now, last := later.last } := by
  induction reads with
  | none => rfl
  | next _ _ _ ih =>
    rw [ih]
    rfl

theorem Reads.plan_eq (reads : timeline.Reads run before visits later after) :
    later.plan = run.plan := by rw [reads.frame]

theorem Reads.started_eq (reads : timeline.Reads run before visits later after) :
    later.started = run.started := by rw [reads.frame]

theorem Reads.visits_eq (reads : timeline.Reads run before visits later after) :
    after.visits = before.visits ++ visits := by
  induction reads with
  | none => simp
  | next read _ _ ih => rw [ih, read.visits, List.append_assoc, List.singleton_append]

theorem Reads.spans (reads : timeline.Reads run before visits later after) :
    Spans before.now visits after.now := by
  induction reads with
  | none => rfl
  | next read _ _ ih => exact ⟨read.started, read.ended ▸ ih⟩

theorem Reads.settled (reads : timeline.Reads run before visits later after) :
    ∀ visit ∈ visits, visit.state?.isSome := by
  induction reads with
  | none => simp
  | next _ left _ ih => simpa [left] using ih

/-- How a round can end: after all its reads, when the poll is called off before the next one, or
with a read that ends the poll. -/
inductive RoundEnds (timeline : Timeline σ) (run : Run) (before : Moment σ) (allHold : Bool)
    (queries : List Query) : Ending ⊕ Run × Bool → Moment σ → Prop
  | whole {later : Run} {after : Moment σ} {visits : List Visit}
    (reads : timeline.Reads run before visits later after) (asked : visits.map (·.query) = queries) :
    RoundEnds timeline run before allHold queries
      (.inr (later, allHold && visits.all (·.meets run.plan.condition))) after
  | calledOff {later : Run} {after : Moment σ} {visits : List Visit} {q : Query} {rest : List Query}
    (reads : timeline.Reads run before visits later after)
    (asked : visits.map (·.query) ++ q :: rest = queries)
    (cancelled : timeline.isCancelled after.now = true) :
    RoundEnds timeline run before allHold queries
      (.inl (later.finish .aborted fun report => .error (.cancelled report))) after
  | stopped {later : Run} {middle after : Moment σ} {visits : List Visit} {last : Visit}
    {rest : List Query} {ending : Ending}
    (reads : timeline.Reads run before visits later middle)
    (asked : visits.map (·.query) ++ last.query :: rest = queries)
    (read : timeline.Read later.remaining middle last after)
    (stops : Run.Stops { later with now := last.endedAt } last.query later.remaining last.outcome
      ending) :
    RoundEnds timeline run before allHold queries (.inl ending) after

theorem RoundEnds.next {visit : Visit} {state : LastState} {allHold : Bool} {queries : List Query}
    {result : Ending ⊕ Run × Bool} (read : timeline.Read run.remaining before visit middle)
    (left : visit.state? = some state)
    (ends : timeline.RoundEnds (run.learn visit state) middle
      (allHold && state.meets run.plan.condition) queries result after) :
    timeline.RoundEnds run before allHold (visit.query :: queries) result after := by
  cases ends with
  | whole reads asked =>
    have whole : timeline.RoundEnds run before allHold (visit.query :: queries) _ after :=
      .whole (reads.next read left) (by rw [List.map_cons, asked])
    simpa [Visit.meets, left, Bool.and_assoc] using whole
  | calledOff reads asked cancelled =>
    exact .calledOff (reads.next read left) (by rw [List.map_cons, List.cons_append, asked]) cancelled
  | stopped reads asked last stops =>
    exact .stopped (reads.next read left) (by rw [List.map_cons, List.cons_append, asked]) last stops

theorem round_ends (timeline : Timeline σ) (run : Run) (queries : List Query) (allHold : Bool)
    (synced : run.now = before.now) : ∃ result after,
      timeline.run (run.round allHold queries) before = some (result, after) ∧
        timeline.RoundEnds run before allHold queries result after := by
  induction queries generalizing run before allHold with
  | nil =>
    have whole : timeline.RoundEnds run before allHold [] _ before := .whole .none rfl
    refine ⟨_, _, rfl, ?_⟩
    simpa using whole
  | cons q rest ih =>
    rw [Run.round, run_bind, run_fetch]
    rcases timeline.respond_fetch q run.remaining before with
      ⟨cancelled, answer⟩ | ⟨visit, middle, rfl, read⟩
    · rw [answer, ← synced]
      exact ⟨_, _, rfl, .calledOff .none rfl cancelled⟩
    · rw [read.answer]
      cases left : visit.state? with
      | none =>
        obtain ⟨ending, stopped, stops⟩ := Run.absorb_of_no_state
          { run with now := visit.endedAt } left visit.query run.remaining
        exact ⟨.inl ending, middle, by simp [stopped], .stopped .none rfl read stops⟩
      | some state =>
        obtain ⟨result, after, ran, ends⟩ := ih (run.learn visit state)
          (allHold && state.meets run.plan.condition) read.ended.symm
        have absorbed := Run.absorb_of_state { run with now := visit.endedAt } left visit.query
          run.remaining
        refine ⟨result, after, ?_, ends.next read left⟩
        simpa [absorbed, Run.learn] using ran

end Timeline

end Readiness.Poll
