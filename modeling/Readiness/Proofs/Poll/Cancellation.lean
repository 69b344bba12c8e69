import Readiness.Proofs.Poll.FetchLaw
import Readiness.Proofs.Poll.Known
import Readiness.Proofs.Poll.Replay

/-! A poll that is called off, compared with the same poll left alone. What happens before the
instant of the call happens in both; then the first ends there, and its report is that of the reads
that were answered before. -/
namespace Readiness.Poll

variable {σ α : Type}

/-- What a poll called off at `c` reports, and which reads it has begun, by the reads of the same
poll left alone. -/
structure CutLaw (queries : List Query) (start c : Instant) (visits cutVisits : List Visit)
    (report : Report) : Prop where
  stage : report.stage = .aborted
  succeeded : report.succeeded = false
  elapsed : report.elapsed = c - start
  begun : cutVisits.map Visit.begun = (visits.filter (·.startedAt < c)).map Visit.begun
  /-- A round begins with its first read. -/
  rounds : ∀ r, r < report.attempts ↔
    ∃ visit, visits[r * queries.length]? = some visit ∧ visit.startedAt < c
  /-- A read under way at `c` leaves nothing. -/
  last : report.last = known queries (visits.filter (·.endedAt < c))

structure Report.Unbegun (report : Report) (queries : List Query) : Prop where
  stage : report.stage = .aborted
  succeeded : report.succeeded = false
  elapsed : report.elapsed = 0
  attempts : report.attempts = 1
  unknown : ∀ q ∈ queries, report.stateOf? q = some .unknown

/-- The reads of both polls: `settled` ones are answered before `c`, and at most one is under way. -/
structure SplitAt (c : Instant) (settled underWay visits cutVisits : List Visit) : Prop where
  answered : ∀ visit ∈ settled, visit.startedAt < c ∧ visit.endedAt < c
  pending : ∀ visit ∈ underWay, visit.startedAt < c ∧ c < visit.endedAt
  whole : ∃ more, visits = settled ++ underWay ++ more ∧
    ∀ visit ∈ more, c < visit.startedAt ∧ visit.startedAt ≤ visit.endedAt
  cut : cutVisits.map Visit.begun = (settled ++ underWay).map Visit.begun

section SplitAt

variable {c : Instant} {settled underWay visits cutVisits : List Visit}

theorem SplitAt.filter_startedAt (split : SplitAt c settled underWay visits cutVisits) :
    visits.filter (·.startedAt < c) = settled ++ underWay := by
  obtain ⟨more, rfl, later⟩ := split.whole
  have first : settled.filter (·.startedAt < c) = settled := by
    apply List.filter_eq_self.2
    intro visit member
    simpa using (split.answered visit member).1
  have second : underWay.filter (·.startedAt < c) = underWay := by
    apply List.filter_eq_self.2
    intro visit member
    simpa using (split.pending visit member).1
  have third : more.filter (·.startedAt < c) = [] := by
    apply List.filter_eq_nil_iff.2
    intro visit member
    have := later visit member
    simp only [decide_eq_true_eq]
    lia
  rw [List.filter_append, List.filter_append, first, second, third, List.append_nil]

theorem SplitAt.filter_endedAt (split : SplitAt c settled underWay visits cutVisits) :
    visits.filter (·.endedAt < c) = settled := by
  obtain ⟨more, rfl, later⟩ := split.whole
  have first : settled.filter (·.endedAt < c) = settled := by
    apply List.filter_eq_self.2
    intro visit member
    simpa using (split.answered visit member).2
  have rest : (underWay ++ more).filter (·.endedAt < c) = [] := by
    apply List.filter_eq_nil_iff.2
    intro visit member
    simp only [decide_eq_true_eq]
    rcases List.mem_append.1 member with member | member
    · have := split.pending visit member
      lia
    · have := later visit member
      lia
  rw [List.append_assoc, List.filter_append, first, rest, List.append_nil]

theorem SplitAt.begun_iff (split : SplitAt c settled underWay visits cutVisits) (i : Nat) :
    (∃ visit, visits[i]? = some visit ∧ visit.startedAt < c) ↔ i < (settled ++ underWay).length := by
  obtain ⟨more, rfl, later⟩ := split.whole
  constructor
  · rintro ⟨visit, here, early⟩
    rcases Nat.lt_or_ge i (settled ++ underWay).length with inside | outside
    · exact inside
    · rw [List.getElem?_append_right outside] at here
      have := later visit (List.mem_of_getElem? here)
      lia
  · intro inside
    refine ⟨(settled ++ underWay)[i], ?_, ?_⟩
    · rw [List.getElem?_append_left inside, List.getElem?_eq_getElem]
    · rcases List.mem_append.1 (List.getElem_mem inside) with member | member
      · exact (split.answered _ member).1
      · exact (split.pending _ member).1

/-- With `k` whole rounds and at least one more read before `c`, the report counts `k + 1` rounds. -/
theorem SplitAt.cutLaw (split : SplitAt c settled underWay visits cutVisits)
    {queries : List Query} {start : Instant} {k : Nat} {run : Run}
    (started : run.started = start) (now : run.now = c) (attempts : run.attempts = k + 1)
    (more : k * queries.length < (settled ++ underWay).length)
    (atMost : (settled ++ underWay).length ≤ (k + 1) * queries.length)
    (last : run.last = known queries settled) :
    CutLaw queries start c visits cutVisits (run.report .aborted) where
  stage := rfl
  succeeded := rfl
  elapsed := by rw [← started, ← now]; rfl
  begun := by rw [split.filter_startedAt, split.cut]
  rounds r := by
    rw [split.begun_iff]
    change r < run.attempts ↔ _
    rw [attempts]
    constructor
    · intro bound
      have : r * queries.length ≤ k * queries.length := Nat.mul_le_mul_right _ (by lia)
      lia
    · intro bound
      exact Nat.lt_of_mul_lt_mul_right (Nat.lt_of_lt_of_le bound atMost)
  last := by rw [split.filter_endedAt, ← last]; rfl

end SplitAt

namespace Timeline

def undisturbed (timeline : Timeline σ) : Timeline σ := { timeline with cancelAt := none }

def calledOff (timeline : Timeline σ) (c : Instant) : Timeline σ :=
  { timeline with cancelAt := some c }

variable {timeline : Timeline σ} {c : Instant} {run later : Run} {before middle after : Moment σ}
variable {visits : List Visit} {laps : List (List Visit)} {ending : Ending}

theorem isCancelled_calledOff {now : Instant} (early : now < c) :
    (timeline.calledOff c).isCancelled now = false := by
  have notYet : ¬ c < now + 1 := by lia
  simp [isCancelled, cutBefore, calledOff, notYet]

theorem pause_undisturbed (timeline : Timeline σ) (length : Duration) (before : Moment σ) :
    timeline.undisturbed.PauseEnds length before (.finished, before.now + timeline.timer length)
      { before with now := before.now + timeline.timer length } :=
  .finished (isCancelled_of_never rfl _) nofun

theorem outcome_calledOff (now : Instant) (budget : Duration) (arrival : Arrival)
    (result : Except FetchError Reading) :
    (timeline.calledOff c).outcome now budget arrival result =
      if c < (timeline.undisturbed.outcome now budget arrival result).2 then (.cancelled, c)
      else timeline.undisturbed.outcome now budget arrival result := by
  cases found : arrival.within timeline.timer budget with
  | some wait =>
    by_cases cut : c < now + wait <;> simp [outcome, calledOff, undisturbed, cutBefore, found, cut]
  | none =>
    by_cases cut : c < now + timeline.timer budget <;>
      simp [outcome, calledOff, undisturbed, cutBefore, found, cut]

theorem respond_fetch_calledOff {q : Query} {budget : Duration} (early : before.now < c)
    {outcome : Timed (Except FetchError Reading)} {ended : Instant}
    (answered : timeline.undisturbed.respond (.fetch q budget) before =
      some ((outcome, ended), after)) :
    (timeline.calledOff c).respond (.fetch q budget) before =
      if c < ended then some ((.cancelled, c), visited before q after.source (.cancelled, c))
      else some ((outcome, ended), after) := by
  have live : timeline.undisturbed.isCancelled before.now = false := isCancelled_of_never rfl _
  rw [respond_fetch_live live] at answered
  rw [respond_fetch_live (isCancelled_calledOff early)]
  have same := Option.some.inj answered
  have outcome_eq : timeline.undisturbed.outcome before.now budget
      (timeline.answer q before.now before.source).1
      (timeline.answer q before.now before.source).2.1 = (outcome, ended) := congrArg Prod.fst same
  obtain rfl : visited before q (timeline.answer q before.now before.source).2.2
      (timeline.undisturbed.outcome before.now budget
        (timeline.answer q before.now before.source).1
        (timeline.answer q before.now before.source).2.1) = after := congrArg Prod.snd same
  change some ((timeline.calledOff c).outcome before.now budget
      (timeline.answer q before.now before.source).1
      (timeline.answer q before.now before.source).2.1,
    visited before q (timeline.answer q before.now before.source).2.2
      ((timeline.calledOff c).outcome before.now budget
        (timeline.answer q before.now before.source).1
        (timeline.answer q before.now before.source).2.1)) = _
  rw [outcome_calledOff, outcome_eq]
  split <;> rfl

/-- What ends before the call is the same in both. -/
theorem respond_calledOff {request : Request} {answer : Answer request}
    (answered : timeline.undisturbed.respond request before = some (answer, after))
    (early : after.now < c) :
    (timeline.calledOff c).respond request before = some (answer, after) := by
  obtain ⟨_, leads⟩ := respond_leads answered
  have begun : before.now < c := Nat.lt_of_le_of_lt leads.forward early
  cases request with
  | clock => exact answered
  | read q => exact answered
  | fetch q budget =>
    rcases timeline.undisturbed.respond_fetch q budget before with
      ⟨cancelled, -⟩ | ⟨visit, moment, rfl, read⟩
    · rw [isCancelled_of_never rfl] at cancelled
      cases cancelled
    · obtain ⟨rfl, rfl⟩ := Prod.mk.inj (Option.some.inj (answered.symm.trans read.answer))
      rw [read.ended] at early
      rw [respond_fetch_calledOff begun answered, if_neg (by lia)]
      rfl
  | pause length =>
    obtain ⟨other, moment, same, pause⟩ := timeline.undisturbed.pause_ends length before
    rw [run_pause] at same
    obtain ⟨rfl, rfl⟩ := Prod.mk.inj (Option.some.inj (answered.symm.trans same))
    cases pause with
    | calledOff set => cases set
    | finished =>
      apply PauseEnds.answered
      apply PauseEnds.finished (isCancelled_calledOff begun)
      intro other set
      obtain rfl := Option.some.inj set
      exact Nat.le_of_lt early

theorem run_calledOff {program : Polling α} {value : α}
    (ran : timeline.undisturbed.run program before = some (value, after)) (early : after.now < c) :
    (timeline.calledOff c).run program before = some (value, after) := by
  induction program generalizing before with
  | done result => exact ran
  | ask request next ih =>
    obtain ⟨answer, middle, answered, rest⟩ := run_ask ran
    obtain ⟨_, leads⟩ := run_leads rest
    rw [Timeline.run, Program.run,
      respond_calledOff answered (Nat.lt_of_le_of_lt leads.forward early)]
    exact ih answer rest

/-- A read is the same in both, or it is under way when the call comes. -/
theorem Read.calledOff_cases {budget : Duration} {visit : Visit}
    (read : (timeline.calledOff c).Read budget before visit after) :
    (timeline.undisturbed.Read budget before visit after ∧ visit.endedAt ≤ c) ∨
    (visit.outcome = .cancelled ∧ visit.endedAt = c ∧ ∃ whole later,
      timeline.undisturbed.Read budget before whole later ∧ whole.query = visit.query ∧
      c < whole.endedAt) := by
  have early : before.now < c := lt_cancelAt read.live rfl
  rcases timeline.undisturbed.respond_fetch visit.query budget before with
    ⟨cancelled, -⟩ | ⟨whole, later, same, free⟩
  · rw [isCancelled_of_never rfl] at cancelled
    cases cancelled
  · have answer := free.answer
    rw [same] at answer
    have cut := respond_fetch_calledOff early answer
    by_cases late : c < whole.endedAt
    · rw [if_pos late] at cut
      obtain ⟨known, -⟩ := Prod.mk.inj (Option.some.inj (read.answer.symm.trans cut))
      obtain ⟨outcome, ended⟩ := Prod.mk.inj known
      exact .inr ⟨outcome, ended, whole, later, free, same, late⟩
    · rw [if_neg late] at cut
      obtain ⟨known, rfl⟩ := Prod.mk.inj (Option.some.inj (read.answer.symm.trans cut))
      obtain ⟨outcome, ended⟩ := Prod.mk.inj known
      refine .inl ⟨⟨isCancelled_of_never rfl _, ?_, read.started, read.ended, read.visits⟩, by lia⟩
      rw [outcome, ended]
      exact answer

theorem Reads.uncut (reads : (timeline.calledOff c).Reads run before visits later after) :
    timeline.undisturbed.Reads run before visits later after ∧ (before.now ≤ c → after.now ≤ c) := by
  induction reads with
  | none => exact ⟨.none, id⟩
  | next read left _ ih =>
    rcases read.calledOff_cases with ⟨whole, early⟩ | ⟨cancelled, -⟩
    · exact ⟨.next whole left ih.1, fun _ => ih.2 (read.ended ▸ early)⟩
    · rw [Visit.state?, cancelled] at left
      cases left

theorem Lap.uncut (lap : (timeline.calledOff c).Lap run before visits later after) :
    timeline.undisturbed.Lap run before visits later after ∧ after.now ≤ c := by
  cases lap with
  | turn reads asked unmet early pause =>
    cases pause with
    | finished live undisturbed =>
      exact ⟨.turn reads.uncut.1 asked unmet early (pause_undisturbed ..), undisturbed c rfl⟩

theorem Laps.uncut (taken : (timeline.calledOff c).Laps run before laps later after) :
    timeline.undisturbed.Laps run before laps later after ∧ (before.now ≤ c → after.now ≤ c) := by
  induction taken with
  | none => exact ⟨.none, id⟩
  | next lap _ ih => exact ⟨.next lap.uncut.1 ih.1, fun _ => ih.2 lap.uncut.2⟩

/-- A run of a program, its reads being all that were made, which asks for nothing at `c`. -/
structure RunPast (timeline : Timeline σ) (c : Instant) (program : Polling α) (before : Moment σ)
    (value : α) (after : Moment σ) : Prop where
  fresh : before.visits = []
  apart : c ∉ timeline.instants program before
  ran : timeline.run program before = some (value, after)

section Poll

variable {program : Polling α} {value : α}

/-- Where the program asks for something up to `c`, all its reads are settled before `c`. -/
theorem Steps.settled {request : Request} {next : Answer request → Polling α}
    (steps : timeline.Steps program before (.ask request next) middle)
    (past : timeline.RunPast c program before value after) (notYet : middle.now ≤ c) :
    middle.now < c ∧ ∀ visit ∈ middle.visits, visit.startedAt < c ∧ visit.endedAt < c := by
  have early : middle.now < c := by
    rcases Nat.lt_or_eq_of_le notYet with early | same
    · exact early
    · exact absurd (same ▸ steps.mem_instants) past.apart
  obtain ⟨added, leads⟩ := steps.leads
  refine ⟨early, fun visit member => ?_⟩
  rw [leads.visits, past.fresh, List.nil_append] at member
  have := leads.within visit member
  constructor <;> lia

variable {settled : List Visit}

/-- Where the program asks for a read that outlasts the call, that read is the one under way. -/
theorem Steps.splitAt_fetch {q : Query} {budget : Duration}
    {next : Answer (.fetch q budget) → Polling α}
    (steps : timeline.Steps program before (.ask (.fetch q budget) next) middle)
    (past : timeline.RunPast c program before value after) (notYet : middle.now ≤ c)
    (made : middle.visits = settled)
    {whole cut : Visit} {moment : Moment σ} (read : timeline.Read budget middle whole moment)
    (asked : whole.query = q) (late : c < whole.endedAt) (begun : cut.begun = whole.begun) :
    SplitAt c settled [whole] after.visits (settled ++ [cut]) := by
  subst made
  obtain ⟨early, answered⟩ := steps.settled past notYet
  obtain ⟨answer, stop, same, rest⟩ := run_ask (steps.run_eq.symm.trans past.ran)
  have answer_eq := read.answer
  rw [asked] at answer_eq
  obtain rfl : stop = moment := congrArg Prod.snd (Option.some.inj (same.symm.trans answer_eq))
  obtain ⟨more, leads⟩ := run_leads rest
  have started := read.started
  have ended := read.ended
  constructor
  case answered => exact answered
  case pending =>
    simp only [List.forall_mem_singleton]
    lia
  case whole =>
    refine ⟨more, by rw [leads.visits, read.visits], fun visit member => ?_⟩
    have := leads.within visit member
    lia
  case cut => rw [List.map_append, List.map_append, List.map_singleton, List.map_singleton, begun]

theorem Steps.splitAt_pause {length : Duration} {next : Answer (.pause length) → Polling α}
    (steps : timeline.Steps program before (.ask (.pause length) next) middle)
    (past : timeline.RunPast c program before value after) (notYet : middle.now ≤ c)
    (made : middle.visits = settled)
    {ended : Instant} {moment : Moment σ}
    (pause : timeline.PauseEnds length middle (.finished, ended) moment) (late : c < moment.now) :
    SplitAt c settled [] after.visits settled := by
  subst made
  obtain ⟨-, answered⟩ := steps.settled past notYet
  obtain ⟨answer, stop, same, rest⟩ := run_ask (steps.run_eq.symm.trans past.ran)
  obtain rfl : stop = moment :=
    congrArg Prod.snd (Option.some.inj (same.symm.trans pause.answered))
  obtain ⟨more, leads⟩ := run_leads rest
  have kept : stop.visits = middle.visits := by
    cases pause
    rfl
  constructor
  case answered => exact answered
  case pending => nofun
  case whole =>
    refine ⟨more, by rw [leads.visits, kept, List.append_nil], fun visit member => ?_⟩
    have := leads.within visit member
    lia
  case cut => rw [List.append_nil]

variable {plan : Plan} {queries : List Query} {result : Option Ending} {cut : Moment σ}

/-- The report of a round that is left at `c`, one of its reads perhaps under way. -/
theorem Laps.cutLaw {round : Run} {underWay wholeVisits cutVisits : List Visit}
    (taken : timeline.Laps (.first plan queries before.now) before laps later middle)
    (reads : timeline.Reads later.again middle visits round after)
    (split : SplitAt c (laps.flatten ++ visits) underWay wholeVisits cutVisits)
    (some : 0 < visits.length + underWay.length)
    (atMost : visits.length + underWay.length ≤ queries.length) :
    CutLaw queries before.now c wholeVisits cutVisits
      (Run.report { round with now := c } .aborted) := by
  have size : laps.flatten.length = laps.length * queries.length := taken.length_flatten
  have begun : (laps.flatten ++ visits ++ underWay).length =
      laps.length * queries.length + (visits.length + underWay.length) := by
    rw [List.append_assoc, List.length_append, List.length_append, size]
  apply split.cutLaw
  case started => exact reads.started_eq.trans taken.started_eq
  case now => rfl
  case attempts =>
    change round.attempts = laps.length + 1
    rw [reads.frame]
    change later.attempts + 1 = _
    rw [taken.attempts_eq]
    exact congrArg (· + 1) (Nat.zero_add _)
  case more =>
    rw [begun]
    lia
  case atMost =>
    rw [begun, Nat.succ_mul]
    lia
  case last =>
    change round.last = _
    exact taken.known_eq reads

theorem Laps.ends_or_asks
    (taken : timeline.Laps (.first plan queries before.now) before laps later middle)
    (nonempty : queries ≠ []) (atMost : laps.length ≤ plan.roundLimit)
    (ran : timeline.run (poll plan queries) before = some (result, after)) :
    after.now = middle.now ∨ middle.now ∈ timeline.instants (poll plan queries) before := by
  rcases Nat.lt_or_eq_of_le atMost with room | used
  · exact .inr (taken.mem_instants nonempty room)
  · have ended := (poll_of_laps taken used).symm.trans ran
    obtain rfl : middle = after := congrArg Prod.snd (Option.some.inj ended)
    exact .inl rfl

/-- A whole round that is not enough, and the call before the end of the pause after it. -/
theorem Laps.cutLaw_of_pause {round : Run} {moment : Moment σ}
    (taken : timeline.undisturbed.Laps (.first plan queries before.now) before laps later middle)
    (reads : timeline.undisturbed.Reads later.again middle visits round moment)
    (asked : visits.map (·.query) = later.queries)
    (unmet : visits.all (·.meets later.plan.condition) = false)
    (within : round.elapsed + later.plan.interval ≤ later.plan.timeout)
    (past : timeline.undisturbed.RunPast c (poll plan queries) before result after)
    (more : laps.length < plan.roundLimit) (nonempty : queries ≠ []) (notYet : moment.now ≤ c)
    (inPause : c ≤ moment.now + timeline.timer later.plan.interval) (late : c < after.now) :
    moment.now < c ∧ CutLaw queries before.now c after.visits (laps.flatten ++ visits)
      (Run.report { round with now := c } .aborted) := by
  obtain ⟨next, steps⟩ := taken.asks_pause reads asked unmet within more
  have plan_eq : later.plan = plan := taken.plan_eq
  refine ⟨(steps.settled past notYet).1, ?_⟩
  rcases Nat.lt_or_eq_of_le inPause with outlasts | ends
  · rw [plan_eq] at outlasts
    have wait := pause_undisturbed timeline plan.interval moment
    have made : moment.visits = laps.flatten ++ visits := by
      rw [reads.visits_eq, taken.visits_eq, past.fresh, List.nil_append]
    have split := steps.splitAt_pause past notYet made wait outlasts
    have whole : visits.length = queries.length := by
      rw [← List.length_map, asked, taken.queries_eq]
      rfl
    have positive := List.length_pos_iff.2 nonempty
    apply taken.cutLaw reads split
    · lia
    · exact Nat.le_of_eq whole
  · -- The pause ends at the call, where the other poll reads on or ends.
    have longer : (laps ++ [visits]).length = laps.length + 1 := List.length_append
    have wait := pause_undisturbed timeline later.plan.interval moment
    have again := taken.concat (.turn reads asked unmet within wait)
    rcases again.ends_or_asks nonempty (by lia) past.ran with ended | asks
    · exact absurd (ends.trans ended.symm) (Nat.ne_of_lt late)
    · exact absurd (ends ▸ asks) past.apart

theorem Laps.cutLaw_of_fetch {round : Run} {moment stop : Moment σ} {whole cut : Visit}
    {rest : List Query}
    (taken : timeline.undisturbed.Laps (.first plan queries before.now) before laps later middle)
    (reads : timeline.undisturbed.Reads later.again middle visits round moment)
    (asked : visits.map (·.query) ++ whole.query :: rest = queries)
    (read : timeline.undisturbed.Read round.remaining moment whole stop)
    (past : timeline.undisturbed.RunPast c (poll plan queries) before result after)
    (more : laps.length < plan.roundLimit) (notYet : moment.now ≤ c) (outlasts : c < whole.endedAt)
    (begun : cut.begun = whole.begun) :
    CutLaw queries before.now c after.visits (laps.flatten ++ (visits ++ [cut]))
      (Run.report { round with now := c } .aborted) := by
  obtain ⟨next, steps⟩ := taken.asks_fetch reads asked more
  have made : moment.visits = laps.flatten ++ visits := by
    rw [reads.visits_eq, taken.visits_eq, past.fresh, List.nil_append]
  have split := steps.splitAt_fetch past notYet made read rfl outlasts begun
  rw [List.append_assoc] at split
  have size := congrArg List.length asked
  rw [List.length_append, List.length_map, List.length_cons] at size
  apply taken.cutLaw reads split
  · exact Nat.succ_pos _
  · rw [List.length_singleton]
    lia

theorem Closes.cutLaw (taken : (timeline.calledOff c).Laps (.first plan queries before.now) before
      laps later middle)
    (closes : (timeline.calledOff c).Closes later middle visits ending cut)
    (past : timeline.undisturbed.RunPast c (poll plan queries) before result after)
    (more : laps.length < plan.roundLimit) (nonempty : queries ≠ []) (early : before.now < c)
    (late : c < after.now) :
    ∃ report, ending.verdict = .error (.cancelled report) ∧ cut.now = c ∧
      CutLaw queries before.now c after.visits (laps.flatten ++ visits) report := by
  obtain ⟨free, onTime⟩ := taken.uncut
  have onTime := onTime (Nat.le_of_lt early)
  have queries_eq : later.queries = queries := taken.queries_eq
  -- A round that ends the other poll too ends it before the call.
  have impossible {other : Ending} {visits : List Visit} {moment : Moment σ}
      (same : timeline.undisturbed.Closes later middle visits other moment)
      (inTime : moment.now ≤ c) : False := by
    have ended := (poll_of_closes free same rfl more).symm.trans past.ran
    obtain rfl : moment = after := congrArg Prod.snd (Option.some.inj ended)
    lia
  cases closes with
  | satisfied reads asked met =>
    obtain ⟨reads, inTime⟩ := reads.uncut
    exact (impossible (.satisfied reads asked met) (inTime onTime)).elim
  | overdue reads asked unmet overdue =>
    obtain ⟨reads, inTime⟩ := reads.uncut
    exact (impossible (.overdue reads asked unmet overdue) (inTime onTime)).elim
  | calledOff reads asked cancelled =>
    obtain ⟨reads, inTime⟩ := reads.uncut
    obtain ⟨_, set, passed⟩ := exists_cancelAt cancelled
    obtain rfl := Option.some.inj set
    rw [queries_eq] at asked
    obtain ⟨next, steps⟩ := free.asks_fetch reads asked more
    have := (steps.settled past (inTime onTime)).1
    lia
  | calledOffInPause reads asked unmet within pause =>
    obtain ⟨reads, inTime⟩ := reads.uncut
    cases pause with
    | calledOff set noticed inPause =>
      obtain rfl := Option.some.inj set
      obtain ⟨begun, law⟩ := free.cutLaw_of_pause reads asked unmet within past more nonempty
        (inTime onTime) (Nat.le_trans (by lia) inPause) late
      obtain rfl : _ = c := noticed.trans (Nat.max_eq_right (Nat.le_of_lt begun))
      exact ⟨_, rfl, rfl, law⟩
  | @stopped _ _ _ _ last _ _ reads asked read stops =>
    obtain ⟨reads, inTime⟩ := reads.uncut
    rcases read.calledOff_cases with
      ⟨whole, early⟩ | ⟨cancelled, ended, whole, stop, free_read, same, outlasts⟩
    · exact (impossible (.stopped reads asked whole stops) (read.ended ▸ early)).elim
    · have begun : last.begun = whole.begun :=
        Prod.ext same.symm (read.started.trans free_read.started.symm)
      rw [queries_eq, ← same] at asked
      have law := free.cutLaw_of_fetch reads asked free_read past more (inTime onTime)
        outlasts begun
      rw [cancelled, ended] at stops
      cases stops with
      | cancelled => exact ⟨_, rfl, read.ended.trans ended, law⟩

theorem run_calledOff_before (past : c ≤ before.now) (nonempty : queries ≠ []) :
    ∃ ending report, (timeline.calledOff c).run (poll plan queries) before =
        some (some ending, before) ∧
      ending.verdict = .error (.cancelled report) ∧ report.Unbegun queries := by
  obtain ⟨q, rest, rfl⟩ := List.exists_cons_of_ne_nil nonempty
  obtain ⟨limit, room⟩ := plan.exists_roundLimit
  have cancelled : (timeline.calledOff c).isCancelled before.now = true := by
    have passed : c < before.now + 1 := by lia
    simp [isCancelled, cutBefore, calledOff, passed]
  let run : Run := (Run.first plan (q :: rest) before.now).again
  refine ⟨run.finish .aborted fun report => .error (.cancelled report), run.report .aborted, ?_, rfl,
    rfl, rfl, Nat.sub_self _, rfl, ?_⟩
  · rw [poll, run_bind, run_clock, Option.bind_some, room, Run.rounds, run_bind]
    change ((timeline.calledOff c).run (fetch q run.remaining >>= _) before).bind _ = _
    rw [run_bind, run_fetch, respond, if_pos cancelled]
    rfl
  · intro p member
    exact Ledger.get?_ofList_map (q :: rest) Query.key _ member

end Poll

end Timeline

/-- A poll that is called off at `c` ends there with what the same poll left alone had settled
before, and it is that poll to its end if the end comes first. Nothing is read by a poll that is
called off before it begins. -/
theorem poll_cut_at_cancellation {σ : Type} (timeline : Timeline σ) (plan : Plan)
    (queries : List Query) (nonempty : queries ≠ []) (start : Instant) (source : σ) (c : Instant) :
    ∃ result after,
      timeline.undisturbed.run (poll plan queries) ⟨start, source, []⟩ = some (result, after) ∧
      (start < c → c ∉ timeline.undisturbed.instants (poll plan queries) ⟨start, source, []⟩ →
        (after.now < c → (timeline.calledOff c).run (poll plan queries) ⟨start, source, []⟩ =
          some (result, after)) ∧
        (c < after.now → ∃ ending report cut,
          (timeline.calledOff c).run (poll plan queries) ⟨start, source, []⟩ =
            some (some ending, cut) ∧
          ending.verdict = .error (.cancelled report) ∧ cut.now = c ∧
          CutLaw queries start c after.visits cut.visits report)) ∧
      (c ≤ start → ∃ ending report,
        (timeline.calledOff c).run (poll plan queries) ⟨start, source, []⟩ =
          some (some ending, ⟨start, source, []⟩) ∧
        ending.verdict = .error (.cancelled report) ∧ report.Unbegun queries) := by
  obtain ⟨result, after, ran⟩ :=
    timeline.undisturbed.poll_ends plan queries ⟨start, source, []⟩
  refine ⟨result, after, ran, fun early apart => ⟨Timeline.run_calledOff ran, fun late => ?_⟩,
    fun past => Timeline.run_calledOff_before past nonempty⟩
  obtain ⟨laps, later, middle, taken, rest⟩ :=
    (timeline.calledOff c).poll_takes_laps plan queries ⟨start, source, []⟩
  have made := taken.visits_eq
  rw [List.nil_append] at made
  rcases rest with ⟨used, cutRun⟩ | ⟨more, visits, ending, cut, closes, cutRun⟩
  · -- A poll that reaches its limit before the call does so in both.
    obtain ⟨free, onTime⟩ := taken.uncut
    have ended := (Timeline.poll_of_laps free used).symm.trans ran
    obtain rfl : middle = after := congrArg Prod.snd (Option.some.inj ended)
    exact absurd (onTime (Nat.le_of_lt early)) (Nat.not_le_of_lt late)
  · obtain ⟨report, verdict, now, law⟩ :=
      closes.cutLaw taken ⟨rfl, apart, ran⟩ more nonempty early late
    refine ⟨ending, report, cut, cutRun, verdict, now, ?_⟩
    rw [closes.visits_eq, made]
    exact law

theorem poll_slow_cut_at_cancellation :
    let plan : Plan := { condition := .equals "Running" }
    let api : Query := ⟨"pod", "api", "shop", none⟩
    let db : Query := ⟨"pod", "db", "shop", none⟩
    let c := Duration.ofMillis 7500
    [api, db] ≠ [] ∧ c ∉ slow.undisturbed.instants (poll plan [api, db]) ⟨0, (), []⟩ ∧
      ∃ ending report cut, (slow.calledOff c).run (poll plan [api, db]) ⟨0, (), []⟩ =
          some (some ending, cut) ∧
        ending.verdict = .error (.cancelled report) ∧ cut.now = c ∧ report.elapsed = c ∧
        cut.visits.map Visit.begun = [(api, 0), (db, Duration.ofSecs 1), (api, Duration.ofSecs 7)] ∧
        report.stateOf? api = some (.observed ⟨⟨"api", "Pending"⟩, Duration.ofSecs 1⟩) := by
  intro plan api db c
  have nonempty : [api, db] ≠ [] := by simp
  have apart : c ∉ slow.undisturbed.instants (poll plan [api, db]) ⟨0, (), []⟩ := by
    decide +kernel
  obtain ⟨result, after, ran, cut, -⟩ :=
    poll_cut_at_cancellation slow plan [api, db] nonempty 0 () c
  have whole : (slow.undisturbed.run (poll plan [api, db]) ⟨0, (), []⟩).map (fun out =>
      (out.2.now, (out.2.visits.filter (·.startedAt < c)).map Visit.begun,
        (known [api, db] (out.2.visits.filter (·.endedAt < c))).get? api.key)) =
      some (Duration.ofSecs 16,
        [(api, 0), (db, Duration.ofSecs 1), (api, Duration.ofSecs 7)],
        some (.observed ⟨⟨"api", "Pending"⟩, Duration.ofSecs 1⟩)) := by decide +kernel
  rw [ran, Option.map_some, Option.some.injEq, Prod.mk.injEq, Prod.mk.injEq] at whole
  obtain ⟨ended, begun, shown⟩ := whole
  obtain ⟨ending, report, moment, cutRun, verdict, now, law⟩ :=
    (cut (by decide) apart).2 (by rw [ended]; decide)
  rw [← law.begun] at begun
  rw [← law.last] at shown
  exact ⟨nonempty, apart, ending, report, moment, cutRun, verdict, now, law.elapsed, begun, shown⟩

end Readiness.Poll
