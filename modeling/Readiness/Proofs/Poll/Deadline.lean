import Readiness.Proofs.Poll.Laps

/-! Polls end in time, given timers that end exactly at their deadline. The budget of each read is
what is left until the deadline of the poll, and no pause is begun that would end past it; so the
clock never passes the deadline, and the number of rounds is bounded by it. -/
namespace Readiness.Poll

namespace Run

structure OnTime (run : Run) : Prop where
  begun : run.started ≤ run.now
  inTime : run.now ≤ run.started + run.plan.timeout

theorem OnTime.elapsed_le {run : Run} (onTime : run.OnTime) : run.elapsed ≤ run.plan.timeout := by
  have := onTime.inTime
  simp only [elapsed]
  lia

theorem OnTime.now_add_remaining {run : Run} (onTime : run.OnTime) :
    run.now + run.remaining = run.started + run.plan.timeout := by
  have := onTime.begun
  have := onTime.inTime
  simp only [remaining, elapsed]
  lia

theorem OnTime.again {run : Run} (onTime : run.OnTime) : run.again.OnTime :=
  ⟨onTime.begun, onTime.inTime⟩

theorem OnTime.of_same {run later : Run} (onTime : later.OnTime)
    (started : later.started = run.started) (plan : later.plan = run.plan) :
    OnTime { run with now := later.now } :=
  ⟨started ▸ onTime.begun, started ▸ plan ▸ onTime.inTime⟩

theorem first_onTime (plan : Plan) (queries : List Query) (started : Instant) :
    (first plan queries started).OnTime := ⟨Nat.le_refl _, Nat.le_add_right ..⟩

theorem remaining_le (run : Run) : run.remaining ≤ run.plan.timeout := Nat.sub_le ..

end Run

/-- The limit on the rounds of a poll leaves room for all that fit its time. -/
theorem Plan.div_lt_roundLimit {plan : Plan} (paced : 0 < plan.interval) :
    plan.timeout / plan.interval < plan.roundLimit := by
  have positive : 0 < Duration.waited plan.interval :=
    Nat.lt_min.2 ⟨paced, by decide⟩
  rw [Plan.roundLimit, if_neg (by lia), Nat.lt_succ_iff]
  exact Nat.div_le_div_left (Nat.min_le_left ..) positive

namespace Timeline

variable {σ : Type} {timeline : Timeline σ} {run later : Run} {before middle after : Moment σ}
variable {visits : List Visit} {laps : List (List Visit)} {ending : Ending}

theorem Read.onTime {visit : Visit} (read : timeline.Read run.remaining before visit after)
    (exact : timeline.IsExactUpTo run.plan.timeout) (synced : run.now = before.now)
    (onTime : run.OnTime) : Run.OnTime { run with now := visit.endedAt } := by
  have := onTime.now_add_remaining
  obtain ⟨first, last, -⟩ := read.inTime
  rw [exact _ run.remaining_le, ← synced] at last
  exact ⟨Nat.le_trans onTime.begun (synced ▸ first), by lia⟩

theorem Read.late_at_deadline {visit : Visit}
    (read : timeline.Read run.remaining before visit after)
    (exact : timeline.IsExactUpTo run.plan.timeout) (synced : run.now = before.now)
    (onTime : run.OnTime) (late : visit.outcome = .late) :
    visit.endedAt = run.started + run.plan.timeout := by
  rw [read.inTime.2.2 late, exact _ run.remaining_le, ← synced, onTime.now_add_remaining]

theorem Reads.onTime (reads : timeline.Reads run before visits later after)
    (exact : timeline.IsExactUpTo run.plan.timeout) (synced : run.now = before.now)
    (onTime : run.OnTime) :
    later.OnTime ∧ ∀ visit ∈ visits, visit.startedAt ≤ run.started + run.plan.timeout := by
  induction reads with
  | none => exact ⟨onTime, by simp⟩
  | next read left _ ih =>
    have learnt := read.onTime exact synced onTime
    obtain ⟨ended, starts⟩ := ih exact read.ended.symm ⟨learnt.begun, learnt.inTime⟩
    refine ⟨ended, List.forall_mem_cons.2 ⟨?_, starts⟩⟩
    rw [read.started, ← synced]
    exact onTime.inTime

theorem Reads.forward (reads : timeline.Reads run before visits later after)
    (synced : run.now = before.now) : run.now ≤ later.now := by
  induction reads with
  | none => exact Nat.le_refl _
  | next read _ _ ih =>
    refine Nat.le_trans ?_ (ih read.ended.symm)
    rw [synced]
    exact read.inTime.1

theorem PauseEnds.inTime {length : Duration} {paused : Paused} {now : Instant}
    (pause : timeline.PauseEnds length before (paused, now) after) :
    after.now = now ∧ before.now ≤ now ∧ now ≤ before.now + timeline.timer length := by
  cases pause with
  | finished => exact ⟨rfl, by lia, by lia⟩
  | calledOff set noticed inTime => exact ⟨rfl, by lia, by lia⟩

theorem PauseEnds.onTime {paused : Paused} {now : Instant}
    (pause : timeline.PauseEnds run.plan.interval before (paused, now) after)
    (exact : timeline.IsExactUpTo run.plan.timeout) (synced : run.now = before.now)
    (onTime : run.OnTime) (early : run.elapsed + run.plan.interval ≤ run.plan.timeout) :
    Run.OnTime { run with now := now } := by
  obtain ⟨-, first, last⟩ := pause.inTime
  rw [exact _ (by lia)] at last
  have := onTime.begun
  simp only [Run.elapsed] at early
  exact ⟨by lia, by lia⟩

theorem Lap.onTime (lap : timeline.Lap run before visits later after)
    (exact : timeline.IsExactUpTo run.plan.timeout) (synced : run.now = before.now)
    (onTime : run.OnTime) :
    later.OnTime ∧ ∀ visit ∈ visits, visit.startedAt ≤ run.started + run.plan.timeout := by
  cases lap with
  | @turn later _ _ now reads asked unmet early pause =>
    obtain ⟨ended, starts⟩ := reads.onTime exact synced onTime.again
    have plan : later.plan = run.plan := reads.plan_eq
    rw [← plan] at exact early pause
    exact ⟨pause.onTime exact (reads.synced synced) ended early, starts⟩

theorem Lap.early (lap : timeline.Lap run before visits later after) (synced : run.now = before.now) :
    run.elapsed + run.plan.interval ≤ run.plan.timeout := by
  cases lap with
  | @turn later _ _ _ reads asked unmet early =>
    have started : later.started = run.started := reads.started_eq
    have forward := reads.forward synced
    rw [Run.again_now] at forward
    rw [Run.elapsed, started] at early
    rw [Run.elapsed]
    lia

theorem Lap.outlasts (lap : timeline.Lap run before visits later after)
    (synced : run.now = before.now) : run.now + timeline.timer run.plan.interval ≤ later.now := by
  cases lap with
  | turn reads asked unmet early pause =>
    have forward := reads.forward synced
    rw [Run.again_now] at forward
    cases pause with
    | finished =>
      rw [← reads.synced synced]
      exact Nat.add_le_add_right forward _

theorem Lap.elapsed_add_le (lap : timeline.Lap run before visits later after)
    (exact : timeline.IsExactUpTo run.plan.timeout) (synced : run.now = before.now)
    (onTime : run.OnTime) : run.elapsed + run.plan.interval ≤ later.elapsed := by
  have early := lap.early synced
  have outlasts := lap.outlasts synced
  have begun := onTime.begun
  rw [exact _ (by lia)] at outlasts
  rw [Run.elapsed, Run.elapsed, lap.started_eq]
  lia

theorem Laps.onTime (taken : timeline.Laps run before laps later after)
    (exact : timeline.IsExactUpTo run.plan.timeout) (synced : run.now = before.now)
    (onTime : run.OnTime) :
    later.OnTime ∧ (∀ visit ∈ laps.flatten, visit.startedAt ≤ run.started + run.plan.timeout) ∧
      run.elapsed + laps.length * run.plan.interval ≤ later.elapsed := by
  induction taken with
  | none => exact ⟨onTime, by simp, by simp⟩
  | @next run between _ _ _ _ visits rest lap laps ih =>
    obtain ⟨ended, starts⟩ := lap.onTime exact synced onTime
    have lasted := lap.elapsed_add_le exact synced onTime
    rw [lap.plan_eq, lap.started_eq] at ih
    obtain ⟨closed, later, total⟩ := ih exact lap.synced ended
    refine ⟨closed, ?_, ?_⟩
    · rw [List.flatten_cons]
      exact List.forall_mem_append.2 ⟨starts, later⟩
    · rw [List.length_cons, Nat.succ_mul]
      lia

theorem Laps.length_le (taken : timeline.Laps run before laps later after)
    (exact : timeline.IsExactUpTo run.plan.timeout) (synced : run.now = before.now)
    (onTime : run.OnTime) (paced : 0 < run.plan.interval) :
    laps.length ≤ run.plan.timeout / run.plan.interval := by
  obtain ⟨ended, -, total⟩ := taken.onTime exact synced onTime
  have plan : later.plan = run.plan := taken.plan_eq
  have last := ended.elapsed_le
  rw [plan] at last
  rw [Nat.le_div_iff_mul_le paced]
  lia

/-- With exact timers a poll that pauses always ends, and after no more laps than fit its time. -/
theorem poll_closes (timeline : Timeline σ) {plan : Plan} (paced : 0 < plan.interval)
    (exact : timeline.IsExactUpTo plan.timeout) (queries : List Query) (before : Moment σ) :
    ∃ laps later middle visits ending after,
      timeline.Laps (.first plan queries before.now) before laps later middle ∧
      timeline.Closes later middle visits ending after ∧
      timeline.run (poll plan queries) before = some (some ending, after) ∧
      laps.length ≤ plan.timeout / plan.interval := by
  obtain ⟨laps, later, middle, taken, rest⟩ := timeline.poll_takes_laps plan queries before
  have bound := taken.length_le exact rfl (Run.first_onTime ..) paced
  rcases rest with ⟨used, -⟩ | ⟨-, visits, ending, after, closes, ran⟩
  · have := Plan.div_lt_roundLimit paced
    simp only [Run.first_plan] at bound
    lia
  · exact ⟨laps, later, middle, visits, ending, after, taken, closes, ran, bound⟩

theorem Laps.elapsed_add_le_max (taken : timeline.Laps run before laps later after)
    (synced : run.now = before.now) (begun : run.started ≤ run.now) {wait : Duration}
    (kept : wait ≤ timeline.timer run.plan.interval) (short : wait ≤ run.plan.interval) :
    run.elapsed + laps.length * wait ≤ max run.elapsed run.plan.timeout := by
  induction taken with
  | none =>
    rw [List.length_nil, Nat.zero_mul]
    exact Nat.le_max_left ..
  | @next run between _ _ _ _ _ rest lap _ ih =>
    have early := lap.early synced
    have outlasts := lap.outlasts synced
    rw [lap.plan_eq, Run.elapsed, lap.started_eq] at ih
    have total := ih lap.synced (by lia) kept short
    rw [Run.elapsed] at early ⊢
    rw [List.length_cons, Nat.succ_mul]
    generalize rest.length * wait = longer at total ⊢
    lia

/-- A poll that pauses ends where no timer runs for less than a wait of its length. -/
theorem poll_closes_of_kept (timeline : Timeline σ) {plan : Plan} (paced : 0 < plan.interval)
    (kept : Duration.waited plan.interval ≤ timeline.timer plan.interval) (queries : List Query)
    (before : Moment σ) : ∃ laps later middle visits ending after,
      timeline.Laps (.first plan queries before.now) before laps later middle ∧
      timeline.Closes later middle visits ending after ∧
      timeline.run (poll plan queries) before = some (some ending, after) ∧
      laps.length < plan.roundLimit := by
  obtain ⟨laps, later, middle, taken, rest⟩ := timeline.poll_takes_laps plan queries before
  rcases rest with ⟨used, -⟩ | ⟨within, visits, ending, after, closes, ran⟩
  · have positive : 0 < Duration.waited plan.interval := Nat.lt_min.2 ⟨paced, by decide⟩
    have total := taken.elapsed_add_le_max rfl (Nat.le_refl _) kept (Nat.min_le_left ..)
    have fresh : (Run.first plan queries before.now).elapsed = 0 := Nat.sub_self _
    rw [fresh, Nat.zero_add, Nat.max_eq_right (Nat.zero_le _), Run.first_plan,
      ← Nat.le_div_iff_mul_le positive] at total
    rw [used, Plan.roundLimit, if_neg (by lia)] at total
    exact absurd total (Nat.not_succ_le_self _)
  · exact ⟨laps, later, middle, visits, ending, after, taken, closes, ran, within⟩

theorem Closes.onTime (closes : timeline.Closes run before visits ending after)
    (exact : timeline.IsExactUpTo run.plan.timeout) (synced : run.now = before.now)
    (onTime : run.OnTime) : Run.OnTime { run with now := after.now } ∧
      ∀ visit ∈ visits, visit.startedAt ≤ run.started + run.plan.timeout := by
  have begun := onTime.again
  cases closes with
  | satisfied reads | overdue reads | calledOff reads =>
    obtain ⟨ended, starts⟩ := reads.onTime exact synced begun
    rw [← reads.synced synced]
    exact ⟨ended.of_same reads.started_eq
      reads.plan_eq, starts⟩
  | @calledOffInPause later _ _ _ _ reads asked unmet early pause =>
    obtain ⟨ended, starts⟩ := reads.onTime exact synced begun
    have plan : later.plan = run.plan := reads.plan_eq
    rw [← plan] at exact early pause
    rw [pause.inTime.1]
    exact ⟨(pause.onTime exact (reads.synced synced) ended early).of_same
      reads.started_eq plan, starts⟩
  | @stopped later _ _ _ last _ _ reads asked read stops =>
    obtain ⟨ended, starts⟩ := reads.onTime exact synced begun
    have plan : later.plan = run.plan := reads.plan_eq
    have started : later.started = run.started := reads.started_eq
    have synced := reads.synced synced
    rw [← plan] at exact
    rw [read.ended]
    refine ⟨(read.onTime exact synced ended).of_same started plan, ?_⟩
    simp only [List.forall_mem_append, List.forall_mem_singleton]
    refine ⟨starts, ?_⟩
    rw [read.started, ← synced, ← started, ← plan]
    exact ended.inTime

/-- A poll gives up for want of time only at its deadline, or when no further round fits. -/
theorem Closes.timedOut (closes : timeline.Closes run before visits ending after)
    (exact : timeline.IsExactUpTo run.plan.timeout) (synced : run.now = before.now)
    (onTime : run.OnTime) {report : Report} (reported : ending.report? = some report)
    (timedOut : report.stage = .timedOut) :
    after.now = run.started + run.plan.timeout ∨
      run.plan.timeout < after.now - run.started + run.plan.interval := by
  have begun := onTime.again
  cases closes with
  | satisfied | calledOff | calledOffInPause =>
    obtain rfl := Option.some.inj reported
    simp [Run.report] at timedOut
  | @overdue later _ _ reads asked unmet overdue =>
    have started : later.started = run.started := reads.started_eq
    rw [← reads.synced synced]
    simp only [Run.elapsed, started] at overdue
    exact .inr overdue
  | @stopped later _ _ _ last _ _ reads asked read stops =>
    have ended := (reads.onTime exact synced begun).1
    have plan : later.plan = run.plan := reads.plan_eq
    have started : later.started = run.started := reads.started_eq
    rw [read.ended]
    generalize outcome : last.outcome = result at stops
    cases stops with
    | late =>
      rw [← plan] at exact
      rw [read.late_at_deadline exact (reads.synced synced) ended outcome, started, plan]
      exact .inl rfl
    | cancelled | fatal =>
      obtain rfl := Option.some.inj reported
      simp [Run.report] at timedOut

/-- The runs in which a poll compares the time with its deadline, after a round that was not
enough. -/
inductive Compares (timeline : Timeline σ) : Run → Moment σ → Run → Prop
  | now {run later : Run} {before middle : Moment σ}
    (ran : timeline.run (run.again.round true run.queries) before =
      some (.inr (later, false), middle)) : Compares timeline run before later
  | afterPause {run later compared : Run} {before middle after : Moment σ} {now : Instant}
    (ran : timeline.run (run.again.round true run.queries) before =
      some (.inr (later, false), middle))
    (early : ¬ later.plan.timeout < later.elapsed + later.plan.interval)
    (paused : timeline.run (pause later.plan.interval) middle = some ((.finished, now), after))
    (rest : Compares timeline { later with now := now } after compared) :
    Compares timeline run before compared

theorem whole_of_round {allHold : Bool} {queries : List Query} {holds : Bool}
    (ran : timeline.run (run.round allHold queries) before = some (.inr (later, holds), after))
    (synced : run.now = before.now) :
    ∃ visits, timeline.Reads run before visits later after ∧ visits.map (·.query) = queries := by
  obtain ⟨result, moment, same, ends⟩ := timeline.round_ends run queries allHold synced
  rw [ran, Option.some.injEq, Prod.mk.injEq] at same
  obtain ⟨rfl, rfl⟩ := same
  cases ends with
  | whole reads asked => exact ⟨_, reads, asked⟩

theorem Compares.onTime {compared : Run} (compares : timeline.Compares run before compared)
    (exact : timeline.IsExactUpTo run.plan.timeout) (synced : run.now = before.now)
    (onTime : run.OnTime) : compared.OnTime ∧ compared.plan = run.plan := by
  induction compares with
  | now ran =>
    obtain ⟨visits, reads, -⟩ := whole_of_round ran synced
    exact ⟨(reads.onTime exact synced onTime.again).1,
      reads.plan_eq⟩
  | @afterPause run later compared before middle after now ran early paused rest ih =>
    obtain ⟨visits, reads, -⟩ := whole_of_round ran synced
    have ended := (reads.onTime exact synced onTime.again).1
    have plan : later.plan = run.plan := reads.plan_eq
    obtain ⟨answer, moment, same, pause⟩ := timeline.pause_ends later.plan.interval middle
    rw [paused, Option.some.injEq, Prod.mk.injEq] at same
    obtain ⟨rfl, rfl⟩ := same
    rw [← plan] at exact
    have rested := pause.onTime exact (reads.synced synced) ended (by lia)
    obtain ⟨later, same⟩ := ih exact pause.inTime.1.symm rested
    exact ⟨later, same.trans plan⟩

end Timeline

/-- A poll ends in time and does not give up early, on every timeline with exact timers: it returns
within the rounds that fit its timeout and without passing its deadline, every sum that is compared
with the timeout is at most an interval above it, and it times out only at the deadline or when one
more interval would pass it. -/
theorem poll_ends_in_time {σ : Type} (timeline : Timeline σ) (plan : Plan) (queries : List Query)
    (before : Moment σ) (paced : 0 < plan.interval)
    (exact : timeline.IsExactUpTo plan.timeout) :
    (∃ ending report after, timeline.run (poll plan queries) before = some (some ending, after) ∧
      ending.report? = some report ∧
      report.attempts ≤ plan.timeout / plan.interval + 1 ∧
      report.elapsed = after.now - before.now ∧ report.elapsed ≤ plan.timeout ∧
      (report.stage = .timedOut →
        report.elapsed = plan.timeout ∨ plan.timeout < report.elapsed + plan.interval)) ∧
    ∀ run, timeline.Compares (.first plan queries before.now) before run →
      run.elapsed + plan.interval ≤ plan.timeout + plan.interval := by
  constructor
  · obtain ⟨laps, later, middle, visits, ending, after, taken, closes, ran, bound⟩ :=
      timeline.poll_closes paced exact queries before
    have synced := taken.synced rfl
    have started : later.started = before.now := taken.started_eq
    have same : later.plan = plan := taken.plan_eq
    have attempts : later.attempts = laps.length := taken.attempts_eq.trans (Nat.zero_add _)
    have onTime := (taken.onTime exact rfl (Run.first_onTime ..)).1
    rw [← same] at exact
    obtain ⟨last, stage, reported, made⟩ := closes.reports synced
    have elapsed : (last.report stage).elapsed = after.now - before.now := by
      rw [made, ← started]
      rfl
    refine ⟨ending, _, after, ran, reported, ?_, elapsed, ?_, fun timedOut => ?_⟩
    · rw [made]
      simpa [Run.report, Run.again, attempts] using bound
    · have := (closes.onTime exact synced onTime).1.elapsed_le
      rwa [elapsed, ← started, ← same]
    · have early := closes.timedOut exact synced onTime reported timedOut
      rw [started, same] at early
      rw [elapsed]
      rcases early with deadline | early
      · exact .inl (by lia)
      · exact .inr early
  · intro run compares
    obtain ⟨onTime, same⟩ := compares.onTime exact rfl (Run.first_onTime ..)
    have := onTime.elapsed_le
    rw [same, Run.first_plan] at this
    exact Nat.add_le_add_right this _

def silent : Timeline Unit where
  answer _ _ source := (.never, .error (.transient "unread"), source)
  cancelAt := none

theorem poll_silent_ends_in_time :
    0 < Duration.ofSecs 5 ∧ silent.IsExactUpTo (Duration.ofSecs 60) ∧
      ∃ ending report after, silent.run
          (poll { condition := .present } [⟨"pod", "api", "shop", none⟩]) ⟨0, (), []⟩ =
        some (some ending, after) ∧ ending.report? = some report ∧
        report.attempts ≤ 13 ∧ report.elapsed ≤ Duration.ofSecs 60 := by
  have exact : silent.IsExactUpTo (Duration.ofSecs 60) :=
    Timeline.isExactUpTo_of_waited rfl (by decide)
  obtain ⟨⟨ending, report, after, ran, reported, attempts, -, elapsed, -⟩, -⟩ :=
    poll_ends_in_time silent { condition := .present } [⟨"pod", "api", "shop", none⟩]
      ⟨0, (), []⟩ (by decide) exact
  exact ⟨by decide, exact, ending, report, after, ran, reported, attempts, elapsed⟩

end Readiness.Poll
