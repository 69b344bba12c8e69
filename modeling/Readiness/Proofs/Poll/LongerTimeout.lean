import Mathlib.Order.Monotone.Basic
import Readiness.Proofs.Poll.Fatal
import Readiness.Proofs.Poll.Replay

/-! The same poll with more time. It begins with the same reads, and an end that was not for lack of
time is its end too. Only a read that came too late, or a pause for which no time was left, is where
the two may part. -/
namespace Readiness.Poll

def Plan.within (plan : Plan) (timeout : Duration) : Plan := { plan with timeout := timeout }

theorem Plan.roundLimit_le {plan : Plan} {timeout : Duration} (longer : plan.timeout ≤ timeout) :
    plan.roundLimit ≤ (plan.within timeout).roundLimit := by
  unfold Plan.roundLimit
  by_cases unpaced : plan.interval = 0
  · rw [if_pos unpaced]
    exact Nat.le_of_eq (if_pos unpaced).symm
  · rw [if_neg unpaced]
    apply Nat.le_trans _ (Nat.le_of_eq (if_neg unpaced).symm)
    exact Nat.succ_le_succ (Nat.div_le_div_right longer)

namespace Run

def within (run : Run) (timeout : Duration) : Run := { run with plan := run.plan.within timeout }

variable {run : Run} {timeout : Duration}

theorem remaining_le_within (longer : run.plan.timeout ≤ timeout) :
    run.remaining ≤ (run.within timeout).remaining :=
  Nat.sub_le_sub_right longer _

theorem Stops.within {q : Query} {budget : Duration} {outcome : Timed (Except FetchError Reading)}
    {ending : Ending} (stops : run.Stops q budget outcome ending) (inTime : outcome ≠ .late)
    (timeout larger : Duration) : (run.within timeout).Stops q larger outcome ending := by
  cases stops with
  | cancelled => exact .cancelled
  | late => exact absurd rfl inTime
  | fatal isFatal => exact .fatal isFatal

end Run

/-- The poll has ended, but not for lack of time and not because it was called off. -/
inductive Ending.Decided : Ending → Prop
  | satisfied {report : Report} {passed : List Stage} (stage : report.stage = .satisfied) :
    Decided ⟨.ok report, passed⟩
  | fatal {q : Query} {e : FetchError} {report : Report} {passed : List Stage} :
    Decided ⟨.error (.fatal q e report), passed⟩

theorem Visit.in_time {visit : Visit} {state : LastState} (left : visit.state? = some state) :
    visit.outcome ≠ .late := by
  intro late
  rw [Visit.state?, late] at left
  cases left

theorem Arrival.within_of_le {timer : Duration → Duration} (monotone : Monotone timer)
    {budget larger wait : Duration} (le : budget ≤ larger) {arrival : Arrival}
    (found : arrival.within timer budget = some wait) : arrival.within timer larger = some wait := by
  cases arrival with
  | ready => exact found
  | after length =>
    simp only [Arrival.within, Option.ite_none_right_eq_some] at found ⊢
    have := monotone le
    exact ⟨by lia, found.2⟩
  | never => cases found

theorem monotone_waited : Monotone Duration.waited := by
  intro shorter longer le
  unfold Duration.waited
  lia

namespace Timeline

variable {σ : Type} {timeline : Timeline σ} {run later : Run} {before middle after : Moment σ}
variable {visits : List Visit} {laps : List (List Visit)} {ending : Ending} {timeout : Duration}

section Longer

variable (never : timeline.cancelAt = .none) (monotone : Monotone timeline.timer)

include never monotone

theorem outcome_longer {now : Instant} {budget larger : Duration} {arrival : Arrival}
    {result : Except FetchError Reading}
    (inTime : (timeline.outcome now budget arrival result).1 ≠ .late) (le : budget ≤ larger) :
    timeline.outcome now larger arrival result = timeline.outcome now budget arrival result := by
  cases found : arrival.within timeline.timer budget with
  | some wait =>
    have same := Arrival.within_of_le monotone le found
    simp only [outcome, found, same]
  | none => exact absurd (by simp [outcome, cutBefore, found, never]) inTime

theorem Read.longer {budget larger : Duration} {visit : Visit}
    (read : timeline.Read budget before visit after) (inTime : visit.outcome ≠ .late)
    (le : budget ≤ larger) : timeline.Read larger before visit after := by
  have same := outcome_longer never monotone (by rwa [read.outcome_eq]) le
  refine ⟨read.live, ?_, read.started, read.ended, read.visits⟩
  rw [← read.answer, respond_fetch_live read.live, respond_fetch_live read.live]
  simp only [same]
  rfl

theorem Reads.longer (reads : timeline.Reads run before visits later after)
    (longer : run.plan.timeout ≤ timeout) :
    timeline.Reads (run.within timeout) before visits (later.within timeout) after := by
  induction reads with
  | none => exact .none
  | next read left _ ih =>
    have same := read.longer never monotone (Visit.in_time left) (Run.remaining_le_within longer)
    exact .next same left (ih longer)

theorem Lap.longer (lap : timeline.Lap run before visits later after)
    (longer : run.plan.timeout ≤ timeout) :
    timeline.Lap (run.within timeout) before visits (later.within timeout) after := by
  cases lap with
  | @turn round moment _ _ reads asked unmet early pause =>
    have same : timeline.Reads (run.within timeout).again before visits (round.within timeout)
        moment := reads.longer never monotone longer
    exact .turn same asked unmet (Nat.le_trans early longer) pause

theorem Laps.longer (taken : timeline.Laps run before laps later after)
    (longer : run.plan.timeout ≤ timeout) :
    timeline.Laps (run.within timeout) before laps (later.within timeout) after := by
  induction taken with
  | none => exact .none
  | next lap _ ih =>
    rw [lap.plan_eq] at ih
    exact .next (lap.longer never monotone longer) (ih longer)

theorem Closes.longer (closes : timeline.Closes run before visits ending after)
    (longer : run.plan.timeout ≤ timeout) (decided : ending.Decided) :
    timeline.Closes (run.within timeout) before visits ending after := by
  cases closes with
  | @satisfied last _ _ reads asked met =>
    have same : timeline.Reads (run.within timeout).again before visits (last.within timeout)
        after := reads.longer never monotone longer
    have closed := Closes.satisfied same asked met
    exact closed
  | overdue =>
    cases decided with
    | satisfied stage => cases stage
  | calledOffInPause | calledOff => cases decided
  | @stopped round _ _ _ last _ _ reads asked read stops =>
    have plan_eq : round.plan = run.plan := reads.plan_eq
    have inTime : last.outcome ≠ .late := by
      intro late
      rw [late] at stops
      cases stops with
      | late =>
        cases decided with
        | satisfied stage => cases stage
    have room : round.plan.timeout ≤ timeout := by rwa [plan_eq]
    have same := read.longer never monotone inTime (Run.remaining_le_within room)
    exact .stopped (reads.longer never monotone longer) asked same (stops.within inTime ..)

end Longer

theorem Read.begun_eq (never : timeline.cancelAt = none) {budget : Duration} {visit : Visit}
    (read : timeline.Read budget before visit after) (other : Duration) :
    ∃ whole moment, timeline.Read other before whole moment ∧ whole.begun = visit.begun := by
  rcases timeline.respond_fetch visit.query other before with
    ⟨cancelled, -⟩ | ⟨whole, moment, same, free⟩
  · rw [isCancelled_of_never never] at cancelled
    cases cancelled
  · exact ⟨whole, moment, free, Prod.ext same (free.started.trans read.started.symm)⟩

section Poll

variable {plan : Plan} {queries : List Query} {result : Option Ending} {whole : Moment σ}

/-- All that a poll reads with some time, it reads with more. -/
theorem Closes.begun_longer (closes : timeline.Closes later middle visits ending after)
    (never : timeline.cancelAt = none) (monotone : Monotone timeline.timer)
    (longer : plan.timeout ≤ timeout)
    (taken : timeline.Laps (.first plan queries before.now) before laps later middle)
    (more : laps.length < plan.roundLimit)
    (ran : timeline.run (poll (plan.within timeout) queries) before = some (result, whole)) :
    after.visits.map Visit.begun <+: whole.visits.map Visit.begun := by
  have room : later.again.plan.timeout ≤ timeout := by
    rwa [Run.again_plan, taken.plan_eq]
  have queries_eq : later.queries = queries := taken.queries_eq
  have onward := taken.longer never monotone longer
  have limit := Nat.lt_of_lt_of_le more (Plan.roundLimit_le longer)
  have only {round : Run} {visits : List Visit} {moment : Moment σ} {rest : List Query}
      (reads : timeline.Reads later.again middle visits round moment)
      (asked : visits.map (·.query) ++ rest = queries) :
      moment.visits.map Visit.begun <+: whole.visits.map Visit.begun := by
    obtain ⟨allHold, next, steps⟩ :=
      onward.steps_reads (reads.longer never monotone room) asked limit
    obtain ⟨added, leads⟩ := run_leads (steps.run_eq.symm.trans ran)
    rw [leads.visits, List.map_append]
    exact List.prefix_append ..
  cases closes with
  | satisfied reads asked | overdue reads asked =>
    rw [queries_eq] at asked
    exact only reads ((List.append_nil _).trans asked)
  | calledOff reads asked =>
    rw [queries_eq] at asked
    exact only reads asked
  | calledOffInPause _ _ _ _ pause =>
    cases pause with
    | calledOff set =>
      rw [never] at set
      cases set
  | @stopped round moment _ reads_made last rest _ reads asked read =>
    rw [queries_eq] at asked
    obtain ⟨next, steps⟩ := onward.asks_fetch (reads.longer never monotone room) asked limit
    obtain ⟨other, stop, free, begun⟩ := read.begun_eq never (round.within timeout).remaining
    obtain ⟨answer, reached, same, rest⟩ := run_ask (steps.run_eq.symm.trans ran)
    have answered := free.answer
    rw [show other.query = last.query from congrArg Prod.fst begun] at answered
    obtain rfl : reached = stop := congrArg Prod.snd (Option.some.inj (same.symm.trans answered))
    obtain ⟨added, leads⟩ := run_leads rest
    rw [leads.visits, free.visits, read.visits, List.map_append, List.map_append, List.map_append,
      List.map_singleton, List.map_singleton, begun]
    exact List.prefix_append ..

end Poll

end Timeline

/-- With more time a poll begins with the same reads, and it ends in the same way if it had ended
before for another reason than lack of time. -/
theorem poll_within_longer {σ : Type} (timeline : Timeline σ) (never : timeline.cancelAt = none)
    (monotone : Monotone timeline.timer) (plan : Plan) (timeout : Duration)
    (longer : plan.timeout ≤ timeout) (queries : List Query) (start : Instant) (source : σ) :
    ∃ result after other whole,
      timeline.run (poll plan queries) ⟨start, source, []⟩ = some (result, after) ∧
      timeline.run (poll (plan.within timeout) queries) ⟨start, source, []⟩ =
        some (other, whole) ∧
      after.visits.map Visit.begun <+: whole.visits.map Visit.begun ∧
      ∀ ending, result = some ending → ending.Decided → other = some ending ∧ whole = after := by
  obtain ⟨other, whole, ran⟩ :=
    timeline.poll_ends (plan.within timeout) queries ⟨start, source, []⟩
  obtain ⟨laps, later, middle, taken, rest⟩ :=
    timeline.poll_takes_laps plan queries ⟨start, source, []⟩
  have onward := taken.longer never monotone longer
  rcases rest with ⟨used, short⟩ | ⟨more, visits, ending, after, closes, short⟩
  · refine ⟨none, middle, other, whole, short, ran, ?_, nofun⟩
    obtain ⟨limit, room⟩ := Nat.exists_eq_add_of_le (used ▸ Plan.roundLimit_le longer)
    obtain ⟨added, leads⟩ := Timeline.run_leads
      ((onward.steps_poll limit (by lia)).run_eq.symm.trans ran)
    rw [leads.visits, List.map_append]
    exact List.prefix_append ..
  · refine ⟨some ending, after, other, whole, short, ran,
      closes.begun_longer never monotone longer taken more ran, fun _ same decided => ?_⟩
    obtain rfl := Option.some.inj same
    have limit := Nat.lt_of_lt_of_le more (Plan.roundLimit_le longer)
    have room : later.plan.timeout ≤ timeout := by rwa [taken.plan_eq]
    have closed := closes.longer never monotone room decided
    have ended := (Timeline.poll_of_closes onward closed never limit).symm.trans ran
    obtain ⟨rfl, rfl⟩ := Prod.mk.inj (Option.some.inj ended)
    exact ⟨rfl, rfl⟩

theorem poll_denied_within_longer :
    let plan : Plan := { condition := .equals "Running", timeout := Duration.ofSecs 10 }
    let longer := Duration.ofSecs 60
    let queries : List Query := [⟨"pod", "api", "shop", none⟩, ⟨"pod", "db", "shop", none⟩]
    denied.cancelAt = none ∧ Monotone denied.timer ∧ plan.timeout ≤ longer ∧ ∃ ending after,
      ending.Decided ∧ denied.run (poll plan queries) ⟨0, (), []⟩ = some (some ending, after) ∧
      denied.run (poll (plan.within longer) queries) ⟨0, (), []⟩ = some (some ending, after) := by
  intro plan longer queries
  have le : plan.timeout ≤ longer := by decide
  obtain ⟨result, after, other, whole, short, ran, -, same⟩ :=
    poll_within_longer denied rfl monotone_waited plan longer le queries 0 ()
  have ended : (denied.run (poll plan queries) ⟨0, (), []⟩).map (fun out =>
      out.1.map fun ending => match ending.verdict with
        | .error (.fatal ..) => true
        | _ => false) = some (some true) := by decide +kernel
  rw [short, Option.map_some, Option.some.injEq, Option.map_eq_some_iff] at ended
  obtain ⟨⟨verdict, passed⟩, rfl, fatal⟩ := ended
  split at fatal
  · next q e report here =>
    obtain rfl : verdict = _ := here
    obtain ⟨rfl, rfl⟩ := same _ rfl .fatal
    exact ⟨rfl, monotone_waited, le, _, _, .fatal, short, ran⟩
  · cases fatal

end Readiness.Poll
