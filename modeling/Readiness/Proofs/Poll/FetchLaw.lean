import Readiness.Proofs.Poll.Deadline
import Readiness.Proofs.Poll.Steps

/-! The order and the times of the reads of a poll. The law is stated for the list of all reads by
their positions; it holds of one round, and putting a lap before reads that obey it keeps it. -/
namespace Readiness.Poll

theorem Spans.head {start stop : Instant} {visits : List Visit} (spans : Spans start visits stop)
    {visit : Visit} (found : visits[0]? = some visit) : visit.startedAt = start := by
  cases visits with
  | nil => simp at found
  | cons head rest =>
    obtain rfl : head = visit := by simpa using found
    exact spans.1

theorem Spans.step {start stop : Instant} {visits : List Visit} (spans : Spans start visits stop)
    {i : Nat} {visit next : Visit} (here : visits[i]? = some visit)
    (there : visits[i + 1]? = some next) : next.startedAt = visit.endedAt := by
  induction visits generalizing start i with
  | nil => simp at here
  | cons head rest ih =>
    rw [List.getElem?_cons_succ] at there
    cases i with
    | zero =>
      obtain rfl : head = visit := by simpa using here
      exact spans.2.head there
    | succ i =>
      rw [List.getElem?_cons_succ] at here
      exact ih spans.2 here there

theorem Spans.last {start stop : Instant} {visits : List Visit} (spans : Spans start visits stop)
    {i : Nat} {visit : Visit} (here : visits[i]? = some visit) (final : i + 1 = visits.length) :
    visit.endedAt = stop := by
  induction visits generalizing start i with
  | nil => simp at here
  | cons head rest ih =>
    cases i with
    | zero =>
      obtain rfl : head = visit := by simpa using here
      obtain rfl : rest = [] := by simpa using final
      exact spans.2
    | succ i =>
      rw [List.getElem?_cons_succ] at here
      exact ih spans.2 here (by simpa using final)

/-- Round `r` of `n` reads was completed, without a fatal error, and was not enough. -/
def Retried (condition : Condition) (n : Nat) (visits : List Visit) (r : Nat) : Prop :=
  (∀ i, i / n = r → ∃ visit, visits[i]? = some visit ∧ visit.state?.isSome) ∧
    ∃ i visit, i / n = r ∧ visits[i]? = some visit ∧ visit.meets condition = false

/-- The law of the reads of a poll that began at `start`. Positions are counted from 0, and a round
is as many reads as there are queries. -/
structure FetchLaw (plan : Plan) (queries : List Query) (start deadline : Instant)
    (visits : List Visit) : Prop where
  starts : ∀ visit, visits[0]? = some visit → visit.startedAt = start
  inOrder : ∀ i visit, visits[i]? = some visit → queries[i % queries.length]? = some visit.query
  backToBack : ∀ i visit next, visits[i]? = some visit → visits[i + 1]? = some next →
    (i + 1) % queries.length ≠ 0 → next.startedAt = visit.endedAt
  afterPause : ∀ i visit next, visits[i]? = some visit → visits[i + 1]? = some next →
    (i + 1) % queries.length = 0 → next.startedAt = visit.endedAt + plan.interval
  inTime : ∀ visit ∈ visits, visit.startedAt ≤ deadline
  /-- Only a round that was not enough has reads after it. -/
  retried : ∀ r, (r + 1) * queries.length < visits.length →
    Retried plan.condition queries.length visits r

section Law

variable {plan : Plan} {queries : List Query} {start stop deadline : Instant}
variable {visits lap rest : List Visit}

theorem fetchLaw_of_round (asked : visits.map (·.query) <+: queries)
    (spans : Spans start visits stop) (inTime : ∀ visit ∈ visits, visit.startedAt ≤ deadline) :
    FetchLaw plan queries start deadline visits := by
  have short : visits.length ≤ queries.length := by simpa using asked.length_le
  have within {i : Nat} {visit : Visit} (here : visits[i]? = some visit) : i < visits.length :=
    (List.getElem?_eq_some_iff.1 here).1
  refine ⟨fun visit => spans.head, fun i visit here => ?_, fun i visit next here there _ =>
    spans.step here there, fun i visit next _ there wrapped => ?_, inTime, fun r more => ?_⟩
  · have := within here
    obtain ⟨more, rfl⟩ := asked
    rw [Nat.mod_eq_of_lt (by lia), List.getElem?_append_left (by simpa using this)]
    simp [here]
  · have := within there
    rw [Nat.mod_eq_of_lt (by lia)] at wrapped
    lia
  · rw [Nat.succ_mul] at more
    lia

theorem retried_of_lap {condition : Condition} {n : Nat} (size : lap.length = n) (positive : 0 < n)
    (settled : ∀ visit ∈ lap, visit.state?.isSome)
    (unmet : lap.all (·.meets condition) = false) : Retried condition n (lap ++ rest) 0 := by
  subst size
  constructor
  · intro i first
    have early : i < lap.length := by
      rcases Nat.div_eq_zero_iff.1 first with none | early
      · lia
      · exact early
    refine ⟨lap[i], ?_, settled _ (List.getElem_mem _)⟩
    rw [List.getElem?_append_left early, List.getElem?_eq_getElem]
  · obtain ⟨visit, member, missed⟩ := List.all_eq_false.1 unmet
    obtain ⟨i, bound, rfl⟩ := List.mem_iff_getElem.1 member
    refine ⟨i, lap[i], Nat.div_eq_of_lt bound, ?_, by simpa using missed⟩
    rw [List.getElem?_append_left bound, List.getElem?_eq_getElem]

/-- A lap put before the reads of a round makes it one round later. -/
theorem Retried.after_lap {condition : Condition} {n r : Nat}
    (retried : Retried condition n rest r) (size : lap.length = n) (positive : 0 < n) :
    Retried condition n (lap ++ rest) (r + 1) := by
  subst size
  obtain ⟨complete, j, visit, position, here, missed⟩ := retried
  constructor
  · intro i inRound
    have late : lap.length ≤ i := by
      rcases Nat.lt_or_ge i lap.length with early | late
      · rw [Nat.div_eq_of_lt early] at inRound
        lia
      · exact late
    obtain ⟨j, rfl⟩ := Nat.exists_eq_add_of_le late
    rw [Nat.add_div_left _ positive, Nat.succ_inj] at inRound
    rw [List.getElem?_append_right late, Nat.add_sub_cancel_left]
    exact complete j inRound
  · refine ⟨lap.length + j, visit, by rw [Nat.add_div_left _ positive, position], ?_, missed⟩
    rw [List.getElem?_append_right (Nat.le_add_right ..), Nat.add_sub_cancel_left, here]

theorem FetchLaw.prepend (law : FetchLaw plan queries (stop + plan.interval) deadline rest)
    (nonempty : queries ≠ []) (asked : lap.map (·.query) = queries) (spans : Spans start lap stop)
    (inTime : ∀ visit ∈ lap, visit.startedAt ≤ deadline)
    (settled : ∀ visit ∈ lap, visit.state?.isSome)
    (unmet : lap.all (·.meets plan.condition) = false) :
    FetchLaw plan queries start deadline (lap ++ rest) := by
  have size : lap.length = queries.length := by rw [← asked, List.length_map]
  have positive : 0 < queries.length := List.length_pos_iff.2 nonempty
  have inLap {i : Nat} (h : i < queries.length) : (lap ++ rest)[i]? = lap[i]? :=
    List.getElem?_append_left (size ▸ h)
  have inRest (i : Nat) : (lap ++ rest)[queries.length + i]? = rest[i]? := by
    rw [List.getElem?_append_right (by lia), size, Nat.add_sub_cancel_left]
  constructor
  case starts =>
    intro visit here
    rw [inLap positive] at here
    exact spans.head here
  case inOrder =>
    intro i visit here
    rcases Nat.lt_or_ge i queries.length with early | late
    · rw [inLap early] at here
      rw [Nat.mod_eq_of_lt early, ← asked, List.getElem?_map, here, Option.map_some]
    · obtain ⟨j, rfl⟩ := Nat.exists_eq_add_of_le late
      rw [inRest] at here
      rw [Nat.add_mod_left]
      exact law.inOrder j visit here
  case backToBack =>
    intro i visit next here there inside
    rcases Nat.lt_or_ge i queries.length with early | late
    · have : i + 1 ≠ queries.length := fun full => inside (by rw [full, Nat.mod_self])
      rw [inLap early] at here
      rw [inLap (by lia)] at there
      exact spans.step here there
    · obtain ⟨j, rfl⟩ := Nat.exists_eq_add_of_le late
      rw [Nat.add_assoc, inRest] at there
      rw [inRest] at here
      rw [Nat.add_assoc, Nat.add_mod_left] at inside
      exact law.backToBack j visit next here there inside
  case afterPause =>
    intro i visit next here there wrapped
    rcases Nat.lt_or_ge i queries.length with early | late
    · have full : i + 1 = queries.length := by
        rcases Nat.lt_or_eq_of_le early with less | full
        · rw [Nat.mod_eq_of_lt less] at wrapped
          lia
        · exact full
      rw [inLap early] at here
      rw [full, ← Nat.add_zero queries.length, inRest] at there
      rw [law.starts next there, spans.last here (full.trans size.symm)]
    · obtain ⟨j, rfl⟩ := Nat.exists_eq_add_of_le late
      rw [Nat.add_assoc, inRest] at there
      rw [inRest] at here
      rw [Nat.add_assoc, Nat.add_mod_left] at wrapped
      exact law.afterPause j visit next here there wrapped
  case inTime => exact List.forall_mem_append.2 ⟨inTime, law.inTime⟩
  case retried =>
    intro r more
    cases r with
    | zero => exact retried_of_lap size positive settled unmet
    | succ r =>
      rw [List.length_append, size, Nat.succ_mul] at more
      exact (law.retried r (by lia)).after_lap size positive

end Law

/-- Rounds counted from the reads: `k` of them with `n` reads each, and one more with `p`. -/
theorem succ_eq_max_ceil {k n p : Nat} (short : p ≤ n) (positive : 0 < n) (begun : 0 < p ∨ k = 0) :
    k + 1 = max 1 ((k * n + p + n - 1) / n) := by
  rcases Nat.eq_zero_or_pos p with rfl | some
  · obtain rfl : k = 0 := by simpa using begun
    rw [Nat.div_eq_of_lt (by lia)]
    rfl
  · have quotient : (k * n + p + n - 1) / n = k + 1 := by
      apply Nat.div_eq_of_lt_le
      · rw [Nat.succ_mul]
        lia
      · rw [Nat.succ_mul, Nat.succ_mul]
        lia
    rw [quotient]
    lia

theorem last_round_full {k n p r : Nat} (short : p ≤ n) (positive : 0 < n)
    (begun : 0 < p ∨ k = 0) (total : (r + 1) * n = k * n + p) : r = k ∧ p = n := by
  have below : k * n < (r + 1) * n := by
    rcases begun with some | rfl
    · lia
    · rw [Nat.zero_mul, Nat.succ_mul]
      lia
  have above : r * n ≤ k * n := by
    rw [Nat.succ_mul] at total
    lia
  have lower : k < r + 1 := Nat.lt_of_mul_lt_mul_right below
  have upper : r ≤ k := Nat.le_of_mul_le_mul_right above positive
  obtain rfl : r = k := by lia
  rw [Nat.succ_mul] at total
  exact ⟨rfl, by lia⟩

namespace Timeline

variable {σ : Type} {timeline : Timeline σ} {run later : Run} {before middle after : Moment σ}
variable {visits : List Visit} {laps : List (List Visit)} {ending : Ending}

theorem Laps.fetchLaw (taken : timeline.Laps run before laps later middle)
    (exact : timeline.IsExactUpTo run.plan.timeout) (synced : run.now = before.now)
    (onTime : run.OnTime) (nonempty : run.queries ≠ [])
    (law : FetchLaw run.plan run.queries middle.now (run.started + run.plan.timeout) visits) :
    FetchLaw run.plan run.queries before.now (run.started + run.plan.timeout)
      (laps.flatten ++ visits) := by
  induction taken with
  | none => exact law
  | @next run between _ _ _ _ _ _ lap _ ih =>
    obtain ⟨ended, starts⟩ := lap.onTime exact synced onTime
    rw [lap.plan_eq, lap.queries_eq, lap.started_eq] at ih
    have rest := ih exact lap.synced ended nonempty law
    cases lap with
    | turn reads asked unmet early pause =>
      cases pause
      rw [exact _ (by lia)] at rest
      rw [List.flatten_cons, List.append_assoc]
      exact rest.prepend nonempty asked reads.spans starts reads.settled unmet

theorem Closes.asked (closes : timeline.Closes run before visits ending after) :
    visits.map (·.query) <+: run.queries := by
  cases closes with
  | satisfied reads asked | overdue reads asked | calledOffInPause reads asked =>
    exact asked ▸ List.prefix_rfl
  | calledOff reads asked => exact ⟨_, asked⟩
  | stopped reads asked => exact ⟨_, by rw [List.map_append, ← asked, List.append_assoc]; rfl⟩

theorem Closes.spans (closes : timeline.Closes run before visits ending after) :
    ∃ stop, Spans before.now visits stop := by
  cases closes with
  | satisfied reads | overdue reads | calledOffInPause reads | calledOff reads =>
    exact ⟨_, reads.spans⟩
  | stopped reads asked read => exact ⟨_, reads.spans.append ⟨read.started, rfl⟩⟩

theorem Closes.calledOff_of_nil (closes : timeline.Closes run before [] ending after)
    (nonempty : run.queries ≠ []) : timeline.isCancelled before.now = true := by
  generalize none : ([] : List Visit) = visits at closes
  cases closes with
  | satisfied reads asked | overdue reads asked | calledOffInPause reads asked =>
    subst none
    exact absurd asked.symm nonempty
  | calledOff reads asked cancelled =>
    subst none
    cases reads
    exact cancelled
  | stopped => simp at none

theorem Closes.satisfied_of_met (closes : timeline.Closes run before visits ending after)
    (whole : visits.length = run.queries.length)
    (met : ∀ visit ∈ visits, visit.meets run.plan.condition = true) :
    ∃ report, ending.verdict = .ok report ∧ report.stage = .satisfied := by
  cases closes with
  | satisfied => exact ⟨_, rfl, rfl⟩
  | overdue reads asked unmet | calledOffInPause reads asked unmet =>
    rw [List.all_eq_true.2 met] at unmet
    cases unmet
  | calledOff reads asked =>
    have := congrArg List.length asked
    simp only [List.length_append, List.length_map, List.length_cons] at this
    lia
  | @stopped _ _ _ _ last _ _ reads asked read stops =>
    have missed := met last (by simp)
    simp [Visit.meets, Visit.state?, stops.state?] at missed

theorem Laps.undisturbed (taken : timeline.Laps run before laps later after) (some : laps ≠ [])
    {c : Instant} (set : timeline.cancelAt = .some c) : after.now ≤ c := by
  induction taken with
  | none => exact absurd rfl some
  | next lap rest ih =>
    cases rest with
    | none =>
      cases lap with
      | turn reads asked unmet early pause =>
        cases pause with
        | finished live undisturbed => exact undisturbed c set
    | next => exact ih (by simp)

theorem Laps.live (taken : timeline.Laps run before laps later after) (some : laps ≠ [])
    (nonempty : run.queries ≠ []) : timeline.isCancelled before.now = false := by
  cases taken with
  | none => exact absurd rfl some
  | next lap =>
    cases lap with
    | turn reads asked =>
      cases reads with
      | none => exact absurd asked.symm nonempty
      | next read => exact read.live

theorem Laps.mem_instants {plan : Plan} {queries : List Query}
    (taken : timeline.Laps (.first plan queries before.now) before laps later after)
    (nonempty : queries ≠ []) (more : laps.length < plan.roundLimit) :
    after.now ∈ timeline.instants (poll plan queries) before := by
  obtain ⟨limit, same⟩ := Nat.exists_eq_add_of_lt more
  obtain ⟨q, rest, rfl⟩ := List.exists_cons_of_ne_nil nonempty
  have queries : later.queries = q :: rest := taken.queries_eq
  have steps := taken.steps (limit + 1)
  rw [Nat.add_comm (limit + 1), ← Nat.add_assoc, ← same, Run.rounds, queries, Run.round] at steps
  exact Steps.mem_instants (.trans (.request rfl) steps)

/-- Only a poll that is called off just when a pause ends begins a round without a read. -/
theorem Laps.begun {plan : Plan} {queries : List Query}
    (taken : timeline.Laps (.first plan queries before.now) before laps later middle)
    (closes : timeline.Closes later middle visits ending after) (nonempty : queries ≠ [])
    (more : laps.length < plan.roundLimit)
    (apart : ∀ c, timeline.cancelAt = some c → before.now < c →
      c ∉ timeline.instants (poll plan queries) before) :
    0 < visits.length ∨ laps.length = 0 := by
  rcases List.eq_nil_or_concat visits with rfl | ⟨_, _, rfl⟩
  · right
    cases laps with
    | nil => rfl
    | cons lap rest =>
      have queries_eq : later.queries = queries := taken.queries_eq
      obtain ⟨c, set, passed⟩ := exists_cancelAt
        (closes.calledOff_of_nil (by rwa [queries_eq]))
      have waited := taken.undisturbed (by simp) set
      obtain rfl : c = middle.now := Nat.le_antisymm passed waited
      have begun := lt_cancelAt (taken.live (by simp) nonempty) set
      exact absurd (taken.mem_instants nonempty more) (apart _ set begun)
  · simp

theorem Laps.length_flatten (taken : timeline.Laps run before laps later after) :
    laps.flatten.length = laps.length * run.queries.length := by
  induction taken with
  | none => simp
  | @next run between _ _ _ _ visits rest lap _ ih =>
    have size : visits.length = run.queries.length := by
      cases lap with
      | turn reads asked => rw [← asked, List.length_map]
    rw [List.flatten_cons, List.length_append, ih, List.length_cons, Nat.succ_mul, size,
      lap.queries_eq, Nat.add_comm]

theorem Closes.satisfied_of_round {start deadline : Instant} {r : Nat}
    (closes : timeline.Closes run before visits ending after)
    (size : laps.flatten.length = laps.length * run.queries.length)
    (law : FetchLaw run.plan run.queries start deadline (laps.flatten ++ visits))
    (nonempty : run.queries ≠ []) (begun : 0 < visits.length ∨ laps.length = 0)
    (whole : (r + 1) * run.queries.length ≤ (laps.flatten ++ visits).length)
    (met : ∀ i visit, i / run.queries.length = r → (laps.flatten ++ visits)[i]? = some visit →
      visit.meets run.plan.condition = true) :
    (r + 1) * run.queries.length = (laps.flatten ++ visits).length ∧
      ∃ report, ending.verdict = .ok report ∧ report.stage = .satisfied := by
  have positive : 0 < run.queries.length := List.length_pos_iff.2 nonempty
  have short : visits.length ≤ run.queries.length := by simpa using closes.asked.length_le
  have full : (r + 1) * run.queries.length = (laps.flatten ++ visits).length := by
    rcases Nat.lt_or_eq_of_le whole with less | full
    · obtain ⟨-, i, visit, inRound, here, missed⟩ := law.retried r less
      rw [met i visit inRound here] at missed
      cases missed
    · exact full
  refine ⟨full, ?_⟩
  rw [List.length_append, size] at full
  obtain ⟨rfl, complete⟩ := last_round_full short positive begun full
  refine closes.satisfied_of_met complete fun visit member => ?_
  obtain ⟨j, bound, rfl⟩ := List.mem_iff_getElem.1 member
  refine met (laps.length * run.queries.length + j) _ ?_ ?_
  · rw [Nat.mul_comm, Nat.mul_add_div positive, Nat.div_eq_of_lt (by lia), Nat.add_zero]
  · rw [List.getElem?_append_right (by rw [size]; exact Nat.le_add_right ..), size,
      Nat.add_sub_cancel_left, List.getElem?_eq_getElem]

end Timeline

/-- The reads of a poll on a timeline with exact timers obey the law, the report counts their rounds,
and nothing is read after the first round in which every state meets the condition. A poll without an
end is one that never pauses and has used up its counter of rounds. -/
theorem poll_obeys_fetchLaw {σ : Type} (timeline : Timeline σ) (plan : Plan) (queries : List Query)
    (nonempty : queries ≠ []) (start : Instant) (source : σ)
    (exact : timeline.IsExactUpTo plan.timeout)
    (apart : ∀ c, timeline.cancelAt = some c → start < c →
      c ∉ timeline.instants (poll plan queries) ⟨start, source, []⟩) :
    ∃ result after, timeline.run (poll plan queries) ⟨start, source, []⟩ = some (result, after) ∧
      FetchLaw plan queries start (start + plan.timeout) after.visits ∧
      (result = none →
        plan.interval = 0 ∧ after.visits.length = (UInt32.size - 1) * queries.length) ∧
      ∀ ending, result = some ending →
        (∃ report, ending.report? = some report ∧ report.attempts =
          max 1 ((after.visits.length + queries.length - 1) / queries.length)) ∧
        ∀ r, (r + 1) * queries.length ≤ after.visits.length →
          (∀ i visit, i / queries.length = r → after.visits[i]? = some visit →
            visit.meets plan.condition = true) →
          (r + 1) * queries.length = after.visits.length ∧
            ∃ report, ending.verdict = .ok report ∧ report.stage = .satisfied := by
  have positive : 0 < queries.length := List.length_pos_iff.2 nonempty
  obtain ⟨laps, later, middle, taken, rest⟩ :=
    timeline.poll_takes_laps plan queries ⟨start, source, []⟩
  have law (visits : List Visit)
      (law : FetchLaw plan queries middle.now (start + plan.timeout) visits) :
      FetchLaw plan queries start (start + plan.timeout) (laps.flatten ++ visits) :=
    taken.fetchLaw exact rfl (Run.first_onTime ..) nonempty law
  have size := taken.length_flatten
  have synced := taken.synced rfl
  have made := taken.visits_eq
  rw [List.nil_append] at made
  rcases rest with ⟨used, ran⟩ | ⟨more, visits, ending, after, closes, ran⟩
  · refine ⟨none, middle, ran, ?_, fun _ => ?_, by simp⟩
    · rw [made, ← List.append_nil laps.flatten]
      exact law _ (fetchLaw_of_round List.nil_prefix rfl (by simp))
    · have endless : plan.interval = 0 := by
        rcases Nat.eq_zero_or_pos plan.interval with none | paced
        · exact none
        · -- With pauses all laps fit the timeout, and the limit leaves room for more.
          have bound := taken.length_le exact rfl (Run.first_onTime ..) paced
          have := Plan.div_lt_roundLimit paced
          simp only [Run.first_plan] at bound
          lia
      rw [made, size, used, Plan.roundLimit, if_pos endless]
      exact ⟨endless, rfl⟩
  · have plan_eq : later.plan = plan := taken.plan_eq
    have queries_eq : later.queries = queries := taken.queries_eq
    have started_eq : later.started = start := taken.started_eq
    have attempts : later.attempts = laps.length := taken.attempts_eq.trans (Nat.zero_add _)
    have all : after.visits = laps.flatten ++ visits := by rw [closes.visits_eq, made]
    obtain ⟨stop, spans⟩ := closes.spans
    have asked := closes.asked
    have begun := taken.begun closes nonempty more apart
    have obeyed : FetchLaw plan queries start (start + plan.timeout) after.visits := by
      have inTime := (closes.onTime (by rwa [plan_eq]) synced (taken.onTime exact rfl
        (Run.first_onTime ..)).1).2
      rw [started_eq, plan_eq] at inTime
      rw [all]
      exact law _ (fetchLaw_of_round (queries_eq ▸ asked) spans inTime)
    refine ⟨some ending, after, ran, obeyed, by simp, fun _ same => ?_⟩
    obtain rfl := Option.some.inj same
    constructor
    · obtain ⟨last, stage, reported, last_eq⟩ := closes.reports synced
      have short : visits.length ≤ queries.length := by simpa [queries_eq] using asked.length_le
      refine ⟨_, reported, ?_⟩
      rw [last_eq, all, List.length_append, size, Run.first_queries,
        ← succ_eq_max_ceil short positive begun, ← attempts]
      rfl
    · intro r whole met
      subst plan_eq queries_eq
      rw [all] at obeyed whole met ⊢
      exact closes.satisfied_of_round size obeyed nonempty begun whole met

/-- A source that takes a second for each answer, and a poll that is called off in a pause. -/
def slow : Timeline Unit where
  answer q now source :=
    (.after (Duration.ofSecs 1),
      .ok ⟨q.name, if now < Duration.ofSecs 10 then "Pending" else "Running"⟩, source)
  cancelAt := some (Duration.ofMillis 9500)

theorem poll_slow_obeys_fetchLaw :
    let plan : Plan := { condition := .equals "Running" }
    let queries : List Query := [⟨"pod", "api", "shop", none⟩, ⟨"pod", "db", "shop", none⟩]
    slow.IsExactUpTo plan.timeout ∧
      Duration.ofMillis 9500 ∉ slow.instants (poll plan queries) ⟨0, (), []⟩ ∧
      ∃ ending report after, slow.run (poll plan queries) ⟨0, (), []⟩ = some (some ending, after) ∧
        FetchLaw plan queries 0 plan.timeout after.visits ∧ after.visits.length = 4 ∧
        ending.report? = some report ∧ report.attempts = 2 := by
  intro plan queries
  have exact : slow.IsExactUpTo plan.timeout := Timeline.isExactUpTo_of_waited rfl (by decide)
  have apart : Duration.ofMillis 9500 ∉ slow.instants (poll plan queries) ⟨0, (), []⟩ := by
    decide +kernel
  obtain ⟨result, after, ran, law, -, rest⟩ := poll_obeys_fetchLaw slow plan queries (by decide) 0 ()
    exact fun c set _ => Option.some.inj set ▸ apart
  have ended : (slow.run (poll plan queries) ⟨0, (), []⟩).map
      (fun out => (out.1.isSome, out.2.visits.length)) = some (true, 4) := by decide +kernel
  rw [ran, Option.map_some, Option.some.injEq, Prod.mk.injEq] at ended
  obtain ⟨some_, size⟩ := ended
  obtain ⟨ending, rfl⟩ := Option.isSome_iff_exists.1 some_
  obtain ⟨⟨report, reported, attempts⟩, -⟩ := rest ending rfl
  rw [size] at attempts
  rw [Nat.zero_add] at law
  exact ⟨exact, apart, ending, report, after, ran, law, size, reported,
    by simpa [queries] using attempts⟩

end Readiness.Poll
