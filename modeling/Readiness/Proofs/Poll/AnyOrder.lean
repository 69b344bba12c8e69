import Mathlib.Data.List.Nodup
import Readiness.Proofs.Poll.Immediate
import Readiness.Proofs.Poll.Known
import Readiness.Proofs.Poll.Replay

/-! Polls of the same queries in different orders, whose reads are answered at once. Round by round both
hear the same and note it in the same ledger, so they go on together and close together; only where a
fatal reply breaks off a round does it matter which query comes first, and then only for what was noted. -/
namespace Readiness.Poll

def readAt (reply : Query → Instant → Reply) (now : Instant) (q : Query) : Visit where
  query := q
  startedAt := now
  outcome := .answered (reply q now)
  endedAt := now

/-- A ledger after a round of reads that are answered at once. -/
def heard (reply : Query → Instant → Reply) (now : Instant) (queries : List Query)
    (ledger : Ledger LastState) : Ledger LastState :=
  (queries.map (readAt reply now)).foldl Visit.noteIn ledger

def Run.asking (run : Run) (queries : List Query) : Run := { run with queries := queries }

section Order

variable {queries other : List Query}

theorem heard_perm (order : queries.Perm other) (distinct : (queries.map Query.key).Nodup)
    (reply : Query → Instant → Reply) (now : Instant) (ledger : Ledger LastState) :
    heard reply now queries ledger = heard reply now other ledger := by
  have reads := order.map (readAt reply now)
  rw [heard, heard]
  refine reads.foldl_eq' (fun first here second there ledger => ?_) ledger
  obtain ⟨p, asked, rfl⟩ := List.mem_map.1 here
  obtain ⟨q, asked', rfl⟩ := List.mem_map.1 there
  by_cases same : p.key = q.key
  · rw [List.inj_on_of_nodup_map distinct asked asked' same]
  · have apart : (readAt reply now p).query.key ≠ (readAt reply now q).query.key := same
    exact Visit.noteIn_comm apart ledger

theorem decisive_perm (order : queries.Perm other) {condition : Condition} {replies : Query → Reply} :
    Decisive condition queries replies ↔ Decisive condition other replies := by
  simp only [Decisive, order.mem_iff]

theorem Run.first_asking (order : queries.Perm other) (plan : Plan) (started : Instant) :
    (first plan queries started).asking other = first plan other started := by
  have known : Ledger.ofList (queries.map fun q => (q.key, LastState.unknown)) =
      Ledger.ofList (other.map fun q => (q.key, LastState.unknown)) := by
    rw [Ledger.ofList, Ledger.ofList, List.foldl_map, List.foldl_map]
    refine order.foldl_eq' (fun q here p there ledger => ?_) _
    by_cases same : q.key = p.key
    · rw [same]
    · exact Ledger.put_comm _ same _ _
  simp only [asking, first, enter, new, known]

end Order

/-- Two polls end with the same result, but for the order of their queries; or a fatal reply breaks off both,
in the same round and at the same time. -/
inductive Ending.Alike (reply : Query → Instant → Reply) (queries other : List Query) :
    Ending → Ending → Prop
  | told {ending ending' : Ending} {report : Report} (first : ending.verdict = .ok report)
    (second : ending'.verdict = .ok { report with queries := other }) :
    Alike reply queries other ending ending'
  | broken {ending ending' : Ending} {q q' : Query} {e e' : FetchError} {report report' : Report}
    (first : ending.verdict = .error (.fatal q e report))
    (second : ending'.verdict = .error (.fatal q' e' report'))
    (attempts : report.attempts = report'.attempts) (elapsed : report.elapsed = report'.elapsed)
    (cause : ∃ q ∈ queries, ∃ now, (reply q now).isFatal = true) :
    Alike reply queries other ending ending'

namespace Timeline

variable {σ : Type} {timeline : Timeline σ} {reply : Query → Instant → Reply}
variable {run later : Run} {before after twin : Moment σ} {visits : List Visit}
variable {laps : List (List Visit)} {ending : Ending} {report : Report} {other : List Query}

theorem Read.eq_readAt {budget : Duration} {visit : Visit}
    (read : timeline.Read budget before visit after) (atOnce : timeline.AnswersAtOnce reply) :
    visit = readAt reply before.now visit.query := by
  obtain ⟨answered, ended⟩ := read.at_once atOnce
  calc visit = ⟨visit.query, visit.startedAt, visit.outcome, visit.endedAt⟩ := rfl
    _ = readAt reply before.now visit.query := by
      rw [read.started, answered, ended]
      rfl

theorem Reads.eq_map (reads : timeline.Reads run before visits later after)
    (atOnce : timeline.AnswersAtOnce reply) :
    visits = (visits.map (·.query)).map (readAt reply before.now) := by
  induction reads with
  | none => rfl
  | next read _ _ ih =>
    rw [read.ended, (read.at_once atOnce).2] at ih
    rw [List.map_cons, List.map_cons, ← ih, ← read.eq_readAt atOnce]

theorem Reads.heard (reads : timeline.Reads run before visits later after)
    (atOnce : timeline.AnswersAtOnce reply) {queries : List Query}
    (asked : visits.map (·.query) = queries) :
    later.last = heard reply before.now queries run.last := by
  rw [reads.last_eq, reads.eq_map atOnce, asked]
  rfl

theorem Lap.heard (lap : timeline.Lap run before visits later after)
    (atOnce : timeline.AnswersAtOnce reply) :
    later.last = heard reply before.now run.queries run.last := by
  cases lap with
  | turn reads asked => exact reads.heard atOnce asked

theorem Closes.report_eq (closes : timeline.Closes run before visits ending after)
    (atOnce : timeline.AnswersAtOnce reply) (synced : run.now = before.now)
    (made : ending.verdict = .ok report) : report = Run.report
      { run.again with last := heard reply before.now run.queries run.last } report.stage := by
  have whole {later : Run} {after : Moment σ} {visits : List Visit}
      (reads : timeline.Reads run.again before visits later after)
      (asked : visits.map (·.query) = run.queries) :
      later = { run.again with last := heard reply before.now run.queries run.last } := by
    have now : later.now = run.again.now :=
      (reads.synced synced).trans ((reads.at_once atOnce).1.trans synced.symm)
    have last := reads.heard atOnce asked
    rw [reads.frame, now, last]
    rfl
  cases closes with
  | satisfied reads asked | overdue reads asked =>
    obtain rfl := Except.ok.inj made
    rw [whole reads asked]
    rfl
  | calledOffInPause => cases made
  | calledOff => cases made
  | stopped reads asked read stops =>
    rw [(read.at_once atOnce).1] at stops
    generalize reply _ _ = result at stops
    cases stops
    cases made

/-- Where a poll goes on after a round, it goes on in any order of its queries. -/
theorem Lap.not_closes {visits' : List Visit} {after' : Moment σ}
    (lap : timeline.Lap run before visits later after)
    (closes : timeline.Closes (run.asking other) twin visits' ending after')
    (atOnce : timeline.AnswersAtOnce reply) (synced : run.now = before.now)
    (same : twin.now = before.now) (order : run.queries.Perm other) : False := by
  have undecided := lap.undecided atOnce
  obtain ⟨-, settles⟩ := closes.at_once atOnce (synced.trans same.symm)
  rw [same] at settles
  obtain ⟨-, -, -, late⟩ := settles.overdue_of_undecided (mt (decisive_perm order).2 undecided)
  exact absurd (lap.early synced) (Nat.not_le.2 late)

theorem Lap.reordered (lap : timeline.Lap run before visits later after)
    (atOnce : timeline.AnswersAtOnce reply) (synced : run.now = before.now)
    (same : twin.now = before.now) (order : run.queries.Perm other)
    (distinct : (run.queries.map Query.key).Nodup) : ∃ visits' after',
      timeline.Lap (run.asking other) twin visits' (later.asking other) after' ∧
        after'.now = after.now := by
  have started : (run.asking other).now = twin.now := synced.trans same.symm
  rcases timeline.laps_or_closes 0 started with
    ⟨visits', later', after', lap', -⟩ | ⟨_, _, _, closes, -⟩
  · have now : after'.now = after.now := by
      rw [lap'.lasts atOnce, lap.lasts atOnce, same]
      rfl
    have asking : later' = later.asking other := by
      rw [lap'.frame, lap.frame, lap'.synced, lap.synced, now, lap'.heard atOnce, lap.heard atOnce, same]
      rw [heard_perm order distinct]
      rfl
    exact ⟨visits', after', asking ▸ lap', now⟩
  · exact (lap.not_closes closes atOnce synced same order).elim

theorem Laps.reordered (taken : timeline.Laps run before laps later after)
    (atOnce : timeline.AnswersAtOnce reply) (synced : run.now = before.now)
    (same : twin.now = before.now) (order : run.queries.Perm other)
    (distinct : (run.queries.map Query.key).Nodup) : ∃ laps' after',
      timeline.Laps (run.asking other) twin laps' (later.asking other) after' ∧
        laps'.length = laps.length ∧ after'.now = after.now := by
  induction taken generalizing twin with
  | none => exact ⟨[], twin, .none, rfl, same⟩
  | next lap _ ih =>
    obtain ⟨visits', middle', lap', now⟩ := lap.reordered atOnce synced same order distinct
    rw [lap.queries_eq] at ih
    obtain ⟨laps', after', taken', length, ended⟩ := ih lap.synced now order distinct
    exact ⟨visits' :: laps', after', .next lap' taken', by rw [List.length_cons, List.length_cons, length],
      ended⟩

theorem Closes.reordered (closes : timeline.Closes run before visits ending after)
    (atOnce : timeline.AnswersAtOnce reply) (synced : run.now = before.now)
    (same : twin.now = before.now) (order : run.queries.Perm other)
    (distinct : (run.queries.map Query.key).Nodup) : ∃ visits' ending' after',
      timeline.Closes (run.asking other) twin visits' ending' after' ∧
        Ending.Alike reply run.queries other ending ending' := by
  have started : (run.asking other).now = twin.now := synced.trans same.symm
  rcases timeline.laps_or_closes 0 started with
    ⟨_, _, _, lap, -⟩ | ⟨visits', ending', after', closes', -⟩
  · have back : timeline.Closes ((run.asking other).asking run.queries) before visits ending after := closes
    exact (lap.not_closes back atOnce started same.symm order.symm).elim
  refine ⟨visits', ending', after', closes', ?_⟩
  have settles := (closes.at_once atOnce synced).2
  have settles' := (closes'.at_once atOnce started).2
  rw [same] at settles'
  -- Reports of results with the same stage are made of the same run, but for the order of its queries.
  have told {report report' : Report} (first : ending.verdict = .ok report)
      (second : ending'.verdict = .ok report') (stage : report'.stage = report.stage) :
      Ending.Alike reply run.queries other ending ending' := by
    have made := closes.report_eq atOnce synced first
    have made' := closes'.report_eq atOnce started second
    rw [stage, same, show (run.asking other).queries = other from rfl, ← heard_perm order distinct]
      at made'
    refine .told first (second.trans (congrArg _ (made'.trans ?_)))
    rw [made]
    rfl
  generalize verdict : ending.verdict = given at settles
  cases settles with
  | @satisfied report met stage =>
    obtain ⟨report', second, stage'⟩ := settles'.satisfied_of_met
      fun q member => met q (order.mem_iff.2 member)
    exact told verdict second (stage'.trans stage.symm)
  | @overdue report undecided late stage =>
    obtain ⟨report', second, stage', -⟩ := settles'.overdue_of_undecided
      (mt (decisive_perm order).2 undecided)
    exact told verdict second (stage'.trans stage.symm)
  | @fatal q e report first failed =>
    have isFatal := List.find?_some first
    have member := List.mem_of_find?_eq_some first
    have found : (other.find? fun q => (reply q before.now).isFatal).isSome = true :=
      List.find?_isSome.2 ⟨q, order.mem_iff.1 member, isFatal⟩
    obtain ⟨q', first'⟩ := Option.isSome_iff_exists.1 found
    obtain ⟨e', report', -, second⟩ := settles'.fatal_of_first first'
    obtain ⟨attempts, elapsed⟩ := closes.counts atOnce synced (by rw [Ending.report?, verdict]; rfl)
    obtain ⟨attempts', elapsed'⟩ := closes'.counts atOnce started (by rw [Ending.report?, second]; rfl)
    exact .broken verdict second (attempts.trans attempts'.symm) (elapsed.trans elapsed'.symm)
      ⟨q, member, _, isFatal⟩

end Timeline

/-- The order of the queries does not affect how a poll ends. Where reads are answered at once, by what is
asked and when, and no pause is cut short, a poll ends with the same result in any order, unless a fatal reply
breaks it off; then it is broken off in any order, after as many rounds and as much time. -/
theorem poll_in_any_order {σ : Type} (timeline : Timeline σ) (reply : Query → Instant → Reply)
    (plan : Plan) {queries other : List Query} (order : queries.Perm other)
    (distinct : (queries.map Query.key).Nodup) (before : Moment σ)
    (atOnce : timeline.AnswersAtOnce reply) (paced : 0 < plan.interval)
    (kept : Duration.waited plan.interval ≤ timeline.timer plan.interval) :
    ∃ ending after ending' after',
      timeline.run (poll plan queries) before = some (some ending, after) ∧
      timeline.run (poll plan other) before = some (some ending', after') ∧
      ((∀ q ∈ queries, ∀ now, (reply q now).isFatal = false) → ∃ report,
        ending.verdict = .ok report ∧ ending'.verdict = .ok { report with queries := other }) ∧
      Ending.Alike reply queries other ending ending' := by
  obtain ⟨laps, later, middle, visits, ending, after, taken, closes, ran, room⟩ :=
    timeline.poll_closes_of_kept paced kept queries before
  obtain ⟨laps', middle', taken', length, now⟩ := taken.reordered atOnce rfl rfl order distinct
  have queries_eq : later.queries = queries := taken.queries_eq
  rw [← queries_eq] at order distinct
  obtain ⟨visits', ending', after', closes', alike⟩ :=
    closes.reordered atOnce (taken.synced rfl) now order distinct
  rw [queries_eq] at order alike
  rw [Run.first_asking order] at taken'
  have ran' := Timeline.poll_of_closes taken' closes' atOnce.uncancelled (length ▸ room)
  refine ⟨ending, after, ending', after', ran, ran', fun harmless => ?_, alike⟩
  cases alike with
  | told first second => exact ⟨_, first, second⟩
  | broken _ _ _ _ cause =>
    obtain ⟨q, member, now, fatal⟩ := cause
    rw [harmless q member now] at fatal
    cases fatal

/-- Two pods that run from their tenth second on. -/
theorem poll_starting_in_any_order :
    let plan : Plan := { condition := .equals "Running" }
    let queries : List Query := [⟨"pod", "api", "shop", none⟩, ⟨"pod", "db", "shop", none⟩]
    (queries.map Query.key).Nodup ∧ queries.Perm queries.reverse ∧ 0 < plan.interval ∧
      Duration.waited plan.interval ≤ starting.timer plan.interval ∧
      starting.AnswersAtOnce startingReply ∧
      ∃ ending after ending' after' report,
        starting.run (poll plan queries) ⟨0, (), []⟩ = some (some ending, after) ∧
        starting.run (poll plan queries.reverse) ⟨0, (), []⟩ = some (some ending', after') ∧
        ending.verdict = .ok report ∧
        ending'.verdict = .ok { report with queries := queries.reverse } := by
  intro plan queries
  have distinct : (queries.map Query.key).Nodup := by decide
  have order : queries.Perm queries.reverse := (List.reverse_perm queries).symm
  have atOnce : starting.AnswersAtOnce startingReply := ⟨fun _ _ _ => ⟨_, rfl⟩, rfl⟩
  have kept : Duration.waited plan.interval ≤ starting.timer plan.interval := Nat.le_refl _
  obtain ⟨ending, after, ending', after', ran, ran', same, -⟩ := poll_in_any_order starting startingReply
    plan order distinct ⟨0, (), []⟩ atOnce (by decide) kept
  obtain ⟨report, first, second⟩ := same fun _ _ _ => rfl
  exact ⟨distinct, order, by decide, kept, atOnce, ending, after, ending', after', report, ran, ran',
    first, second⟩

end Readiness.Poll
