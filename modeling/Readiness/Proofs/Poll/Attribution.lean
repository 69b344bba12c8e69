import Mathlib.Data.List.Induction
import Readiness.Proofs.Poll.FetchLaw
import Readiness.Proofs.Poll.Known

/-! Whose outcome a report shows. The ledger of a poll has one entry for each resource, so what it
shows of a query is what the latest recorded read of that resource left, whichever query asked for
it: with different keys each query is shown its own latest outcome, and only then. -/
namespace Readiness.Poll

/-- What a read leaves in the report of a poll begun at `start`: nothing if it failed for good or the
poll was called off before its answer. -/
def Visit.left? (plan : Plan) (start : Instant) (visit : Visit) : Option LastState :=
  match visit.outcome with
  | .answered (.ok reading) => some (.observed ⟨reading, visit.endedAt⟩)
  | .answered (.error e) => if e.isFatal then none else some (.missing e.message)
  | .late => some (.missing
      ("no response within " ++ Duration.text (plan.timeout - (visit.startedAt - start))))
  | .cancelled => none

/-- What the last of some reads left that left anything. -/
def lastLeft (plan : Plan) (start : Instant) (visits : List Visit) : LastState :=
  (visits.filterMap (Visit.left? plan start)).getLast?.getD .unknown

def Visit.leaveIn (plan : Plan) (start : Instant) (ledger : Ledger LastState) (visit : Visit) :
    Ledger LastState :=
  match visit.left? plan start with
  | some state => ledger.put visit.query.key state
  | none => ledger

section Leaves

variable {plan : Plan} {start : Instant} {visit : Visit} {ledger : Ledger LastState}

theorem Visit.leaveIn_none (left : visit.left? plan start = none) :
    visit.leaveIn plan start ledger = ledger := by
  rw [Visit.leaveIn, left]

theorem Visit.leaveIn_some {state : LastState} (left : visit.left? plan start = some state) :
    visit.leaveIn plan start ledger = ledger.put visit.query.key state := by
  rw [Visit.leaveIn, left]

end Leaves

theorem Visit.left?_of_settled {visit : Visit} (settled : visit.state?.isSome) (plan : Plan)
    (start : Instant) : visit.left? plan start = visit.state? := by
  unfold Visit.left?
  unfold Visit.state? at settled ⊢
  split <;> simp_all [Timed.state?]

variable {plan : Plan} {queries : List Query} {start : Instant} {visits : List Visit}

theorem foldl_leaveIn_of_settled (settled : ∀ visit ∈ visits, visit.state?.isSome)
    (ledger : Ledger LastState) :
    visits.foldl (Visit.leaveIn plan start) ledger = visits.foldl Visit.noteIn ledger := by
  induction visits generalizing ledger with
  | nil => rfl
  | cons visit rest ih =>
    obtain ⟨here, later⟩ := List.forall_mem_cons.1 settled
    have same : visit.leaveIn plan start ledger = visit.noteIn ledger := by
      rw [Visit.leaveIn, Visit.left?_of_settled here]
      rfl
    rw [List.foldl_cons, List.foldl_cons, same, ih later]

theorem get?_foldl_leaveIn (plan : Plan) (start : Instant) (visits : List Visit) (key : String)
    (ledger : Ledger LastState) :
    (visits.foldl (Visit.leaveIn plan start) ledger).get? key =
      ((visits.filter (·.query.key = key)).filterMap (Visit.left? plan start)).getLast?.or
        (ledger.get? key) := by
  induction visits using List.reverseRecOn with
  | nil => rfl
  | append_singleton visits last ih =>
    rw [List.foldl_append, List.foldl_cons, List.foldl_nil, Visit.leaveIn]
    cases left : last.left? plan start with
    | none =>
      simp only [ih]
      by_cases same : last.query.key = key <;> simp [same, left]
    | some state =>
      by_cases same : last.query.key = key
      · subst same
        simp [left]
      · simp only [Ledger.get?_put_of_ne _ (Ne.symm same), ih]
        simp [same]

namespace Timeline

variable {σ : Type} {timeline : Timeline σ} {run later : Run} {before middle after : Moment σ}
variable {laps : List (List Visit)} {ending : Ending}

/-- The ledger of the report of a poll is what its reads left, one after another. -/
theorem Closes.last_eq
    (taken : timeline.Laps (.first plan queries before.now) before laps later middle)
    (closes : timeline.Closes later middle visits ending after) :
    ∃ report, ending.report? = some report ∧ report.queries = queries ∧
      report.last = (laps.flatten ++ visits).foldl (Visit.leaveIn plan before.now)
        (.ofList (queries.map fun q => (q.key, .unknown))) := by
  have queries_eq : later.queries = queries := taken.queries_eq
  have whole {visits : List Visit} {round : Run} {moment : Moment σ}
      (reads : timeline.Reads later.again middle visits round moment) :
      round.last = (laps.flatten ++ visits).foldl (Visit.leaveIn plan before.now)
        (.ofList (queries.map fun q => (q.key, .unknown))) := by
    rw [foldl_leaveIn_of_settled (List.forall_mem_append.2 ⟨taken.settled, reads.settled⟩)]
    exact taken.known_eq reads
  have asks {visits : List Visit} {round : Run} {moment : Moment σ}
      (reads : timeline.Reads later.again middle visits round moment) : round.queries = queries := by
    rw [reads.frame]
    exact queries_eq
  cases closes with
  | satisfied reads | overdue reads | calledOffInPause reads | calledOff reads =>
    exact ⟨_, rfl, asks reads, whole reads⟩
  | @stopped round moment _ _ visit _ _ made asked read stops =>
    have queries_same : round.queries = queries := asks made
    rw [← List.append_assoc, List.foldl_append, ← whole made]
    generalize outcome : visit.outcome = result at stops
    cases stops with
    | cancelled =>
      have left : visit.left? plan before.now = none := by rw [Visit.left?, outcome]
      exact ⟨_, rfl, queries_same, (Visit.leaveIn_none left).symm⟩
    | fatal isFatal =>
      have left : visit.left? plan before.now = none := by
        rw [Visit.left?, outcome]
        exact if_pos isFatal
      exact ⟨_, rfl, queries_same, (Visit.leaveIn_none left).symm⟩
    | late =>
      have plan_eq : round.plan = plan := made.plan_eq.trans taken.plan_eq
      have started : round.started = before.now := made.started_eq.trans taken.started_eq
      have now : round.now = visit.startedAt :=
        (made.synced (taken.synced rfl)).trans read.started.symm
      have left : visit.left? plan before.now =
          some (.missing ("no response within " ++ Duration.text round.remaining)) := by
        rw [Visit.left?, outcome, Run.remaining, Run.elapsed, plan_eq, started, now]
      exact ⟨_, rfl, queries_same, (Visit.leaveIn_some left).symm⟩

theorem Laps.query_mem (taken : timeline.Laps run before laps later after) :
    ∀ visit ∈ laps.flatten, visit.query ∈ run.queries := by
  induction taken with
  | none => simp
  | next lap _ ih =>
    rw [List.flatten_cons, List.forall_mem_append]
    rw [lap.queries_eq] at ih
    exact ⟨fun visit member => lap.asked ▸ List.mem_map_of_mem member, ih⟩

end Timeline

/-- A report shows of each query what the latest recorded read of its key left, and that read was the
query's own if no other query has its key. -/
structure Report.Attributes (report : Report) (plan : Plan) (queries : List Query) (start : Instant)
    (visits : List Visit) : Prop where
  byKey : ∀ q ∈ queries, report.stateOf? q =
    some (lastLeft plan start (visits.filter (·.query.key = q.key)))
  own : ∀ q ∈ queries, (∀ p ∈ queries, p.key = q.key → p = q) → report.stateOf? q =
    some (lastLeft plan start (visits.filter (·.query = q)))
  lines : ∀ q ∈ queries, ∃ state, report.stateOf? q = some state ∧
    "  " ++ q.text ++ ": " ++ state.text ∈ report.lines

/-- However a poll ends, its report attributes to each query what was last read under its key. -/
theorem poll_attributes_by_key {σ : Type} (timeline : Timeline σ) (plan : Plan)
    (queries : List Query) (start : Instant) (source : σ) :
    ∃ result after, timeline.run (poll plan queries) ⟨start, source, []⟩ = some (result, after) ∧
      ∀ ending, result = some ending → ∃ report, ending.report? = some report ∧
        report.Attributes plan queries start after.visits := by
  obtain ⟨laps, later, middle, taken, rest⟩ :=
    timeline.poll_takes_laps plan queries ⟨start, source, []⟩
  rcases rest with ⟨-, ran⟩ | ⟨-, visits, ending, after, closes, ran⟩
  · exact ⟨none, middle, ran, nofun⟩
  · have made : after.visits = laps.flatten ++ visits := by
      rw [closes.visits_eq, taken.visits_eq, List.nil_append]
    refine ⟨some ending, after, ran, ?_⟩
    intro _ same
    obtain rfl := Option.some.inj same
    obtain ⟨report, given, asked, last⟩ := closes.last_eq taken
    have byKey : ∀ q ∈ queries, report.stateOf? q =
        some (lastLeft plan start (after.visits.filter (·.query.key = q.key))) := by
      intro q member
      have initial := Ledger.get?_ofList_map queries Query.key LastState.unknown member
      rw [Report.stateOf?, last, get?_foldl_leaveIn, initial, made, lastLeft]
      exact Option.or_some
    have asks : ∀ visit ∈ after.visits, visit.query ∈ queries := by
      have among : ∀ visit ∈ visits, visit.query ∈ later.queries := fun visit member =>
        closes.asked.subset (List.mem_map_of_mem member)
      rw [taken.queries_eq] at among
      rw [made]
      exact List.forall_mem_append.2 ⟨taken.query_mem, among⟩
    refine ⟨report, given, byKey, ?own, ?lines⟩
    case own =>
      intro q member alone
      rw [byKey q member]
      congr 2
      apply List.filter_congr
      intro visit here
      rw [decide_eq_decide]
      exact ⟨alone visit.query (asks visit here), congrArg Query.key⟩
    case lines =>
      intro q member
      refine ⟨_, byKey q member, List.mem_cons_of_mem _ ?_⟩
      rw [asked]
      refine List.mem_map.2 ⟨q, member, ?_⟩
      rw [Report.line, byKey q member]
      rfl

def twoSided : Timeline Unit where
  answer q _ source :=
    (.ready, .ok ⟨q.name, if q.path = some "\x7b.spec.nodeName\x7d" then "node-1" else "Running"⟩,
      source)
  cancelAt := none

/-- Two queries about one resource share an entry: one is shown what was read for the other. -/
theorem poll_twoSided_shares_entry :
    let plan : Plan := { condition := .present }
    let phase : Query := ⟨"pod", "web", "shop", some "\x7b.status.phase\x7d"⟩
    let node : Query := ⟨"pod", "web", "shop", some "\x7b.spec.nodeName\x7d"⟩
    [phase, node].Nodup ∧ ∃ ending report after,
      twoSided.run (poll plan [phase, node]) ⟨0, (), []⟩ = some (some ending, after) ∧
        ending.report? = some report ∧
        lastLeft plan 0 (after.visits.filter (·.query = phase)) =
          .observed ⟨⟨"web", "Running"⟩, 0⟩ ∧
        report.stateOf? phase = some (.observed ⟨⟨"web", "node-1"⟩, 0⟩) := by
  intro plan phase node
  have ended : (twoSided.run (poll plan [phase, node]) ⟨0, (), []⟩).map (fun out =>
      ((out.1.bind Ending.report?).bind (·.stateOf? phase),
        lastLeft plan 0 (out.2.visits.filter (·.query = phase)))) =
      some (some (.observed ⟨⟨"web", "node-1"⟩, 0⟩), .observed ⟨⟨"web", "Running"⟩, 0⟩) := by
    decide +kernel
  obtain ⟨⟨result, after⟩, ran, known⟩ := Option.map_eq_some_iff.1 ended
  obtain ⟨entry, own⟩ := Prod.mk.inj known
  obtain ⟨report, found, shown⟩ := Option.bind_eq_some_iff.1 entry
  obtain ⟨ending, rfl, given⟩ := Option.bind_eq_some_iff.1 found
  exact ⟨by decide, ending, report, after, ran, given, own, shown⟩

end Readiness.Poll
