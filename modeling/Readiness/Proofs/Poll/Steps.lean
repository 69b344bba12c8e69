import Readiness.Proofs.Poll.Laps

/-! The instants of a run, and how laps and reads are steps of the program that is run. -/
namespace Readiness.Poll.Timeline

variable {σ α : Type} {timeline : Timeline σ}

def instants (timeline : Timeline σ) : Polling α → Moment σ → List Instant
  | .done _, _ => []
  | .ask request next, moment =>
    moment.now :: match timeline.respond request moment with
      | none => []
      | some (answer, after) => timeline.instants (next answer) after

abbrev Steps (timeline : Timeline σ) (program : Polling α) (before : Moment σ)
    (later : Polling α) (after : Moment σ) : Prop :=
  Program.Steps timeline.respond program before later after

theorem Steps.mem_instants {program : Polling α} {before after : Moment σ} {request : Request}
    {next : Answer request → Polling α}
    (steps : timeline.Steps program before (.ask request next) after) :
    after.now ∈ timeline.instants program before := by
  generalize reached : (Program.ask request next : Polling α) = later at steps
  induction steps with
  | refl =>
    subst reached
    rw [instants]
    exact List.mem_cons_self
  | ask answered _ ih =>
    rw [instants, answered]
    exact List.mem_cons_of_mem _ (ih reached)

variable {run later : Run} {before middle after : Moment σ} {visits : List Visit}
variable {laps : List (List Visit)}

theorem Reads.steps (reads : timeline.Reads run before visits later after) (allHold : Bool)
    (rest : List Query) :
    timeline.Steps (run.round allHold (visits.map (·.query) ++ rest)) before
      (later.round (allHold && visits.all (·.meets run.plan.condition)) rest) after := by
  induction reads generalizing allHold with
  | none => simpa using .refl
  | @next run _ _ _ _ visit state _ read left _ ih =>
    have absorbed := Run.absorb_of_state { run with now := visit.endedAt } left visit.query
      run.remaining
    rw [List.map_cons, List.cons_append, Run.round]
    refine .trans (.request read.answer) ?_
    simp only [absorbed, List.all_cons, Visit.meets, left, Option.any_some, ← Bool.and_assoc]
    exact ih _

theorem PauseEnds.answered {length : Duration} {now : Instant}
    (pause : timeline.PauseEnds length before (.finished, now) after) :
    timeline.respond (.pause length) before = some ((.finished, now), after) := by
  cases pause with
  | finished live undisturbed =>
    simp only [respond, live, Bool.false_eq_true, if_false, cutBefore_eq_none undisturbed]
    rfl

/-- After a whole round that was not enough the program asks for a pause, and goes on after it. -/
theorem Reads.steps_pause (reads : timeline.Reads run.again before visits later after)
    (asked : visits.map (·.query) = run.queries)
    (unmet : visits.all (·.meets run.plan.condition) = false)
    (early : later.elapsed + run.plan.interval ≤ run.plan.timeout) (limit : Nat) :
    ∃ next, timeline.Steps (run.rounds (limit + 1)) before
        (.ask (.pause run.plan.interval) next) after ∧
      ∀ now, next (.finished, now) = Run.rounds limit { later with now := now } := by
  have plan : later.plan = run.plan := reads.plan_eq
  have whole : timeline.Steps (run.again.round true run.queries) before
      (pure (.inr (later, false))) after := by
    have steps := reads.steps true []
    rwa [List.append_nil, asked, Bool.true_and, Run.again_plan, unmet] at steps
  rw [← plan] at early ⊢
  refine ⟨?next, ?steps, ?continues⟩
  case steps =>
    rw [Run.rounds]
    refine .trans (whole.bind _) ?_
    change timeline.Steps (if later.plan.timeout < later.elapsed + later.plan.interval then _
      else _) after _ after
    rw [if_neg (by lia)]
    exact .refl
  case continues =>
    intro now
    rfl

theorem Lap.steps (lap : timeline.Lap run before visits later after) (limit : Nat) :
    timeline.Steps (run.rounds (limit + 1)) before (later.rounds limit) after := by
  cases lap with
  | turn reads asked unmet early pause =>
    obtain ⟨next, steps, continues⟩ := reads.steps_pause asked unmet early limit
    rw [← continues]
    exact steps.trans (.ask pause.answered .refl)

theorem Laps.steps (taken : timeline.Laps run before laps later after) (limit : Nat) :
    timeline.Steps (run.rounds (limit + laps.length)) before (later.rounds limit) after := by
  induction taken with
  | none => exact .refl
  | next lap _ ih => exact (lap.steps _).trans ih

end Readiness.Poll.Timeline
