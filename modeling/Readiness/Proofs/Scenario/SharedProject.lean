import Readiness.Proofs.Scenario.ProjectCommands
import Readiness.Proofs.Scenario.ProjectServer

/-! Scenarios that choose the same project of one cluster at the same time. -/
namespace Readiness.Scenario

def choosing {ι ρ reply σ μ : Type}
    (calls : μ → (call : Cluster.Call) → Program ρ (fun _ => reply) (call.Answer × μ))
    (memory : ι → μ) (ctx : ι → Context) (name : String) (state : σ) :
    Shared ι ρ reply σ (Except Error Context) where
  state := state
  party who := { program := (Project.choose (ctx who) name).wired calls (memory who) }

/-- In whatever order they have their turns, all scenarios end. Through the API server each of them
ends in the project; through the command line client those do that did not come too late. -/
theorem choose_together {ι σ : Type} [DecidableEq ι] (name : String) (ctx : ι → Context)
    (schedule : Schedule ι) (state : σ) (who : ι) :
    (∀ (server : ProjectServer name σ) (client : ι → Api.Client),
      (∀ who, server.Knows (client who)) →
        ∃ past, (choosing Api.Client.answer client ctx name state).EndsWith server.toHost
          schedule.turn who (.ok { ctx who with project := some name }) past) ∧
    ∀ (commands : ProjectCommands name σ) (client : ι → Cli.Client), ∃ result past,
      (choosing byCommands client ctx name state).EndsWith commands.toHost schedule.turn who
        result past ∧
      (past = race name → ∃ e, TooLate (client who) name e ∧ result = .error (.fetch e)) ∧
      (past ≠ race name → result = .ok { ctx who with project := some name }) := by
  constructor
  · intro server client knows
    obtain ⟨_, past, _, rfl, ends⟩ :=
      (choosing Api.Client.answer client ctx name state).settles schedule
        (fun who => ⟨false, nofun, server.ensures_choose (knows who) (ctx who)⟩) who
    exact ⟨past, ends⟩
  · intro commands client
    obtain ⟨_, past, result, outcome, ends⟩ :=
      (choosing byCommands client ctx name state).settles schedule
        (fun who => ⟨false, nofun, commands.ensures_choose (client who) (ctx who)⟩) who
    exact ⟨result, past, ends, outcome⟩

namespace Shop

def context : Context where
  binary := "oc"
  settings := {
    outputDir := "."
    samplesDir := "samples"
    binary := "oc"
    backend := .cli
    backupRoot := "/backups"
    httpTimeout := 10
    connectTimeout := 30
    timings := ⟨5, 300, 600, 900, 300, 120⟩ }

def unseen : (lookup : Lookup) → lookup.Answer
  | .page _ => .error "unseen"
  | .cluster (.fetch _) => .error (.transient "unseen")
  | .cluster (.list ..) => .error (.transient "unseen")
  | .cluster (.hasNamespace _) => .error (.transient "unseen")
  | .cluster (.createNamespace _) => .error (.transient "unseen")
  | .cluster .ping => .error (.transient "unseen")

def still : (request : Request) → Answer request
  | .clock => (0 : Instant)
  | .pause _ => (.finished, (0 : Instant))
  | .look lookup => unseen lookup
  | .lookWithin _ _ => (.late, (0 : Instant))
  | .run _ => .notStarted "unseen"
  | .variable _ | .locate _ => none
  | .hasFile _ => false
  | .connectWithin _ => (.late, (0 : Instant))
  | .openPages _ => .ok ()

def alternating : Schedule Bool where
  turn k := ⟨k % 2 == 1, still⟩
  fair who n := by
    refine ⟨2 * n + who.toNat, by omega, ?_⟩
    cases who <;> simp [Nat.add_mod]

def throughServer : Shared Bool Api.Request Api.Reply Bool (Except Error Context) :=
  choosing Api.Client.answer (fun _ => {}) (fun _ => context) "shop" false

def throughCommands : Shared Bool Cli.Job Cli.Outcome Bool (Except Error Context) :=
  choosing byCommands (fun _ => ⟨"oc"⟩) (fun _ => context) "shop" false

theorem choose_together_alternating :
    server.Knows {} ∧
    (∃ past, throughServer.EndsWith server.toHost alternating.turn true
      (.ok { context with project := some "shop" }) past) ∧
    (∃ past, past ≠ race "shop" ∧ throughCommands.EndsWith commands.toHost alternating.turn false
      (.ok { context with project := some "shop" }) past) ∧
    ∃ e, TooLate ⟨"oc"⟩ "shop" e ∧ throughCommands.EndsWith commands.toHost alternating.turn true
      (.error (.fetch e)) (race "shop") := by
  have knows : server.Knows {} := nofun
  have together := choose_together "shop" (fun _ => context) alternating false
  refine ⟨knows, (together true).1 server (fun _ => {}) fun _ => knows, ?first, ?second⟩
  case first =>
    obtain ⟨result, past, ends, -, chosen⟩ := (together false).2 commands fun _ => ⟨"oc"⟩
    have inTime : past ≠ race "shop" := by
      rw [ends.past_eq (m := 10) (by decide +kernel)]
      decide +kernel
    obtain rfl := chosen inTime
    exact ⟨past, inTime, ends⟩
  case second =>
    obtain ⟨result, past, ends, failed, -⟩ := (together true).2 commands fun _ => ⟨"oc"⟩
    obtain rfl : past = race "shop" := by
      rw [ends.past_eq (m := 4) (by decide +kernel)]
      decide +kernel
    obtain ⟨e, tooLate, rfl⟩ := failed rfl
    exact ⟨e, tooLate, ends⟩

theorem not_all_end_through_commands :
    ¬ ∀ who, ∃ past, throughCommands.EndsWith commands.toHost alternating.turn who
      (.ok { context with project := some "shop" }) past := by
  intro all
  obtain ⟨past, ends⟩ := all true
  have failed : (match
      ((throughCommands.after commands.toHost alternating.turn 4).party true).program with
    | .done (.error _) => true
    | .done (.ok _) => false
    | .ask .. => false) = true := by decide +kernel
  split at failed
  · next ended => cases (ends.unique (Shared.endsWith_of_done ended)).1
  · cases failed
  · cases failed

end Shop

end Readiness.Scenario
