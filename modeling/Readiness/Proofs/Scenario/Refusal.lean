import Readiness.Proofs.Scenario.Effects
import Readiness.Scenario.Stage

/-! Scenarios that are refused because their cluster is not there. Every step of one fails for the reason
that was found when it was prepared; nothing is asked for, and nothing makes up for it. -/
namespace Readiness.Scenario

/-- What is asked first: the time, and where the command line client is. -/
def located (settings : Settings) (started : Instant) (binary : Option String) : List Exchange :=
  [⟨.clock, started⟩, ⟨.locate settings.binary, binary⟩]

/-- How a client is asked for: the clock is read first, to see how much is left of the time limit. -/
def connected (settings : Settings) (started asked : Instant)
    (answer : Poll.Timed (Except Api.Failure Unit)) (now : Instant) : List Exchange :=
  [⟨.clock, asked⟩,
    ⟨.connectWithin (Preflight.timeLeft settings started asked), (answer, now)⟩]

/-- The only question to the cluster before a scenario, with its answer. -/
def pinged (settings : Settings) (started asked : Instant)
    (answer : Poll.Timed (Except FetchError Unit)) (now : Instant) : List Exchange :=
  [⟨.clock, asked⟩,
    ⟨.lookWithin (.cluster .ping) (Preflight.timeLeft settings started asked), (answer, now)⟩]

def opened (settings : Settings) (answer : Except String Unit) : Exchange :=
  ⟨.openPages (.ofSecs settings.httpTimeout), answer⟩

/-- What is asked between the first questions and the one for pages, where it is answered well. -/
inductive Connects (settings : Settings) (started : Instant) : List Exchange → Prop
  | cli (backend : settings.backend = .cli) : Connects settings started []
  | api {asked now : Instant} (backend : settings.backend = .api) :
    Connects settings started (connected settings started asked (.answered (.ok ())) now)

/-- An answer that tells of a failure or does not come in time, and what is wrong then. -/
inductive Fails {ε : Type} (settings : Settings) (blame : ε → Error) :
    Poll.Timed (Except ε Unit) → Error → Prop
  | denied (e : ε) : Fails settings blame (.answered (.error e)) (blame e)
  | silent {answer : Poll.Timed (Except ε Unit)} (unanswered : answer = .late ∨ answer = .cancelled) :
    Fails settings blame answer (.preflight ("cluster did not answer within " ++
      Duration.text (.ofSecs settings.connectTimeout)))

/-- The ways in which a cluster is not there: what is asked until this is known, and what is wrong. -/
inductive Unreachable (settings : Settings) : List Exchange → Error → Prop
  | notLocated {started : Instant} : Unreachable settings (located settings started none)
      (.command (.binaryNotFound settings.binary))
  | notConnected {started asked now : Instant} {binary : String} {e : Error}
    {answer : Poll.Timed (Except Api.Failure Unit)} (backend : settings.backend = .api)
    (fails : Fails settings .client answer e) :
    Unreachable settings
      (located settings started binary ++ connected settings started asked answer now) e
  | noPages {started : Instant} {binary : String} {between : List Exchange} {detail : String}
    (connects : Connects settings started between) :
    Unreachable settings
      (located settings started binary ++ between ++ [opened settings (.error detail)]) (.pages detail)
  | notReached {started asked now : Instant} {binary : String} {between : List Exchange} {e : Error}
    {answer : Poll.Timed (Except FetchError Unit)} (connects : Connects settings started between)
    (fails : Fails settings (fun e => .preflight e.message) answer e) :
    Unreachable settings (located settings started binary ++ between ++
      opened settings (.ok ()) :: pinged settings started asked answer now) e

namespace Stage

variable {stage : Stage} {reason : String}

theorem perform_refused (refused : stage.refusal = some reason) (action : Action) :
    stage.perform action = pure (.error (.preflight reason), stage) := by
  cases stage with
  | unprepared | refused =>
    obtain rfl := Option.some.inj refused
    rfl
  | ready => cases refused

theorem follow_refused (refused : stage.refusal = some reason) (sentence : Sentence) :
    stage.follow sentence =
      pure (sentence.action?.map fun _ => .error (.preflight reason), stage) := by
  rw [follow]
  cases sentence.action? with
  | none => rfl
  | some action => exact congrArg (Program.bind · _) (perform_refused refused action)

theorem followAll_refused (refused : stage.refusal = some reason) (sentences : List Sentence) :
    stage.followAll sentences =
      pure (sentences.map fun sentence =>
        sentence.action?.map fun _ => .error (.preflight reason), stage) := by
  induction sentences with
  | nil => rfl
  | cons sentence rest ih =>
    rw [followAll, follow_refused refused]
    exact congrArg (Program.bind · _) ih

end Stage

section Preparing

variable {settings : Settings} {started : Instant} {record : List Exchange} {e : Error}

namespace Preflight

theorem demand_error_iff {ε : Type} {blame : ε → Error}
    {answer : Poll.Timed (Except ε Unit) × Instant} :
    (demand settings blame answer).Yields record (.error e) ↔
      record = [] ∧ Fails settings blame answer.1 e := by
  constructor
  · intro demanded
    obtain ⟨(given | _) | _ | _, now⟩ := answer <;>
      obtain ⟨rfl, same⟩ := Program.yields_done.1 demanded <;> cases same
    · exact ⟨rfl, .denied given⟩
    · exact ⟨rfl, .silent (.inl rfl)⟩
    · exact ⟨rfl, .silent (.inr rfl)⟩
  · obtain ⟨timed, now⟩ := answer
    rintro ⟨rfl, fails⟩
    cases fails with
    | denied => exact .done
    | silent unanswered => rcases unanswered with rfl | rfl <;> exact .done

theorem demand_ok_iff {ε : Type} {blame : ε → Error}
    {answer : Poll.Timed (Except ε Unit) × Instant} :
    (demand settings blame answer).Yields record (.ok ()) ↔
      record = [] ∧ answer.1 = .answered (.ok ()) := by
  constructor
  · intro demanded
    obtain ⟨(_ | ⟨⟨⟩⟩) | _ | _, now⟩ := answer <;>
      obtain ⟨rfl, same⟩ := Program.yields_done.1 demanded <;> cases same
    exact ⟨rfl, rfl⟩
  · obtain ⟨timed, now⟩ := answer
    rintro ⟨rfl, rfl⟩
    exact .done

theorem locate_yields_iff {result : Except Error String} :
    (locate settings).Yields record result ↔ ∃ binary : Option String,
      record = [⟨.locate settings.binary, binary⟩] ∧
      result = binary.elim (.error (.command (.binaryNotFound settings.binary))) .ok := by
  refine Task.yields_ask_bind.trans (exists_congr fun binary => ?_)
  constructor
  · rintro ⟨_, rfl, told⟩
    cases binary <;> obtain ⟨rfl, rfl⟩ := Program.yields_done.1 told <;> exact ⟨rfl, rfl⟩
  · rintro ⟨rfl, rfl⟩
    cases binary <;> exact ⟨[], rfl, .done⟩

theorem connect_error_iff :
    (connect settings started).Yields record (.error e) ↔ settings.backend = .api ∧
      ∃ asked answer now, record = connected settings started asked answer now ∧
        Fails settings .client answer e := by
  rw [connect]
  cases settings.backend with
  | cli => exact Program.yields_done.trans (by simp)
  | api =>
    simp only [true_and]
    refine Task.yields_ask_bind.trans (exists_congr fun asked => ?_)
    constructor
    · rintro ⟨_, rfl, rest⟩
      obtain ⟨⟨answer, now⟩, _, rfl, demanded⟩ := Task.yields_ask_bind.1 rest
      obtain ⟨rfl, fails⟩ := demand_error_iff.1 demanded
      exact ⟨answer, now, rfl, fails⟩
    · rintro ⟨answer, now, rfl, fails⟩
      exact ⟨_, rfl, Task.yields_ask_bind.2 ⟨(answer, now), [], rfl, demand_error_iff.2 ⟨rfl, fails⟩⟩⟩

theorem connect_ok_iff :
    (connect settings started).Yields record (.ok ()) ↔ Connects settings started record := by
  rw [connect]
  cases backend : settings.backend with
  | cli =>
    refine Program.yields_done.trans ⟨?_, fun connects => ?_⟩
    · rintro ⟨rfl, -⟩
      exact .cli backend
    · cases connects with
      | cli => exact ⟨rfl, rfl⟩
      | api other => cases backend.symm.trans other
  | api =>
    refine Task.yields_ask_bind.trans ⟨?_, fun connects => ?_⟩
    · rintro ⟨asked, _, rfl, rest⟩
      obtain ⟨⟨answer, now⟩, _, rfl, demanded⟩ := Task.yields_ask_bind.1 rest
      obtain ⟨rfl, rfl⟩ := demand_ok_iff.1 demanded
      exact .api backend
    · cases connects with
      | cli other => cases backend.symm.trans other
      | api => exact ⟨_, _, rfl, Task.yields_ask_bind.2 ⟨_, [], rfl, demand_ok_iff.2 ⟨rfl, rfl⟩⟩⟩

theorem openPages_yields_iff {result : Except Error Unit} :
    (openPages settings).Yields record result ↔ ∃ answer : Except String Unit,
      record = [opened settings answer] ∧ result = answer.mapError .pages := by
  refine Task.yields_ask_bind.trans (exists_congr fun answer => ?_)
  constructor
  · rintro ⟨_, rfl, told⟩
    cases answer <;> obtain ⟨rfl, rfl⟩ := Program.yields_done.1 told <;> exact ⟨rfl, rfl⟩
  · rintro ⟨rfl, rfl⟩
    cases answer <;> exact ⟨[], rfl, .done⟩

theorem ping_error_iff :
    (ping settings started).Yields record (.error e) ↔
      ∃ asked answer now, record = pinged settings started asked answer now ∧
        Fails settings (fun e => .preflight e.message) answer e := by
  refine Task.yields_ask_bind.trans (exists_congr fun asked => ?_)
  constructor
  · rintro ⟨_, rfl, rest⟩
    obtain ⟨⟨answer, now⟩, _, rfl, demanded⟩ := Task.yields_ask_bind.1 rest
    obtain ⟨rfl, fails⟩ := demand_error_iff.1 demanded
    exact ⟨answer, now, rfl, fails⟩
  · rintro ⟨answer, now, rfl, fails⟩
    exact ⟨_, rfl, Task.yields_ask_bind.2 ⟨(answer, now), [], rfl, demand_error_iff.2 ⟨rfl, fails⟩⟩⟩

end Preflight

theorem preflight_error_iff :
    (preflight settings).Yields record (.error e) ↔ Unreachable settings record e := by
  constructor
  · intro failed
    obtain ⟨started, record, rfl, timed⟩ := Task.yields_ask_bind.1 failed
    obtain here | ⟨binary, first, record, rfl, found, rest⟩ := Task.yields_bind_error.1 timed
    · obtain ⟨_ | binary, rfl, told⟩ := Preflight.locate_yields_iff.1 here <;> cases told
      exact .notLocated
    obtain ⟨_ | binary, rfl, told⟩ := Preflight.locate_yields_iff.1 found <;> cases told
    obtain here | ⟨_, between, record, rfl, connects, later⟩ := Task.yields_bind_error.1 rest
    · obtain ⟨backend, asked, answer, now, rfl, fails⟩ := Preflight.connect_error_iff.1 here
      exact .notConnected backend fails
    have connects := Preflight.connect_ok_iff.1 connects
    obtain here | ⟨_, third, record, rfl, opens, last⟩ := Task.yields_bind_error.1 later
    · obtain ⟨_ | _, rfl, told⟩ := Preflight.openPages_yields_iff.1 here <;> cases told
      exact .noPages connects
    obtain ⟨_ | _, rfl, told⟩ := Preflight.openPages_yields_iff.1 opens <;> cases told
    obtain here | ⟨_, _, _, rfl, -, ended⟩ := Task.yields_bind_error.1 last
    · obtain ⟨asked, answer, now, rfl, fails⟩ := Preflight.ping_error_iff.1 here
      exact .notReached connects fails
    · cases (Program.yields_done.1 ended).2
  · have located_then {started : Instant} {binary : String} {rest : List Exchange}
        (later : (do
          Preflight.connect settings started
          Preflight.openPages settings
          Preflight.ping settings started
          return (⟨settings, binary, none, none⟩ : Context)).Yields rest (.error e)) :
        (preflight settings).Yields (located settings started (some binary) ++ rest) (.error e) :=
      Task.yields_ask_bind.2 ⟨started, _, rfl, Task.yields_bind_error.2
        (.inr ⟨binary, _, rest, rfl, Preflight.locate_yields_iff.2 ⟨some binary, rfl, rfl⟩, later⟩)⟩
    intro unreachable
    cases unreachable with
    | notLocated =>
      exact Task.yields_ask_bind.2 ⟨_, _, rfl, Task.yields_bind_error.2
        (.inl (Preflight.locate_yields_iff.2 ⟨none, rfl, rfl⟩))⟩
    | notConnected backend fails =>
      exact located_then (Task.yields_bind_error.2
        (.inl (Preflight.connect_error_iff.2 ⟨backend, _, _, _, rfl, fails⟩)))
    | noPages connects =>
      rw [List.append_assoc]
      refine located_then (Task.yields_bind_error.2
        (.inr ⟨(), _, _, rfl, Preflight.connect_ok_iff.2 connects, ?_⟩))
      exact Task.yields_bind_error.2 (.inl (Preflight.openPages_yields_iff.2 ⟨_, rfl, rfl⟩))
    | notReached connects fails =>
      rw [List.append_assoc]
      refine located_then (Task.yields_bind_error.2
        (.inr ⟨(), _, _, rfl, Preflight.connect_ok_iff.2 connects, ?_⟩))
      refine Task.yields_bind_error.2
        (.inr ⟨(), [_], _, rfl, Preflight.openPages_yields_iff.2 ⟨_, rfl, rfl⟩, ?_⟩)
      exact Task.yields_bind_error.2 (.inl (Preflight.ping_error_iff.2 ⟨_, _, _, rfl, fails⟩))

theorem prepare_yields_iff {stage : Stage} :
    (Stage.prepare settings).Yields record stage ↔
      (∃ ctx, stage = .ready ctx ∧ (preflight settings).Yields record (.ok ctx)) ∨
      ∃ e, stage = .refused e.message ∧ Unreachable settings record e := by
  constructor
  · intro prepared
    obtain ⟨result, first, rest, rfl, ended, told⟩ := Program.yields_bind.1 prepared
    cases result with
    | ok ctx =>
      obtain ⟨rfl, rfl⟩ := Program.yields_done.1 told
      exact .inl ⟨ctx, rfl, by rwa [List.append_nil]⟩
    | error e =>
      obtain ⟨rfl, rfl⟩ := Program.yields_done.1 told
      exact .inr ⟨e, rfl, preflight_error_iff.1 (by rwa [List.append_nil])⟩
  · rintro (⟨ctx, rfl, ended⟩ | ⟨e, rfl, unreachable⟩)
    · exact Program.yields_bind.2 ⟨_, record, [], by simp, ended, .done⟩
    · exact Program.yields_bind.2 ⟨_, record, [], by simp, preflight_error_iff.2 unreachable, .done⟩

end Preparing

/-- A scenario that is not ready when it has been prepared was refused for one of the reasons there are.
From then on its steps, whatever they are, fail with this reason; they ask for nothing, and the scenario
stays where it is. -/
theorem refused_once {settings : Settings} {record : List Exchange} {stage : Stage}
    (prepared : (Stage.prepare settings).Yields record stage)
    (notReady : ∀ ctx, stage ≠ .ready ctx) :
    ∃ e, Unreachable settings record e ∧ stage = .refused e.message ∧
      ∀ sentences, stage.followAll sentences =
        pure (sentences.map fun sentence =>
          sentence.action?.map fun _ => .error (.preflight e.message), stage) := by
  rcases prepare_yields_iff.1 prepared with ⟨ctx, ready, -⟩ | ⟨e, rfl, unreachable⟩
  · exact absurd ready (notReady ctx)
  · exact ⟨e, unreachable, rfl, Stage.followAll_refused rfl⟩

namespace Jenkins

def turnedAway : List Exchange :=
  located context.settings 0 (some "/usr/bin/oc") ++ [] ++ opened context.settings (.ok ()) ::
    pinged context.settings 0 1 (.answered (.error (.unauthorized "no token"))) 2

def reason : String := "cluster preflight failed: authentication failed: no token"

theorem prepare_turnedAway :
    (Stage.prepare context.settings).Yields turnedAway (.refused reason) :=
  prepare_yields_iff.2 (.inr ⟨_, rfl, .notReached (.cli rfl) (.denied _)⟩)

end Jenkins

theorem refused_once_jenkins :
    (Stage.refused Jenkins.reason).followAll
        [⟨.given, "project \"smoke\" is used"⟩, ⟨.then, "all pods are up"⟩,
          ⟨.then, "all pods are running"⟩] =
      pure ([some (.error (.preflight Jenkins.reason)), none,
        some (.error (.preflight Jenkins.reason))], .refused Jenkins.reason) := by
  obtain ⟨e, -, same, follows⟩ := refused_once Jenkins.prepare_turnedAway nofun
  have project : Sentence.action? ⟨.given, "project \"smoke\" is used"⟩ =
      some (.chooseProject "smoke") := by decide +kernel
  have unwritten : Sentence.action? ⟨.then, "all pods are up"⟩ = none := by decide +kernel
  have running : Sentence.action? ⟨.then, "all pods are running"⟩ =
      some (.awaitRunning PodSet.everything true) := by decide +kernel
  rw [follows, ← Stage.refused.inj same]
  simp only [List.map_cons, List.map_nil, project, unwritten, running, Option.map_some,
    Option.map_none]

end Readiness.Scenario
