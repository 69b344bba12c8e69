import Readiness.Proofs.Scenario.Choosing

/-! Scenarios that choose a project through the command line client. One that comes too late to
create the project fails. -/
namespace Readiness.Scenario

/-- What the command line client says of a project that it should create and that is there. -/
def alreadyExists (name : String) : String :=
  "Error from server (AlreadyExists): project.project.openshift.io \"" ++ name ++
    "\" already exists"

/-- A command line client of a cluster that may get the project `name`. -/
structure ProjectCommands (name : String) (σ : Type) extends Host Cli.Job Cli.Outcome σ where
  absent : ∀ state, has state = false → ∀ text, ∃ complaint,
    Cli.result text (serve (.run (.getProject name)) state).1 = .error (.notFound text complaint)
  present : ∀ state, has state = true → ∀ text, ∃ output,
    Cli.result text (serve (.run (.getProject name)) state).1 = .ok output
  active : ∀ state, has state = true → ∀ text,
    Cli.result text (serve (.run (.getPath "namespace" name name Cli.Client.phasePath)) state).1 =
      .ok "Active"
  created : ∀ state, has state = false → has (serve (.run (.newProject name)) state).2 = true ∧
    ∀ text, ∃ output, Cli.result text (serve (.run (.newProject name)) state).1 = .ok output
  conflict : ∀ state, has state = true → ∃ ended,
    (serve (.run (.newProject name)) state).1 = .ended ended ∧ ended.succeeded = false ∧
      ended.complaint = alreadyExists name

def byCommands (client : Cli.Client) (call : Cluster.Call) :
    Cli.Session (call.Answer × Cli.Client) := do
  return (← client.answer call, client)

/-- The exchanges of a scenario that did not find the project and came too late to create it. -/
def race (name : String) : List (Cli.Job × Bool) :=
  [(.run (.getProject name), false), (.run (.newProject name), true)]

def TooLate (client : Cli.Client) (name : String) (e : FetchError) : Prop :=
  ∃ code, e = (Cli.Failure.ofExit ((Cli.Job.run (.newProject name)).text client.binary) code
    (alreadyExists name)).asFetch

section Commands

variable {name : String} {σ : Type} (commands : ProjectCommands name σ) {made : Bool}
variable {past : List (Cli.Job × Bool)} (client : Cli.Client)

theorem ensures_run {host : Host Cli.Job Cli.Outcome σ} {α : Type}
    {post : Bool → List (Cli.Job × Bool) → α → Prop} {command : Cli.Command}
    {next : Except Cli.Failure String → Cli.Session α}
    (rest : ∀ state, (made = true → host.has state = true) →
      Ensures host post
        (exchanged (next (Cli.result ((Cli.Job.run command).text client.binary)
          (host.serve (.run command) state).1)))
        (host.has (host.serve (.run command) state).2)
        (past ++ [(.run command, host.has state)])) :
    Ensures host post (exchanged ((client.run command).bind next)) made past := rest

theorem ensures_byCommands {host : Host Cli.Job Cli.Outcome σ} {call : Cluster.Call}
    {post : Bool → List (Cli.Job × Bool) → call.Answer → Prop}
    (answered : Ensures host post (exchanged (client.answer call)) made past) :
    Ensures host (fun made past out => post made past out.1 ∧ out.2 = client)
      (exchanged (byCommands client call)) made past := by
  change Ensures host _ (exchanged (Program.bind (client.answer call) _)) made past
  rw [exchanged_bind]
  exact answered.bind fun _ _ _ here => ⟨here, rfl⟩

theorem ProjectCommands.ensures_hasNamespace :
    Ensures commands.toHost
      (fun _ past answer => ∃ there, answer = .ok there ∧ past = [(.run (.getProject name), there)])
      (exchanged (client.answer (.hasNamespace name))) made [] := by
  change Ensures _ _ (exchanged (Program.bind (Program.bind
    (client.run (.getProject name)) _) _)) made []
  rw [Program.bind_assoc]
  refine ensures_run client fun state _ => ?_
  cases there : commands.has state with
  | true =>
    obtain ⟨output, read⟩ := commands.present state there
      ((Cli.Job.run (.getProject name)).text client.binary)
    rw [read]
    exact ⟨true, rfl, rfl⟩
  | false =>
    obtain ⟨complaint, read⟩ := commands.absent state there
      ((Cli.Job.run (.getProject name)).text client.binary)
    rw [read]
    exact ⟨false, rfl, rfl⟩

theorem ProjectCommands.ensures_createNamespace :
    Ensures commands.toHost
      (fun made past' answer =>
        (∃ e, answer = .error e ∧ TooLate client name e ∧
          past' = past ++ [(.run (.newProject name), true)]) ∨
        (answer = .ok () ∧ made = true ∧ past' = past ++ [(.run (.newProject name), false)]))
      (exchanged (client.answer (.createNamespace name))) made past := by
  change Ensures _ _ (exchanged (Program.bind (client.run (.newProject name)) _)) made past
  refine ensures_run client fun state _ => ?_
  cases there : commands.has state with
  | true =>
    obtain ⟨ended, outcome, failed, complaint⟩ := commands.conflict state there
    have read (text : String) : Cli.result text (commands.serve (.run (.newProject name)) state).1 =
        .error (.ofExit text ended.code (alreadyExists name)) := by
      rw [outcome, ← complaint]
      exact if_neg (by simp [failed])
    rw [read]
    exact .inl ⟨_, rfl, ⟨ended.code, rfl⟩, rfl⟩
  | false =>
    obtain ⟨made, outputs⟩ := commands.created state there
    obtain ⟨output, read⟩ := outputs ((Cli.Job.run (.newProject name)).text client.binary)
    rw [read]
    exact .inr ⟨rfl, made, rfl⟩

theorem ProjectCommands.ensures_fetch :
    Ensures commands.toHost
      (fun _ past' answer => IsActive answer ∧ past'.length = past.length + 1)
      (exchanged (client.fetch (Project.query name))) true past := by
  change Ensures _ _ (exchanged (Program.bind
    (client.run (.getPath "namespace" name name Cli.Client.phasePath)) _)) true past
  refine ensures_run client fun state known => ?_
  rw [commands.active state (known rfl)]
  refine ⟨⟨⟨name, "Active"⟩, ?_, rfl⟩, List.length_append⟩
  change Except.ok (⟨name, Cli.Client.stateOf none "Active"⟩ : Reading) = _
  rw [show Cli.Client.stateOf none "Active" = "Active" by decide]

theorem ProjectCommands.ensures_choose (ctx : Context) :
    Ensures commands.toHost
      (fun _ past result =>
        (past = race name → ∃ e, TooLate client name e ∧ result = .error (.fetch e)) ∧
        (past ≠ race name → result = .ok { ctx with project := some name }))
      ((Project.choose ctx name).wired byCommands client) false [] := by
  have ends : Ensures commands.toHost
      (fun _ past out =>
        (past = race name → ∃ e, TooLate client name e ∧ out.1 = .error (.fetch e)) ∧
        (past ≠ race name → out.1 = .ok { ctx with project := some name }))
      ((Project.choose ctx name).run.handleWith (wire byCommands) client) false [] := by
    refine Scenario.ensures_choose ctx name
      (fun there _ past memory => past = [(.run (.getProject name), there)] ∧ memory = client)
      ((ensures_byCommands client (commands.ensures_hasNamespace client)).mono ?looked)
      ?found ?missing
    case looked =>
      rintro _ _ _ ⟨⟨there, answer, exchanged⟩, memory⟩
      exact ⟨there, answer, exchanged, memory⟩
    case found =>
      rintro _ _ _ ⟨rfl, _⟩
      exact ⟨(nomatch ·), fun _ => rfl⟩
    case missing =>
      rintro _ _ _ ⟨rfl, rfl⟩
      refine ensures_create ctx name
        (ensures_byCommands _ (commands.ensures_createNamespace _)) ?failed ?rest
      case failed =>
        rintro _ past memory e ⟨⟨_, same, tooLate, rfl⟩ | ⟨impossible, _⟩, _⟩
        · cases same
          exact ⟨fun _ => ⟨e, tooLate, rfl⟩, fun other => absurd rfl other⟩
        · cases impossible
      case rest =>
        rintro _ _ _ ⟨⟨_, impossible, _⟩ | ⟨_, rfl, rfl⟩, rfl⟩
        · cases impossible
        · refine (ensures_byCommands _ (commands.ensures_fetch _)).mono ?_
          rintro _ past _ ⟨⟨active, longer⟩, _⟩
          refine ⟨active, fun same => ?_, fun _ => rfl⟩
          rw [same] at longer
          cases longer
  exact ends.bind fun _ _ _ here => here

end Commands

namespace Shop

def wrote (output : String) : Cli.Outcome := .ended ⟨some 0, Text.Utf8.encode output, []⟩

def complained (complaint : String) : Cli.Outcome := .ended ⟨some 1, [], Text.Utf8.encode complaint⟩

def perform (job : Cli.Job) (there : Bool) : Cli.Outcome × Bool :=
  match job, there with
  | .run (.getProject _), true => (wrote "shop", true)
  | .run (.getPath ..), true => (wrote "Active", true)
  | .run (.newProject _), false => (wrote "", true)
  | .run (.newProject _), true => (complained (alreadyExists "shop"), true)
  | _, there => (complained "not found", there)

theorem perform_kept (job : Cli.Job) : (perform job true).2 = true := by
  unfold perform
  split <;> simp_all

theorem result_complained {complaint : String} (text : String)
    (same : Cli.Ended.complaint ⟨some 1, [], Text.Utf8.encode complaint⟩ = complaint) :
    Cli.result text (complained complaint) = .error (.ofExit text (some 1) complaint) := by
  change Except.error (Cli.Failure.ofExit text (some 1) _) = _
  rw [same]

def commands : ProjectCommands "shop" Bool where
  serve := perform
  has := id
  kept := by
    rintro job _ rfl
    exact perform_kept job
  absent := by
    rintro _ rfl text
    exact ⟨"not found", result_complained text (by decide +kernel)⟩
  present := by
    rintro _ rfl text
    exact ⟨_, rfl⟩
  active := by
    rintro _ rfl text
    exact congrArg Except.ok (by decide +kernel)
  created := by
    rintro _ rfl
    exact ⟨rfl, fun text => ⟨_, rfl⟩⟩
  conflict := by
    rintro _ rfl
    exact ⟨_, rfl, rfl, by decide +kernel⟩

end Shop

end Readiness.Scenario
