import Readiness.Proofs.Scenario.Tasks

/-! Where the actions of a scenario act. An action that does not choose a project asks only about the
project that is chosen, and without one it fails before it asks for more than where a file is. -/
namespace Readiness

structure Cli.Command.IsIn (space : String) (command : Cli.Command) : Prop where
  confined : command.space? = some space
  told : ["-n", space] <:+: command.arguments

theorem Cli.Command.isIn_of_space {command : Cli.Command} {space : String}
    (confined : command.space? = some space) : command.IsIn space := by
  refine ⟨confined, ?_⟩
  cases command with
  | getProject | newProject => cases confined
  | create | createInput | process | instantiate | newApp | startBuild | exec | get | getPath
  | list =>
    obtain rfl := Option.some.inj confined
    simp [arguments, List.infix_cons_iff]

def Cli.Job.IsIn (space : String) : Cli.Job → Prop
  | .run command => command.IsIn space
  | .pipe source sink => source.IsIn space ∧ sink.IsIn space

/-- A call about what is in the namespace; where calls are carried out by commands, each command is
given the namespace. -/
structure Cluster.Call.IsIn (space : String) (call : Cluster.Call) : Prop where
  about : (∃ q : Query, call = .fetch q ∧ q.space = space) ∨ ∃ kind, call = .list kind space
  carriedOut : ∀ client : Cli.Client, (client.answer call).Uses (Cli.Job.IsIn space)

section Sessions

variable {allowed : Cli.Job → Prop}

theorem Cli.Client.uses_perform (client : Cli.Client) {job : Cli.Job} (permitted : allowed job) :
    (client.perform job).Uses allowed :=
  (Program.uses_perform permitted).bind fun _ => trivial

theorem Cli.Client.uses_run (client : Cli.Client) {command : Cli.Command}
    (permitted : allowed (.run command)) : (client.run command).Uses allowed :=
  client.uses_perform permitted

theorem Cluster.isIn_fetch {q : Query} {space : String} (inside : q.space = space) :
    (Call.fetch q).IsIn space where
  about := .inl ⟨q, rfl, inside⟩
  carriedOut client := by
    subst inside
    refine (client.uses_run (Cli.Command.isIn_of_space rfl)).bind fun result => ?_
    cases result <;> trivial

theorem Cluster.isIn_list (kind space : String) : (Call.list kind space).IsIn space where
  about := .inr ⟨kind, rfl⟩
  carriedOut client := by
    refine (client.uses_run (Cli.Command.isIn_of_space rfl)).bind fun result => ?_
    cases result <;> trivial

end Sessions

namespace Scenario

/-- A request that acts in the namespace, or in none. -/
def Request.IsIn (space : String) : Request → Prop
  | .look (.cluster call) | .lookWithin (.cluster call) _ => call.IsIn space
  | .run job => job.IsIn space
  | .look (.page _) | .lookWithin (.page _) _ | .clock | .pause _ | .hasFile _ => True
  | .variable _ | .locate _ | .connectWithin _ | .openPages _ => False

/-- A request that is made of the machine the scenario runs on. -/
def Request.IsLocal : Request → Prop
  | .hasFile _ => True
  | _ => False

theorem Request.IsLocal.isIn (space : String) (request : Request) (isLocal : request.IsLocal) :
    request.IsIn space := by
  cases request <;> trivial

/-- Without having asked for more than where a file is, the task fails so. -/
structure Refused {α : Type} (refusal : Error) (task : Task α) : Prop where
  asks : task.Uses Request.IsLocal
  ends : task.Ends (· = .error refusal)

/-- In a project the task acts there. Before the scenario has any project it is refused. -/
structure Confined {α : Type} (refusal : Error) (task : Context → Task α) : Prop where
  inside : ∀ ctx space, ctx.project = some space → (task ctx).Uses (Request.IsIn space)
  refused : ∀ ctx, ctx.project = none → ctx.instancePod = none → Refused refusal (task ctx)

section Tasks

variable {α β : Type} {refusal : Error}

theorem refused_throw : Refused refusal (throw refusal : Task α) := ⟨trivial, rfl⟩

theorem Refused.bind {task : Task α} (first : Refused refusal task) (next : α → Task β) :
    Refused refusal (task >>= next) where
  asks := by
    rw [Task.Uses, Task.run_bind]
    refine Program.Uses.bind_of_ends first.asks first.ends ?_
    rintro _ rfl
    trivial
  ends := Task.ends_bind (Program.Ends.mono first.ends (by rintro _ rfl; rfl))

theorem Refused.after {task : Task α} {next : α → Task β} (asks : task.Uses Request.IsLocal)
    (ends : task.Ends fun result => ∃ value, result = .ok value)
    (rest : ∀ value, Refused refusal (next value)) : Refused refusal (task >>= next) where
  asks := asks.bind fun value => (rest value).asks
  ends := Task.ends_bind (Program.Ends.mono ends (by rintro _ ⟨value, rfl⟩; exact (rest value).ends))

/-- What follows a task that is refused is never reached without a project. -/
theorem Confined.bind {task : Context → Task α} {next : Context → α → Task β}
    (first : Confined refusal task)
    (rest : ∀ ctx value space, ctx.project = some space → (next ctx value).Uses (Request.IsIn space)) :
    Confined refusal fun ctx => task ctx >>= next ctx where
  inside ctx space chosen :=
    (first.inside ctx space chosen).bind fun value => rest ctx value space chosen
  refused ctx noProject noPod := (first.refused ctx noProject noPod).bind _

theorem uses_space {ctx : Context} {space : String} {allowed : Request → Prop}
    {next : String → Task α} (chosen : ctx.project = some space) (rest : (next space).Uses allowed) :
    (ctx.space >>= next).Uses allowed := by
  rw [Context.space, chosen]
  exact rest

theorem refused_space {ctx : Context} (noProject : ctx.project = none) (next : String → Task α) :
    Refused .noProject (ctx.space >>= next) := by
  rw [Context.space, noProject]
  exact refused_throw.bind next

theorem confined_space {next : Context → String → Task α}
    (rest : ∀ ctx space, (next ctx space).Uses (Request.IsIn space)) :
    Confined .noProject fun ctx => ctx.space >>= next ctx where
  inside ctx space chosen := uses_space chosen (rest ctx space)
  refused ctx noProject _ := refused_space noProject (next ctx)

theorem manifestPath_gives (ctx : Context) (name : String) :
    (ctx.manifestPath name).Uses Request.IsLocal ∧
      (ctx.manifestPath name).Ends fun result => ∃ path, result = .ok path := by
  rw [Context.manifestPath]
  cases ctx.settings.manifest name with
  | fixed path => exact ⟨trivial, path, rfl⟩
  | either generated sample =>
    constructor
    · refine (Task.uses_ask trivial).bind fun found => ?_
      cases found with
      | true => trivial
      | false => exact (Task.uses_ask trivial).bind fun found => by cases found <;> trivial
    · intro found
      cases found with
      | true => exact ⟨_, rfl⟩
      | false =>
        intro found
        cases found <;> exact ⟨_, rfl⟩

theorem confined_manifest (name : String) {next : Context → String → String → Task α}
    (rest : ∀ ctx path space, (next ctx path space).Uses (Request.IsIn space)) :
    Confined .noProject fun ctx => do
      let path ← ctx.manifestPath name
      let space ← ctx.space
      next ctx path space where
  inside ctx space chosen :=
    ((manifestPath_gives ctx name).1.mono (Request.IsLocal.isIn space)).bind fun path =>
      uses_space chosen (rest ctx path space)
  refused ctx noProject _ := by
    obtain ⟨asks, ends⟩ := manifestPath_gives ctx name
    exact .after asks ends fun path => refused_space noProject (next ctx path)

end Tasks

section Actions

theorem uses_run (ctx : Context) {command : Cli.Command} {space : String}
    (confined : command.space? = some space) : (ctx.run command).Uses (Request.IsIn space) :=
  Task.uses_ofSession (ctx.client.uses_run (Cli.Command.isIn_of_space confined)) fun _ inside => inside

theorem confined_create (manifest : String) :
    Confined .noProject (Commands.create · manifest) :=
  confined_manifest manifest fun ctx _ _ => uses_run ctx rfl

theorem confined_createTemplate (template manifest : String) :
    Confined .noProject (Commands.createTemplate · template manifest) :=
  (confined_create manifest).bind fun ctx output space _ => by split <;> trivial

theorem confined_instantiate (template params : String) :
    Confined .noProject (Commands.instantiate · template params) :=
  confined_manifest params fun ctx _ _ => uses_run ctx rfl

theorem confined_process (manifest : String) :
    Confined .noProject (Commands.process · manifest) := by
  refine confined_manifest manifest fun ctx path space => ?_
  exact Task.uses_ofSession (ctx.client.uses_perform
    ⟨Cli.Command.isIn_of_space rfl, Cli.Command.isIn_of_space rfl⟩) fun _ inside => inside

theorem confined_newApp (source : String) : Confined .noProject (Commands.newApp · source) :=
  confined_manifest source fun ctx _ _ => uses_run ctx rfl

theorem confined_startBuild (config : String) :
    Confined .noProject (Commands.startBuild · config) := by
  refine confined_space fun ctx space => (uses_run ctx rfl).bind fun output => ?_
  split <;> trivial

theorem confined_verifyBackup (name : String) :
    Confined .noInstancePod (Commands.verifyBackup · name) where
  -- The pod is asked for before the project, so its absence is what is told.
  inside ctx space chosen := by
    rw [Commands.verifyBackup, Context.pod]
    cases ctx.instancePod with
    | none => trivial
    | some pod =>
      refine uses_space chosen ((uses_run ctx rfl).bind fun listing => ?_)
      split <;> trivial
  refused ctx _ noPod := by
    rw [Commands.verifyBackup, Context.pod, noPod]
    exact refused_throw.bind _

theorem uses_await {ctx : Context} {queries : List Query} {wait : Wait} {condition : Condition}
    {space : String} (inside : ∀ q ∈ queries, q.space = space) :
    (Task.await ctx .resource queries wait condition).Uses (Request.IsIn space) :=
  Task.uses_await trivial (fun _ => trivial) fun q member _ => Cluster.isIn_fetch (inside q member)

theorem uses_awaitOne {ctx : Context} {q : Query} {wait : Wait} {condition : Condition}
    {space : String} (inside : q.space = space) :
    (Task.await ctx .resource [q] wait condition).Uses (Request.IsIn space) :=
  uses_await fun _ member => List.mem_singleton.1 member ▸ inside

theorem confined_awaitAll (kind : String) (names : List String) :
    Confined .noProject (Resources.awaitAll · kind names) := by
  refine confined_space fun ctx space => uses_await ?_
  simp only [Resources.queries, List.mem_map]
  rintro _ ⟨name, -, rfl⟩
  rfl

theorem confined_awaitPhase (kind name : String) (wait : Wait) (phase : String) :
    Confined .noProject (Resources.awaitPhase · kind name wait phase) :=
  confined_space fun _ _ => uses_awaitOne rfl

theorem confined_awaitHost (route : String) : Confined .noProject (Resources.awaitHost · route) :=
  confined_space fun ctx space => by
    have host : (Task.await ctx .resource [⟨"route", route, space, some Resources.hostPath⟩] .route
        .nonEmpty).Uses (Request.IsIn space) := uses_awaitOne rfl
    exact host.bind fun report => Task.uses_pure _

theorem confined_awaitPage (route : String) : Confined .noProject (Page.await · route) := by
  refine (confined_awaitHost route).bind fun ctx host space chosen => uses_space chosen ?_
  exact (Task.uses_await trivial (fun _ => trivial) fun _ _ _ => trivial).bind fun _ =>
    Task.uses_pure _

theorem confined_check (kind name : String) : Confined .noProject (Resources.check · kind name) := by
  refine confined_space fun ctx space => Task.uses_check trivial (Cluster.isIn_fetch rfl)

theorem confined_awaitPods (lead : String) (helpers : Bool) (condition : Condition) :
    Confined .noProject (PodSet.await · lead helpers condition) := by
  refine confined_space fun ctx space => ?_
  refine (Task.uses_await trivial (fun _ => trivial) fun q member _ => ?_).bind fun _ =>
    Task.uses_pure _
  obtain rfl := List.mem_singleton.1 member
  exact Cluster.isIn_list "pods" space

theorem confined_awaitReady (pod : String) : Confined .noProject (PodSet.awaitReady · pod) :=
  confined_space fun _ _ => uses_awaitOne rfl

structure Step.Confined {α : Type} (refusal : Error) (step : Step α) : Prop where
  inside : ∀ ctx space, ctx.project = some space → step.Uses (Request.IsIn space) ctx
  refused : ∀ ctx, ctx.project = none → ctx.instancePod = none →
    step.Uses Request.IsLocal ctx ∧ (step.run.run ctx).Ends (· = (.error refusal, ctx))

theorem Confined.within_bind {α β : Type} {refusal : Error} {task : Context → Task α}
    {next : α → Step β} (first : Confined refusal task)
    (rest : ∀ ctx value space, ctx.project = some space → (next value).Uses (Request.IsIn space) ctx) :
    Step.Confined refusal (Step.within task >>= next) where
  inside ctx space chosen :=
    Step.uses_within_bind (first.inside ctx space chosen) fun value => rest ctx value space chosen
  refused ctx noProject noPod := by
    obtain ⟨asks, ends⟩ := first.refused ctx noProject noPod
    rw [Step.Uses, Step.run_within_bind, Program.ends_bind]
    refine ⟨Program.Uses.bind_of_ends asks ends ?_, Program.Ends.mono ends ?_⟩ <;> rintro _ rfl
    · trivial
    · rfl

theorem Step.Confined.map {α β : Type} {refusal : Error} {step : Step α}
    (confined : Step.Confined refusal step) (f : α → β) :
    Step.Confined refusal (step >>= fun value => pure (f value)) where
  inside ctx space chosen := Step.uses_bind (confined.inside ctx space chosen) fun _ _ => trivial
  refused ctx noProject noPod := by
    obtain ⟨asks, ends⟩ := confined.refused ctx noProject noPod
    refine ⟨Step.uses_bind asks fun _ _ => trivial, ?_⟩
    rw [Step.run_bind, Program.ends_bind]
    exact Program.Ends.mono ends (by rintro _ rfl; rfl)

theorem Confined.keep {α : Type} {refusal : Error} {task : Context → Task α}
    (confined : Confined refusal task) (outcome : α → Outcome) :
    Step.Confined refusal (Action.keep outcome task) :=
  confined.within_bind fun _ _ _ _ => trivial

theorem confined_awaitInstance (lead : String) :
    Step.Confined .noProject (PodSet.awaitInstance lead) := by
  refine (confined_awaitPods lead false .nonEmpty).within_bind fun ctx names space chosen => ?_
  cases names with
  | nil => trivial
  | cons pod _ =>
    exact Step.uses_within_bind ((confined_awaitReady pod).inside ctx space chosen) fun _ => trivial

/-- A request about the project of that name: whether it is there, that it be made, whether it is
active. -/
def Request.IsAbout (name : String) : Request → Prop
  | .look (.cluster call) => call = .hasNamespace name ∨ call = .createNamespace name
  | .lookWithin (.cluster call) _ => call = .fetch (Project.query name)
  | .clock | .pause _ => True
  | _ => False

theorem uses_use (name : String) (ctx : Context) :
    (Project.use name).Uses (Request.IsAbout name) ctx := by
  refine Step.uses_within_bind ?_ fun found => ?_
  · refine (Task.uses_ask (.inl rfl)).bind fun answer => ?_
    cases answer <;> trivial
  · cases found with
    | true => trivial
    | false =>
      refine Step.uses_within_bind ?_ fun _ => trivial
      refine Task.Uses.bind (Task.uses_ask (.inr rfl)) fun answer => ?_
      cases answer with
      | error => trivial
      | ok =>
        refine (Task.uses_await trivial (fun _ => trivial) fun q member _ => ?_).bind fun _ => trivial
        exact congrArg Cluster.Call.fetch (List.mem_singleton.1 member)

def Action.choosesProject : Action → Bool
  | .chooseProject _ | .chooseProjectFrom _ => true
  | _ => false

def Action.refusal : Action → Error
  | .verifyBackup _ => .noInstancePod
  | _ => .noProject

theorem Action.confined {action : Action} (stays : action.choosesProject = false) :
    Step.Confined action.refusal action.step := by
  cases action with
  | chooseProject | chooseProjectFrom => cases stays
  | create manifest => exact (confined_create manifest).keep _
  | createTemplate template manifest => exact (confined_createTemplate template manifest).keep _
  | instantiate template params => exact (confined_instantiate template params).keep _
  | process manifest => exact (confined_process manifest).keep _
  | newApp source => exact (confined_newApp source).keep _
  | startBuild config => exact (confined_startBuild config).keep _
  | awaitInstall name => exact (confined_awaitPhase _ _ _ _).keep _
  | awaitBuild name => exact (confined_awaitPhase _ _ _ _).keep _
  | awaitRunning lead helpers => exact (confined_awaitPods lead helpers _).keep _
  | awaitInstance lead => exact (confined_awaitInstance lead).map _
  | awaitHost route => exact (confined_awaitHost route).keep _
  | awaitPage route => exact (confined_awaitPage route).keep _
  | awaitAll kind names => exact (confined_awaitAll kind names).keep _
  | check kind name => exact (confined_check kind name).keep _
  | checkBackupConfig => exact (confined_check _ _).keep _
  | verifyBackup name => exact (confined_verifyBackup name).keep _

theorem uses_chooseProject (name : String) (ctx : Context) :
    ((Action.chooseProject name).perform ctx).Uses (Request.IsAbout name) :=
  Step.uses_bind (uses_use name ctx) fun _ _ => trivial

theorem uses_chooseProjectFrom (variableName : String) (ctx : Context) :
    ∃ next, (Action.chooseProjectFrom variableName).perform ctx = .ask (.variable variableName) next ∧
      ∀ answer, (next answer).Uses fun request =>
        ∃ value, answer = some value ∧ Request.IsAbout (Text.trimmed value) request := by
  refine ⟨_, rfl, fun answer => ?_⟩
  cases answer with
  | none => trivial
  | some value =>
    have named : (if Text.isAllBlank value then throw (Project.unset variableName)
        else Project.use (Text.trimmed value) : Step Unit).Uses
          (fun request => ∃ given, some value = some given ∧
            Request.IsAbout (Text.trimmed given) request) ctx := by
      split
      · trivial
      · exact Program.Uses.mono (uses_use (Text.trimmed value) ctx) fun request about =>
          ⟨value, rfl, about⟩
    exact Step.uses_bind named fun _ _ => trivial

end Actions

end Scenario

end Readiness
