import Readiness.Proofs.Scenario.PodSet

/-! What actions leave in the context. An action that fails leaves everything as it was. Choosing a
project and finding the instance pod each put one name there; no other action changes anything. -/
namespace Readiness.Scenario

def told (call : Cluster.Call) (answer : call.Answer) : Exchange := ⟨.look (.cluster call), answer⟩

/-- How a project comes to be there: it was, or it is made and then read as active. -/
inductive Project.Readied (name : String) : List Exchange → Prop
  | there : Readied name [told (.hasNamespace name) (.ok true)]
  | made {waited : List Exchange} {budget : Duration} {reading : Reading} {now : Instant}
    (active : reading.state = "Active") :
    Readied name (told (.hasNamespace name) (.ok false) :: told (.createNamespace name) (.ok ()) ::
      (waited ++ [inTime (.cluster (.fetch (Project.query name))) budget (.ok reading) now]))

variable {ctx after : Context} {record : List Exchange}

theorem Project.create_yields {name : String}
    (yields : (Project.create ctx name).Yields record (.ok ())) :
    ∃ waited budget reading now, record = told (.createNamespace name) (.ok ()) ::
      (waited ++ [inTime (.cluster (.fetch (Project.query name))) budget (.ok reading) now]) ∧
      reading.state = "Active" := by
  obtain ⟨answer, _, rfl, created⟩ := Task.yields_ask_bind.1 yields
  obtain ⟨_, _, _, rfl, made, awaited⟩ := Task.yields_bind_ok.1 created
  obtain ⟨rfl, rfl⟩ := Task.yields_ofFetch.1 made
  obtain ⟨report, _, _, rfl, waited, ended⟩ := Task.yields_bind_ok.1 awaited
  obtain ⟨rfl, -⟩ := Task.yields_pure.1 ended
  obtain ⟨before, budget, answer, now, reading, rfl, rfl, active, -⟩ := Task.await_yields waited
  refine ⟨before, budget, reading, now, ?_, beq_iff_eq.1 active⟩
  rw [List.append_nil]
  rfl

theorem Project.use_yields {name : String} {result : Except Error Unit}
    (yields : (Project.use name).Yields ctx record result after) :
    (∃ e, result = .error e ∧ after = ctx) ∨
    result = .ok () ∧ after = { ctx with project := some name } ∧ Readied name record := by
  rcases Step.yields_within_bind.1 yields with
    ⟨e, rfl, -, rfl⟩ | ⟨found, _, _, rfl, looked, going⟩
  · exact .inl ⟨e, rfl, rfl⟩
  obtain ⟨answer, _, rfl, answered⟩ := Task.yields_ask_bind.1 looked
  obtain ⟨rfl, rfl⟩ := Task.yields_ofFetch.1 answered
  cases found with
  | true =>
    obtain ⟨rfl, rfl, rfl⟩ := Step.yields_setProject.1 going
    exact .inr ⟨rfl, rfl, .there⟩
  | false =>
    rcases Step.yields_within_bind.1 going with
      ⟨e, rfl, -, rfl⟩ | ⟨_, _, _, rfl, created, chosen⟩
    · exact .inl ⟨e, rfl, rfl⟩
    obtain ⟨rfl, rfl, rfl⟩ := Step.yields_setProject.1 chosen
    obtain ⟨waited, budget, reading, now, rfl, active⟩ := create_yields created
    refine .inr ⟨rfl, rfl, ?_⟩
    rw [List.append_nil]
    exact .made active

theorem Project.useFrom_yields {variableName : String} {result : Except Error Unit}
    (yields : (Project.useFrom variableName).Yields ctx record result after) :
    (∃ e, result = .error e ∧ after = ctx) ∨
    ∃ value rest, result = .ok () ∧ record = ⟨.variable variableName, some value⟩ :: rest ∧
      after = { ctx with project := some (Text.trimmed value) } ∧
      Readied (Text.trimmed value) rest := by
  rcases Step.yields_within_bind.1 yields with
    ⟨e, rfl, -, rfl⟩ | ⟨found, _, rest, rfl, looked, going⟩
  · exact .inl ⟨e, rfl, rfl⟩
  obtain rfl := Task.yields_ask.1 looked
  cases found with
  | none =>
    obtain ⟨-, rfl, rfl⟩ := Step.yields_throw.1 going
    exact .inl ⟨_, rfl, rfl⟩
  | some value =>
    dsimp only at going
    split at going
    · obtain ⟨-, rfl, rfl⟩ := Step.yields_throw.1 going
      exact .inl ⟨_, rfl, rfl⟩
    · rcases use_yields going with failed | ⟨rfl, rfl, readied⟩
      · exact .inl failed
      · exact .inr ⟨value, rest, rfl, rfl, rfl, readied⟩

def Action.changes : Action → Bool
  | .chooseProject _ | .chooseProjectFrom _ | .awaitInstance _ => true
  | _ => false

/-- What an action that ends so leaves in the context. -/
inductive Leaves (ctx : Context) : Action → List Exchange → Except Error Outcome → Context → Prop
  | failed {action : Action} {asked : List Exchange} {e : Error} :
    Leaves ctx action asked (.error e) ctx
  | kept {action : Action} {asked : List Exchange} {outcome : Outcome}
    (looks : action.changes = false) : Leaves ctx action asked (.ok outcome) ctx
  | chosen {name : String} {asked : List Exchange} (readied : Project.Readied name asked) :
    Leaves ctx (.chooseProject name) asked (.ok .done) { ctx with project := some name }
  | chosenFrom {variableName value : String} {asked : List Exchange}
    (readied : Project.Readied (Text.trimmed value) asked) :
    Leaves ctx (.chooseProjectFrom variableName) (⟨.variable variableName, some value⟩ :: asked)
      (.ok .done) { ctx with project := some (Text.trimmed value) }
  | found {lead pod : String} {asked : List Exchange} (found : PodSet.Found ctx lead pod asked) :
    Leaves ctx (.awaitInstance lead) asked (.ok (.text pod)) { ctx with instancePod := some pod }

theorem keep_yields {α : Type} {outcome : α → Outcome} {task : Context → Task α}
    {result : Except Error Outcome}
    (yields : (Action.keep outcome task).Yields ctx record result after) : after = ctx := by
  rcases Step.yields_within_bind.1 yields with ⟨e, rfl, -, rfl⟩ | ⟨_, _, _, rfl, -, given⟩
  · rfl
  · exact (Step.yields_pure.1 given).2.2

theorem Action.perform_leaves {action : Action} {result : Except Error Outcome}
    (yields : (action.perform ctx).Yields record (result, after)) :
    Leaves ctx action record result after := by
  have quiet (same : after = ctx) (looks : action.changes = false) :
      Leaves ctx action record result after := by
    subst same
    cases result with
    | error => exact .failed
    | ok => exact .kept looks
  cases action with
  | chooseProject name =>
    obtain ⟨given, inner, rfl⟩ := Step.yields_map.1 yields
    rcases Project.use_yields inner with ⟨e, rfl, rfl⟩ | ⟨rfl, rfl, readied⟩
    · exact .failed
    · exact .chosen readied
  | chooseProjectFrom variableName =>
    obtain ⟨given, inner, rfl⟩ := Step.yields_map.1 yields
    rcases Project.useFrom_yields inner with ⟨e, rfl, rfl⟩ | ⟨value, rest, rfl, rfl, rfl, readied⟩
    · exact .failed
    · exact .chosenFrom readied
  | awaitInstance lead =>
    obtain ⟨given, inner, rfl⟩ := Step.yields_map.1 yields
    rcases PodSet.awaitInstance_yields inner with ⟨e, rfl, rfl⟩ | ⟨pod, rfl, rfl, found⟩
    · exact .failed
    · exact .found found
  | create | createTemplate | instantiate | process | newApp | startBuild | awaitInstall | awaitBuild
  | awaitRunning | awaitHost | awaitPage | awaitAll | check | checkBackupConfig | verifyBackup =>
    exact quiet (keep_yields yields) rfl

namespace Jenkins

def context : Context where
  binary := "oc"
  project := some "smoke"
  settings := {
    outputDir := "."
    samplesDir := "samples"
    binary := "oc"
    backend := .cli
    backupRoot := "/jenkins-backups"
    httpTimeout := 10
    connectTimeout := 30
    timings := ⟨1, 10, 10, 10, 10, 10⟩ }

/-- The instance pod is listed after a build, and ready at once. -/
def found : List Exchange :=
  [⟨.clock, (0 : Instant)⟩,
    inTime (.cluster (.list "pods" "smoke")) (Duration.ofSecs 10)
      (.ok [⟨"jenkins-1-build", "Succeeded"⟩, ⟨"jenkins-simple", "Running"⟩]) 1,
    ⟨.clock, (1 : Instant)⟩,
    inTime (.cluster (.fetch (PodSet.readyQuery "smoke" "jenkins-simple"))) (Duration.ofSecs 10)
      (.ok ⟨"jenkins-simple", "true"⟩) 2]

theorem awaitInstance_yields :
    ((Action.awaitInstance "jenkins").perform context).Yields found
      (.ok (.text "jenkins-simple"), { context with instancePod := some "jenkins-simple" }) :=
  .ask (.ask (.ask (.ask .done)))

end Jenkins

/-- An action that fails leaves the context as it was. One that chooses a project leaves the project
that it has seen, or made and seen active; one that finds the instance pod leaves this pod and the
project as it was; and no other action changes anything. -/
theorem Action.perform_atomic {action : Action} {result : Except Error Outcome}
    (yields : (action.perform ctx).Yields record (result, after)) :
    (∀ e, result = .error e → after = ctx) ∧
    (∀ name outcome, action = .chooseProject name → result = .ok outcome →
      after = { ctx with project := some name } ∧ Project.Readied name record) ∧
    (∀ variableName outcome, action = .chooseProjectFrom variableName → result = .ok outcome →
      ∃ value rest, record = ⟨.variable variableName, some value⟩ :: rest ∧
        after = { ctx with project := some (Text.trimmed value) } ∧
        Project.Readied (Text.trimmed value) rest) ∧
    (∀ lead outcome, action = .awaitInstance lead → result = .ok outcome →
      ∃ pod, outcome = .text pod ∧ after = { ctx with instancePod := some pod } ∧
        PodSet.Found ctx lead pod record) ∧
    (action.changes = false → after = ctx) := by
  have leaves := perform_leaves yields
  refine ⟨?failed, ?chosen, ?chosenFrom, ?found, ?looks⟩
  case failed =>
    rintro e rfl
    cases leaves
    rfl
  case chosen =>
    rintro name outcome rfl rfl
    cases leaves with
    | kept looks => cases looks
    | chosen readied => exact ⟨rfl, readied⟩
  case chosenFrom =>
    rintro variableName outcome rfl rfl
    cases leaves with
    | kept looks => cases looks
    | chosenFrom readied => exact ⟨_, _, rfl, rfl, readied⟩
  case found =>
    rintro lead outcome rfl rfl
    cases leaves with
    | kept looks => cases looks
    | found found => exact ⟨_, rfl, rfl, found⟩
  case looks =>
    intro looks
    cases leaves with
    | failed | kept => rfl
    | chosen | chosenFrom | found => cases looks

theorem Action.perform_atomic_jenkins :
    ∃ pod, Outcome.text "jenkins-simple" = .text pod ∧
      { Jenkins.context with instancePod := some "jenkins-simple" } =
        { Jenkins.context with instancePod := some pod } ∧
      PodSet.Found Jenkins.context "jenkins" pod Jenkins.found :=
  (perform_atomic Jenkins.awaitInstance_yields).2.2.2.1 "jenkins" _ rfl rfl

end Readiness.Scenario
