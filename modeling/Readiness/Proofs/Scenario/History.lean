import Readiness.Proofs.Scenario.Confinement
import Readiness.Proofs.Scenario.Effects

/-! Scenarios of any length. The context after some actions holds the project that the last of them
to choose one has chosen, and the pod that the last of them to find one has found; each action
therefore acts in the project chosen last. -/
namespace Readiness.Scenario

/-- An action that was taken: what was asked meanwhile with its answers, and how it ended. -/
structure Taken where
  action : Action
  asked : List Exchange
  result : Except Error Outcome

/-- These actions were taken, one after another and with whatever success. -/
inductive History (start : Context) : List Taken → Context → Prop
  | nil : History start [] start
  | snoc {past : List Taken} {ctx after : Context} {action : Action} {asked : List Exchange}
    {result : Except Error Outcome} (before : History start past ctx)
    (taken : (action.perform ctx).Yields asked (result, after)) :
    History start (past ++ [⟨action, asked, result⟩]) after

/-- The value of a variable that was asked for. -/
def valueTold : Exchange → Option String
  | ⟨.variable _, value⟩ => value
  | _ => none

namespace Taken

/-- The project that was chosen, without the blanks at its ends where it was named by a variable. -/
def project? (taken : Taken) : Option String :=
  match taken.action, taken.result with
  | .chooseProject name, .ok _ => some name
  | .chooseProjectFrom _, .ok _ => (taken.asked.head?.bind valueTold).map Text.trimmed
  | _, _ => none

def pod? (taken : Taken) : Option String :=
  match taken.action, taken.result with
  | .awaitInstance _, .ok (.text pod) => some pod
  | _, _ => none

/-- What the last of the actions gave that gave anything. -/
def latest (given? : Taken → Option String) (past : List Taken) : Option String :=
  (past.filterMap given?).getLast?

theorem latest_append (given? : Taken → Option String) (first second : List Taken) :
    latest given? (first ++ second) = (latest given? second).or (latest given? first) := by
  rw [latest, List.filterMap_append, List.getLast?_append]
  rfl

theorem latest_singleton (given? : Taken → Option String) (taken : Taken) :
    latest given? [taken] = given? taken := by
  rw [latest]
  cases given : given? taken <;> simp [given]

theorem given_of_changes {action : Action} {asked : List Exchange} {result : Except Error Outcome}
    (looks : action.changes = false) :
    project? ⟨action, asked, result⟩ = none ∧ pod? ⟨action, asked, result⟩ = none := by
  cases action with
  | chooseProject | chooseProjectFrom | awaitInstance => cases looks
  | _ => exact ⟨rfl, rfl⟩

end Taken

theorem Leaves.after_eq {ctx after : Context} {action : Action} {asked : List Exchange}
    {result : Except Error Outcome} (leaves : Leaves ctx action asked result after) :
    after.project = (Taken.project? ⟨action, asked, result⟩).or ctx.project ∧
    after.instancePod = (Taken.pod? ⟨action, asked, result⟩).or ctx.instancePod := by
  cases leaves with
  | failed => cases action <;> exact ⟨rfl, rfl⟩
  | kept looks =>
    obtain ⟨noProject, noPod⟩ := Taken.given_of_changes looks
    rw [noProject, noPod]
    exact ⟨rfl, rfl⟩
  | chosen | chosenFrom | found => exact ⟨rfl, rfl⟩

def Context.fresh (settings : Settings) (binary : String) : Context := ⟨settings, binary, none, none⟩

namespace History

variable {settings : Settings} {binary : String} {past : List Taken} {ctx : Context}

/-- The context holds what was chosen and found last. -/
theorem context_eq (history : History (.fresh settings binary) past ctx) :
    ctx.project = Taken.latest Taken.project? past ∧
    ctx.instancePod = Taken.latest Taken.pod? past := by
  induction history with
  | nil => exact ⟨rfl, rfl⟩
  | snoc before taken ih =>
    obtain ⟨project, pod⟩ := (Action.perform_leaves taken).after_eq
    simp only [Taken.latest_append, Taken.latest_singleton, ← ih.1, ← ih.2]
    exact ⟨project, pod⟩

/-- A pod is found in a project only. -/
theorem pod_eq_none (history : History (.fresh settings binary) past ctx)
    (noProject : ctx.project = none) : ctx.instancePod = none := by
  induction history with
  | nil => rfl
  | snoc before taken ih =>
    cases Action.perform_leaves taken with
    | failed | kept => exact ih noProject
    | chosen | chosenFrom => cases noProject
    | found found =>
      obtain ⟨space, chosen⟩ := found.exists_space
      cases noProject.symm.trans chosen

/-- Whatever a scenario has done and was told, its next action acts in the project that was chosen
last; without one it is refused, before it asks for more than where a file is. The actions that
choose a project act on this one project. -/
theorem next_action_confined (history : History (.fresh settings binary) past ctx)
    (action : Action) :
    (action.choosesProject = false →
      (∀ name, Taken.latest Taken.project? past = some name →
        (action.perform ctx).Uses (Request.IsIn name)) ∧
      (Taken.latest Taken.project? past = none →
        (action.perform ctx).Uses Request.IsLocal ∧
        (action.perform ctx).Ends (· = (.error action.refusal, ctx)))) ∧
    (∀ name, action = .chooseProject name → (action.perform ctx).Uses (Request.IsAbout name)) ∧
    ∀ variableName, action = .chooseProjectFrom variableName →
      ∃ next, action.perform ctx = .ask (.variable variableName) next ∧
        ∀ answer, (next answer).Uses fun request =>
          ∃ value, answer = some value ∧ Request.IsAbout (Text.trimmed value) request := by
  refine ⟨fun stays => ⟨?inside, ?refused⟩, ?chosen, ?chosenFrom⟩
  case inside =>
    intro name chosen
    exact (Action.confined stays).inside ctx name (history.context_eq.1.trans chosen)
  case refused =>
    intro none
    have noProject := history.context_eq.1.trans none
    exact (Action.confined stays).refused ctx noProject (history.pod_eq_none noProject)
  case chosen =>
    rintro name rfl
    exact uses_chooseProject name ctx
  case chosenFrom =>
    rintro variableName rfl
    exact uses_chooseProjectFrom variableName ctx

end History

namespace Jenkins

def chosen : List Taken :=
  [⟨.chooseProject "smoke", [told (.hasNamespace "smoke") (.ok true)], .ok .done⟩]

theorem chosen_history : History (.fresh context.settings "oc") chosen context :=
  .snoc .nil (.ask .done)

end Jenkins

theorem History.next_action_confined_jenkins :
    ((Action.awaitInstance "jenkins").perform Jenkins.context).Uses (Request.IsIn "smoke") ∧
    ∃ next, (Action.chooseProjectFrom "PROJECT").perform Jenkins.context =
        .ask (.variable "PROJECT") next ∧
      ∀ answer, (next answer).Uses fun request =>
        ∃ value, answer = some value ∧ Request.IsAbout (Text.trimmed value) request :=
  ⟨(Jenkins.chosen_history.next_action_confined (.awaitInstance "jenkins")).1 rfl |>.1 "smoke" rfl,
    (Jenkins.chosen_history.next_action_confined (.chooseProjectFrom "PROJECT")).2.2 "PROJECT" rfl⟩

end Readiness.Scenario
