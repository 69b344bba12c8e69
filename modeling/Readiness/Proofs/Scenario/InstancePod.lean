import Readiness.Proofs.Scenario.History

/-! The instance pod that a scenario remembers. It is the pod that was found last, and stays it when
another project is chosen: a backup is looked for in this pod, but in the project that was chosen
last. -/
namespace Readiness.Scenario

variable {settings : Settings} {binary : String} {past later : List Taken} {ctx : Context}
variable {space pod : String}

/-- The pod was found last, in this namespace; `later` is what was done since. -/
structure FoundLast (start : Context) (past : List Taken) (space pod : String)
    (later : List Taken) : Prop where
  finding : ∃ before ctx lead asked,
    past = before ++ ⟨.awaitInstance lead, asked, .ok (.text pod)⟩ :: later ∧
    History start before ctx ∧ ctx.project = some space ∧ PodSet.Found ctx lead pod asked
  last : ∀ taken ∈ later, taken.pod? = none

theorem FoundLast.snoc {start : Context} (found : FoundLast start past space pod later)
    {taken : Taken} (another : taken.pod? = none) :
    FoundLast start (past ++ [taken]) space pod (later ++ [taken]) where
  finding := by
    obtain ⟨before, ctx, lead, asked, rfl, history, chosen, finding⟩ := found.finding
    refine ⟨before, ctx, lead, asked, ?_, history, chosen, finding⟩
    rw [List.append_assoc, List.cons_append]
  last := List.forall_mem_append.2 ⟨found.last, List.forall_mem_singleton.2 another⟩

theorem History.exists_foundLast (history : History (.fresh settings binary) past ctx)
    (remembered : ctx.instancePod = some pod) :
    ∃ space later, FoundLast (.fresh settings binary) past space pod later := by
  induction history with
  | nil => cases remembered
  | @snoc past ctx after action asked result before taken ih =>
    have leaves := Action.perform_leaves taken
    cases given : Taken.pod? ⟨action, asked, result⟩ with
    | none =>
      rw [leaves.after_eq.2, given, Option.none_or] at remembered
      obtain ⟨space, later, found⟩ := ih remembered
      exact ⟨space, _, found.snoc given⟩
    | some another =>
      cases leaves with
      | failed => cases action <;> cases given
      | kept looks =>
        rw [(Taken.given_of_changes looks).2] at given
        cases given
      | chosen | chosenFrom => cases given
      | found found =>
        obtain rfl := Option.some.inj remembered
        obtain ⟨space, chosen⟩ := found.exists_space
        exact ⟨space, [], ⟨past, ctx, _, asked, rfl, before, chosen, found⟩, List.forall_mem_nil _⟩

/-- Since a pod was found the project is the one that was chosen last, or else the one of the pod. -/
theorem History.project_of_foundLast (history : History (.fresh settings binary) past ctx)
    (found : FoundLast (.fresh settings binary) past space pod later) :
    ctx.project = some ((Taken.latest Taken.project? later).getD space) := by
  obtain ⟨before, there, lead, asked, rfl, earlier, chosen, -⟩ := found.finding
  rw [history.context_eq.1, ← List.singleton_append, Taken.latest_append, Taken.latest_append,
    ← earlier.context_eq.1, chosen, Taken.latest_singleton]
  cases Taken.latest Taken.project? later <;> rfl

def backupListing (settings : Settings) (pod space name : String) : Cli.Command :=
  .exec pod "backup" space ["ls", Commands.backupDirectory settings.backupRoot name]

/-- A backup is looked for by one command, and whatever comes of it, it was not for want of a pod
that the look failed. -/
structure LooksInside (ctx : Context) (pod space name : String) : Prop where
  begins : ∃ next, (Action.verifyBackup name).perform ctx =
    .ask (.run (.run (backupListing ctx.settings pod space name))) next
  uses : ((Action.verifyBackup name).perform ctx).Uses
    (· = .run (.run (backupListing ctx.settings pod space name)))
  ends : ((Action.verifyBackup name).perform ctx).Ends fun out => out.1 ≠ .error .noInstancePod

theorem uses_verifyBackup {name : String} (chosen : ctx.project = some space)
    (remembered : ctx.instancePod = some pod) :
    ((Action.verifyBackup name).perform ctx).Uses
      (· = .run (.run (backupListing ctx.settings pod space name))) := by
  refine Step.uses_within_bind ?_ fun _ => trivial
  rw [Commands.verifyBackup, Context.pod, remembered]
  have listed : (ctx.client.run (backupListing ctx.settings pod space name)).Uses
      (· = .run (backupListing ctx.settings pod space name)) := ctx.client.uses_run rfl
  have asked : (ctx.run (backupListing ctx.settings pod space name)).Uses
      (· = .run (.run (backupListing ctx.settings pod space name))) :=
    Task.uses_ofSession listed fun _ same => congrArg Request.run same
  refine uses_space chosen (asked.bind fun listing => ?_)
  split <;> trivial

theorem ends_verifyBackup {name : String} (chosen : ctx.project = some space)
    (remembered : ctx.instancePod = some pod) :
    ((Action.verifyBackup name).perform ctx).Ends fun out => out.1 ≠ .error .noInstancePod := by
  have looked : (Commands.verifyBackup ctx name).Ends (· ≠ .error .noInstancePod) := by
    rw [Commands.verifyBackup, Context.pod, remembered]
    change (ctx.space >>= fun space => _).Ends _
    rw [Task.space_bind chosen]
    refine Task.ends_bind (Program.Ends.mono (Task.ends_ofSession _) fun result commanded => ?_)
    cases result with
    | error e =>
      obtain ⟨failure, rfl⟩ := commanded e rfl
      intro same
      cases same
    | ok listing =>
      dsimp only
      split <;> (intro same; cases same)
  rw [Action.perform, Action.step, Action.keep, Step.run_within_bind, Program.ends_bind]
  refine looked.mono fun result found => ?_
  cases result with
  | error =>
    intro same
    cases same
    exact found rfl
  | ok =>
    intro same
    cases same

theorem looksInside {name : String} (chosen : ctx.project = some space)
    (remembered : ctx.instancePod = some pod) : LooksInside ctx pod space name where
  begins := by
    obtain ⟨settings, binary, project, instancePod⟩ := ctx
    obtain rfl : project = some space := chosen
    obtain rfl : instancePod = some pod := remembered
    exact ⟨_, rfl⟩
  uses := uses_verifyBackup chosen remembered
  ends := ends_verifyBackup chosen remembered

theorem verifyBackup_refused (name : String) (forgotten : ctx.instancePod = none) :
    (Action.verifyBackup name).perform ctx = .done (.error .noInstancePod, ctx) := by
  obtain ⟨settings, binary, project, instancePod⟩ := ctx
  obtain rfl : instancePod = none := forgotten
  rfl

/-- A scenario remembers the pod that was found last, whatever project it chooses afterwards, and
looks for backups in this pod but in the project that was chosen last: in the one of the pod, if no
other was chosen since. Before any pod was found the look is refused, and afterwards never again for
this reason. -/
theorem History.remembers_pod (history : History (.fresh settings binary) past ctx) (name : String) :
    (ctx.instancePod = none ∧ (∀ taken ∈ past, taken.pod? = none) ∧
      (Action.verifyBackup name).perform ctx = .done (.error .noInstancePod, ctx)) ∨
    ∃ pod space later current, ctx.instancePod = some pod ∧
      FoundLast (.fresh settings binary) past space pod later ∧
      ctx.project = some current ∧
      current = (Taken.latest Taken.project? later).getD space ∧
      LooksInside ctx pod current name := by
  cases remembered : ctx.instancePod with
  | none =>
    have never := history.context_eq.2.symm.trans remembered
    rw [Taken.latest, List.getLast?_eq_none_iff, List.filterMap_eq_nil_iff] at never
    exact .inl ⟨rfl, never, verifyBackup_refused name remembered⟩
  | some pod =>
    obtain ⟨space, later, found⟩ := history.exists_foundLast remembered
    have chosen := history.project_of_foundLast found
    exact .inr ⟨pod, space, later, _, rfl, found, chosen, rfl, looksInside chosen remembered⟩

namespace Jenkins

def moved : List Taken :=
  chosen ++ [⟨.awaitInstance "jenkins", found, .ok (.text "jenkins-simple")⟩] ++
    [⟨.chooseProject "other", [told (.hasNamespace "other") (.ok true)], .ok .done⟩]

def elsewhere : Context :=
  { context with project := some "other", instancePod := some "jenkins-simple" }

theorem moved_history : History (.fresh context.settings "oc") moved elsewhere :=
  .snoc (.snoc chosen_history awaitInstance_yields) (.ask .done)

end Jenkins

theorem History.remembers_pod_jenkins :
    ∃ pod space later current, Jenkins.elsewhere.instancePod = some pod ∧
      FoundLast (.fresh Jenkins.context.settings "oc") Jenkins.moved space pod later ∧
      Jenkins.elsewhere.project = some current ∧
      current = (Taken.latest Taken.project? later).getD space ∧
      LooksInside Jenkins.elsewhere pod current "example" :=
  (Jenkins.moved_history.remembers_pod "example").resolve_left nofun

/-- A pod is remembered in a project in which none was found, and a backup is looked for there. -/
theorem remembered_pod_of_another_project :
    History (.fresh Jenkins.context.settings "oc") Jenkins.moved Jenkins.elsewhere ∧
    Jenkins.elsewhere.instancePod = some "jenkins-simple" ∧
    (¬ ∃ before taken later, Jenkins.moved = before ++ taken :: later ∧
      taken.pod? = some "jenkins-simple" ∧
      Taken.latest Taken.project? before = Jenkins.elsewhere.project) ∧
    ∃ next, (Action.verifyBackup "example").perform Jenkins.elsewhere =
      .ask (.run (.run (.exec "jenkins-simple" "backup" "other"
        ["ls", "/jenkins-backups/example"]))) next := by
  refine ⟨Jenkins.moved_history, rfl, ?_, _, rfl⟩
  rintro ⟨before, taken, later, split, -, project⟩
  have prior : before = Jenkins.moved.take before.length := by rw [split, List.take_left]
  have short : before.length < 3 := by
    have length := congrArg List.length split
    rw [List.length_append, List.length_cons] at length
    change 3 = _ at length
    omega
  have never : ∀ n < 3, Taken.latest Taken.project? (Jenkins.moved.take n) ≠ some "other" := by decide
  exact never _ short (prior ▸ project)

end Readiness.Scenario
