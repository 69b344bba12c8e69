import Readiness.Proofs.Json.Path.Composition
import Readiness.Scenario.PodSet

/-! How a pod is judged ready. What its containers tell is one text when it is tested, a word for each that
tells anything; the test of the text finds a container that is not ready, and only such a one, since
no other word of the text has `false` in it. -/
namespace Readiness.Scenario.PodSet

def containerStates? (pod : Json.Value) : Option Json.Value :=
  (pod.member? "status").bind (Json.Value.member? "containerStatuses")

/-- A container tells that it is ready or that it is not, or it tells nothing. -/
def TellsPlainly (container : Json.Value) : Prop :=
  ∀ told, container.member? "ready" = some told → ∃ flag, told = .bool flag

/-- Some container tells whether it is ready, and none that it is not. -/
structure AllReady (containers : List Json.Value) : Prop where
  told : ∃ container ∈ containers, (container.member? "ready").isSome
  ready : ∀ container ∈ containers, container.member? "ready" ≠ some (.bool false)

theorem ready_holds_intercalate_iff (texts : List String) :
    ready.holds (String.intercalate " " texts) = true ↔
      (∃ text ∈ texts, Text.isAllBlank text = false) ∧
        ∀ text ∈ texts, Text.contains text "false" = false := by
  have blank := Text.isAllBlank_intercalate_iff texts
  have contains : Text.contains (String.intercalate " " texts) "false" = true ↔ _ :=
    Text.contains_intercalate_iff (by decide) (by decide) texts
  change (!Text.isAllBlank _ && !Text.contains _ "false") = true ↔ _
  simp only [Bool.and_eq_true, Bool.not_eq_true', ← Bool.not_eq_true, blank, contains]
  simp

def toldBy (containers : List Json.Value) : List Json.Value :=
  containers.flatMap fun container => (container.member? "ready").toList

theorem mem_toldBy_iff {containers : List Json.Value} {told : Json.Value} :
    told ∈ toldBy containers ↔ ∃ container ∈ containers, container.member? "ready" = some told := by
  simp [toldBy, List.mem_flatMap]

/-- The test of the text says of the containers that they are ready. -/
theorem ready_holds_toldBy_iff {containers : List Json.Value}
    (plain : ∀ container ∈ containers, TellsPlainly container) :
    ready.holds (String.intercalate " " ((toldBy containers).map Json.Path.shown)) = true ↔
      AllReady containers := by
  rw [ready_holds_intercalate_iff]
  constructor
  · rintro ⟨⟨text, shown, -⟩, without⟩
    obtain ⟨told, member, rfl⟩ := List.mem_map.1 shown
    obtain ⟨container, among, tells⟩ := mem_toldBy_iff.1 member
    refine ⟨⟨container, among, Option.isSome_of_eq_some tells⟩, fun other among tells => ?_⟩
    have apart := without _ (List.mem_map_of_mem (mem_toldBy_iff.2 ⟨other, among, tells⟩))
    exact absurd apart (by decide)
  · rintro ⟨⟨container, among, told⟩, ready⟩
    obtain ⟨told, tells⟩ := Option.isSome_iff_exists.1 told
    refine ⟨⟨_, List.mem_map_of_mem (mem_toldBy_iff.2 ⟨container, among, tells⟩), ?_⟩, ?_⟩
    · obtain ⟨flag, rfl⟩ := plain container among told tells
      cases flag <;> decide
    · intro text shown
      obtain ⟨told, member, rfl⟩ := List.mem_map.1 shown
      obtain ⟨other, among, tells⟩ := mem_toldBy_iff.1 member
      obtain ⟨flag, rfl⟩ := plain other among told tells
      cases flag with
      | false => exact absurd tells (ready other among)
      | true => decide

theorem ofText_readyPath : Json.Path.ofText readyPath =
    .ok [.field "status", .field "containerStatuses", .wildcard, .field "ready"] := by
  decide +kernel

theorem stateAt_readyPath (pod : Json.Value) :
    Cluster.stateAt pod (some readyPath) = .ok (String.intercalate " "
      ((toldBy (((containerStates? pod).map Json.Value.children).getD [])).map Json.Path.shown)) := by
  rw [Cluster.stateAt, ofText_readyPath]
  simp only [Json.Path.extract, containerStates?, toldBy]
  cases status : pod.member? "status" with
  | none => simp [Json.Path.targets, Json.Segment.step, status]
  | some status' =>
    cases states : status'.member? "containerStatuses" <;>
      simp [Json.Path.targets, Json.Segment.step, status, states]

/-- The state of a pod at the path to what its containers tell can always be read. Where the pod has a
list of containers, each of which tells plainly or nothing, the condition on this state holds if and only if
some container tells and none tells that it is not ready; where it has no such list, it does not hold. -/
theorem ready_judges_containers (pod : Json.Value) :
    ∃ state, Cluster.stateAt pod (some readyPath) = .ok state ∧
      (∀ containers, containerStates? pod = some (.array containers) →
        (∀ container ∈ containers, TellsPlainly container) →
        (ready.holds state = true ↔ AllReady containers)) ∧
      (containerStates? pod = none → ready.holds state = false) := by
  refine ⟨_, stateAt_readyPath pod, fun containers listed plain => ?_, fun none => ?_⟩
  · rw [listed]
    exact ready_holds_toldBy_iff plain
  · rw [none]
    decide

/-- Three containers, of which one has told nothing yet. -/
def jenkinsContainers (backup : Bool) : List Json.Value :=
  [.object [("name", .string "false-start"), ("ready", .bool true), ("restartCount", .number (.whole 0))],
    .object [("name", .string "backup"), ("ready", .bool backup)],
    .object [("name", .string "sidecar")]]

def jenkinsPod (backup : Bool) : Json.Value :=
  .object [("metadata", .object [("name", .string "jenkins-simple")]),
    ("status", .object [("containerStatuses", .array (jenkinsContainers backup)),
      ("phase", .string "Running")])]

theorem jenkinsContainers_tellPlainly (backup : Bool) :
    ∀ container ∈ jenkinsContainers backup, TellsPlainly container := by
  simp only [jenkinsContainers, List.forall_mem_cons, List.not_mem_nil, false_implies, implies_true,
    and_true]
  refine ⟨?_, ?_, nofun⟩
  · rintro _ ⟨⟩
    exact ⟨true, rfl⟩
  · rintro _ ⟨⟩
    exact ⟨backup, rfl⟩

theorem jenkinsContainers_allReady : AllReady (jenkinsContainers true) where
  told := ⟨_, List.mem_cons_self, rfl⟩
  ready := by
    simp only [jenkinsContainers, List.forall_mem_cons, List.not_mem_nil, false_implies,
      implies_true, and_true]
    exact ⟨nofun, nofun, nofun⟩

/-- The name of a container does not matter, only what it tells does. -/
theorem ready_judges_containers_jenkins :
    (∃ state, Cluster.stateAt (jenkinsPod true) (some readyPath) = .ok state ∧
      ready.holds state = true) ∧
    ∃ state, Cluster.stateAt (jenkinsPod false) (some readyPath) = .ok state ∧
      ready.holds state = false := by
  obtain ⟨state, read, judged, -⟩ := ready_judges_containers (jenkinsPod true)
  obtain ⟨state', read', judged', -⟩ := ready_judges_containers (jenkinsPod false)
  refine ⟨⟨state, read, ?_⟩, state', read', ?_⟩
  · exact (judged _ rfl (jenkinsContainers_tellPlainly true)).2 jenkinsContainers_allReady
  · rw [← Bool.not_eq_true, judged' _ rfl (jenkinsContainers_tellPlainly false)]
    exact fun all => all.ready _ (List.mem_cons_of_mem _ List.mem_cons_self) rfl

end Readiness.Scenario.PodSet
