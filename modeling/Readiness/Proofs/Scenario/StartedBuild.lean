import Readiness.Proofs.Cli.Absence
import Readiness.Proofs.Scenario.Tasks
import Readiness.Proofs.Text.Parts

/-! What is taken for the report of a started build: the first line that ends in `started`, whatever else it
says, and of it the first word. So the build of a report is told if no other line before it ends in these
letters, and a step that starts a build fails if no line at all does. -/
namespace Readiness.Cli.Output

def started : List Char := "started".toList

def EndsInStarted (line : List Char) : Prop :=
  ∃ front trail, line = front ++ started ++ trail ∧ ∀ c ∈ trail, Text.isBlank c = true

/-- The build that a line reports, if it is made of two words, of which the second one is `started`. -/
def reportedBy (line : List Char) : Option (List Char) :=
  match Text.words line with
  | [build, last] => if last = started then some (Text.afterLast '/' build) else none
  | _ => none

def reported (output : List Char) : Option (List Char) := (Text.lines output).findSome? reportedBy

def LeadsTo (output line : List Char) : Prop :=
  EndsInStarted line ∧ ∃ before after, Text.lines output = before ++ line :: after ∧
    ∀ earlier ∈ before, ¬ EndsInStarted earlier

section Lines

variable {line name output : List Char}

theorem saysStarted_iff : saysStarted line = true ↔ EndsInStarted line := by
  rw [saysStarted, List.isSuffixOf_iff_suffix]
  constructor
  · rintro ⟨front, ends⟩
    obtain ⟨trail, split, blank⟩ := Text.exists_trimEnd line
    exact ⟨front, trail, ends ▸ split, blank⟩
  · rintro ⟨front, trail, rfl, blank⟩
    refine ⟨front, (Text.trimEnd_append blank fun c last => ?_).symm⟩
    rw [List.getLast?_append] at last
    obtain rfl : 'd' = c := Option.some.inj last
    rfl

theorem reportedBy_eq_some_iff : reportedBy line = some name ↔
    ∃ build, Text.words line = [build, started] ∧ name = Text.afterLast '/' build := by
  unfold reportedBy
  split
  · next build last two =>
    rw [two, Option.ite_none_right_eq_some, Option.some.injEq]
    constructor
    · rintro ⟨rfl, rfl⟩
      exact ⟨build, rfl, rfl⟩
    · rintro ⟨_, same, rfl⟩
      obtain ⟨rfl, rfl⟩ : build = _ ∧ last = started := by simpa using same
      exact ⟨rfl, rfl⟩
  · next other =>
    exact iff_of_false nofun fun ⟨build, two, _⟩ => other build started two

theorem endsInStarted_of_reportedBy (reports : reportedBy line = some name) : EndsInStarted line := by
  obtain ⟨build, two, -⟩ := reportedBy_eq_some_iff.1 reports
  have filled : Text.words line ≠ [] := by simp [two]
  obtain ⟨front, word, trail, rfl, -, blank, all⟩ := Text.exists_last_word filled
  rw [two, ← List.singleton_append] at all
  obtain ⟨-, same⟩ := List.append_inj' all rfl
  obtain rfl := List.singleton_inj.1 same
  exact ⟨front, trail, (List.append_assoc ..).symm, blank⟩

theorem EndsInStarted.exists_first (ends : EndsInStarted line) :
    ∃ first rest, Text.words line = first :: rest := by
  apply List.exists_cons_of_ne_nil
  obtain ⟨front, trail, rfl, -⟩ := ends
  have first : 's' ∈ started := by decide
  rw [Ne, Text.words_eq_nil_iff]
  exact fun blank => absurd (blank 's' (List.mem_append_left _ (List.mem_append_right _ first)))
    (by decide)

theorem leadsTo_iff : LeadsTo output line ↔ (Text.lines output).find? saysStarted = some line := by
  rw [List.find?_eq_some_iff_append, saysStarted_iff, LeadsTo]
  simp only [Bool.not_eq_true', ← Bool.not_eq_true, saysStarted_iff]

theorem startedBuild_eq_some_iff : startedBuild output = some name ↔
    ∃ line first rest, LeadsTo output line ∧ Text.words line = first :: rest ∧
      name = Text.afterLast '/' first := by
  simp only [startedBuild, Option.bind_eq_some_iff, Option.map_eq_some_iff, List.head?_eq_some_iff,
    leadsTo_iff]
  constructor
  · rintro ⟨line, found, first, ⟨rest, begins⟩, rfl⟩
    exact ⟨line, first, rest, found, begins, rfl⟩
  · rintro ⟨line, first, rest, found, begins, rfl⟩
    exact ⟨line, found, first, ⟨rest, begins⟩, rfl⟩

theorem startedBuild_eq_none_iff :
    startedBuild output = none ↔ ∀ line ∈ Text.lines output, ¬ EndsInStarted line := by
  rw [startedBuild, Option.bind_eq_none_iff]
  constructor
  · intro nothing line member ends
    cases found : (Text.lines output).find? saysStarted with
    | none => exact List.find?_eq_none.1 found line member (saysStarted_iff.2 ends)
    | some taken =>
      obtain ⟨first, rest, begins⟩ := (leadsTo_iff.2 found).1.exists_first
      have none := nothing taken found
      rw [begins] at none
      cases none
  · intro nothing line found
    exact absurd (leadsTo_iff.2 found).1 (nothing line (List.mem_of_find?_eq_some found))

/-- By the lines before the one that is taken, none of which reports a build. -/
theorem startedBuild_eq_reported
    (honest : ∀ line, LeadsTo output line → (reportedBy line).isSome = true) :
    startedBuild output = reported output := by
  simp only [leadsTo_iff] at honest
  rw [startedBuild, reported]
  generalize Text.lines output = lines at honest ⊢
  induction lines with
  | nil => rfl
  | cons line rest ih =>
    cases ends : saysStarted line with
    | true =>
      rw [List.find?_cons_of_pos ends] at honest ⊢
      obtain ⟨name, reports⟩ := Option.isSome_iff_exists.1 (honest line rfl)
      obtain ⟨build, two, same⟩ := reportedBy_eq_some_iff.1 reports
      rw [List.findSome?_cons, reports, Option.bind_some, two, same]
      rfl
    | false =>
      have silent : reportedBy line = none := by
        cases reports : reportedBy line with
        | none => rfl
        | some name =>
          rw [saysStarted_iff.2 (endsInStarted_of_reportedBy reports)] at ends
          cases ends
      rw [List.find?_cons_of_neg (by simp [ends])] at honest ⊢
      rw [List.findSome?_cons, silent, ih honest]

end Lines

end Readiness.Cli.Output

namespace Readiness.Scenario

open Cli.Output

section Running

variable {σ : Type} {world : (request : Request) → σ → Option (Answer request × σ)}
variable {ctx : Context} {before after : σ} {ended : Cli.Ended}

/-- The world as the command line client meets it. -/
def shell (world : (request : Request) → σ → Option (Answer request × σ)) (job : Cli.Job) (state : σ) :
    Option (Cli.Outcome × σ) := world (.run job) state

theorem run_ofSession {α : Type} (session : Cli.Session (Except Cli.Failure α)) :
    (Task.ofSession session).run.run world before =
      (session.run (shell world) before).map fun out => (out.1.mapError .command, out.2) := by
  induction session generalizing before with
  | done result => cases result <;> rfl
  | ask job next ih =>
    change (Program.ask (Request.run job) fun answer => (Task.ofSession (next answer)).run).run world
      before = _
    rw [Program.run, Program.run, shell]
    cases world (Request.run job) before with
    | none => rfl
    | some out => exact ih out.1

theorem run_command {command : Cli.Command}
    (answered : world (.run (.run command)) before = some (.ended ended, after))
    (succeeded : ended.succeeded = true) :
    (ctx.run command).run.run world before = some (.ok ended.output, after) := by
  have told : shell world (.run command) before = some (.ended ended, after) := answered
  rw [Context.run, run_ofSession, ctx.client.run_of_ended told, Cli.result, if_pos succeeded]
  rfl

theorem run_startBuild {space config : String} (chosen : ctx.project = some space)
    (answered : world (.run (.run (.startBuild config space))) before = some (.ended ended, after))
    (succeeded : ended.succeeded = true) :
    (Commands.startBuild ctx config).run.run world before =
      some (match startedBuild ended.output.toList with
        | some build => .ok (String.ofList build)
        | none => .error (.assertion ("start-build " ++ config ++ " did not report a build: " ++
            ended.output)), after) := by
  rw [Commands.startBuild, Task.space_bind chosen, Task.run_bind, Program.run_bind,
    run_command answered succeeded, Option.bind_some]
  dsimp only
  cases startedBuild ended.output.toList <;> rfl

end Running

/-- The build that is told is the first word, after its last slash, of the first line that ends in
`started`; without such a line the step fails. Where this line is a report, it is the first one, and the
build is the one reported. -/
theorem started_build_told (output : List Char) :
    (∀ name, startedBuild output = some name ↔ ∃ line first rest, LeadsTo output line ∧
      Text.words line = first :: rest ∧ name = Text.afterLast '/' first) ∧
    (startedBuild output = none ↔ ∀ line ∈ Text.lines output, ¬ EndsInStarted line) ∧
    ((∀ line, LeadsTo output line → (reportedBy line).isSome = true) →
      startedBuild output = reported output) ∧
    ∀ {σ : Type} (world : (request : Request) → σ → Option (Answer request × σ)) (ctx : Context)
      (space config : String) (before after : σ) (ended : Cli.Ended), ctx.project = some space →
      world (.run (.run (.startBuild config space))) before = some (.ended ended, after) →
      ended.succeeded = true → ended.output.toList = output →
      (∀ build, startedBuild output = some build →
        (Commands.startBuild ctx config).run.run world before =
          some (.ok (String.ofList build), after)) ∧
      (startedBuild output = none →
        (Commands.startBuild ctx config).run.run world before =
          some (.error (.assertion ("start-build " ++ config ++ " did not report a build: " ++
            ended.output)), after)) := by
  refine ⟨fun name => startedBuild_eq_some_iff, startedBuild_eq_none_iff, startedBuild_eq_reported, ?_⟩
  rintro σ world ctx space config before after ended chosen answered succeeded rfl
  have ran := run_startBuild chosen answered succeeded
  constructor
  · intro build told
    rw [ran, told]
  · intro silent
    rw [ran, silent]

namespace Upload

def context : Context where
  binary := "oc"
  project := some "shop"
  settings := {
    outputDir := "."
    samplesDir := "samples"
    binary := "oc"
    backend := .cli
    backupRoot := "/backups"
    httpTimeout := 10
    connectTimeout := 30
    timings := ⟨1, 10, 10, 10, 10, 10⟩ }

def output : String := "Uploading . as input\nbuild.build.openshift.io/app-1 started\n"

def ended : Cli.Ended := ⟨some 0, output.toUTF8.toList, []⟩

def world (request : Request) (state : Unit) : Option (Answer request × Unit) :=
  match request with
  | .run _ => some (.ended ended, state)
  | _ => none

end Upload

/-- A report after a line about the upload. -/
theorem started_build_told_upload :
    (∀ line, LeadsTo Upload.output.toList line → (reportedBy line).isSome = true) ∧
    startedBuild Upload.output.toList = reported Upload.output.toList ∧
    (Commands.startBuild Upload.context "app").run.run Upload.world () = some (.ok "app-1", ()) := by
  have found : (Text.lines Upload.output.toList).find? saysStarted =
      some "build.build.openshift.io/app-1 started".toList := by decide +kernel
  have honest : ∀ line, LeadsTo Upload.output.toList line → (reportedBy line).isSome = true := by
    intro line leads
    rw [leadsTo_iff, found] at leads
    obtain rfl := Option.some.inj leads
    decide +kernel
  obtain ⟨-, -, same, told⟩ := started_build_told Upload.output.toList
  refine ⟨honest, same honest, ?_⟩
  exact (told Upload.world Upload.context "shop" "app" () () Upload.ended rfl rfl rfl
    (by decide +kernel)).1 "app-1".toList (by decide +kernel)

/-- A line that only ends in `started` is taken for a report and hides the report after it. -/
theorem warning_taken_for_report :
    let warning := "warning: build app-1 has not started\n"
    let report := "build.build.openshift.io/app-2 started\n"
    startedBuild warning.toList = some "warning:".toList ∧ reported warning.toList = none ∧
      startedBuild (warning ++ report).toList = some "warning:".toList ∧
      reported (warning ++ report).toList = some "app-2".toList := by
  decide +kernel

end Readiness.Scenario
