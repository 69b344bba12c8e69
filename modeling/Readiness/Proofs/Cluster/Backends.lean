import Readiness.Cli.Client
import Readiness.Proofs.Api.Client
import Readiness.Proofs.Json.Kept
import Readiness.Proofs.Json.Printed

/-! One object as it is seen through the API server and through commands that print what stands at its
paths. Commands drop the blanks around a text and have no other sign of a missing phase than a blank
output; the API client takes a phase as it is, and only a text for one. What the API client holds of
an object need not be what is served: it reads the metadata by their shape. -/
namespace Readiness

section Trimming

variable {text : List Char}

theorem Text.trim_eq_self (framed : Json.Framed text) : Text.trim text = text := by
  obtain ⟨⟨first, begins, visible, -⟩, ⟨last, ends, visibleToo⟩⟩ := framed
  refine (⟨⟨[], [], by simp, by simp, by simp⟩, ?_, ?_⟩ : Text.Trims text text).eq
  · rintro c here
    obtain rfl := Option.some.inj (begins.symm.trans here)
    exact visible
  · rintro c here
    obtain rfl := Option.some.inj (ends.symm.trans here)
    exact visibleToo

theorem Json.Framed.not_all_blank (framed : Json.Framed text) : text.all Text.isBlank = false := by
  obtain ⟨first, begins, visible, -⟩ := framed.first
  rw [List.all_eq_false]
  exact ⟨first, List.mem_of_head? begins, by simp [visible]⟩

theorem Json.Framed.ne_present (framed : Json.Framed text) : text ≠ Cluster.present.toList := by
  rintro rfl
  obtain ⟨first, begins, -, small⟩ := framed.first
  obtain rfl : 'P' = first := Option.some.inj begins
  exact absurd small (by decide)

end Trimming

namespace Cluster

def phaseAt? (object : Json.Value) : Option Json.Value :=
  (object.member? "status").bind (Json.Value.member? "phase")

theorem ofText_phasePath :
    Json.Path.ofText Cli.Client.phasePath = .ok [.field "status", .field "phase"] := by
  decide +kernel

/-- The phase of an object, if it has any, is a text that shows something. -/
def PlainPhase (object : Json.Value) : Prop :=
  ∀ found, phaseAt? object = some found → found.isNull = true ∨
    ∃ s, found = .string s ∧ Text.isAllBlank s = false

theorem extract_phase (object : Json.Value) :
    Json.Path.extract [.field "status", .field "phase"] object =
      ((phaseAt? object).map Json.Path.shown).getD "" := by
  unfold phaseAt?
  cases status : object.member? "status" with
  | none => simp [Json.Path.extract, Json.Path.targets, Json.Segment.step, status]
  | some status' =>
    cases phase : status'.member? "phase" <;>
      simp [Json.Path.extract, Json.Path.targets, Json.Segment.step, status, phase]

def remade : List String := ["metadata", "apiVersion", "kind"]

structure Holds (held served : Json.Value) : Prop where
  member? : ∀ key ∉ remade, held.member? key = served.member? key

theorem holds_of_read {content : String} {held served : Json.Value}
    (read : Api.Document.object.ofText content = .ok held)
    (written : Json.Value.ofText? content = some served) : Holds held served := by
  refine ⟨fun key kept => (Json.Shape.ofText_keeps read written).member?_eq ?field ?type⟩
  case field =>
    have other : key ≠ "metadata" := fun same => kept (by simp [remade, same])
    simp [Json.Shape.isField, Ne.symm other]
  case type =>
    have other : key ≠ "apiVersion" ∧ key ≠ "kind" := by
      constructor <;> rintro rfl <;> exact kept (by simp [remade])
    simp [Json.Shape.isType, other]

theorem Holds.phaseAt?_eq {held served : Json.Value} (holds : Holds held served) :
    phaseAt? held = phaseAt? served := by
  rw [phaseAt?, phaseAt?, holds.member? "status" (by decide)]

/-- A query asks for the phase, or for something that the API client holds as it is served. -/
def Plain (path : Option String) : Prop :=
  ∀ text, path = some text → ∃ key ∉ remade, ∃ steps, Json.Path.ofText text = .ok (.field key :: steps)

theorem Holds.extract_eq {held served : Json.Value} (holds : Holds held served) {key : String}
    (kept : key ∉ remade) (steps : Json.Path) :
    Json.Path.extract (.field key :: steps) held = Json.Path.extract (.field key :: steps) served := by
  simp only [Json.Path.extract, Json.Path.targets, Json.Segment.step, holds.member? key kept]

/-- The state in which the API client sees an object that it holds, and the one in which the command
line client sees the object that is served. -/
inductive SeenTwice (held served : Json.Value) : Option String → String → String → Prop
  | atPath {path : String} {steps : Json.Path} (parsed : Json.Path.ofText path = .ok steps) :
    SeenTwice held served (some path) (steps.extract held) (Text.trimmed (steps.extract served))
  | noPhase (nothing : ∀ found, phaseAt? served = some found → found.isNull = true) :
    SeenTwice held served none present present
  | phase {s : String} (found : phaseAt? served = some (.string s))
    (visible : Text.isAllBlank s = false) : SeenTwice held served none s (Text.trimmed s)
  | blankPhase {s : String} (found : phaseAt? served = some (.string s))
    (blank : Text.isAllBlank s = true) : SeenTwice held served none s present
  | otherPhase {v : Json.Value} (found : phaseAt? served = some v) (notNull : v.isNull = false)
    (noText : v.string? = none) : SeenTwice held served none present v.text

theorem seenTwice {held served : Json.Value} (holds : Holds held served) {path : Option String}
    {steps : Json.Path} {seen : String}
    (parsed : Json.Path.ofText (path.getD Cli.Client.phasePath) = .ok steps)
    (read : stateAt held path = .ok seen) :
    SeenTwice held served path seen (Cli.Client.stateOf path (steps.extract served)) := by
  cases path with
  | some path =>
    simp only [Option.getD_some] at parsed
    simp only [stateAt, parsed, Except.ok.injEq] at read
    subst read
    exact .atPath parsed
  | none =>
    obtain rfl : _ = steps := Except.ok.inj (ofText_phasePath.symm.trans parsed)
    obtain rfl : ((phaseAt? held).bind Json.Value.string?).getD present = seen :=
      Except.ok.inj read
    rw [extract_phase, holds.phaseAt?_eq]
    cases found : phaseAt? served with
    | none => exact .noPhase fun v here => nomatch found.symm.trans here
    | some v =>
      simp only [Option.map_some, Option.getD_some, Option.bind_some]
      rcases v.null_or_text with rfl | ⟨s, rfl⟩ | ⟨notNull, noText⟩
      · refine .noPhase fun v here => ?_
        obtain rfl := Option.some.inj (found.symm.trans here)
        rfl
      · change SeenTwice held served none s (Cli.Client.stateOf none s)
        cases blank : Text.isAllBlank s with
        | true => simpa [Cli.Client.stateOf, blank] using .blankPhase found blank
        | false => simpa [Cli.Client.stateOf, blank] using .phase found blank
      · have framed := Json.Value.text_framed notNull noText
        rw [Json.Path.shown_eq_text notNull noText, noText]
        have printed : Cli.Client.stateOf none v.text = v.text := by
          simp [Cli.Client.stateOf, Text.isAllBlank, Text.trimmed, framed.not_all_blank,
            Text.trim_eq_self framed]
        rw [printed]
        exact .otherPhase found notNull noText

section Inversion

variable {held served : Json.Value} {seen printed : String}

theorem SeenTwice.of_path {path : String} {steps : Json.Path}
    (parsed : Json.Path.ofText path = .ok steps)
    (twice : SeenTwice held served (some path) seen printed) :
    seen = steps.extract held ∧ printed = Text.trimmed (steps.extract served) := by
  obtain ⟨parsed'⟩ := twice
  obtain rfl := Except.ok.inj (parsed.symm.trans parsed')
  exact ⟨rfl, rfl⟩

theorem SeenTwice.of_phase {s : String} (found : phaseAt? served = some (.string s))
    (visible : Text.isAllBlank s = false) (twice : SeenTwice held served none seen printed) :
    seen = s ∧ printed = Text.trimmed s := by
  cases twice with
  | noPhase nothing => cases nothing _ found
  | phase found' _ =>
    cases found.symm.trans found'
    exact ⟨rfl, rfl⟩
  | blankPhase found' blank =>
    cases found.symm.trans found'
    cases visible.symm.trans blank
  | otherPhase found' _ noText =>
    cases found.symm.trans found'
    cases noText

end Inversion

/-- The two see the same state if and only if the API client sees one that blanks neither begin nor end
and, where no path is given, the phase is no blank text and nothing but a text. -/
theorem SeenTwice.same_iff {held served : Json.Value} (holds : Holds held served)
    {path : Option String} {seen printed : String} (plain : Plain path)
    (twice : SeenTwice held served path seen printed) :
    printed = seen ↔ Text.trimmed seen = seen ∧ (path = none → PlainPhase served) := by
  have trimmed : Text.trimmed present = present := by decide
  cases twice with
  | @atPath path steps parsed =>
    obtain ⟨key, kept, rest, parsed'⟩ := plain path rfl
    obtain rfl : steps = _ := Except.ok.inj (parsed.symm.trans parsed')
    simp [holds.extract_eq kept]
  | noPhase nothing =>
    have plain : PlainPhase served := fun v here => .inl (nothing v here)
    simp [plain, trimmed]
  | phase found visible =>
    have plain : PlainPhase served := fun v here =>
      .inr ⟨seen, (Option.some.inj (found.symm.trans here)).symm, visible⟩
    simp [plain]
  | blankPhase found blank =>
    constructor
    · rintro rfl
      exact absurd blank (by decide)
    · rintro ⟨-, plain⟩
      rcases plain rfl _ found with null | ⟨s, same, visible⟩
      · cases null
      · cases same
        cases blank.symm.trans visible
  | otherPhase found notNull noText =>
    constructor
    · intro same
      exact absurd (congrArg String.toList same) (Json.Value.text_framed notNull noText).ne_present
    · rintro ⟨-, plain⟩
      rcases plain rfl _ found with null | ⟨s, rfl, -⟩
      · cases notNull.symm.trans null
      · cases noText

end Cluster

/-- A reply brings an object: its content writes it. -/
structure Api.Reply.Brings (reply : Api.Reply) (object : Json.Value) : Prop where
  written : ∃ code content, reply = .answered code content ∧ Json.Value.ofText? content = some object

/-- A server answers a client that looks for the resource of a query, and this is what the client holds
of the reply. -/
structure Api.Client.Finds {σ : Type} (server : Api.Request → σ → Option (Api.Reply × σ))
    (client : Api.Client) (q : Query) (before : σ) (reply : Api.Reply) (held : Json.Value)
    (after : σ) : Prop where
  found : ∃ catalog known middle resource request,
    client.discovered.run server before = some ((.ok catalog, known), middle) ∧
    catalog.resolve q.kind = some resource ∧
    Api.Client.named (resource.path q.space) q.name = .ok request ∧
    server request middle = some (reply, after) ∧
    reply.read Api.Document.object = .ok held

/-- The command that reads a query ends well and prints what stands in a document at the path that is
asked for. -/
structure Cli.Client.Prints {τ : Type} (shell : Cli.Job → τ → Option (Cli.Outcome × τ)) (q : Query)
    (start : τ) (document : Json.Value) (finish : τ) : Prop where
  printed : ∃ steps ended, Json.Path.ofText (q.path.getD phasePath) = .ok steps ∧
    shell (.run (.getPath q.kind q.name q.space (q.path.getD phasePath))) start =
      some (.ended ended, finish) ∧
    ended.succeeded = true ∧ ended.output = steps.extract document

theorem Api.Client.exists_finds {σ : Type} {server : Api.Request → σ → Option (Api.Reply × σ)}
    {client known : Api.Client} {q : Query} {before after : σ} {reading : Reading}
    (observed : (client.answer (.fetch q)).run server before = some ((.ok reading, known), after)) :
    ∃ reply held, client.Finds server q before reply held after ∧
      Api.Document.reading held q.path = .ok reading := by
  replace observed : (client.withKind q.kind (fetchOf q)).run server before =
    some ((.ok reading, known), after) := observed
  rw [run_withKind, Option.bind_eq_some_iff] at observed
  obtain ⟨⟨⟨catalog, known'⟩, middle⟩, discovered, observed⟩ := observed
  cases catalog with
  | error e => simp at observed
  | ok catalog =>
    simp only at observed
    cases resolved : catalog.resolve q.kind with
    | none => simp [resolved, unknownKind] at observed
    | some resource =>
      simp only [resolved, Option.elim_some, run_fetchOf] at observed
      cases named : named (resource.path q.space) q.name with
      | error failure => simp [named] at observed
      | ok request =>
        simp only [named, Option.map_map, Option.map_eq_some_iff] at observed
        obtain ⟨⟨reply, after'⟩, replied, same⟩ := observed
        simp only [Function.comp_apply, Prod.mk.injEq] at same
        obtain ⟨⟨read, -⟩, rfl⟩ := same
        unfold taken at read
        cases held : reply.read Api.Document.object with
        | error failure => simp [held] at read
        | ok held' =>
          simp only [held] at read
          exact ⟨reply, held', ⟨catalog, known', middle, resource, request, discovered, resolved,
            named, replied, held⟩, read⟩

section Finding

variable {σ : Type} {server : Api.Request → σ → Option (Api.Reply × σ)} {client : Api.Client}
variable {q : Query} {before after after' : σ} {reply reply' : Api.Reply} {held held' : Json.Value}

theorem Api.Client.Finds.fetch_eq (finds : client.Finds server q before reply held after) :
    ∃ known, (client.answer (.fetch q)).run server before =
      some ((Api.Document.reading held q.path, known), after) := by
  obtain ⟨catalog, known, middle, resource, request, discovered, resolved, named, replied, read⟩ := finds
  refine ⟨known, ?_⟩
  rw [run_fetch_of_replied discovered resolved named replied, taken, read]

theorem Api.Client.Finds.unique (finds : client.Finds server q before reply held after)
    (finds' : client.Finds server q before reply' held' after') : reply = reply' ∧ held = held' := by
  obtain ⟨catalog, known, middle, resource, request, discovered, resolved, named, replied, read⟩ := finds
  obtain ⟨catalog', known', middle', resource', request', discovered', resolved', named', replied',
    read'⟩ := finds'
  obtain ⟨⟨rfl, rfl⟩, rfl⟩ : (catalog = catalog' ∧ known = known') ∧ middle = middle' := by
    simpa using discovered.symm.trans discovered'
  obtain rfl : resource = resource' := by simpa using resolved.symm.trans resolved'
  obtain rfl : request = request' := by simpa using named.symm.trans named'
  obtain ⟨rfl, rfl⟩ : reply = reply' ∧ after = after' := by simpa using replied.symm.trans replied'
  exact ⟨rfl, by simpa using read.symm.trans read'⟩

theorem Api.Client.Finds.holds (finds : client.Finds server q before reply held after)
    {served : Json.Value} (brings : reply.Brings served) : Cluster.Holds held served := by
  obtain ⟨-, -, -, -, -, -, -, -, -, read⟩ := finds
  obtain ⟨code, content, rfl, written⟩ := brings
  refine Cluster.holds_of_read ?_ written
  unfold Api.Reply.read at read
  simp only at read
  split at read
  · cases read
  · split at read
    · next document shaped =>
      obtain rfl := Except.ok.inj read
      exact shaped
    · cases read

end Finding

theorem Cli.Client.Prints.fetch_eq {τ : Type} {shell : Cli.Job → τ → Option (Cli.Outcome × τ)}
    {q : Query} {start finish : τ} {document : Json.Value}
    (prints : Prints shell q start document finish) (client : Cli.Client) :
    ∃ steps, Json.Path.ofText (q.path.getD phasePath) = .ok steps ∧
      (client.answer (.fetch q)).run shell start =
        some (.ok ⟨q.name, stateOf q.path (steps.extract document)⟩, finish) := by
  obtain ⟨steps, ended, parsed, answered, success, output⟩ := prints
  refine ⟨steps, parsed, ?_⟩
  change (client.fetch q).run shell start = _
  rw [Cli.Client.fetch, Program.run_bind, Cli.Client.run, Cli.Client.perform,
    Program.run_bind, Program.run_perform, answered]
  simp [Cli.result, success, output]
  rfl

/-- An object that the API client observes is observed by every command line client too, where the
command prints what stands in the object that is served. Where the query asks for the phase, or for
something outside the metadata and the type, the two see the same state of it if and only if no blanks
are dropped and, without a path, the object has no phase or one that is a text and not blank. -/
theorem fetch_seen_twice {σ : Type} {server : Api.Request → σ → Option (Api.Reply × σ)}
    {client known : Api.Client} {q : Query} {before after : σ} {reading : Reading}
    (observed : (client.answer (.fetch q)).run server before = some ((.ok reading, known), after)) :
    ∃ reply held, client.Finds server q before reply held after ∧
      ∀ served, reply.Brings served → Cluster.Holds held served ∧
        ∀ {τ : Type} (shell : Cli.Job → τ → Option (Cli.Outcome × τ)) (cli : Cli.Client)
          (start finish : τ), Cli.Client.Prints shell q start served finish →
          ∃ state, (cli.answer (.fetch q)).run shell start =
              some (.ok ⟨q.name, state⟩, finish) ∧
            Cluster.SeenTwice held served q.path reading.state state ∧
            (Cluster.Plain q.path → (state = reading.state ↔
              Text.trimmed reading.state = reading.state ∧
                (q.path = none → Cluster.PlainPhase served))) := by
  obtain ⟨reply, held, finds, read⟩ := Api.Client.exists_finds observed
  obtain ⟨seen, stateAt, rfl⟩ : ∃ seen, Cluster.stateAt held q.path = .ok seen ∧
      ⟨Api.Document.name held, seen⟩ = reading := by
    cases at' : Cluster.stateAt held q.path with
    | error e => simp [Api.Document.reading, at', Except.map] at read
    | ok seen => exact ⟨seen, rfl, by simpa [Api.Document.reading, at', Except.map] using read⟩
  refine ⟨reply, held, finds, fun served brings => ?_⟩
  have holds := finds.holds brings
  refine ⟨holds, fun shell cli start finish prints => ?_⟩
  obtain ⟨steps, parsed, answered⟩ := prints.fetch_eq cli
  have twice := Cluster.seenTwice holds parsed stateAt
  exact ⟨_, answered, twice, fun plain => twice.same_iff holds plain⟩

namespace Cluster

/-! A pod of which only the phase differs. -/

def podQuery : Query := ⟨"pod", "web", "shop", none⟩

def podIn (phase : String) : Json.Value :=
  .object [("metadata", .object [("name", .string "web")]),
    ("status", .object [("phase", .string phase)])]

def podReply (phase : String) : Api.Reply := .answered 200 (podIn phase).text

def podServer (phase : String) (request : Api.Request) (_ : Unit) : Option (Api.Reply × Unit) :=
  if request.title = "GET /api/v1/namespaces/shop/pods/web" then some (podReply phase, ()) else none

def podClient : Api.Client := ⟨some [⟨"", "v1", "Pod", "pods", true⟩]⟩

def podShell (phase : String) (job : Cli.Job) (_ : Unit) : Option (Cli.Outcome × Unit) :=
  if job = .run (.getPath "pod" "web" "shop" Cli.Client.phasePath) then
    some (.ended ⟨some 0, phase.toUTF8.toList, []⟩, ())
  else none

def paddedPhase : String := " Running\n"

def phaseQuery : Query := { podQuery with path := some Cli.Client.phasePath }

theorem extract_podIn (phase : String) :
    Json.Path.extract [.field "status", .field "phase"] (podIn phase) = phase :=
  extract_phase (podIn phase)

theorem reading_padded :
    Api.Document.reading (podIn paddedPhase) phaseQuery.path = .ok ⟨"web", paddedPhase⟩ := by
  change (stateAt (podIn paddedPhase) (some Cli.Client.phasePath)).map (Reading.mk "web") = _
  simp only [stateAt, ofText_phasePath, extract_podIn, Except.map]

inductive PodPhase : String → Prop
  | empty : PodPhase ""
  | running : PodPhase "Running"
  | padded : PodPhase paddedPhase

theorem podShell_prints {phase : String} (shown : PodPhase phase) :
    Cli.Client.Prints (podShell phase) podQuery () (podIn phase) () := by
  cases shown <;> exact ⟨_, _, ofText_phasePath, rfl, rfl, by decide +kernel⟩

theorem podReply_brings {phase : String} (shown : PodPhase phase) :
    (podReply phase).Brings (podIn phase) := by
  cases shown <;> exact ⟨_, _, rfl, by decide +kernel⟩

theorem podClient_finds {phase : String} (shown : PodPhase phase) :
    podClient.Finds (podServer phase) podQuery () (podReply phase) (podIn phase) () := by
  cases shown <;> exact ⟨_, _, _, _, _, rfl, rfl, rfl, rfl, by decide +kernel⟩

/-- A pod is seen to run either way, and blanks around its phase are seen by the API client only, with
and without a path. -/
theorem running_seen_twice :
    ((∃ known, (podClient.answer (.fetch podQuery)).run (podServer "Running") () =
        some ((.ok ⟨"web", "Running"⟩, known), ())) ∧
      ((⟨"oc"⟩ : Cli.Client).answer (.fetch podQuery)).run (podShell "Running") () =
        some (.ok ⟨"web", "Running"⟩, ())) ∧
    ((∃ known, (podClient.answer (.fetch podQuery)).run (podServer paddedPhase) () =
        some ((.ok ⟨"web", paddedPhase⟩, known), ())) ∧
      ((⟨"oc"⟩ : Cli.Client).answer (.fetch podQuery)).run (podShell paddedPhase) () =
        some (.ok ⟨"web", "Running"⟩, ())) ∧
    (∃ known, (podClient.answer (.fetch phaseQuery)).run (podServer paddedPhase) () =
        some ((.ok ⟨"web", paddedPhase⟩, known), ())) ∧
      ((⟨"oc"⟩ : Cli.Client).answer (.fetch phaseQuery)).run (podShell paddedPhase) () =
        some (.ok ⟨"web", "Running"⟩, ()) := by
  have trimmed : Text.trimmed paddedPhase = "Running" := by decide
  refine ⟨?running, ?padded, ?atPath⟩
  case running =>
    have found := podClient_finds .running
    obtain ⟨known, observed⟩ := found.fetch_eq
    refine ⟨⟨known, observed⟩, ?_⟩
    obtain ⟨reply, held, finds, seen⟩ := fetch_seen_twice observed
    obtain ⟨rfl, rfl⟩ := finds.unique found
    obtain ⟨state, answered, -, same⟩ :=
      (seen _ (podReply_brings .running)).2 _ ⟨"oc"⟩ () () (podShell_prints .running)
    have plainPhase : PlainPhase (podIn "Running") := fun found here =>
      .inr ⟨"Running", (Option.some.inj here).symm, by decide⟩
    obtain rfl : state = "Running" := (same nofun).2 ⟨by decide, fun _ => plainPhase⟩
    exact answered
  case padded =>
    have found := podClient_finds .padded
    obtain ⟨known, observed⟩ := found.fetch_eq
    refine ⟨⟨known, observed⟩, ?_⟩
    obtain ⟨reply, held, finds, seen⟩ := fetch_seen_twice observed
    obtain ⟨rfl, rfl⟩ := finds.unique found
    obtain ⟨state, answered, twice, -⟩ :=
      (seen _ (podReply_brings .padded)).2 _ ⟨"oc"⟩ () () (podShell_prints .padded)
    obtain ⟨-, rfl⟩ := twice.of_phase rfl (by decide : Text.isAllBlank paddedPhase = false)
    rwa [trimmed] at answered
  case atPath =>
    have found : podClient.Finds (podServer paddedPhase) phaseQuery () (podReply paddedPhase)
        (podIn paddedPhase) () := ⟨(podClient_finds .padded).found⟩
    obtain ⟨known, observed⟩ := found.fetch_eq
    rw [reading_padded] at observed
    refine ⟨⟨known, observed⟩, ?_⟩
    obtain ⟨reply, held, finds, seen⟩ := fetch_seen_twice observed
    obtain ⟨rfl, rfl⟩ := finds.unique found
    obtain ⟨state, answered, twice, -⟩ := (seen _ (podReply_brings .padded)).2 _ ⟨"oc"⟩ () ()
      ⟨(podShell_prints .padded).printed⟩
    obtain ⟨-, rfl⟩ := twice.of_path ofText_phasePath
    rwa [extract_podIn, trimmed] at answered

/-- An empty phase is a state to one of them, and mere presence to the other. -/
theorem empty_phase_seen_differently :
    podClient.Finds (podServer "") podQuery () (podReply "") (podIn "") () ∧
      (podReply "").Brings (podIn "") ∧
      Cli.Client.Prints (podShell "") podQuery () (podIn "") () ∧
      (∃ known, (podClient.answer (.fetch podQuery)).run (podServer "") () =
        some ((.ok ⟨"web", ""⟩, known), ())) ∧
      ((⟨"oc"⟩ : Cli.Client).answer (.fetch podQuery)).run (podShell "") () =
        some (.ok ⟨"web", "Present"⟩, ()) := by
  have finds := podClient_finds .empty
  have prints := podShell_prints .empty
  refine ⟨finds, podReply_brings .empty, prints, finds.fetch_eq, ?_⟩
  obtain ⟨steps, parsed, answered⟩ := prints.fetch_eq ⟨"oc"⟩
  obtain rfl := Except.ok.inj (ofText_phasePath.symm.trans parsed)
  rwa [extract_podIn] at answered

end Cluster

end Readiness
