import Readiness.Api.Client
import Readiness.Proofs.Scenario.Choosing
import Readiness.Rehearsal.Server

/-! Scenarios that choose a project through an API server. One that comes too late to create the
project takes the conflict for success and goes on. -/
namespace Readiness.Scenario

/-- An API server that may get the project `name`. What it says of itself does not depend on that. -/
structure ProjectServer (name : String) (σ : Type) extends Host Api.Request Api.Reply σ where
  /-- The request by which the project is looked for, and later read. -/
  look : Api.Request
  look_eq : Api.Client.named Api.Client.namespaces name = .ok look
  /-- The request that creates the project. -/
  creation : Api.Request
  creation_eq : Api.Client.requestOf .post (Api.Client.namespaces ++ "?")
    (some (Api.Client.namespaceDocument name)) = .ok creation
  absent : ∀ state, has state = false → ∃ status,
    (serve look state).1.read Api.Document.space = .error (.refused status) ∧
      status.reason = "NotFound"
  present : ∀ state, has state = true → ∃ document,
    (serve look state).1.read Api.Document.space = .ok document
  active : ∀ state, has state = true → ∃ document,
    (serve look state).1.read Api.Document.object = .ok document ∧
      Cluster.phase? document = some "Active"
  created : ∀ state, has state = false → has (serve creation state).2 = true ∧ ∃ document,
    (serve creation state).1.read Api.Document.space = .ok document
  conflict : ∀ state, has state = true → ∃ status,
    (serve creation state).1.read Api.Document.space = .error (.refused status) ∧
      status.code = 409
  /-- What the server says of itself, the same at all times. -/
  described : Api.Request → Option Api.Reply
  steady : ∀ request answer, described request = some answer →
    ∀ state, (serve request state).1 = answer
  /-- What a client makes of that. -/
  catalog : Api.Catalog
  discovers : Api.Discovery.run.run (fun request (_ : Unit) => (described request).map (·, ())) () =
    some (.ok catalog, ())
  resource : Api.Resource
  resolves : catalog.resolve "namespace" = some resource
  path : resource.path name = Api.Client.namespaces

section Server

variable {name : String} {σ : Type} (server : ProjectServer name σ) {made : Bool}
variable {past : List (Api.Request × Bool)} (client : Api.Client)

theorem ensures_exchange {host : Host Api.Request Api.Reply σ} {α : Type}
    {post : Bool → List (Api.Request × Bool) → α → Prop} {shape : Json.Shape}
    {request : Api.Request} {next : Except Api.Failure Json.Value → Api.Session α}
    (rest : ∀ state, (made = true → host.has state = true) →
      Ensures host post (exchanged (next ((host.serve request state).1.read shape)))
        (host.has (host.serve request state).2) (past ++ [(request, host.has state)])) :
    Ensures host post (exchanged ((Api.exchange shape (.ok request)).bind next)) made past := rest

theorem ProjectServer.ensures_hasNamespace :
    Ensures server.toHost (fun _ _ out => ∃ there, out.1 = .ok there ∧ out.2 = client)
      (exchanged (client.answer (.hasNamespace name))) made past := by
  change Ensures _ _ (exchanged (Program.bind (Program.bind (Api.exchange Api.Document.space
    (Api.Client.named Api.Client.namespaces name)) _) _)) made past
  rw [server.look_eq, Program.bind_assoc]
  refine ensures_exchange fun state _ => ?_
  cases there : server.has state with
  | true =>
    obtain ⟨document, read⟩ := server.present state there
    rw [read]
    exact ⟨true, rfl, rfl⟩
  | false =>
    obtain ⟨status, read, reason⟩ := server.absent state there
    rw [read]
    change Ensures _ _ (exchanged (Program.bind (if status.reason = "NotFound" then _ else _) _)) _ _
    rw [if_pos reason]
    exact ⟨false, rfl, rfl⟩

/-- A project that is there already counts as created. -/
theorem ProjectServer.ensures_createNamespace :
    Ensures server.toHost (fun made _ out => made = true ∧ out.1 = .ok () ∧ out.2 = client)
      (exchanged (client.answer (.createNamespace name))) made past := by
  change Ensures _ _ (exchanged (Program.bind (Program.bind (Api.exchange Api.Document.space
    (Api.Client.requestOf .post (Api.Client.namespaces ++ "?") _)) _) _)) made past
  rw [server.creation_eq, Program.bind_assoc]
  refine ensures_exchange fun state _ => ?_
  cases there : server.has state with
  | true =>
    obtain ⟨status, read, code⟩ := server.conflict state there
    rw [read]
    change Ensures _ _ (exchanged (Program.bind (if status.code = 409 then _ else _) _)) _ _
    rw [if_pos code]
    exact ⟨server.kept _ state there, rfl, rfl⟩
  | false =>
    obtain ⟨made, document, read⟩ := server.created state there
    rw [read]
    exact ⟨made, rfl, rfl⟩

/-- The catalog that the client has already, if any, is that of the server. -/
def ProjectServer.Knows (client : Api.Client) : Prop :=
  ∀ catalog ∈ client.catalog, catalog = server.catalog

variable {client : Api.Client} (knows : server.Knows client)

include knows

theorem ProjectServer.ensures_discovered :
    Ensures server.toHost (fun made _ out => made = true ∧ out.1 = .ok server.catalog)
      (exchanged client.discovered) true past := by
  obtain ⟨catalog⟩ := client
  cases catalog with
  | some catalog => exact ⟨rfl, congrArg Except.ok (knows catalog rfl)⟩
  | none =>
    change Ensures _ _ (exchanged (Program.bind Api.Discovery.run _)) true past
    rw [exchanged_bind]
    apply (ensures_of_steady server.steady server.discovers past).bind
    rintro made past _ ⟨rfl, rfl⟩
    exact ⟨rfl, rfl⟩

theorem ProjectServer.ensures_withKind {α : Type} {post : Except FetchError α → Prop}
    (use : Api.Resource → Api.Session (Except FetchError α))
    (used : ∀ past, Ensures server.toHost (fun _ _ answer => post answer)
      (exchanged (use server.resource)) true past) :
    Ensures server.toHost (fun _ _ out => post out.1)
      (exchanged (client.withKind "namespace" use)) true past := by
  change Ensures _ _ (exchanged (Program.bind client.discovered _)) true past
  rw [exchanged_bind]
  apply (server.ensures_discovered knows).bind
  rintro _ past ⟨_, client⟩ ⟨rfl, rfl⟩
  simp only [server.resolves]
  change Ensures _ _ (exchanged (Program.bind (use server.resource) _)) true past
  rw [exchanged_bind]
  exact (used past).bind fun _ _ _ here => here

theorem ProjectServer.ensures_fetch :
    Ensures server.toHost (fun _ _ out => IsActive out.1)
      (exchanged (client.answer (.fetch (Project.query name)))) true past := by
  apply server.ensures_withKind knows (Api.Client.fetchOf (Project.query name))
  intro past
  change Ensures _ _ (exchanged (Program.bind (Api.exchange Api.Document.object
    (Api.Client.named (server.resource.path name) name)) _)) true past
  rw [server.path, server.look_eq]
  refine ensures_exchange fun state known => ?_
  obtain ⟨document, read, phase⟩ := server.active state (known rfl)
  rw [read]
  refine ⟨⟨Api.Document.name document, "Active"⟩, ?_, rfl⟩
  change (Except.ok ((Cluster.phase? document).getD Cluster.present)).map _ = _
  rw [phase]
  rfl

theorem ProjectServer.ensures_choose (ctx : Context) :
    Ensures server.toHost (fun _ _ result => result = .ok { ctx with project := some name })
      ((Project.choose ctx name).wired Api.Client.answer client) false [] := by
  have ends : Ensures server.toHost (fun _ _ out => out.1 = .ok { ctx with project := some name })
      ((Project.choose ctx name).run.handleWith (wire Api.Client.answer) client) false [] := by
    refine Scenario.ensures_choose ctx name (fun _ _ _ memory => memory = client)
      (server.ensures_hasNamespace client) ?found ?missing
    case found =>
      intro _ _ _ _
      rfl
    case missing =>
      rintro made past memory rfl
      refine ensures_create ctx name (server.ensures_createNamespace memory) ?failed ?rest
      case failed =>
        rintro _ _ _ _ ⟨_, impossible, _⟩
        cases impossible
      case rest =>
        rintro _ past _ ⟨rfl, _, rfl⟩
        exact (server.ensures_fetch knows).mono fun _ _ _ active => ⟨active, rfl⟩
  exact ends.bind fun _ _ _ here => here

end Server

section Rehearsed

variable {answer : Except Api.Failure Json.Value}

theorem exists_refused (p : Api.Status → Prop) [DecidablePred p]
    (holds : (match answer with
      | .error (.refused status) => decide (p status)
      | _ => false) = true) : ∃ status, answer = .error (.refused status) ∧ p status := by
  split at holds
  · exact ⟨_, rfl, of_decide_eq_true holds⟩
  · cases holds

theorem exists_document (p : Json.Value → Prop) [DecidablePred p]
    (holds : (match answer with
      | .ok document => decide (p document)
      | _ => false) = true) : ∃ document, answer = .ok document ∧ p document := by
  split at holds
  · exact ⟨_, rfl, of_decide_eq_true holds⟩
  · cases holds

theorem exists_read (holds : answer.isOk = true) : ∃ document, answer = .ok document := by
  cases answer with
  | error => cases holds
  | ok document => exact ⟨document, rfl⟩

end Rehearsed

namespace Shop

def namespaces : Api.Resource := ⟨"", "v1", "Namespace", "namespaces", false⟩

def described (request : Api.Request) : Option Api.Reply :=
  let site : Rehearsal.Site :=
    ⟨[⟨namespaces.plural, namespaces.kind, namespaces.namespaced⟩], [], []⟩
  match request.method, (Rehearsal.Server.descriptions site).lookup request.path with
  | .get, some document => some (.answered 200 document.text)
  | _, _ => none

def active : Api.Reply :=
  .answered 200 (Json.Value.ofMembers [
    ("metadata", .ofMembers [Rehearsal.Server.text "name" "shop"]),
    ("status", .ofMembers [Rehearsal.Server.text "phase" "Active"])]).text

def refused (code : Nat) (reason : String) : Api.Reply :=
  .answered code (Json.Value.ofMembers [Rehearsal.Server.text "status" "Failure",
    Rehearsal.Server.text "reason" reason, ("code", .number (.whole code))]).text

def serve (request : Api.Request) (there : Bool) : Api.Reply × Bool :=
  match described request with
  | some reply => (reply, there)
  | none =>
    if request.title = "GET /api/v1/namespaces/shop" then
      (if there then active else refused 404 "NotFound", there)
    else if request.title = "POST /api/v1/namespaces?" then
      (if there then refused 409 "AlreadyExists" else active, true)
    else (refused 404 "NotFound", there)

theorem serve_kept (request : Api.Request) : (serve request true).2 = true := by
  unfold serve
  split
  · rfl
  · split
    · rfl
    · split <;> rfl

/-- A server that may get the project `shop`, of which the state tells whether it is there. -/
def server : ProjectServer "shop" Bool where
  serve := serve
  has := id
  kept := by
    rintro request _ rfl
    exact serve_kept request
  look := ⟨.get, "/api/v1/namespaces/shop", none⟩
  look_eq := rfl
  creation := ⟨.post, "/api/v1/namespaces?", some (Api.Client.namespaceDocument "shop")⟩
  creation_eq := rfl
  absent := by
    rintro _ rfl
    exact exists_refused (·.reason = "NotFound") (by decide +kernel)
  present := by
    rintro _ rfl
    exact exists_read (by decide +kernel)
  active := by
    rintro _ rfl
    exact exists_document (fun document => Cluster.phase? document = some "Active")
      (by decide +kernel)
  created := by
    rintro _ rfl
    exact ⟨by decide, exists_read (by decide +kernel)⟩
  conflict := by
    rintro _ rfl
    exact exists_refused (·.code = 409) (by decide +kernel)
  described := described
  steady request reply known state := by rw [serve, known]
  catalog := [namespaces]
  discovers := Program.run_eq_ok (by decide +kernel)
  resource := namespaces
  resolves := by decide
  path := by decide

end Shop

end Readiness.Scenario
