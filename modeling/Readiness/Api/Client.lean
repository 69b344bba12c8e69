import Readiness.Api.Discovery
import Readiness.Api.Document
import Readiness.Cluster

/-! # The API client

A cluster reached through its API server. Kinds are looked up in a catalog that the client makes
when it first needs one, and then keeps. -/
namespace Readiness.Api

structure Client where
  catalog : Option Catalog := none

namespace Client

/-- The catalog, made now if there is none yet. A discovery that fails leaves the client as it
was. -/
def discovered (client : Client) : Session (Except FetchError Catalog × Client) := do
  match client.catalog with
  | some catalog => return (.ok catalog, client)
  | none =>
    match ← Discovery.run with
    | .ok catalog => return (.ok catalog, { client with catalog := some catalog })
    | .error failure => return (.error (failure.asFetch "api discovery"), client)

def withKind {α : Type} (client : Client) (kind : String)
    (use : Resource → Session (Except FetchError α)) : Session (Except FetchError α × Client) := do
  match ← client.discovered with
  | (.error e, client) => return (.error e, client)
  | (.ok catalog, client) =>
    match catalog.resolve kind with
    | none => return (.error (.invalid ("unknown resource kind `" ++ kind ++ "`")), client)
    | some resource => return (← use resource, client)

def requestOf (method : Method) (path : String) (body : Option Json.Value) :
    Except Failure Request :=
  (Request.make method path body).mapError fun detail =>
    .request ("failed to build request: " ++ detail)

def named (path name : String) : Except Failure Request :=
  if name = "" then .error (.request "failed to validate request: A non-empty name is required")
  else requestOf .get (path ++ "/" ++ name) none

def fetchOf (q : Query) (resource : Resource) : Session (Except FetchError Reading) := do
  match ← exchange Document.object (named (resource.path q.space) q.name) with
  | .error failure => return .error (failure.asFetch q.text)
  | .ok document => return Document.reading document q.path

def listContext (kind space : String) : String := kind ++ " -n " ++ space

def listOf (kind space : String) (resource : Resource) :
    Session (Except FetchError (List Reading)) := do
  match ← exchange Document.list (requestOf .get (resource.path space ++ "?") none) with
  | .error failure => return .error (failure.asFetch (listContext kind space))
  | .ok document =>
    return (Document.listAt document "items").mapM fun item => Document.reading item none

def namespaces : String := "/api/v1/namespaces"

def namespaceContext (name : String) : String := "namespace/" ++ name

/-- Only the reason of a refusal tells an absent namespace from a failed look-up. -/
def hasNamespace (name : String) : Session (Except FetchError Bool) := do
  match ← exchange Document.space (named namespaces name) with
  | .ok _ => return .ok true
  | .error (.refused status) =>
    if status.reason = "NotFound" then return .ok false
    else return .error ((Failure.refused status).asFetch (namespaceContext name))
  | .error failure => return .error (failure.asFetch (namespaceContext name))

def namespaceDocument (name : String) : Json.Value :=
  .object [("apiVersion", .string "v1"), ("kind", .string "Namespace"),
    ("metadata", .object [("name", .string name)])]

/-- A namespace that is there already counts as created. -/
def createNamespace (name : String) : Session (Except FetchError Unit) := do
  let request := requestOf .post (namespaces ++ "?") (some (namespaceDocument name))
  match ← exchange Document.space request with
  | .ok _ => return .ok ()
  | .error (.refused status) =>
    if status.code = 409 then return .ok ()
    else return .error ((Failure.refused status).asFetch (namespaceContext name))
  | .error failure => return .error (failure.asFetch (namespaceContext name))

def ping : Session (Except FetchError Unit) := do
  match ← exchange Document.version (requestOf .get "/version" none) with
  | .ok _ => return .ok ()
  | .error failure => return .error (failure.asFetch "apiserver version")

def answer (client : Client) : (call : Cluster.Call) → Session (call.Answer × Client)
  | .fetch q => client.withKind q.kind (fetchOf q)
  | .list kind space => client.withKind kind (listOf kind space)
  | .hasNamespace name => do return (← hasNamespace name, client)
  | .createNamespace name => do return (← createNamespace name, client)
  | .ping => do return (← ping, client)

end Client

end Readiness.Api
