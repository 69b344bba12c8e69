import Readiness.Api.Client
import Readiness.Rehearsal.Script

/-! # A scripted API server

A stand-in for the API server. It describes its resources, answers other requests from a script and
knows nothing else. -/
namespace Readiness.Rehearsal

structure ServedResource where
  plural : String
  kind : String
  namespaced : Bool

structure ServedVersion where
  version : String
  resources : List ServedResource

structure ServedGroup where
  name : String
  versions : List ServedVersion
  preferred : Option String

/-- What a server serves and how it answers; responses are found by method and path. -/
structure Site where
  core : List ServedResource
  groups : List ServedGroup
  responses : List (String × List (Nat × String))

structure Server where
  used : Tally
  requests : List Api.Request
  discoveries : Nat

namespace Server

open Json (Value)

def new : Server := ⟨.empty, [], 0⟩

def text (key value : String) : String × Value := (key, .string value)

def resourceDocument (r : ServedResource) : Value :=
  .ofMembers [text "name" r.plural, text "kind" r.kind, ("namespaced", .bool r.namespaced)]

def resourcesDocument (groupVersion : String) (resources : List ServedResource) : Value :=
  .ofMembers [text "groupVersion" groupVersion,
    ("resources", .array (resources.map resourceDocument))]

def groupVersion (group : ServedGroup) (version : String) : String := group.name ++ "/" ++ version

def versionDocument (group : ServedGroup) (version : String) : Value :=
  .ofMembers [text "groupVersion" (groupVersion group version), text "version" version]

def groupDocument (group : ServedGroup) : Value :=
  .ofMembers ([text "name" group.name,
    ("versions", .array (group.versions.map fun v => versionDocument group v.version))] ++
      (group.preferred.map fun version =>
        ("preferredVersion", versionDocument group version)).toList)

/-- The descriptions that a server gives of itself, each at its path. -/
def descriptions (site : Site) : List (String × Value) :=
  [("/apis", .ofMembers [("groups", .array (site.groups.map groupDocument))]),
    ("/api", .ofMembers [("versions", .array [.string "v1"])]),
    ("/api/v1", resourcesDocument "v1" site.core),
    ("/version", .ofMembers [text "major" "1", text "minor" "29"])] ++
  site.groups.flatMap fun group => group.versions.map fun v =>
    ("/apis/" ++ groupVersion group v.version,
      resourcesDocument (groupVersion group v.version) v.resources)

def isDescription (site : Site) (path : String) : Bool := (descriptions site).any (·.1 == path)

def absent (path : String) : Nat × String :=
  (404, (Value.ofMembers [text "kind" "Status", text "status" "Failure",
    text "message" ("no object at " ++ path), text "reason" "NotFound",
    ("code", .number (.whole 404))]).text)

def reply (site : Site) (request : Api.Request) (server : Server) : Nat × String :=
  let scripted :=
    (site.responses.lookup request.title).bind (turn (server.used.count request.title))
  match scripted with
  | some response => response
  | none =>
    match request.method, (descriptions site).lookup request.path with
    | .get, some document => (200, document.text)
    | _, _ => absent request.path

def serve (site : Site) (request : Api.Request) (server : Server) : Api.Reply × Server :=
  let (code, content) := server.reply site request
  (.answered code content, {
    used := server.used.mark request.title
    requests :=
      if isDescription site request.path then server.requests else server.requests ++ [request]
    discoveries := server.discoveries + if request.path = "/apis" then 1 else 0 })

def run {α : Type} (site : Site) (session : Api.Session α) (server : Server) :
    Option (α × Server) :=
  Program.run (fun request server => some (server.serve site request)) session server

end Server

end Readiness.Rehearsal
