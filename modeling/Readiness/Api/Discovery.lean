import Readiness.Api.Catalog
import Readiness.Api.Document
import Readiness.Api.Exchange
import Readiness.Api.Version
import Readiness.Program

/-! # Discovery

A server describes what it serves: its groups, the versions of each and the resources of each
version. The core resources, which have no group, come last. Of each group only the preferred
version counts or, when the group prefers none, the best one. -/
namespace Readiness.Api

abbrev Session := Program Request fun _ => Reply

/-- The document of a shape that the server answers to a request. -/
def exchange (shape : Json.Shape) (request : Except Failure Request) :
    Session (Except Failure Json.Value) :=
  match request with
  | .error failure => pure (.error failure)
  | .ok request => do return (← Program.perform request).read shape

namespace Discovery

open Document (optional filled typed listAt)
open Json (Shape)

/-- The document at a path of which a part may come from the server. -/
def load (shape : Shape) (path : String) : Session (Except Failure Json.Value) :=
  exchange shape ((Request.make .get path none).mapError .path)

def groupVersionShape : Shape :=
  .object .closed "GroupVersionForDiscovery" (filled ["groupVersion", "version"])

def addressesShape : Shape :=
  .list (.object .closed "ServerAddressByClientCIDR" (filled ["clientCIDR", "serverAddress"]))

def groupShape : Shape := .object .closed "APIGroup"
  (typed "APIGroup" ++ filled ["name"] ++ optional groupVersionShape ["preferredVersion"] ++
    optional addressesShape ["serverAddressByClientCIDRs"] ++
    optional (.list groupVersionShape) ["versions"])

def groupsShape : Shape := .object .closed "APIGroupList"
  (typed "APIGroupList" ++ optional (.list groupShape) ["groups"])

def resourceShape : Shape := .object .closed "APIResource"
  (filled ["kind", "name", "singularName"] ++
    optional .text ["group", "storageVersionHash", "version"] ++
    optional (.list .text) ["categories", "shortNames", "verbs"] ++
    optional .boolean ["namespaced"])

def resourcesShape : Shape := .object .closed "APIResourceList"
  (typed "APIResourceList" ++ filled ["groupVersion"] ++
    optional (.list resourceShape) ["resources"])

def versionsShape : Shape := .object .closed "APIVersions"
  (typed "APIVersions" ++ optional addressesShape ["serverAddressByClientCIDRs"] ++
    optional (.list .text) ["versions"])

structure Edition where
  version : String
  resources : List Resource

structure Group where
  name : String
  editions : List Edition
  preferred : Option String

/-- A group and its version, which a slash joins. A version alone belongs to no group. -/
def groupOf (groupVersion : String) : String × String :=
  (Text.cutOf '/' groupVersion).getD ("", groupVersion)

def versionPath (group version : String) : String :=
  if group = "" then version else group ++ "/" ++ version

def pluralOf (entry : Json.Value) : String := (entry.text? "name").getD ""

/-- Whether the first entry for a plural says that its resources belong to namespaces. -/
def isNamespaced (entries : List Json.Value) (plural : String) : Bool :=
  let entry := entries.find? fun entry => pluralOf entry == plural
  ((entry.bind (Json.Value.member? "namespaced")).bind Json.Value.bool?).getD false

/-- Parts of resources, which have a slash in their name, are no resources. -/
def resourcesOf (document : Json.Value) : List Resource :=
  let (group, version) := groupOf ((document.text? "groupVersion").getD "")
  let entries := listAt document "resources"
  (entries.filter fun entry => !Text.contains (pluralOf entry) "/").map fun entry => {
    group := (entry.text? "group").getD group
    apiVersion := versionPath group version
    kind := (entry.text? "kind").getD ""
    plural := pluralOf entry
    namespaced := isNamespaced entries (pluralOf entry) }

def edition (root version path : String) : Session (Except Failure Edition) := do
  match ← load resourcesShape (root ++ path) with
  | .error failure => return .error failure
  | .ok document => return .ok ⟨version, resourcesOf document⟩

/-- The editions of the listed versions, each with its path, until one fails. -/
def editions (root : String) : List (String × String) → Session (Except Failure (List Edition))
  | [] => pure (.ok [])
  | (version, path) :: rest => do
    match ← edition root version path with
    | .error failure => return .error failure
    | .ok first => return (← editions root rest).map (first :: ·)

def group (root name : String) (preferred : Option String) (versions : List (String × String)) :
    Session (Except Failure Group) := do
  if versions.isEmpty then return .error (.discovery (.emptyGroup name))
  else return (← editions root versions).map fun editions => ⟨name, editions, preferred⟩

def describedGroup (entry : Json.Value) : Session (Except Failure Group) :=
  let versions := (listAt entry "versions").map fun version =>
    ((version.text? "version").getD "", (version.text? "groupVersion").getD "")
  let preferred := (entry.member? "preferredVersion").bind fun version => version.text? "version"
  group "/apis/" ((entry.text? "name").getD "") preferred versions

def describedGroups : List Json.Value → Session (Except Failure (List Group))
  | [] => pure (.ok [])
  | entry :: rest => do
    match ← describedGroup entry with
    | .error failure => return .error failure
    | .ok first => return (← describedGroups rest).map (first :: ·)

def coreGroup : Session (Except Failure Group) := do
  match ← load versionsShape "/api" with
  | .error failure => return .error failure
  | .ok document =>
    let versions := (listAt document "versions").filterMap Json.Value.string?
    group "/api/" "" (some "v1") (versions.map fun version => (version, version))

/-- The edition of a group that counts. -/
def Group.chosen (group : Group) : Option Edition :=
  let ranked := group.editions.mergeSort fun a b =>
    (Version.ofText a.version).notAfter (Version.ofText b.version)
  match group.preferred with
  | some version => ranked.find? (·.version == version)
  | none => ranked.head?

def Group.resources (group : Group) : List Resource := ((group.chosen).map (·.resources)).getD []

/-- A later group with the name of an earlier one takes its place. -/
def catalogOf (groups : List Group) : Catalog :=
  ((groups.foldl (fun kept group => kept.filter (·.name != group.name) ++ [group]) []).map
    Group.resources).flatten

def run : Session (Except Failure Catalog) := do
  match ← load groupsShape "/apis" with
  | .error failure => return .error failure
  | .ok document =>
    match ← describedGroups (listAt document "groups") with
    | .error failure => return .error failure
    | .ok groups =>
      match ← coreGroup with
      | .error failure => return .error failure
      | .ok core => return .ok (catalogOf (groups ++ [core]))

end Discovery

end Readiness.Api
