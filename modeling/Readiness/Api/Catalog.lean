import Readiness.Cluster
import Readiness.Text.Parts

/-! # Catalogs of resources

The resources that a server serves, and the one that a written kind means. -/
namespace Readiness.Api

structure Resource where
  group : String
  /-- The group with its version, or the version alone. -/
  apiVersion : String
  kind : String
  plural : String
  namespaced : Bool
  deriving DecidableEq, Repr

namespace Resource

/-- Where the resources of a namespace lie, or all of them if they belong to none. -/
def path (resource : Resource) (space : String) : String :=
  (if resource.group = "" then "/api/" else "/apis/") ++ resource.apiVersion ++ "/" ++
    (if resource.namespaced then "namespaces/" ++ space ++ "/" else "") ++ resource.plural

/-- Whether a kind in its canonical form, with or without a group, means this resource. -/
def isMeant (resource : Resource) (kind : String) (group : Option String) : Bool :=
  (resource.plural == kind || Text.sameIgnoringCase resource.kind kind) &&
    (match group with
      | none => true
      | some group => resource.group == group)

end Resource

abbrev Catalog := List Resource

namespace Catalog

/-- A kind, and the group after its first point. -/
def parts (kind : String) : String × Option String :=
  match Text.cutOf '.' kind with
  | some (name, group) => (name, some group)
  | none => (kind, none)

def resolve (catalog : Catalog) (kind : String) : Option Resource :=
  let (name, group) := parts kind
  catalog.find? fun resource => resource.isMeant (Cluster.Kind.canonical name) group

end Catalog

end Readiness.Api
