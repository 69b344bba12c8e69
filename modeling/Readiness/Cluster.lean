import Readiness.Json.Path.Reader
import Readiness.Query

/-! # Clusters

The kinds of resources, the states of objects and what can be asked of a cluster, however it is
reached. -/
namespace Readiness.Cluster

/-! ## Kinds

A kind may be written by a short name, in the singular or in the plural, in letters of either
case. -/

namespace Kind

/-- The accepted other names of a plural. -/
def aliases : List (String × String) := [
  ("po", "pods"), ("pod", "pods"),
  ("svc", "services"), ("service", "services"),
  ("ns", "namespaces"), ("namespace", "namespaces"),
  ("project", "projects"),
  ("cm", "configmaps"), ("configmap", "configmaps"),
  ("deploy", "deployments"), ("deployment", "deployments"),
  ("csv", "clusterserviceversions"), ("clusterserviceversion", "clusterserviceversions"),
  ("sub", "subscriptions"), ("subs", "subscriptions"), ("subscription", "subscriptions"),
  ("og", "operatorgroups"), ("operatorgroup", "operatorgroups"),
  ("catsrc", "catalogsources"), ("catalogsource", "catalogsources"),
  ("bc", "buildconfigs"), ("buildconfig", "buildconfigs"),
  ("build", "builds"),
  ("dc", "deploymentconfigs"), ("deploymentconfig", "deploymentconfigs"),
  ("is", "imagestreams"), ("imagestream", "imagestreams"),
  ("route", "routes")]

/-- A kind without another name stands for itself, in lower case. -/
def canonical (kind : String) : String := (aliases.lookup (Text.lower kind)).getD (Text.lower kind)

end Kind

/-! ## States

The state of an object is the text at a path into it. Without a path it is the phase, and an object
that has no phase is at least present. -/

def present : String := "Present"

def phase? (object : Json.Value) : Option String :=
  ((object.member? "status").bind (Json.Value.member? "phase")).bind Json.Value.string?

def stateAt (object : Json.Value) : Option String → Except FetchError String
  | none => .ok ((phase? object).getD present)
  | some path =>
    match Json.Path.ofText path with
    | .ok path => .ok (path.extract object)
    | .error e => .error (.invalid e.message)

/-! ## Calls -/

inductive Call where
  | fetch (query : Query)
  | list (kind space : String)
  | hasNamespace (name : String)
  | createNamespace (name : String)
  | ping

def Call.Answer : Call → Type
  | fetch _ => Except FetchError Reading
  | list _ _ => Except FetchError (List Reading)
  | hasNamespace _ => Except FetchError Bool
  | createNamespace _ | ping => Except FetchError Unit

end Readiness.Cluster
