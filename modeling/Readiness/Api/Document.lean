import Readiness.Cluster
import Readiness.Json.Shape
import Readiness.Query

/-! # Documents of objects

The shapes of the documents with which a server answers about objects, and what is read of them.
The metadata of an object have a fixed set of members; everything else stays as it is. -/
namespace Readiness.Api.Document

open Json (Shape Field Value)

def optional (shape : Shape) (keys : List String) : List Field :=
  keys.map fun key => (key, .optional, shape)

/-- Texts that are empty where they are missing. -/
def filled (keys : List String) : List Field :=
  keys.map fun key => (key, .filled (.string ""), .text)

/-- A document that says what it is has to say so truly. -/
def typed (kind : String) : List Field :=
  [("apiVersion", .fixed "v1", .text), ("kind", .fixed kind, .text)]

def owner : Shape := .object .closed "OwnerReference"
  (filled ["apiVersion", "kind", "name", "uid"] ++
    optional .boolean ["blockOwnerDeletion", "controller"])

def managedFields : Shape := .object .closed "ManagedFieldsEntry"
  (optional .text ["apiVersion", "fieldsType", "manager", "operation", "subresource"] ++
    optional .anything ["fieldsV1"] ++ optional .timestamp ["time"])

def number : Shape := .integer "i64" 63 true

def metadata : Shape := .object .closed "ObjectMeta"
  (optional .text
      ["generateName", "name", "namespace", "resourceVersion", "selfLink", "uid"] ++
    optional .timestamp ["creationTimestamp", "deletionTimestamp"] ++
    optional number ["deletionGracePeriodSeconds", "generation"] ++
    optional (.table .text) ["annotations", "labels"] ++
    optional (.list .text) ["finalizers"] ++
    optional (.list managedFields) ["managedFields"] ++
    optional (.list owner) ["ownerReferences"])

def object : Shape := .object .wide "struct DynamicObject"
  [("metadata", .single (.object []), metadata)]

def listMetadata : Shape := .object .closed "ListMeta"
  (optional .text ["continue", "resourceVersion", "selfLink"] ++
    optional number ["remainingItemCount"])

def list : Shape := .object .wide "struct ObjectList"
  [("metadata", .single (.object []), listMetadata), ("items", .required, .list object)]

def namespaceCondition : Shape := .object .closed "NamespaceCondition"
  (filled ["status", "type"] ++ optional .text ["message", "reason"] ++
    optional .timestamp ["lastTransitionTime"])

def space : Shape := .object .closed "Namespace"
  (typed "Namespace" ++ optional metadata ["metadata"] ++
    optional (.object .closed "NamespaceSpec" (optional (.list .text) ["finalizers"])) ["spec"] ++
    optional (.object .closed "NamespaceStatus"
      (optional (.list namespaceCondition) ["conditions"] ++ optional .text ["phase"])) ["status"])

def version : Shape := .object .closed "Info"
  (filled ["buildDate", "compiler", "gitCommit", "gitTreeState", "gitVersion", "goVersion", "major",
    "minor", "platform"])

/-- A list under a key; a missing one is empty. -/
def listAt (document : Value) (key : String) : List Value :=
  match document.member? key with
  | some (.array items) => items
  | _ => []

/-- An object is called by its name or, without one, by the beginning that its name is to have. -/
def name (document : Value) : String :=
  let metadata := (document.member? "metadata").getD .null
  ((metadata.text? "name").or (metadata.text? "generateName")).getD ""

def reading (document : Value) (path : Option String) : Except FetchError Reading :=
  (Cluster.stateAt document path).map fun state => ⟨name document, state⟩

end Readiness.Api.Document
