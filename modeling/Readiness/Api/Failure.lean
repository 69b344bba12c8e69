import Readiness.Query
import Readiness.Text.Quoted

/-! # Failed requests

Why a request to the API server failed, and what that means for a read: the code of a refused
request decides, whatever its words. -/
namespace Readiness.Api

/-- The status with which a server refuses a request. -/
structure Status where
  code : Nat
  message : String
  reason : String
  deriving DecidableEq, Repr

inductive CredentialFault where
  | command (detail : String)
  | notRefreshable
  | commandMissing
  deriving DecidableEq, Repr

def CredentialFault.text : CredentialFault → String
  | command detail => "failed exec auth: " ++ detail
  | notRefreshable => "tried to refresh a token and got a non-refreshable token response"
  | commandMissing => "command must be specified to use exec authentication plugin"

/-- What is wrong with the description that a server gives of its resources. -/
inductive DiscoveryFault where
  | missingKind (name : String)
  | missingGroup (name : String)
  | missingResource (name : String)
  | emptyGroup (name : String)
  | badGroupVersion (text : String)
  deriving DecidableEq, Repr

def DiscoveryFault.text : DiscoveryFault → String
  | missingKind name => "Missing Kind: " ++ name
  | missingGroup name => "Missing Api Group: " ++ name
  | missingResource name => "Missing Resource: " ++ name
  | emptyGroup name => "Empty Api Group: " ++ name
  | badGroupVersion text => "Invalid GroupVersion: " ++ text

inductive Failure where
  | refused (status : Status)
  | credentials (fault : CredentialFault)
  | configuration (detail : String)
  | discovery (fault : DiscoveryFault)
  /-- The request could not be put together. -/
  | request (detail : String)
  /-- A path that the server gave is none. -/
  | path (detail : String)
  | service (detail : String)
  | events (detail : String)
  | lineTooLong
  | tlsMissing
  /-- The answer is no document of the expected form. -/
  | document (detail : String)
  deriving DecidableEq, Repr

namespace Failure

def text : Failure → String
  | refused status =>
    "ApiError: " ++ status.message ++ ": " ++ status.reason ++
      " (ErrorResponse \x7b status: \"Failure\", message: " ++ Text.quoted status.message ++
      ", reason: " ++ Text.quoted status.reason ++ ", code: " ++ toString status.code ++ " \x7d)"
  | credentials fault => "auth error: " ++ fault.text
  | configuration detail => "Failed to infer configuration: " ++ detail
  | discovery fault => "Error from discovery: " ++ fault.text
  | request detail => "Failed to build request: " ++ detail
  | path detail => "HttpError: " ++ detail
  | service detail => "ServiceError: " ++ detail
  | events detail => "Error reading events stream: " ++ detail
  | lineTooLong => "Error finding newline character"
  | tlsMissing => "TLS required but no TLS stack selected"
  | document detail => "Error deserializing response: " ++ detail

def ofStatus (status : Status) (message : String) : FetchError :=
  match status.code with
  | 404 => .notFound message
  | 401 | 403 => .unauthorized message
  | 400 | 422 => .invalid message
  | _ => .transient message

def asFetch (context : String) (failure : Failure) : FetchError :=
  let about (detail : String) := context ++ ": " ++ detail
  match failure with
  | refused status => ofStatus status (about status.message)
  | credentials fault => .unauthorized (about fault.text)
  | configuration detail => .invalid (about detail)
  | discovery fault => .invalid (about fault.text)
  | other => .transient (about other.text)

/-- The words of one who could not even become a client. -/
def clientText (failure : Failure) : String :=
  "failed to create kubernetes client: " ++ failure.text

end Failure

end Readiness.Api
