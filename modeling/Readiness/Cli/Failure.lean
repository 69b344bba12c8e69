import Readiness.Query
import Readiness.Text.Parts

/-! # Failed commands

Why a command failed. A command that ended with an error tells why only in words, and the words
are searched in a fixed order: lack of access prevails over an unknown kind, and that over a
resource that is not there. -/
namespace Readiness.Cli

inductive Failure where
  | binaryNotFound (binary : String)
  | notStarted (command reason : String)
  | notFound (command complaint : String)
  | unauthorized (command complaint : String)
  | unknownKind (command complaint : String)
  | failed (command : String) (code : Option Int) (complaint : String)
  | interrupted (reason : String)
  deriving DecidableEq, Repr

namespace Failure

def accessWords : List String :=
  ["unauthorized", "forbidden", "must be logged in", "you must log in"]

def kindWords : List String := ["doesn't have a resource type", "no matches for kind"]

def absenceWords : List String := ["notfound", "not found"]

/-- The failure of a command that ended with an error. -/
def ofExit (command : String) (code : Option Int) (complaint : String) : Failure :=
  let words := Text.lower complaint
  if accessWords.any (Text.contains words) then unauthorized command complaint
  else if kindWords.any (Text.contains words) then unknownKind command complaint
  else if absenceWords.any (Text.contains words) then notFound command complaint
  else failed command code complaint

def codeText : Option Int → String
  | none => "None"
  | some code => "Some(" ++ toString code ++ ")"

def message : Failure → String
  | binaryNotFound binary => "`" ++ binary ++ "` not found in PATH"
  | notStarted command reason => "failed to run `" ++ command ++ "`: " ++ reason
  | notFound command complaint => "`" ++ command ++ "`: resource not found: " ++ complaint
  | unauthorized command complaint => "`" ++ command ++ "`: unauthorized: " ++ complaint
  | unknownKind command complaint => "`" ++ command ++ "`: unknown resource type: " ++ complaint
  | failed command code complaint =>
    "`" ++ command ++ "` exited with " ++ codeText code ++ ": " ++ complaint
  | interrupted reason => "command task failed: " ++ reason

def asFetch (failure : Failure) : FetchError :=
  match failure with
  | notFound .. => .notFound failure.message
  | unauthorized .. => .unauthorized failure.message
  | binaryNotFound .. | unknownKind .. => .invalid failure.message
  | notStarted .. | failed .. | interrupted .. => .transient failure.message

end Failure

end Readiness.Cli
