import Readiness.Api.Failure
import Readiness.Json.Shape
import Readiness.Json.Value
import Readiness.Text.Parts

/-! # Exchanges with the API server

A request for a path and the reply to it. A reply with a code of an error holds a status, or is
taken for one. -/
namespace Readiness.Api

inductive Method where
  | get
  | post
  deriving DecidableEq, Repr

def Method.text : Method → String
  | get => "GET"
  | post => "POST"

structure Request where
  method : Method
  path : String
  body : Option Json.Value := none

def Request.title (request : Request) : String := request.method.text ++ " " ++ request.path

inductive Reply where
  | answered (code : Nat) (content : String)
  | broken (reason : String)

/-- A path is made of visible characters without angle brackets and a few others; double quotes stand
only before a question mark, backquotes only after it. -/
def isPathChar (inParameters : Bool) (c : Char) : Bool :=
  let n := c.toNat
  n == 0x21 || (0x24 ≤ n && n ≤ 0x3B) || n == 0x3D || n == 0x3F || (0x40 ≤ n && n ≤ 0x5F) ||
    (0x61 ≤ n && n ≤ 0x7E) || 0x80 ≤ n || (if inParameters then n == 0x60 else n == 0x22)

/-- What is sent of a path: all before a number sign. -/
def sentPart (path : String) : String := String.ofList (path.toList.takeWhile (· != '#'))

def isPath (path : String) : Bool :=
  let sent := (sentPart path).toList
  (sent.takeWhile (· != '?')).all (isPathChar false) &&
    ((sent.dropWhile (· != '?')).all (isPathChar true))

def pathLimit : Nat := 65534

def Request.make (method : Method) (path : String) (body : Option Json.Value) :
    Except String Request :=
  if pathLimit < path.utf8ByteSize then .error "uri too long"
  else if isPath path then .ok ⟨method, sentPart path, body⟩
  else .error "invalid uri character"

namespace Status

def shape : Json.Shape := .object .listed "struct ErrorResponse" [
  ("status", .required, .text), ("message", .single (.string ""), .text),
  ("reason", .single (.string ""), .text), ("code", .required, .integer "u16" 16 false)]

def ofDocument (document : Json.Value) : Option Status := do
  let _ ← document.text? "status"
  return {
    code := ← (document.member? "code").bind Json.Value.nat?
    message := ← document.text? "message"
    reason := ← document.text? "reason" }

/-- The status of a refusal whose content is no status. -/
def unread (code : Nat) (content : String) : Status where
  code := code
  message := Text.quoted content
  reason := "Failed to parse error data"

/-- The status with which a server refuses. The code that it writes counts, and not the code of the
reply. -/
def ofReply (code : Nat) (content : String) : Status :=
  match shape.ofText content with
  | .ok document => (ofDocument document).getD (unread code content)
  | .error _ => unread code content

end Status

/-- The document of a shape that a reply holds. -/
def Reply.read (shape : Json.Shape) : Reply → Except Failure Json.Value
  | broken reason => .error (.service reason)
  | answered code content =>
    if 400 ≤ code ∧ code ≤ 599 then .error (.refused (Status.ofReply code content))
    else match shape.ofText content with
      | .ok document => .ok document
      | .error e => .error (.document e.message)

end Readiness.Api
