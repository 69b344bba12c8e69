import Readiness.Rehearsal.Script
import Readiness.Url

/-! # Scripted pages

A stand-in for the servers of pages. It answers an address with the codes of a script and drops all
other connections. -/
namespace Readiness.Rehearsal

/-- Pages by their address; without a network no request gets through to any of them. -/
structure Pages where
  codes : List (String × List Nat)
  network : Bool

structure Web where
  used : Tally
  requests : List String

namespace Web

def new : Web := ⟨.empty, []⟩

/-- What a request for a page is called: over a secure connection only its host shows. -/
def title (url : Url) : String :=
  if url.secure then
    "CONNECT " ++ String.ofList url.host.text ++ ":" ++ toString (url.service.getD 443)
  else "GET " ++ url.page.text

def isAnswer (code : Nat) : Bool := code == 101 || 200 ≤ code && code ≤ 999

def dropped (url : Url) : String := "error sending request for url (" ++ url.text ++ ")"

/-- The address that a request can be sent to, or why there is none. -/
def target (address : String) : Except String Url :=
  match Url.ofText address with
  | none => .error "builder error"
  | some url =>
    if url.isSendable then .ok url else .error ("builder error for url (" ++ url.text ++ ")")

def load (pages : Pages) (address : String) (web : Web) : Except String Nat × Web :=
  match target address with
  | .error reason => (.error reason, web)
  | .ok url =>
    if !pages.network then (.error (dropped url), web)
    else
      let page := url.page.text
      let web' : Web := ⟨web.used.mark page, web.requests ++ [title url]⟩
      match (pages.codes.lookup page).bind (turn (web.used.count page)) with
      | some code => if url.secure || !isAnswer code then (.error (dropped url), web')
        else (.ok code, web')
      | none => (.error (dropped url), web')

end Web

end Readiness.Rehearsal
