import Readiness.Url.Host

/-! # Addresses of pages

An address names a host, a path there and maybe a query and a part of the page. It is read with
indulgence, since people write addresses, and shown in the one way by which addresses are
compared. -/
namespace Readiness

structure Url where
  secure : Bool
  /-- Who asks, as far as it is no text. A name and a password that are texts are not part of an
  address. -/
  user : List Char
  host : Url.Host
  /-- The number of the service, unless it is the usual one. -/
  service : Option Nat
  path : List (List Char)
  query : Option (List Char)
  fragment : Option (List Char)

namespace Url

/-! ## What is escaped where -/

def fragmentMarks : List Char := [' ', '"', '<', '>', '\x60']
def queryMarks : List Char := [' ', '"', '#', '<', '>', '\'']
def pathMarks : List Char := fragmentMarks ++ ['#', '?', '\x7b', '\x7d']
def userMarks : List Char := pathMarks ++ "/:;=@[\\]^|".toList

/-! ## Paths -/

def isSlash (c : Char) : Bool := c == '/' || c == '\\'

def points : List Char → List Char
  | '%' :: '2' :: c :: rest =>
    if c.toLower = 'e' then '.' :: points rest else '%' :: '2' :: points (c :: rest)
  | c :: rest => c :: points rest
  | [] => []

def isHere (segment : List Char) : Bool := points segment == ['.']

def isUp (segment : List Char) : Bool := points segment == ['.', '.']

/-- The root of a file system, which has nothing above it. -/
def isDrive : List Char → Bool
  | [letter, mark] => letter.isAlpha && (mark == ':' || mark == '|')
  | _ => false

def up : List (List Char) → List (List Char)
  | [] => []
  | last :: rest => if isDrive last then last :: rest else rest

/-- Follows segments from those before them, the last of which comes first. -/
def follow (behind : List (List Char)) : List (List Char) → List (List Char)
  | [] => behind.reverse
  | segment :: rest =>
    let stays := if rest.isEmpty then [[]] else []
    if isUp segment then follow (stays ++ up behind) rest
    else if isHere segment then follow (stays ++ behind) rest
    else follow (escape pathMarks segment :: behind) rest

def pathOf (text : List Char) : List (List Char) :=
  match text with
  | c :: rest => if isSlash c then follow [] (rest.splitOnP isSlash) else [[]]
  | [] => [[]]

/-! ## Reading -/

/-- Blanks at the ends and the ends of lines do not count. -/
def tidied (text : List Char) : List Char :=
  let isBlank (c : Char) : Bool := c.toNat ≤ 0x20
  (((text.dropWhile isBlank).reverse.dropWhile isBlank).reverse).filter
    fun c => c != '\t' && c != '\n' && c != '\r'

def isAuthorityChar (c : Char) : Bool := !isSlash c && c != '?' && c != '#'

/-- The host and what follows it; a colon between brackets belongs to the host. -/
def cutHost (inside : Bool) : List Char → List Char × List Char
  | [] => ([], [])
  | c :: rest =>
    if c = ':' ∧ !inside then ([], c :: rest)
    else
      let (host, rest) := cutHost (c = '[' || inside && c != ']') rest
      (c :: host, rest)

/-- The number of a service after the host; `some none` is the usual one. -/
def serviceOf (secure : Bool) : List Char → Option (Option Nat)
  | ':' :: digits => do
    let value ← if digits.all Char.isDigit then Text.valueIn 10 digits else none
    if 65536 ≤ value then none
    else if digits.isEmpty ∨ value = (if secure then 443 else 80) then some none
    else some (some value)
  | _ => some none

def isText (octets : List UInt8) : Bool := Text.Utf8.encode (Text.Utf8.decoded octets) == octets

/-- What is kept of a name and a password, both of which may be missing. -/
def userOf (text : List Char) : List Char :=
  let (name, password) := (Text.cut ':' text).getD (text, [])
  let isKept :=
    !isText (unescape name) || name.isEmpty && !isText (unescape password)
  let password := if password.isEmpty then [] else ':' :: escape userMarks password
  if isKept then escape userMarks name ++ password ++ ['@'] else []

def ofText (text : String) : Option Url := do
  let (name, rest) ← Text.cut ':' (tidied text.toList)
  let secure ← match String.ofList (name.map Char.toLower) with
    | "http" => some false
    | "https" => some true
    | _ => none
  let rest := rest.dropWhile isSlash
  let authority := rest.takeWhile isAuthorityChar
  let hostText := Text.afterLast '@' authority
  let (hostText, service) := cutHost false hostText
  let host ← Host.ofText hostText
  let service ← serviceOf secure service
  let (rest, fragment) := match Text.cut '#' (rest.dropWhile isAuthorityChar) with
    | some (before, after) => (before, some after)
    | none => (rest.dropWhile isAuthorityChar, none)
  let (path, query) := match Text.cut '?' rest with
    | some (before, after) => (before, some after)
    | none => (rest, none)
  some {
    secure := secure
    user := userOf (authority.take (authority.length - (Text.afterLast '@' authority).length - 1))
    host := host
    service := service
    path := pathOf path
    query := query.map (escape queryMarks)
    fragment := fragment.map (escape fragmentMarks)
  }

/-! ## Showing -/

def place (url : Url) : List Char :=
  url.host.text ++ (url.service.map fun value => ':' :: Nat.toDigits 10 value).getD []

def chars (url : Url) : List Char :=
  (if url.secure then "https" else "http").toList ++ "://".toList ++ url.user ++ url.place ++
    url.path.flatMap ('/' :: ·) ++ (url.query.map ('?' :: ·)).getD [] ++
    (url.fragment.map ('#' :: ·)).getD []

def text (url : Url) : String := String.ofList url.chars

/-- What is asked for: a part of a page is found in the page. -/
def page (url : Url) : Url := { url with fragment := none }

def lengthLimit : Nat := 65534

def isSendable (url : Url) : Bool :=
  url.chars.length ≤ lengthLimit &&
    !url.host.text.any ['"', '\x60', '\x7b', '\x7d'].contains

end Url

end Readiness
