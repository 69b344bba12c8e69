import Readiness.Json.Path
import Readiness.Text.Parts

/-! # Reading paths

A path is written as names after points and subscripts in brackets, with braces around the whole
or without, as in `{.status.conditions[0].type}`. A backslash takes from the character after it
any meaning it has in a name; but a name that is a star stands for all members, whether there is a
backslash before the star or not. -/
namespace Readiness.Json.Path

inductive Fault where
  | unbalancedBraces
  | danglingEscape
  | emptyName
  | unclosedBracket
  | unsupportedSubscript
  | expectedSegment
  deriving DecidableEq, Repr

def Fault.text : Fault → String
  | unbalancedBraces => "unbalanced braces"
  | danglingEscape => "dangling escape"
  | emptyName => "empty field name"
  | unclosedBracket => "unclosed bracket"
  | unsupportedSubscript => "unsupported subscript"
  | expectedSegment => "expected `.` or `[`"

def complaint (path reason : String) : String := "invalid json path `" ++ path ++ "`: " ++ reason

structure Error where
  path : String
  fault : Fault
  deriving DecidableEq, Repr

def Error.message (e : Error) : String := complaint e.path e.fault.text

/-- A name, which ends before a point or an opening bracket, and what follows it. -/
def name : List Char → Except Fault (List Char × List Char)
  | [] => .ok ([], [])
  | ['\\'] => .error .danglingEscape
  | '\\' :: c :: rest => (name rest).map fun (chars, rest) => (c :: chars, rest)
  | c :: rest =>
    if c = '.' ∨ c = '[' then .ok ([], c :: rest)
    else (name rest).map fun (chars, rest) => (c :: chars, rest)

theorem length_of_name {text chars rest : List Char} (h : name text = .ok (chars, rest)) :
    rest.length ≤ text.length := by
  fun_induction name text generalizing chars rest with
  | case1 => simp_all
  | case2 => simp at h
  | case3 c more ih =>
    cases hm : name more with
    | error => simp [hm, Except.map] at h
    | ok pair =>
      simp only [hm, Except.map, Except.ok.injEq, Prod.mk.injEq] at h
      have := ih hm
      simp only [List.length_cons, ← h.2]
      omega
  | case4 => simp_all
  | case5 c more _ _ _ ih =>
    cases hm : name more with
    | error => simp [hm, Except.map] at h
    | ok pair =>
      simp only [hm, Except.map, Except.ok.injEq, Prod.mk.injEq] at h
      have := ih hm
      simp only [List.length_cons, ← h.2]
      omega

/-- The segment that a name stands for. -/
def named (chars : List Char) : Segment :=
  if chars = ['*'] then .wildcard else .field (String.ofList chars)

def unquoted : List Char → Option (List Char)
  | '\'' :: rest => if rest.getLast? = some '\'' then some rest.dropLast else none
  | _ => none

/-- The segment that stands between brackets. -/
def subscript (body : List Char) : Except Fault Segment :=
  let body := Text.trim body
  if body = ['*'] then .ok .wildcard
  else match unquoted body with
    | some key => .ok (.field (String.ofList key))
    | none =>
      match Text.readNumeral Text.wordBound body with
      | some n => .ok (.index n)
      | none => .error .unsupportedSubscript

theorem length_of_cut {mark : Char} {text before after : List Char}
    (h : Text.cut mark text = some (before, after)) : after.length < text.length := by
  induction text generalizing before after with
  | nil => simp [Text.cut] at h
  | cons c rest ih =>
    simp only [Text.cut] at h
    split at h
    · simp only [Option.some.injEq, Prod.mk.injEq] at h
      simp [← h.2]
    · cases hr : Text.cut mark rest with
      | none => simp [hr] at h
      | some pair =>
        simp only [hr, Option.map_some, Option.some.injEq, Prod.mk.injEq] at h
        have := ih hr
        simp only [List.length_cons, ← h.2]
        omega

def segment : List Char → Except Fault (Segment × List Char)
  | '.' :: text =>
    (name text).bind fun (chars, rest) =>
      if chars = [] then .error .emptyName else .ok (named chars, rest)
  | '[' :: text =>
    match Text.cut ']' text with
    | none => .error .unclosedBracket
    | some (body, rest) => (subscript body).map (·, rest)
  | _ => .error .expectedSegment

theorem length_of_segment {text rest : List Char} {s : Segment}
    (h : segment text = .ok (s, rest)) : rest.length < text.length := by
  unfold segment at h
  split at h
  · next inner =>
    cases found : name inner with
    | error => simp [found, Except.bind] at h
    | ok pair =>
      have := length_of_name found
      by_cases empty : pair.1 = []
      · simp [found, empty, Except.bind] at h
      · simp only [found, empty, Except.bind, if_false, Except.ok.injEq, Prod.mk.injEq] at h
        simp only [List.length_cons, ← h.2]
        omega
  · next inner =>
    cases found : Text.cut ']' inner with
    | none => simp [found] at h
    | some pair =>
      have := length_of_cut found
      cases read : subscript pair.1 with
      | error => simp [found, read, Except.map] at h
      | ok =>
        simp only [found, read, Except.map, Except.ok.injEq, Prod.mk.injEq] at h
        simp only [List.length_cons, ← h.2]
        omega
  · simp at h

def segments (text : List Char) : Except Fault Path :=
  if text = [] then .ok []
  else match _h : segment text with
    | .error fault => .error fault
    | .ok (s, rest) => (segments rest).map (s :: ·)
termination_by text.length
decreasing_by exact length_of_segment ‹segment text = _›

theorem segments_nil : segments [] = .ok [] := by simp [segments]

theorem segments_of_ne_nil {text : List Char} (h : text ≠ []) :
    segments text = (segment text).bind fun (s, rest) => (segments rest).map (s :: ·) := by
  rw [segments]
  split
  · contradiction
  · split <;> simp [*, Except.bind]

/-- What is between the braces around the whole text, if it has both; one alone is a fault. -/
def unbraced (text : List Char) : Except Fault (List Char) :=
  match text.head? == some '\x7b', text.getLast? == some '\x7d' with
  | true, true => .ok text.tail.dropLast
  | false, false => .ok text
  | _, _ => .error .unbalancedBraces

/-- A dollar sign in front stands for the document itself. -/
def dropRoot : List Char → List Char
  | '$' :: rest => rest
  | text => text

def parse (text : List Char) : Except Fault Path :=
  (unbraced (Text.trim text)).bind fun text => segments (dropRoot text)

def ofText (s : String) : Except Error Path :=
  match parse s.toList with
  | .ok path => .ok path
  | .error fault => .error ⟨s, fault⟩

end Readiness.Json.Path
