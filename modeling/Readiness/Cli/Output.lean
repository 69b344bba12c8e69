import Readiness.Cluster
import Readiness.Text.Utf8

/-! # Ended processes and their outputs

What is left of a process, and what is read out of what it wrote: names of resources, which steps
look for in outputs that are meant for readers, and listings. -/
namespace Readiness.Cli

/-- The exit code is missing when a signal ended the process. -/
structure Ended where
  code : Option Int
  out : List UInt8
  err : List UInt8

namespace Ended

def succeeded (ended : Ended) : Bool := ended.code == some 0

/-- Two processes, of which the first fed the second. When both fail, the second one's code is the
code of both. -/
def piped (source sink : Ended) : Ended where
  code := if sink.succeeded then source.code else sink.code
  out := sink.out
  err := source.err ++ sink.err

def output (ended : Ended) : String := Text.Utf8.decoded ended.out

def complaint (ended : Ended) : String := Text.trimmed (Text.Utf8.decoded ended.err)

end Ended

inductive Outcome where
  | notStarted (reason : String)
  | ended (ended : Ended)

namespace Output

/-- A word without the quotes around it. -/
def bare (word : List Char) : List Char :=
  let inner := word.dropWhile (· == '"')
  (inner.reverse.dropWhile (· == '"')).reverse

/-- Whether a word of the output names the resource, alone or after its kind and a slash. -/
def mentions (resource output : List Char) : Bool :=
  (Text.words output).any fun word =>
    bare word == resource || Text.afterLast '/' (bare word) == resource

def saysStarted (line : List Char) : Bool := "started".toList.isSuffixOf (Text.trimEnd line)

/-- The build that the output says was started: the first word of the first such line, without the
kind before its last slash. -/
def startedBuild (output : List Char) : Option (List Char) :=
  ((Text.lines output).find? saysStarted).bind fun line =>
    (Text.words line).head?.map (Text.afterLast '/')

def lacking (expected : List String) (output : String) : List String :=
  expected.filter fun word => !(Text.wordsOf output).contains word

end Output

/-! ## Listings

A listing has one line for each resource: its name and, after a tab, its phase. -/

namespace Listing

/-- A line that is blank lists nothing; a resource without a phase is present. -/
def readLine (line : List Char) : Option Reading :=
  if (Text.trim line).isEmpty then none
  else
    let (name, phase) := (Text.cut '\t' line).getD (line, [])
    let phase := String.ofList (Text.trim phase)
    some ⟨String.ofList (Text.trim name), if phase = "" then Cluster.present else phase⟩

def read (output : List Char) : List Reading := (Text.lines output).filterMap readLine

end Listing

end Readiness.Cli
