import Readiness.Cli.Client
import Readiness.Proofs.Poll.Asking
import Readiness.Proofs.Program
import Readiness.Proofs.Text.Parts

/-! Resources that are not there, as the command line client tells of them. A complaint that a resource is
not there quotes the type and the name of it, and the words for lack of access are looked for in the whole
complaint: it is taken for an absence unless one of these words stands in the type or in the name. -/
namespace Readiness.Text

theorem toList_lower_append (a b : String) :
    (lower (a ++ b)).toList = (lower a).toList ++ (lower b).toList := by
  simp [lower]

end Readiness.Text

namespace Readiness.Cli

/-- What the server says when it has no resource of this type and name. -/
def absence (type name : String) : String :=
  "Error from server (NotFound): " ++ type ++ " \"" ++ name ++ "\" not found"

def isLabelChar (c : Char) : Bool := c.isLower || c.isDigit || c == '-' || c == '.'

def IsLabel (s : String) : Prop := s.toList.all isLabelChar = true

instance (s : String) : Decidable (IsLabel s) :=
  inferInstanceAs (Decidable (s.toList.all isLabelChar = true))

theorem IsLabel.mem {s : String} (label : IsLabel s) {c : Char} (member : c ∈ s.toList) :
    isLabelChar c = true :=
  List.all_eq_true.1 label c member

def speaksOfAccess (s : String) : Bool := Failure.accessWords.any (Text.contains s)

theorem not_isUpper_of_isLabelChar {c : Char} (label : isLabelChar c = true) :
    c.isUpper = false := by
  simp only [isLabelChar, Bool.or_eq_true, Text.isLower_iff, Text.isDigit_iff, beq_iff_eq] at label
  rw [Bool.eq_false_iff]
  intro upper
  have capital := Text.isUpper_iff.1 upper
  rcases label with ((small | digit) | rfl) | rfl
  · omega
  · omega
  · cases upper
  · cases upper

theorem IsLabel.lower_eq {s : String} (label : IsLabel s) : Text.lower s = s := by
  have fixed : s.toList.map Char.toLower = s.toList.map id :=
    List.map_congr_left fun c member =>
      dif_neg (of_decide_eq_false (not_isUpper_of_isLabelChar (label.mem member)))
  rw [Text.lower, fixed, List.map_id, String.ofList_toList]

section Words

variable {type name : String}

theorem toList_lower_absence (typed : IsLabel type) (named : IsLabel name) :
    (Text.lower (absence type name)).toList =
      "error from server (notfound)".toList ++
        ':' :: (' ' :: (type.toList ++ [' ']) ++
          '"' :: (name.toList ++ '"' :: " not found".toList)) := by
  have head : (Text.lower "Error from server (NotFound): ").toList =
      "error from server (notfound)".toList ++ [':', ' '] := by decide +kernel
  have middle : (Text.lower " \"").toList = [' ', '"'] := by decide +kernel
  have tail : (Text.lower "\" not found").toList = '"' :: " not found".toList := by decide +kernel
  -- `rw [absence]` would evaluate the texts that `absence` is made of.
  unfold absence
  simp only [Text.toList_lower_append, typed.lower_eq, named.lower_eq, head, middle, tail,
    List.append_assoc, List.cons_append, List.nil_append]

/-- A word that nothing but the type and the name brings into a complaint of this kind. -/
structure IsForeign (word : String) : Prop where
  unmarked : ':' ∉ word.toList ∧ '"' ∉ word.toList
  begins : word.toList.head? ≠ some ' '
  ends : word.toList.getLast? ≠ some ' '
  absent : ¬ word.toList <:+: "error from server (notfound)".toList ∧
    ¬ word.toList <:+: " not found".toList

theorem isForeign {word : String} (sought : word ∈ Failure.accessWords ++ Failure.kindWords) :
    IsForeign word := by
  simp only [Failure.accessWords, Failure.kindWords, List.cons_append, List.nil_append,
    List.mem_cons, List.not_mem_nil, or_false] at sought
  rcases sought with rfl | rfl | rfl | rfl | rfl | rfl <;>
    exact ⟨by decide +kernel, by decide +kernel, by decide +kernel, by decide +kernel⟩

theorem IsForeign.contains_absence_iff {word : String} (foreign : IsForeign word)
    (typed : IsLabel type) (named : IsLabel name) :
    Text.contains (Text.lower (absence type name)) word = true ↔
      Text.contains type word = true ∨ Text.contains name word = true := by
  obtain ⟨⟨colon, quote⟩, begins, ends, before, after⟩ := foreign
  rw [Text.contains_iff, toList_lower_absence typed named, Text.infix_append_cons_iff colon,
    Text.infix_append_cons_iff quote, Text.infix_append_cons_iff quote,
    Text.infix_spaced_iff begins ends, Text.contains_iff, Text.contains_iff]
  simp only [before, after, false_or, or_false]

/-- The words for unknown kinds have spaces, and labels have none. -/
theorem IsLabel.not_contains {s word : String} (label : IsLabel s)
    (kind : word ∈ Failure.kindWords) : Text.contains s word = false := by
  have spaced : ' ' ∈ word.toList := by
    simp only [Failure.kindWords, List.mem_cons, List.not_mem_nil, or_false] at kind
    rcases kind with rfl | rfl <;> decide +kernel
  rw [Bool.eq_false_iff, ne_eq, Text.contains_iff]
  exact fun within => absurd (label.mem (within.subset spaced)) (by decide)

theorem any_accessWords (typed : IsLabel type) (named : IsLabel name) :
    Failure.accessWords.any (Text.contains (Text.lower (absence type name))) =
      (speaksOfAccess type || speaksOfAccess name) := by
  rw [Bool.eq_iff_iff, Bool.or_eq_true, speaksOfAccess, speaksOfAccess]
  simp only [List.any_eq_true, ← exists_or, ← and_or_left]
  refine exists_congr fun word => and_congr_right fun member => ?_
  exact (isForeign (List.mem_append_left _ member)).contains_absence_iff typed named

theorem any_kindWords (typed : IsLabel type) (named : IsLabel name) :
    Failure.kindWords.any (Text.contains (Text.lower (absence type name))) = false := by
  rw [List.any_eq_false]
  intro word member
  rw [(isForeign (List.mem_append_right _ member)).contains_absence_iff typed named]
  simp [typed.not_contains member, named.not_contains member]

theorem any_absenceWords (typed : IsLabel type) (named : IsLabel name) :
    Failure.absenceWords.any (Text.contains (Text.lower (absence type name))) = true := by
  have within : "notfound".toList <:+: "error from server (notfound)".toList := by decide +kernel
  rw [List.any_eq_true]
  refine ⟨"notfound", List.mem_cons_self, ?_⟩
  rw [Text.contains_iff, toList_lower_absence typed named]
  exact within.trans (List.prefix_append _ _).isInfix

theorem ofExit_absence (typed : IsLabel type) (named : IsLabel name) (command : String)
    (code : Option Int) : Failure.ofExit command code (absence type name) =
      if speaksOfAccess type || speaksOfAccess name then
        .unauthorized command (absence type name)
      else .notFound command (absence type name) := by
  rw [Failure.ofExit]
  simp only [any_accessWords typed named, any_kindWords typed named,
    any_absenceWords typed named, Bool.false_eq_true, if_false, if_true]

end Words

def Client.reading (q : Query) : Command :=
  .getPath q.kind q.name q.space (q.path.getD phasePath)

/-- A process that ended like this is taken for an absence by all that ask: a read that it answers fails
so that polls go on, and a project that it is asked for is known not to be there. -/
structure TakenForAbsence (ended : Ended) : Prop where
  failure : ∀ text, result text (.ended ended) = .error (.notFound text ended.complaint)
  read : ∀ {σ : Type} (shell : Job → σ → Option (Outcome × σ)) (client : Client) (q : Query)
    (before after : σ),
    shell (.run (Client.reading q)) before = some (.ended ended, after) →
    ∃ detail, (client.answer (.fetch q)).run shell before =
        some (.error (.notFound detail), after) ∧
      ∀ plan queries record ending, (Poll.poll plan queries).Yields record (some ending) →
        (∀ e, Poll.IsTold record q e → e = .notFound detail) →
        ∀ e report, ending.verdict ≠ .error (.fatal q e report)
  project : ∀ {σ : Type} (shell : Job → σ → Option (Outcome × σ)) (client : Client) (name : String)
    (before after : σ),
    shell (.run (.getProject name)) before = some (.ended ended, after) →
    (client.projectExists name).run shell before = some (.ok false, after)

section Failing

variable {σ : Type} {shell : Job → σ → Option (Outcome × σ)} {before after : σ} {ended : Ended}

theorem Client.run_of_ended (client : Client) {command : Command}
    (answered : shell (.run command) before = some (.ended ended, after)) :
    (client.run command).run shell before =
      some (result (command.text client.binary) (.ended ended), after) := by
  rw [Client.run, Client.perform, Program.run_bind, Program.run_perform, answered]
  rfl

/-- What a process is taken for rests on its failure alone. -/
theorem takenForAbsence_iff : TakenForAbsence ended ↔
    ∀ text, result text (.ended ended) = .error (.notFound text ended.complaint) := by
  refine ⟨TakenForAbsence.failure, fun failure => ⟨failure, ?read, ?project⟩⟩
  case read =>
    intro σ shell client q before after answered
    refine ⟨(Failure.notFound ((Client.reading q).text client.binary) ended.complaint).message,
      ?fetch, ?poll⟩
    case fetch =>
      change (client.fetch q).run shell before = _
      rw [Client.fetch, ← Client.reading, Program.run_bind, client.run_of_ended answered, failure]
      rfl
    case poll =>
      intro plan queries record ending yields told e report verdict
      obtain ⟨isFatal, heard⟩ := Poll.poll_fatal_yields yields verdict
      rw [told e heard] at isFatal
      cases isFatal
  case project =>
    intro σ shell client name before after answered
    rw [Client.projectExists, Program.run_bind, client.run_of_ended answered, failure]
    rfl

end Failing

section Absence

variable {type name : String} {ended : Ended}

theorem result_absence (typed : IsLabel type) (named : IsLabel name)
    (failed : ended.succeeded = false) (told : ended.complaint = absence type name)
    (text : String) : result text (.ended ended) =
      if speaksOfAccess type || speaksOfAccess name then
        .error (.unauthorized text ended.complaint)
      else .error (.notFound text ended.complaint) := by
  rw [result, if_neg (by simp [failed]), told, ofExit_absence typed named, apply_ite Except.error]

/-- A resource that is not there is taken for absent if and only if neither its type nor its name holds a
word for lack of access. If one does, the client reports that it has no access. -/
theorem absence_taken (typed : IsLabel type) (named : IsLabel name)
    (failed : ended.succeeded = false) (told : ended.complaint = absence type name) :
    (TakenForAbsence ended ↔ speaksOfAccess type = false ∧ speaksOfAccess name = false) ∧
    (speaksOfAccess type = true ∨ speaksOfAccess name = true →
      ∀ text, result text (.ended ended) = .error (.unauthorized text ended.complaint)) := by
  have judged := result_absence typed named failed told
  rw [takenForAbsence_iff, ← Bool.or_eq_false_iff, ← Bool.or_eq_true]
  cases speaks : speaksOfAccess type || speaksOfAccess name with
  | true => simp [judged, speaks]
  | false => simp [judged, speaks]

def notThere (type name : String) : Ended :=
  ⟨some 1, [], Text.Utf8.encode (absence type name ++ "\n")⟩

theorem absence_taken_web :
    IsLabel "deployments.apps" ∧ IsLabel "web-1" ∧
      (notThere "deployments.apps" "web-1").succeeded = false ∧
      (notThere "deployments.apps" "web-1").complaint = absence "deployments.apps" "web-1" ∧
      TakenForAbsence (notThere "deployments.apps" "web-1") := by
  have typed : IsLabel "deployments.apps" := by decide +kernel
  have named : IsLabel "web-1" := by decide +kernel
  have told : (notThere "deployments.apps" "web-1").complaint =
      absence "deployments.apps" "web-1" := by decide +kernel
  refine ⟨typed, named, rfl, told, ?_⟩
  exact (absence_taken typed named rfl told).1.2 ⟨by decide +kernel, by decide +kernel⟩

/-- The name of a project that is not there makes the client report that it may not be seen. -/
theorem forbidden_city_denied :
    IsLabel "namespaces" ∧ IsLabel "forbidden-city" ∧
      (notThere "namespaces" "forbidden-city").succeeded = false ∧
      (notThere "namespaces" "forbidden-city").complaint = absence "namespaces" "forbidden-city" ∧
      ¬ TakenForAbsence (notThere "namespaces" "forbidden-city") := by
  have typed : IsLabel "namespaces" := by decide +kernel
  have named : IsLabel "forbidden-city" := by decide +kernel
  have told : (notThere "namespaces" "forbidden-city").complaint =
      absence "namespaces" "forbidden-city" := by decide +kernel
  refine ⟨typed, named, rfl, told, fun taken => ?_⟩
  have denied := result_absence typed named rfl told ""
  rw [if_pos (by decide +kernel), taken.failure] at denied
  cases denied

end Absence

end Readiness.Cli
