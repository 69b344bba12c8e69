import Mathlib.Data.List.Basic
import Readiness.Poll.Report
import Readiness.Proofs.Text.Quoted

/-! What the text of a report tells. It has a line for each query, after a line for the poll as a whole, and
from the line of a query one can tell what was last seen of it: a state, whatever characters it holds, is
shown in one line and unlike any other state, and unlike a resource that is missing or was not looked at. -/
namespace Readiness

open Text

namespace Duration

theorem not_mem_fraction (places part : Nat) : '\n' ∉ fraction places part := by
  intro member
  rw [fraction, List.mem_reverse] at member
  have padded := List.mem_reverse.1 ((List.dropWhile_sublist _).subset member)
  rcases List.mem_append.1 padded with zero | digit
  · exact absurd (List.eq_of_mem_replicate zero) (by decide)
  · exact not_mem_toDigits part digit

theorem unbroken_inUnit (places : Nat) {unit : String} (unbroken : Unbroken unit) (d : Duration) :
    Unbroken (d.inUnit places unit) := by
  unfold inUnit
  split
  · exact unbroken_append.2 ⟨unbroken_toString _, unbroken⟩
  · simp only [unbroken_append, unbroken_ofList]
    exact ⟨⟨⟨unbroken_toString _, by decide⟩, not_mem_fraction _ _⟩, unbroken⟩

theorem unbroken_text (d : Duration) : Unbroken d.text := by
  unfold text
  split_ifs <;> exact unbroken_inUnit _ (by decide) d

end Duration

structure Query.IsPlain (q : Query) : Prop where
  kind : Unbroken q.kind
  name : Unbroken q.name
  space : Unbroken q.space
  path : ∀ path ∈ q.path, Unbroken path

theorem Query.IsPlain.text {q : Query} (plain : q.IsPlain) : Unbroken q.text := by
  obtain ⟨kind, name, space, path⟩ := plain
  rw [Query.text]
  simp only [unbroken_append, and_assoc]
  refine ⟨kind, by decide, name, by decide, space, ?_⟩
  cases given : q.path with
  | none => exact by decide
  | some text => exact unbroken_append.2 ⟨by decide, path text given⟩

namespace LastState

/-- States that differ at most in when they were seen and in the name under which they were. -/
inductive Alike : LastState → LastState → Prop
  | unknown : Alike unknown unknown
  | missing (reason : String) : Alike (missing reason) (missing reason)
  | observed {seen other : Observation} (same : seen.state = other.state) :
    Alike (observed seen) (observed other)

theorem text_eq_iff {a b : LastState} : a.text = b.text ↔ a.Alike b := by
  constructor
  · intro same
    cases a <;> cases b
    case unknown.unknown => exact .unknown
    case missing.missing reason other =>
      rw [text, text, String.append_left_inj, String.append_right_inj] at same
      exact same ▸ .missing reason
    case observed.observed seen other => exact .observed (quoted_inj.1 same)
    all_goals
      have begins := congrArg (fun s => s.toList.take 2) same
      simp [text, quoted, Quoted.encode] at begins
  · rintro (_ | _ | same)
    · rfl
    · rfl
    · exact congrArg quoted same

end LastState

namespace Poll

theorem Stage.unbroken_text (stage : Stage) : Unbroken stage.text := by
  cases stage <;> decide

namespace Report

variable {report other : Report}

def lastOf (report : Report) (q : Query) : LastState := (report.stateOf? q).getD .unknown

/-- No line feed stands in what is waited for, in a query or in the reason why a resource is missing. A raw
state may hold any characters. -/
structure IsPlain (report : Report) : Prop where
  expected : Unbroken report.expected
  queries : ∀ q ∈ report.queries, q.IsPlain
  missing : ∀ q ∈ report.queries, ∀ reason, report.lastOf q = .missing reason → Unbroken reason

theorem IsPlain.header (plain : report.IsPlain) : Unbroken report.header := by
  rw [Report.header]
  simp only [unbroken_append, and_assoc]
  exact ⟨report.stage.unbroken_text, by decide, unbroken_toString _, by decide, plain.expected, by decide,
    report.elapsed.unbroken_text, by decide, unbroken_toString _, by decide⟩

theorem IsPlain.line (plain : report.IsPlain) {q : Query} (member : q ∈ report.queries) :
    Unbroken (report.line q) := by
  have shown : Unbroken (report.lastOf q).text := by
    cases last : report.lastOf q with
    | unknown => decide
    | missing reason =>
      simp only [LastState.text, unbroken_append, and_assoc]
      exact ⟨by decide, plain.missing q member reason last, by decide⟩
    | observed seen => exact unbroken_quoted seen.state
  simp only [Report.line, unbroken_append, and_assoc]
  exact ⟨by decide, (plain.queries q member).text, by decide, shown⟩

theorem IsPlain.splitOn_text (plain : report.IsPlain) :
    report.text.toList.splitOn '\n' = report.lines.map String.toList := by
  rw [Report.text, String.toList_intercalate]
  refine List.splitOn_intercalate '\n' (fun line member => ?_) (by simp [Report.lines])
  obtain ⟨text, within, rfl⟩ := List.mem_map.1 member
  rcases List.mem_cons.1 within with rfl | within
  · exact plain.header
  · obtain ⟨q, asked, rfl⟩ := List.mem_map.1 within
    exact plain.line asked

theorem IsPlain.text_eq_iff (plain : report.IsPlain) (same_plain : other.IsPlain)
    (same : other.queries = report.queries) : report.text = other.text ↔
      report.header = other.header ∧ ∀ q ∈ report.queries, (report.lastOf q).Alike (other.lastOf q) := by
  have line_eq_iff (q : Query) :
      report.line q = other.line q ↔ (report.lastOf q).Alike (other.lastOf q) := by
    rw [← LastState.text_eq_iff, Report.line, Report.line, String.append_right_inj]
    rfl
  have lines_eq_iff : report.text = other.text ↔ report.lines = other.lines := by
    constructor
    · intro texts
      have split := plain.splitOn_text
      rw [texts, same_plain.splitOn_text] at split
      exact (List.map_injective_iff.2 (fun _ _ => String.toList_injective) split).symm
    · intro lines
      rw [Report.text, Report.text, lines]
  rw [lines_eq_iff, Report.lines, Report.lines, List.cons.injEq, same, List.map_inj_left]
  simp only [line_eq_iff]

end Report

/-- The text of a report is its header and a line for each query, in the order of the queries, which names
its resource, its namespace and the path, if any, and shows what was last seen of it. So two reports on the same queries differ if what was last
seen of one of them does, for no two states are shown alike. -/
theorem report_tells_last (report : Report) (plain : report.IsPlain) :
    report.text.toList.splitOn '\n' = (report.header :: report.queries.map fun q =>
      "  " ++ (q.kind ++ "/" ++ q.name ++ " -n " ++ q.space ++
        match q.path with
        | none => ""
        | some path => " -o jsonpath=" ++ path) ++
      ": " ++ (report.lastOf q).text).map String.toList ∧
    (∀ other : Report, other.IsPlain → other.queries = report.queries →
      (∃ q ∈ report.queries, ¬ (report.lastOf q).Alike (other.lastOf q)) →
      report.text ≠ other.text) ∧
    ∀ shown other : LastState, shown.text = other.text → shown.Alike other := by
  refine ⟨plain.splitOn_text, ?_, fun _ _ => LastState.text_eq_iff.1⟩
  rintro other same_plain same ⟨q, asked, apart⟩ texts
  exact apart (((plain.text_eq_iff same_plain same).1 texts).2 q asked)

/-- The state of the first pod holds what looks like the line of the second one. -/
theorem report_tells_forged :
    let first : Query := ⟨"pod", "a", "shop", none⟩
    let second : Query := ⟨"pod", "b", "shop", none⟩
    let forged : LastState := .observed ⟨⟨"a", "Running\"\n  pod/b -n shop: \"Running\\\u200b"⟩, 0⟩
    let running : LastState := .observed ⟨⟨"b", "Running"⟩, 0⟩
    let report (last : Ledger LastState) : Report :=
      ⟨false, .timedOut, last, Duration.ofSecs 10, 3, "is present", [first, second]⟩
    let honest := report (.ofList [(first.key, running), (second.key, running)])
    let forging := report (.ofList [(first.key, forged)])
    honest.IsPlain ∧ forging.IsPlain ∧ (forging.text.toList.splitOn '\n').length = 3 ∧
      honest.text ≠ forging.text := by
  intro first second forged running report honest forging
  have queries : ∀ q ∈ [first, second], q.IsPlain := by
    rw [List.forall_mem_cons, List.forall_mem_singleton]
    exact ⟨⟨by decide, by decide, by decide, nofun⟩, ⟨by decide, by decide, by decide, nofun⟩⟩
  have seen : honest.lastOf first = running ∧ honest.lastOf second = running ∧
      forging.lastOf first = forged ∧ forging.lastOf second = .unknown := by decide +kernel
  obtain ⟨honest_first, honest_second, forging_first, forging_second⟩ := seen
  have expected : Text.Unbroken "is present" := by decide
  have honest_plain : honest.IsPlain := by
    refine ⟨expected, queries, ?_⟩
    rw [List.forall_mem_cons, List.forall_mem_singleton, honest_first, honest_second]
    exact ⟨nofun, nofun⟩
  have forging_plain : forging.IsPlain := by
    refine ⟨expected, queries, ?_⟩
    rw [List.forall_mem_cons, List.forall_mem_singleton, forging_first, forging_second]
    exact ⟨nofun, nofun⟩
  refine ⟨honest_plain, forging_plain, ?_, ?_⟩
  · rw [(report_tells_last forging forging_plain).1]
    rfl
  · refine (report_tells_last honest honest_plain).2.1 forging forging_plain rfl
      ⟨second, List.mem_cons_of_mem _ List.mem_cons_self, ?_⟩
    rw [honest_second, forging_second]
    change ¬ LastState.Alike (.observed ⟨⟨"b", "Running"⟩, 0⟩) .unknown
    rintro ⟨⟩

end Poll

end Readiness
