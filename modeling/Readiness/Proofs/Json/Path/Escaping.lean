import Readiness.Proofs.Json.Path.Composition

/-! Names with a backslash before each of their characters. No character of such a name is taken for a mark
of the path, so a path that is written in this way is read again; only a name that is a star as a whole
stands for all members, with the backslash as without it. -/
namespace Readiness.Json.Path

/-- What can be written as a segment: a name of some characters, a place that can be counted, or all. -/
inductive IsWritable : Segment → Prop
  | field {name : String} (nonempty : name ≠ "") : IsWritable (.field name)
  | index {n : Nat} (below : n < 2 ^ 64) : IsWritable (.index n)
  | wildcard : IsWritable .wildcard

/-- Each character behind a backslash. -/
def escaped (name : List Char) : List Char := name.flatMap fun c => ['\\', c]

def segmentText : Segment → List Char
  | .field name => '.' :: escaped name.toList
  | .index n => (placeText n).toList
  | .wildcard => "[*]".toList

def escapedText (path : Path) : String :=
  String.ofList ('\x7b' :: (path.flatMap segmentText ++ ['\x7d']))

def reread (s : Segment) : Segment := if s = .field "*" then .wildcard else s

theorem reread_eq_self_iff {s : Segment} : reread s = s ↔ s ≠ .field "*" := by
  unfold reread
  split
  · next star => simp [star]
  · next other => simp [other]

theorem map_reread_eq_self_iff {path : Path} : path.map reread = path ↔ .field "*" ∉ path := by
  have same : path.map reread = path.map id ↔ ∀ s ∈ path, reread s = id s := List.map_inj_left
  rw [List.map_id] at same
  simp only [same, id_eq, reread_eq_self_iff]
  exact ⟨fun none star => none _ star rfl, fun none s member star => none (star ▸ member)⟩

theorem spells_escaped (name : List Char) : Spells (escaped name) name := by
  induction name with
  | nil => exact .nil
  | cons c name ih => exact .escaped ih

theorem writes_segmentText {s : Segment} (writable : IsWritable s) :
    WritesSegment (segmentText s) (reread s) := by
  cases writable with
  | @field name nonempty =>
    have written : WritesSegment ('.' :: escaped name.toList)
        (if name.toList = ['*'] then .wildcard else .field (String.ofList name.toList)) :=
      .name (spells_escaped _) (by simpa using nonempty)
    have star : name.toList = ['*'] ↔ name = "*" := by
      rw [← String.toList_inj]
      rfl
    simpa [segmentText, reread, star] using written
  | index below => exact writesSegment_place below
  | wildcard => exact writesSegment_wildcard

theorem writes_segmentTexts {path : Path} (writable : ∀ s ∈ path, IsWritable s) :
    Writes (path.flatMap segmentText) (path.map reread) := by
  induction path with
  | nil => exact .nil
  | cons s path ih =>
    obtain ⟨here, later⟩ := List.forall_mem_cons.1 writable
    exact .cons (writes_segmentText here) (ih later)

theorem ofText_escapedText {path : Path} (writable : ∀ s ∈ path, IsWritable s) :
    ofText (escapedText path) = .ok (path.map reread) := by
  have closes : ('\x7b' :: (path.flatMap segmentText ++ ['\x7d'])).getLast? = some '\x7d' := by
    rw [← List.cons_append, List.getLast?_concat]
  rw [ofText_eq_ok_iff, escapedText, String.toList_ofList]
  exact ⟨_, _, _, Text.trims_self rfl closes (by decide), .both _, .inl rfl,
    writes_segmentTexts writable⟩

theorem targets_reread_field (key : String) (v : Value) :
    targets [reread (.field key)] v = if key = "*" then v.children else (v.member? key).toList := by
  unfold reread
  by_cases star : key = "*" <;> simp [star, targets, Segment.step]

/-- A path with its names escaped is read again as it is if and only if no name in it is a star. For each
name of at least one character, the path of this name leads to the member of that name and to nothing
else, unless the name is a star. -/
theorem escaping_reaches (path : Path) (writable : ∀ s ∈ path, IsWritable s) :
    (ofText (escapedText path) = .ok path ↔ .field "*" ∉ path) ∧
      ofText (escapedText path) = .ok (path.map reread) ∧
      ∀ key, key ≠ "" → ∃ steps, ofText (escapedText [.field key]) = .ok steps ∧
        ∀ v, steps.targets v = if key = "*" then v.children else (v.member? key).toList := by
  have read := ofText_escapedText writable
  refine ⟨?_, read, fun key nonempty => ⟨_, ofText_escapedText ?_, targets_reread_field key⟩⟩
  · rw [read, Except.ok.injEq, map_reread_eq_self_iff]
  · exact List.forall_mem_singleton.2 (.field nonempty)

def awkward : Path :=
  [.field "metadata", .field "app.kubernetes.io/name", .wildcard, .index 7, .field " $\x7b.[*]\x7d\\'",
    .field "**"]

theorem awkward_writable : ∀ s ∈ awkward, IsWritable s := by
  simp only [awkward, List.forall_mem_cons, List.not_mem_nil, false_implies, implies_true, and_true]
  exact ⟨.field (by decide), .field (by decide), .wildcard, .index (by decide), .field (by decide),
    .field (by decide)⟩

theorem escaping_reaches_awkward :
    (∀ s ∈ awkward, IsWritable s) ∧ ofText (escapedText awkward) = .ok awkward ∧
      ∃ steps, ofText (escapedText [.field "$.*"]) = .ok steps ∧
        ∀ v, steps.targets v = (v.member? "$.*").toList := by
  obtain ⟨same, -, leads⟩ := escaping_reaches awkward awkward_writable
  exact ⟨awkward_writable, same.2 (by decide), leads "$.*" (by decide)⟩

/-- The star is not a name, even behind a backslash. -/
theorem escaped_star_leads_to_all :
    (∀ s ∈ [Segment.field "*"], IsWritable s) ∧ escapedText [.field "*"] = "\x7b.\\*\x7d" ∧
      ofText (escapedText [.field "*"]) = .ok [.wildcard] ∧
      ofText (escapedText [.field "*"]) ≠ .ok [.field "*"] ∧
      targets [.wildcard] (.object [("*", .bool true), ("web", .bool false)]) =
        [.bool true, .bool false] := by
  have read : ofText (escapedText [.field "*"]) = .ok [.wildcard] := by decide +kernel
  refine ⟨List.forall_mem_singleton.2 (.field (by decide)), rfl, read, ?_, rfl⟩
  rw [read]
  decide

end Readiness.Json.Path
