import Readiness.Proofs.Cli.Absence

/-! What is read of a listing. A text with a line for each resource, and with blank lines anywhere
around them, is read as these resources in their order. The names are told from the phases by the first
tab of a line, so a phase may hold tabs, and a name or a phase may hold carriage returns inside. -/
namespace Readiness.Cli

namespace Listing

/-- What a listing says of one resource; the phase is empty if it has none. -/
structure Entry where
  name : String
  phase : String
  deriving DecidableEq, Repr

namespace Entry

/-- The name and the phase can be told apart from each other and from what stands around them. -/
structure IsPlain (entry : Entry) : Prop where
  named : entry.name ≠ ""
  trimmed : Text.trimmed entry.name = entry.name ∧ Text.trimmed entry.phase = entry.phase
  untabbed : '\t' ∉ entry.name.toList
  unbroken : '\n' ∉ entry.name.toList ∧ '\n' ∉ entry.phase.toList

def line (entry : Entry) : List Char := entry.name.toList ++ '\t' :: entry.phase.toList

def reading (entry : Entry) : Reading :=
  ⟨entry.name, if entry.phase = "" then Cluster.present else entry.phase⟩

end Entry

/-- A text with a line for each of the entries, in their order, and blank lines around them. -/
inductive Lists : List Entry → List Char → Prop
  | nothing : Lists [] []
  | blank (line : List Char) {rest : List Char} {entries : List Entry}
    (blank : ∀ c ∈ line, Text.isBlank c = true) (whole : '\n' ∉ line) (later : Lists entries rest) :
    Lists entries (line ++ '\n' :: rest)
  | entry {entry : Entry} {rest : List Char} {entries : List Entry} (later : Lists entries rest) :
    Lists (entry :: entries) (entry.line ++ '\n' :: rest)

section Lines

variable {entry : Entry}

theorem readLine_blank {line : List Char} (blank : ∀ c ∈ line, Text.isBlank c = true) :
    readLine line = none := by
  rw [readLine, Text.trim_of_blank blank]
  rfl

theorem Entry.IsPlain.not_mem_line (plain : entry.IsPlain) : '\n' ∉ entry.line := by
  simp [Entry.line, plain.unbroken]

theorem Entry.IsPlain.trims (plain : entry.IsPlain) :
    Text.Trims entry.name.toList entry.name.toList ∧
      Text.Trims entry.phase.toList entry.phase.toList :=
  ⟨Text.trims_of_trimmed_eq plain.trimmed.1, Text.trims_of_trimmed_eq plain.trimmed.2⟩

theorem Entry.IsPlain.dropReturn_line (plain : entry.IsPlain) :
    Text.dropReturn entry.line = entry.line := by
  refine Text.dropReturn_eq_self fun ends => ?_
  rw [Entry.line, List.getLast?_append, List.getLast?_cons, Option.some_or, Option.some.injEq] at ends
  cases last : entry.phase.toList.getLast? with
  | none =>
    rw [last] at ends
    exact absurd ends (by decide)
  | some c =>
    rw [last] at ends
    obtain rfl : c = '\r' := ends
    exact absurd (plain.trims.2.last _ last) (by decide)

theorem Entry.IsPlain.trim_line_ne_nil (plain : entry.IsPlain) : Text.trim entry.line ≠ [] := by
  obtain ⟨first, rest, name⟩ :=
    List.exists_cons_of_ne_nil (mt String.toList_eq_nil_iff.1 plain.named)
  intro none
  have solid : Text.isBlank first = false := plain.trims.1.first first (by rw [name]; rfl)
  have member : first ∈ entry.line := by simp [Entry.line, name]
  rcases (Text.trim_eq_iff.1 none).mem member with inside | blank
  · cases inside
  · exact absurd blank (by simp [solid])

theorem Entry.IsPlain.readLine_line (plain : entry.IsPlain) :
    readLine entry.line = some entry.reading := by
  have parted : Text.cut '\t' entry.line = some (entry.name.toList, entry.phase.toList) :=
    Text.cut_eq_some_iff.2 ⟨rfl, plain.untabbed⟩
  rw [readLine, if_neg (by simpa using plain.trim_line_ne_nil), parted, Option.getD_some]
  simp only [plain.trims.1.eq, plain.trims.2.eq, String.ofList_toList]
  rfl

end Lines

theorem read_append_cons {line : List Char} (whole : '\n' ∉ line) (rest : List Char) :
    read (line ++ '\n' :: rest) = (readLine (Text.dropReturn line)).toList ++ read rest := by
  rw [read, Text.lines_append_cons whole, List.filterMap_cons]
  cases readLine (Text.dropReturn line) <;> rfl

theorem Lists.read_eq {entries : List Entry} {text : List Char} (lists : Lists entries text)
    (plain : ∀ entry ∈ entries, entry.IsPlain) : read text = entries.map Entry.reading := by
  induction lists with
  | nothing => rfl
  | @blank line rest entries blank whole _ ih =>
    have still : ∀ c ∈ Text.dropReturn line, Text.isBlank c = true := fun c member =>
      blank c (Text.dropReturn_subset line member)
    rw [read_append_cons whole, readLine_blank still, ih plain]
    rfl
  | @entry entry rest entries _ ih =>
    obtain ⟨here, later⟩ := List.forall_mem_cons.1 plain
    rw [read_append_cons here.not_mem_line, here.dropReturn_line, here.readLine_line, ih later]
    rfl

end Listing

/-- A listing is read as just the resources that it lists, in their order, each with its phase or, without
one, as present; and this is what the client answers where the command for a list writes such a text. -/
theorem listing_read_back {entries : List Listing.Entry} {text : List Char}
    (lists : Listing.Lists entries text) (plain : ∀ entry ∈ entries, entry.IsPlain) :
    Listing.read text = entries.map Listing.Entry.reading ∧
    ∀ {σ : Type} (shell : Job → σ → Option (Outcome × σ)) (client : Client) (kind space : String)
      (before after : σ) (ended : Ended),
      shell (.run (.list kind space)) before = some (.ended ended, after) →
      ended.succeeded = true → ended.output.toList = text →
      (client.answer (.list kind space)).run shell before =
        some (.ok (entries.map Listing.Entry.reading), after) := by
  refine ⟨lists.read_eq plain, ?_⟩
  intro σ shell client kind space before after ended answered succeeded written
  change (client.list kind space).run shell before = _
  rw [Client.list, Program.run_bind, client.run_of_ended answered, result, if_pos succeeded,
    Option.bind_some]
  change some (Except.ok (Listing.read ended.output.toList), after) = _
  rw [written, lists.read_eq plain]
  rfl

/-- A running pod and a resource without a phase, between blank lines of which one has blanks. -/
theorem listing_read_back_twoPods :
    let entries : List Listing.Entry := [⟨"web-1", "Crash\tLoop"⟩, ⟨"jenkins operator", ""⟩]
    let text := "\nweb-1\tCrash\tLoop\n \t\r\njenkins operator\t\n\n".toList
    Listing.Lists entries text ∧ (∀ entry ∈ entries, entry.IsPlain) ∧
      Listing.read text = [⟨"web-1", "Crash\tLoop"⟩, ⟨"jenkins operator", "Present"⟩] := by
  intro entries text
  have lists : Listing.Lists entries text :=
    .blank [] nofun nofun <| .entry <|
      .blank [' ', '\t', '\r'] (List.all_eq_true.1 (by decide +kernel)) (by decide) <| .entry <|
        .blank [] nofun nofun .nothing
  have plain : ∀ entry ∈ entries, entry.IsPlain := by
    simp only [entries, List.forall_mem_cons, List.not_mem_nil, false_implies, implies_true, and_true]
    exact ⟨⟨by decide, by decide +kernel, by decide, by decide +kernel⟩,
      ⟨by decide, by decide +kernel, by decide +kernel, by decide +kernel⟩⟩
  exact ⟨lists, plain, (listing_read_back lists plain).1.trans (by decide +kernel)⟩

end Readiness.Cli
