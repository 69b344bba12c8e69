import Readiness.Proofs.Scenario.Tasks
import Readiness.Proofs.Text.Parts
import Readiness.Text.Parts

/-! Names that are listed in a step. However they are punctuated, with separators and blanks anywhere around
them and at least one separator between two of them, they are read again in their order, and the step waits
for one resource for each. -/
namespace Readiness.Text

def IsGap (text : List Char) : Prop := ∀ c ∈ text, separatesNames c = true ∨ isBlank c = true

instance (text : List Char) : Decidable (IsGap text) := List.decidableBAll _ text

/-- A name that can be told from what stands around it. -/
structure IsName (name : String) : Prop where
  named : name ≠ ""
  trimmed : Text.trimmed name = name
  unseparated : ',' ∉ name.toList ∧ '&' ∉ name.toList

/-- A text with these names in their order and gaps around them; the gap between two names has a
separator. -/
inductive ListsNames : List String → List Char → Prop
  | nothing {gap : List Char} (around : IsGap gap) : ListsNames [] gap
  | last {name : String} {lead trail : List Char} (before : IsGap lead) (after : IsGap trail) :
    ListsNames [name] (lead ++ (name.toList ++ trail))
  | next {name : String} {names : List String} {lead gap rest : List Char} (before : IsGap lead)
    (after : IsGap gap) (apart : ∃ c ∈ gap, separatesNames c = true) (later : ListsNames names rest) :
    ListsNames (name :: names) (lead ++ (name.toList ++ (gap ++ rest)))

section Pieces

variable {c : Char} {gap blanks : List Char} {name : String}

theorem nameList_append_cons (separates : separatesNames c = true) (front rest : List Char) :
    nameList (front ++ c :: rest) = nameList front ++ nameList rest := by
  rw [nameList, List.splitOnP_append_cons front rest separates, List.map_append, List.filter_append]
  rfl

theorem trim_cons_of_blank (blank : isBlank c = true) (text : List Char) :
    trim (c :: text) = trim text := by
  rw [trim, trimStart, List.dropWhile_cons_of_pos blank]
  rfl

theorem nameList_cons_of_blank (blank : isBlank c = true) (text : List Char) :
    nameList (c :: text) = nameList text := by
  cases separates : separatesNames c with
  | true => exact nameList_append_cons separates [] text
  | false =>
    obtain ⟨piece, more, split⟩ :=
      List.exists_cons_of_ne_nil (List.splitOnP_ne_nil separatesNames text)
    rw [nameList, List.splitOnP_cons_eq_if_modifyHead, if_neg (by simp [separates]), nameList, split,
      List.modifyHead_cons, List.map_cons, List.map_cons, trim_cons_of_blank blank]

theorem nameList_gap_append (around : IsGap gap) (text : List Char) :
    nameList (gap ++ text) = nameList text := by
  induction gap with
  | nil => rfl
  | cons c rest ih =>
    obtain ⟨here, later⟩ := List.forall_mem_cons.1 around
    rw [List.cons_append]
    rcases here with separates | blank
    · exact (nameList_append_cons separates [] _).trans (ih later)
    · exact (nameList_cons_of_blank blank _).trans (ih later)

theorem nameList_gap (around : IsGap gap) : nameList gap = [] := by
  have nothing := nameList_gap_append around []
  rwa [List.append_nil] at nothing

/-- The blanks that a gap begins with are all of it, or a separator comes after them. -/
theorem IsGap.cases (around : IsGap gap) :
    ∃ blanks, (∀ c ∈ blanks, isBlank c = true ∧ separatesNames c = false) ∧
      (gap = blanks ∨
        ∃ c more, gap = blanks ++ c :: more ∧ separatesNames c = true ∧ IsGap more) := by
  induction gap with
  | nil => exact ⟨[], nofun, .inl rfl⟩
  | cons c rest ih =>
    obtain ⟨here, later⟩ := List.forall_mem_cons.1 around
    cases separates : separatesNames c with
    | true => exact ⟨[], nofun, .inr ⟨c, rest, rfl, separates, later⟩⟩
    | false =>
      have blank : isBlank c = true := here.resolve_left (by simp [separates])
      obtain ⟨blanks, quiet, split⟩ := ih later
      refine ⟨c :: blanks, List.forall_mem_cons.2 ⟨⟨blank, separates⟩, quiet⟩, ?_⟩
      rcases split with rfl | ⟨d, more, rfl, found, around⟩
      · exact .inl rfl
      · exact .inr ⟨d, more, rfl, found, around⟩

theorem IsName.whole (isName : IsName name) : ∀ c ∈ name.toList, separatesNames c = false := by
  intro c member
  have comma : c ≠ ',' := fun same => isName.unseparated.1 (same ▸ member)
  have ampersand : c ≠ '&' := fun same => isName.unseparated.2 (same ▸ member)
  simp [separatesNames, comma, ampersand]

theorem IsName.nameList_append (isName : IsName name)
    (quiet : ∀ c ∈ blanks, isBlank c = true ∧ separatesNames c = false) :
    nameList (name.toList ++ blanks) = [name.toList] := by
  have whole : ∀ c ∈ name.toList ++ blanks, separatesNames c = false :=
    List.forall_mem_append.2 ⟨isName.whole, fun c member => (quiet c member).2⟩
  have solid := trims_of_trimmed_eq isName.trimmed
  have trims : Trims (name.toList ++ blanks) name.toList :=
    ⟨⟨[], blanks, rfl, nofun, fun c member => (quiet c member).1⟩, solid.first, solid.last⟩
  rw [nameList, List.splitOnP_eq_singleton whole, List.map_singleton, trims.eq]
  simp [isName.named]

end Pieces

/-- By the names of the text: each is cut off by the first separator after it. -/
theorem ListsNames.nameList_eq {names : List String} {text : List Char} (lists : ListsNames names text)
    (plain : ∀ name ∈ names, IsName name) : nameList text = names.map String.toList := by
  induction lists with
  | nothing around => exact nameList_gap around
  | @last name lead trail before after =>
    have isName := plain name (List.mem_singleton_self name)
    rw [nameList_gap_append before]
    obtain ⟨blanks, quiet, rfl | ⟨c, more, rfl, separates, around⟩⟩ := after.cases
    · exact isName.nameList_append quiet
    · rw [← List.append_assoc, nameList_append_cons separates, isName.nameList_append quiet,
        nameList_gap around]
      rfl
  | @next name names lead gap rest before after apart later ih =>
    obtain ⟨isName, others⟩ := List.forall_mem_cons.1 plain
    rw [nameList_gap_append before]
    obtain ⟨blanks, quiet, rfl | ⟨c, more, rfl, separates, around⟩⟩ := after.cases
    · obtain ⟨c, member, separates⟩ := apart
      rw [(quiet c member).2] at separates
      cases separates
    · rw [List.append_assoc, ← List.append_assoc, List.cons_append, nameList_append_cons separates,
        isName.nameList_append quiet, nameList_gap_append around, ih others]
      rfl

end Readiness.Text

namespace Readiness.Scenario

/-- Names are read as they are listed, and a step that waits for them polls one query for each. -/
theorem listed_names_awaited {names : List String} {text : String}
    (lists : Text.ListsNames names text.toList) (plain : ∀ name ∈ names, Text.IsName name) :
    Text.nameListOf text = names ∧
    ∀ (ctx : Context) (kind space : String), ctx.project = some space →
      Resources.awaitAll ctx kind (Text.nameListOf text) =
        Task.await ctx .resource (names.map fun name => ⟨kind, name, space, none⟩) .resource
          .present := by
  have read : Text.nameListOf text = names := by
    rw [Text.nameListOf, lists.nameList_eq plain, List.map_map]
    simp [Function.comp_def]
  refine ⟨read, fun ctx kind space chosen => ?_⟩
  rw [read, Resources.awaitAll, Task.space_bind chosen, Resources.queries]

/-- Two image streams, the first with a blank inside, among separators and blanks of all sorts. -/
theorem listed_names_awaited_wildfly :
    let names := ["open shift", "wildfly"]
    let text := " ,\topen shift\u00a0&&, wildfly,\u2003& "
    Text.ListsNames names text.toList ∧ (∀ name ∈ names, Text.IsName name) ∧
      Text.nameListOf text = names := by
  intro names text
  have written : text.toList = [' ', ',', '\t'] ++ ("open shift".toList ++
      (['\u00a0', '&', '&', ',', ' '] ++ ([] ++ ("wildfly".toList ++
        [',', '\u2003', '&', ' '])))) := by decide +kernel
  have lists : Text.ListsNames names text.toList := by
    rw [written]
    exact .next (by decide) (by decide) ⟨'&', by decide⟩ (.last nofun (by decide))
  have plain : ∀ name ∈ names, Text.IsName name := by
    simp only [names, List.forall_mem_cons, List.not_mem_nil, false_implies, implies_true, and_true]
    exact ⟨⟨by decide, by decide +kernel, by decide +kernel⟩,
      ⟨by decide, by decide +kernel, by decide +kernel⟩⟩
  exact ⟨lists, plain, (listed_names_awaited lists plain).1⟩

end Readiness.Scenario
