import Readiness.Proofs.Scenario.Tasks
import Readiness.Proofs.Text.Parts

/-! What is found in a set of pods. The set is waited for as one text, from which the names of the
pods are read again; the first of them is the name of the first member in the listing that was made
last. -/
namespace Readiness.Scenario.PodSet

/-- A pod of the set that `lead` stands for, which neither builds nor deploys. -/
structure IsMember (lead : String) (pod : Reading) : Prop where
  led : lead = "*" ∨ lead.toList <+: pod.name.toList
  works : ¬ "-build".toList <:+ pod.name.toList ∧ ¬ "-deploy".toList <:+ pod.name.toList

theorem belongs_iff {lead : String} {pod : Reading} :
    belongs lead false pod = true ↔ IsMember lead pod := by
  simp only [belongs, everything, isHelper, Text.startsWith, Text.endsWith, Bool.and_eq_true,
    Bool.or_eq_true, Bool.false_or, Bool.not_eq_true', beq_iff_eq, ← Bool.not_eq_true,
    List.isPrefixOf_iff_prefix, List.isSuffixOf_iff_suffix, not_or]
  exact ⟨fun ⟨led, works⟩ => ⟨led, works⟩, fun ⟨led, works⟩ => ⟨led, works⟩⟩

structure FirstMember (lead : String) (pods : List Reading) (pod : Reading) : Prop where
  member : IsMember lead pod
  split : ∃ passed others, pods = passed ++ pod :: others ∧ ∀ other ∈ passed, ¬ IsMember lead other

theorem toList_pairText (pod : Reading) :
    (pairText pod).toList = (pod.name.toList ++ ['=']) ++ pod.state.toList := by
  simp [pairText]

theorem exists_toList_set (pod : Reading) (more : List Reading) :
    ∃ rest, (String.intercalate " " ((pod :: more).map pairText)).toList =
      (pod.name.toList ++ ['=']) ++ rest := by
  rw [String.toList_intercalate, List.map_map, List.map_cons, Function.comp_apply, toList_pairText]
  cases more with
  | nil => exact ⟨pod.state.toList, by simp⟩
  | cons next more =>
    rw [List.map_cons, List.intercalate_cons_cons, List.append_assoc, List.append_assoc]
    exact ⟨_, rfl⟩

/-- A name that is a word without an equals sign is found again in the text of a set. -/
theorem head?_names {pod : Reading} (more : List Reading)
    (plain : ∀ c ∈ pod.name.toList, Text.isBlank c = false ∧ c ≠ '=') :
    (names (String.intercalate " " ((pod :: more).map pairText))).head? = some pod.name := by
  obtain ⟨rest, text⟩ := exists_toList_set pod more
  have whole : ∀ c ∈ pod.name.toList ++ ['='], Text.isBlank c = false := by
    intro c member
    rcases List.mem_append.1 member with member | equals
    · exact (plain c member).1
    · obtain rfl := List.mem_singleton.1 equals
      decide
  obtain ⟨tail, others, words⟩ := Text.exists_words_eq (by simp) whole rest
  have cut : Text.cut '=' (pod.name.toList ++ ['='] ++ tail) = some (pod.name.toList, tail) := by
    refine Text.cut_eq_some_iff.2 ⟨by simp, fun member => (plain '=' member).2 rfl⟩
  rw [names, Text.wordsOf, text, words, List.map_cons, List.map_cons, List.head?_cons, Text.cutOf,
    String.toList_ofList, cut]
  simp

/-- A set that is found has a first member, and its text is made of this one and the others. -/
theorem exists_firstMember {q : Query} {pods : List Reading} {found : Reading}
    (read : reading false q pods = .ok found) :
    ∃ pod more, FirstMember q.name pods pod ∧
      found.state = String.intercalate " " ((pod :: more).map pairText) := by
  unfold reading at read
  cases members : pods.filter (belongs q.name false) with
  | nil => simp [members] at read
  | cons pod more =>
    rw [members] at read
    obtain rfl := Except.ok.inj read
    obtain ⟨passed, others, split, before, member, -⟩ := List.filter_eq_cons_iff.1 members
    exact ⟨pod, more, ⟨belongs_iff.1 member, passed, others, split,
      fun other passedOver => mt belongs_iff.2 (before other passedOver)⟩, rfl⟩

section Waits

variable {ctx after : Context} {lead pod : String} {record : List Exchange}

/-- A wait for a set was told last of a listing, and gives the name of its first member first. -/
theorem await_yields {condition : Condition} {found : List String}
    (yields : (await ctx lead false condition).Yields record (.ok found)) :
    ∃ space before budget now pods first, ctx.project = some space ∧
      record = before ++ [inTime (.cluster (.list "pods" space)) budget (.ok pods) now] ∧
      FirstMember lead pods first ∧
      ((∀ c ∈ first.name.toList, Text.isBlank c = false ∧ c ≠ '=') →
        found.head? = some first.name) := by
  obtain ⟨space, chosen, yields⟩ := Task.yields_space_bind.1 yields
  obtain ⟨report, _, _, rfl, waited, given⟩ := Task.yields_bind_ok.1 yields
  obtain ⟨rfl, same⟩ := Task.yields_pure.1 given
  obtain rfl := Except.ok.inj same
  obtain ⟨before, budget, answer, now, reading, rfl, read, -, shown⟩ := Task.await_yields waited
  cases answer with
  | error => cases read
  | ok pods =>
    obtain ⟨first, more, member, text⟩ := exists_firstMember read
    refine ⟨space, before, budget, now, pods, first, chosen, by rw [List.append_nil]; rfl, member, ?_⟩
    intro plain
    rw [shown, text]
    exact head?_names more plain

def IsListing : Request → Prop
  | .look (.cluster (.list _ _)) | .lookWithin (.cluster (.list _ _)) _ => True
  | _ => False

theorem uses_awaitReady (ctx : Context) (pod : String) :
    (awaitReady ctx pod).Uses fun request => ¬ IsListing request := by
  rw [awaitReady, Context.space]
  cases ctx.project with
  | none => trivial
  | some space => exact Task.uses_await id (fun _ => id) fun _ _ _ => id

/-- How the instance pod is found: in the listing that ended the wait for its set, as the first
member. After that nothing is listed; its containers are waited for. -/
inductive Found (ctx : Context) (lead pod : String) : List Exchange → Prop
  | mk {space : String} {before rest : List Exchange} {budget : Duration} {now : Instant}
    {pods : List Reading} {first : Reading} {names : List String} {report : Poll.Report}
    (chosen : ctx.project = some space)
    (listed : (await ctx lead false .nonEmpty).Yields
      (before ++ [inTime (.cluster (.list "pods" space)) budget (.ok pods) now]) (.ok names))
    (member : FirstMember lead pods first)
    (named : (∀ c ∈ first.name.toList, Text.isBlank c = false ∧ c ≠ '=') → pod = first.name)
    (readied : (awaitReady ctx pod).Yields rest (.ok report))
    (last : ∀ exchange ∈ rest, ¬ IsListing exchange.request) :
    Found ctx lead pod
      ((before ++ [inTime (.cluster (.list "pods" space)) budget (.ok pods) now]) ++ rest)

theorem Found.exists_space (found : Found ctx lead pod record) :
    ∃ space, ctx.project = some space := by
  obtain ⟨chosen⟩ := found
  exact ⟨_, chosen⟩

theorem awaitInstance_yields {result : Except Error String}
    (yields : (awaitInstance lead).Yields ctx record result after) :
    (∃ e, result = .error e ∧ after = ctx) ∨
    ∃ pod, result = .ok pod ∧ after = { ctx with instancePod := some pod } ∧
      Found ctx lead pod record := by
  rcases Step.yields_within_bind.1 yields with
    ⟨e, rfl, -, rfl⟩ | ⟨names, first, rest, rfl, listed, found⟩
  · exact .inl ⟨e, rfl, rfl⟩
  cases names with
  | nil =>
    obtain ⟨-, rfl, rfl⟩ := Step.yields_throw.1 found
    exact .inl ⟨_, rfl, rfl⟩
  | cons pod others =>
    rcases Step.yields_within_bind.1 found with
      ⟨e, rfl, -, rfl⟩ | ⟨report, waited, _, rfl, readied, kept⟩
    · exact .inl ⟨e, rfl, rfl⟩
    have given := Step.yields_setInstancePod_bind.1 kept
    obtain ⟨rfl, rfl, rfl⟩ := Step.yields_pure.1 given
    obtain ⟨space, before, budget, now, pods, first, chosen, rfl, member, named⟩ := await_yields listed
    refine .inr ⟨pod, rfl, rfl, ?_⟩
    rw [List.append_nil]
    exact .mk chosen listed member (fun plain => Option.some.inj (named plain)) readied
      ((uses_awaitReady ctx pod).of_yields readied)

end Waits

end Readiness.Scenario.PodSet
