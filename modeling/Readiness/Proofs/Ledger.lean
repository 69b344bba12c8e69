import Readiness.Ledger

/-! Ledgers that are built from a list of keys, and what a ledger does not depend on: it is told by what is
found in it, so values for different keys may be put into it in any order. -/
namespace Readiness.Ledger

variable {α ι : Type}

theorem get?_foldl_put (xs : List ι) (key : ι → String) (value : α) (ledger : Ledger α) (k : String)
    (found : ledger.get? k = some value ∨ ∃ x ∈ xs, key x = k) :
    (xs.foldl (fun ledger x => ledger.put (key x) value) ledger).get? k = some value := by
  induction xs generalizing ledger with
  | nil => simpa using found
  | cons x rest ih =>
    rw [List.foldl_cons]
    apply ih
    by_cases same : k = key x
    · exact .inl (by rw [same, get?_put_self])
    · rw [get?_put_of_ne _ same]
      rcases found with kept | ⟨y, member, named⟩
      · exact .inl kept
      · rcases List.mem_cons.1 member with rfl | later
        · exact absurd named.symm same
        · exact .inr ⟨y, later, named⟩

theorem get?_ofList_map (xs : List ι) (key : ι → String) (value : α) {x : ι} (member : x ∈ xs) :
    (ofList (xs.map fun x => (key x, value))).get? (key x) = some value := by
  rw [ofList, List.foldl_map]
  exact get?_foldl_put xs key value empty (key x) (.inr ⟨x, member, rfl⟩)

theorem isSome_get?_put (ledger : Ledger α) (key : String) (value : α) {other : String}
    (known : (ledger.get? other).isSome) : ((ledger.put key value).get? other).isSome := by
  by_cases same : other = key
  · simp [same]
  · rwa [get?_put_of_ne _ same]

theorem get?_eq_some_iff {ledger : Ledger α} {key : String} {value : α} :
    ledger.get? key = some value ↔ (key, value) ∈ ledger.entries := by
  rw [get?, List.lookup_eq_some_iff]
  constructor
  · rintro ⟨before, after, split, -⟩
    simp [split]
  · intro member
    obtain ⟨before, after, split⟩ := List.append_of_mem member
    refine ⟨before, after, split, fun entry earlier => ?_⟩
    have ordered := ledger.ordered
    rw [split] at ordered
    have less := (List.pairwise_append.1 ordered).2.2 entry earlier (key, value) List.mem_cons_self
    exact bne_iff_ne.2 fun same => String.lt_irrefl key (same ▸ less)

theorem ext_get? {ledger other : Ledger α} (same : ∀ key, ledger.get? key = other.get? key) :
    ledger = other := by
  have nodup (ledger : Ledger α) : ledger.entries.Nodup :=
    ledger.ordered.imp fun less equal => absurd (equal ▸ less) (String.lt_irrefl _)
  have perm : ledger.entries.Perm other.entries := by
    rw [List.perm_ext_iff_of_nodup (nodup ledger) (nodup other)]
    rintro ⟨key, value⟩
    rw [← get?_eq_some_iff, ← get?_eq_some_iff, same]
  obtain ⟨entries, ordered⟩ := ledger
  obtain ⟨entries', ordered'⟩ := other
  obtain rfl : entries = entries' := perm.eq_of_pairwise
    (fun _ _ _ _ less greater => absurd greater (String.lt_asymm less)) ordered ordered'
  rfl

theorem put_comm (ledger : Ledger α) {key other : String} (apart : key ≠ other) (value value' : α) :
    (ledger.put key value).put other value' = (ledger.put other value').put key value := by
  refine ext_get? fun k => ?_
  by_cases first : k = key
  · subst first
    rw [get?_put_of_ne _ apart, get?_put_self, get?_put_self]
  · rw [get?_put_of_ne (ledger.put other value') first value]
    by_cases second : k = other
    · subst second
      rw [get?_put_self, get?_put_self]
    · rw [get?_put_of_ne _ second, get?_put_of_ne _ second, get?_put_of_ne _ first]

end Readiness.Ledger
