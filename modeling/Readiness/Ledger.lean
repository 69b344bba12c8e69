/-! # Ledgers

A ledger keeps one value for each key and lists the keys in order, which is the order of their
code points. Main statements: `get?_put_self` and `get?_put_of_ne`. -/
namespace Readiness

structure Ledger (α : Type) where
  entries : List (String × α)
  ordered : entries.Pairwise (·.1 < ·.1)

namespace Ledger

variable {α : Type}

def empty : Ledger α := ⟨[], .nil⟩

/-- A key that is present already gets the new value. -/
def putEntry (key : String) (value : α) : List (String × α) → List (String × α)
  | [] => [(key, value)]
  | (k, v) :: rest =>
    if key < k then (key, value) :: (k, v) :: rest
    else if k = key then (key, value) :: rest
    else (k, v) :: putEntry key value rest

theorem mem_putEntry {key : String} {value : α} {entries : List (String × α)} {e : String × α}
    (h : e ∈ putEntry key value entries) : e = (key, value) ∨ e ∈ entries := by
  induction entries with
  | nil => simpa [putEntry] using h
  | cons head rest ih =>
    simp only [putEntry] at h
    split at h
    · simpa using h
    · split at h
      · rcases List.mem_cons.1 h with h | h <;> simp [h]
      · rcases List.mem_cons.1 h with h | h
        · simp [h]
        · rcases ih h with h | h <;> simp [h]

theorem putEntry_ordered {key : String} {value : α} {entries : List (String × α)}
    (h : entries.Pairwise (·.1 < ·.1)) : (putEntry key value entries).Pairwise (·.1 < ·.1) := by
  induction entries with
  | nil => simp [putEntry]
  | cons head rest ih =>
    obtain ⟨k, v⟩ := head
    obtain ⟨first, tail⟩ := List.pairwise_cons.1 h
    simp only [putEntry]
    split
    · next before =>
      refine List.pairwise_cons.2 ⟨fun e he => ?_, h⟩
      rcases List.mem_cons.1 he with rfl | he
      · exact before
      · exact String.lt_trans before (first e he)
    · next notBefore =>
      split
      · next same => exact List.pairwise_cons.2 ⟨fun e he => same ▸ first e he, tail⟩
      · next other =>
        refine List.pairwise_cons.2 ⟨fun e he => ?_, ih tail⟩
        rcases mem_putEntry he with rfl | he
        · rcases Std.lt_trichotomy key k with h | h | h
          · exact absurd h notBefore
          · exact absurd h.symm other
          · exact h
        · exact first e he

def put (ledger : Ledger α) (key : String) (value : α) : Ledger α :=
  ⟨putEntry key value ledger.entries, putEntry_ordered ledger.ordered⟩

def get? (ledger : Ledger α) (key : String) : Option α := ledger.entries.lookup key

/-- Later pairs prevail over earlier ones with the same key. -/
def ofList (pairs : List (String × α)) : Ledger α :=
  pairs.foldl (fun ledger (key, value) => ledger.put key value) empty

theorem lookup_putEntry_self (key : String) (value : α) (entries : List (String × α)) :
    (putEntry key value entries).lookup key = some value := by
  induction entries with
  | nil => simp [putEntry]
  | cons head rest ih =>
    obtain ⟨k, v⟩ := head
    simp only [putEntry]
    split
    · simp
    · split
      · simp
      · next other => simp [List.lookup_cons, beq_false_of_ne (Ne.symm other), ih]

theorem lookup_putEntry_of_ne {key other : String} (h : other ≠ key) (value : α)
    (entries : List (String × α)) :
    (putEntry key value entries).lookup other = entries.lookup other := by
  induction entries with
  | nil => simp [putEntry, List.lookup_cons, beq_false_of_ne h]
  | cons head rest ih =>
    obtain ⟨k, v⟩ := head
    simp only [putEntry]
    split
    · simp [List.lookup_cons, beq_false_of_ne h]
    · split
      · next same => simp [List.lookup_cons, same, beq_false_of_ne h]
      · simp [List.lookup_cons, ih]

@[simp] theorem get?_put_self (ledger : Ledger α) (key : String) (value : α) :
    (ledger.put key value).get? key = some value := lookup_putEntry_self ..

theorem get?_put_of_ne (ledger : Ledger α) {key other : String} (h : other ≠ key) (value : α) :
    (ledger.put key value).get? other = ledger.get? other := lookup_putEntry_of_ne h ..

end Ledger

end Readiness
