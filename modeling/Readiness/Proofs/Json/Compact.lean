import Readiness.Json.Value
import Readiness.Proofs.Json.Numeral

/-! The compact form of a document: what a text may be that writes a value without blanks. It is said
character by character and item by item, and what is written of a value is such a text. -/
namespace Readiness.Json

def hexDigits : List Char := "0123456789abcdef".toList

/-- The characters that are escaped by a letter of their own. -/
def letters : List (Char × Char) :=
  [('"', '"'), ('\\', '\\'), ('\x08', 'b'), ('\x0c', 'f'), ('\n', 'n'), ('\r', 'r'), ('\t', 't')]

/-- What stands for a character between quotes. -/
inductive WritesChar (c : Char) : List Char → Prop
  | plain (printable : 0x20 ≤ c.toNat) (unmarked : c ≠ '"' ∧ c ≠ '\\') : WritesChar c [c]
  | lettered {letter : Char} (known : (c, letter) ∈ letters) : WritesChar c ['\\', letter]
  | numbered {high low : Char} (control : c.toNat < 0x20) (other : ∀ letter, (c, letter) ∉ letters)
    (first : hexDigits[c.toNat / 16]? = some high) (second : hexDigits[c.toNat % 16]? = some low) :
    WritesChar c ['\\', 'u', '0', '0', high, low]

inductive WritesText (s : String) : List Char → Prop
  | quoted {parts : List (List Char)} (each : List.Forall₂ WritesChar s.toList parts) :
    WritesText s ('"' :: (parts.flatten ++ ['"']))

mutual

inductive Compact : Value → List Char → Prop
  | null : Compact .null "null".toList
  | yes : Compact (.bool true) "true".toList
  | no : Compact (.bool false) "false".toList
  | number {n : Number} {text : List Char} (writes : n.Writes text) : Compact (.number n) text
  | string {s : String} {text : List Char} (writes : WritesText s text) : Compact (.string s) text
  | array {items : List Value} {texts : List (List Char)} (each : CompactItems items texts) :
    Compact (.array items) ('[' :: ([','].intercalate texts ++ [']']))
  | object {members : List (String × Value)} {texts : List (List Char)}
    (each : CompactMembers members texts) :
    Compact (.object members) ('\x7b' :: ([','].intercalate texts ++ ['\x7d']))

inductive CompactItems : List Value → List (List Char) → Prop
  | nil : CompactItems [] []
  | cons {item : Value} {rest : List Value} {text : List Char} {texts : List (List Char)}
    (first : Compact item text) (others : CompactItems rest texts) :
    CompactItems (item :: rest) (text :: texts)

inductive CompactMembers : List (String × Value) → List (List Char) → Prop
  | nil : CompactMembers [] []
  | cons {key : String} {item : Value} {rest : List (String × Value)} {name text : List Char}
    {texts : List (List Char)} (named : WritesText key name) (first : Compact item text)
    (others : CompactMembers rest texts) :
    CompactMembers ((key, item) :: rest) ((name ++ ':' :: text) :: texts)

end

theorem hexDigits_getElem? {n : ℕ} (below : n < 16) : hexDigits[n]? = some (Nat.digitChar n) := by
  have all : ∀ n < 16, hexDigits[n]? = some (Nat.digitChar n) := by decide
  exact all n below

theorem writesChar_escape (c : Char) : WritesChar c (escape c) := by
  unfold escape
  split
  case h_8 quote backslash feed retreat tab back form =>
    split
    case isTrue control =>
      refine .numbered control (fun letter known => ?_) (hexDigits_getElem? (by omega))
        (hexDigits_getElem? (by omega))
      simp only [letters, List.mem_cons, Prod.mk.injEq, List.not_mem_nil, or_false] at known
      tauto
    case isFalse printable => exact .plain (by omega) ⟨quote, backslash⟩
  all_goals exact .lettered (by decide)

theorem writesText_stringText (s : String) : WritesText s (stringText s).toList := by
  have written := WritesText.quoted (s := s)
    (List.forall₂_map_right_iff.2 (List.forall₂_same.2 fun c _ => writesChar_escape c))
  rwa [stringText, String.toList_ofList, List.flatMap_def]

mutual

theorem compact_text : (v : Value) → Compact v v.text.toList
  | .null => .null
  | .bool true => .yes
  | .bool false => .no
  | .number n => .number n.writes_text
  | .string s => .string (writesText_stringText s)
  | .array items => by
    have each := Compact.array (compactItems_itemTexts items)
    rw [Value.text, String.toList_append, String.toList_append, String.toList_intercalate]
    exact each
  | .object members => by
    have each := Compact.object (compactMembers_memberTexts members)
    rw [Value.text, String.toList_append, String.toList_append, String.toList_intercalate]
    exact each

theorem compactItems_itemTexts :
    (items : List Value) → CompactItems items ((itemTexts items).map String.toList)
  | [] => .nil
  | item :: rest => .cons (compact_text item) (compactItems_itemTexts rest)

theorem compactMembers_memberTexts :
    (members : List (String × Value)) →
      CompactMembers members ((memberTexts members).map String.toList)
  | [] => .nil
  | (key, item) :: rest => by
    have member := CompactMembers.cons (writesText_stringText key) (compact_text item)
      (compactMembers_memberTexts rest)
    rw [memberTexts, List.map_cons, String.toList_append, String.toList_append, List.append_assoc]
    exact member

end

end Readiness.Json
