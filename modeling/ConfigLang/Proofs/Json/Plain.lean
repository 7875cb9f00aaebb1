import ConfigLang.Json.Basic
/-! JSON values that hold strings, arrays and objects only. -/
namespace ConfigLang.Json

@[elab_as_elim]
theorem induct {motive : Json → Prop} (null : motive null) (bool : ∀ b, motive (bool b))
    (number : ∀ n, motive (number n)) (string : ∀ text, motive (string text))
    (array : ∀ items, (∀ item ∈ items, motive item) → motive (array items))
    (object : ∀ entries, (∀ entry ∈ entries, motive entry.2) → motive (object entries)) :
    ∀ json, motive json
  | .null => null
  | .bool b => bool b
  | .number n => number n
  | .string text => string text
  | .array items => array items fun item _ => induct null bool number string array object item
  | .object entries =>
    object entries fun entry _ => induct null bool number string array object entry.2
decreasing_by
  · next member =>
    have := List.sizeOf_lt_of_mem member
    simp only [Json.array.sizeOf_spec]
    omega
  · next member =>
    have := List.sizeOf_lt_of_mem member
    obtain ⟨key, value⟩ := entry
    simp only [Json.object.sizeOf_spec, Prod.mk.sizeOf_spec] at this ⊢
    omega

mutual

def nesting : Json → Nat
  | .array items => nestingOfItems items + 1
  | .object entries => nestingOfEntries entries + 1
  | _ => 0

def nestingOfItems : List Json → Nat
  | [] => 0
  | item :: rest => max item.nesting (nestingOfItems rest)

def nestingOfEntries : List (String × Json) → Nat
  | [] => 0
  | (_, value) :: rest => max value.nesting (nestingOfEntries rest)

end

mutual

def IsPlain : Json → Prop
  | .string _ => True
  | .array items => ArePlainItems items
  | .object entries => ArePlainEntries entries
  | _ => False

def ArePlainItems : List Json → Prop
  | [] => True
  | item :: rest => item.IsPlain ∧ ArePlainItems rest

def ArePlainEntries : List (String × Json) → Prop
  | [] => True
  | (_, value) :: rest => value.IsPlain ∧ ArePlainEntries rest

end

theorem arePlainItems_iff {items : List Json} :
    ArePlainItems items ↔ ∀ item ∈ items, item.IsPlain := by
  induction items with
  | nil => simp [ArePlainItems]
  | cons item rest ih => rw [ArePlainItems, ih, List.forall_mem_cons]

theorem arePlainEntries_iff {entries : List (String × Json)} :
    ArePlainEntries entries ↔ ∀ entry ∈ entries, entry.2.IsPlain := by
  induction entries with
  | nil => simp [ArePlainEntries]
  | cons entry rest ih => rw [ArePlainEntries, ih, List.forall_mem_cons]

end ConfigLang.Json
