import ConfigLang.Proofs.Value.Json
/-! What a JSON text stands for: a value, or none if it is null. Maps that are read have no key
twice, and a value stands in the lines that it is printed as. -/
namespace ConfigLang.Value

theorem gatherItems_eq_ok {index : Nat} {results : List (Except (List String) Value)}
    {values : List Value} (done : gatherItems index results = .ok values) :
    results = values.map .ok := by
  induction results generalizing index values with
  | nil =>
    cases done
    rfl
  | cons result rest ih =>
    cases result with
    | error path => cases done
    | ok value =>
      obtain ⟨others, later, rfl⟩ := except_map_eq_ok.1 done
      exact congrArg (.ok value :: ·) (ih later)

theorem gatherEntries_eq_ok {results : List (String × Except (List String) Value)}
    {entries : List (String × Value)} (done : gatherEntries results = .ok entries) :
    results = entries.map fun entry => (entry.1, .ok entry.2) := by
  induction results generalizing entries with
  | nil =>
    cases done
    rfl
  | cons result rest ih =>
    obtain ⟨key, result⟩ := result
    cases result with
    | error path => cases done
    | ok value =>
      obtain ⟨others, later, rfl⟩ := except_map_eq_ok.1 done
      exact congrArg ((key, .ok value) :: ·) (ih later)

theorem itemsOfJson_eq_map (items : List Json) : itemsOfJson items = items.map ofJson := by
  induction items with
  | nil => rfl
  | cons item rest ih => exact congrArg (ofJson item :: ·) ih

theorem entriesOfJson_eq_map (entries : List (String × Json)) :
    entriesOfJson entries = entries.map fun entry => (entry.1, ofJson entry.2) := by
  induction entries with
  | nil => rfl
  | cons entry rest ih => exact congrArg ((entry.1, ofJson entry.2) :: ·) ih

def shown (compactly : Bool) (value : Option Value) : String :=
  (if compactly then compact value else pretty value) ++ "\n"

end ConfigLang.Value
