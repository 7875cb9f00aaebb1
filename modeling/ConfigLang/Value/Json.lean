import ConfigLang.Json.Reader
import ConfigLang.Json.Printer
import ConfigLang.Value.Basic
/-! Values as JSON. Writing is one way; reading is done in two ways. The lenient reader takes
what a host supplies and turns numbers and truth values into texts; the strict reader takes
only what writing produces. -/
namespace ConfigLang.Value

mutual

def toJson : Value → Json
  | string text => .string text
  | list items => .array (itemsToJson items)
  | map entries => .object (entriesToJson entries)

def itemsToJson : List Value → List Json
  | [] => []
  | item :: rest => item.toJson :: itemsToJson rest

def entriesToJson : List (String × Value) → List (String × Json)
  | [] => []
  | (key, value) :: rest => (key, value.toJson) :: entriesToJson rest

end

/-- The list of the items, or the path of the first item without a value: its position,
counted from `index`, and the path inside it. -/
def gatherItems (index : Nat) :
    List (Except (List String) Value) → Except (List String) (List Value)
  | [] => .ok []
  | .error path :: _ => .error (toString index :: path)
  | .ok item :: rest => (gatherItems (index + 1) rest).map (item :: ·)

def gatherEntries :
    List (String × Except (List String) Value) → Except (List String) (List (String × Value))
  | [] => .ok []
  | (key, .error path) :: _ => .error (key :: path)
  | (key, .ok value) :: rest => (gatherEntries rest).map ((key, value) :: ·)

mutual

/-- The value of a JSON value, or the path of the first null in it. Of a repeated key only
the last entry counts. -/
def ofJson : Json → Except (List String) Value
  | .null => .error []
  | .bool true => .ok (string "true")
  | .bool false => .ok (string "false")
  | .number n => .ok (string n.text)
  | .string text => .ok (string text)
  | .array items => (gatherItems 0 (itemsOfJson items)).map list
  | .object entries => (gatherEntries (Entries.ofPairs (entriesOfJson entries))).map map

def itemsOfJson : List Json → List (Except (List String) Value)
  | [] => []
  | item :: rest => ofJson item :: itemsOfJson rest

def entriesOfJson : List (String × Json) → List (String × Except (List String) Value)
  | [] => []
  | (key, value) :: rest => (key, ofJson value) :: entriesOfJson rest

end

mutual

/-- The value that a JSON value was written from. There is none if a number, a truth value
or a null occurs anywhere in it. -/
def ofPlainJson? : Json → Option Value
  | .string text => some (string text)
  | .array items => (itemsOfPlainJson? items).map list
  | .object entries => (entriesOfPlainJson? entries).map fun pairs => map (Entries.ofPairs pairs)
  | _ => none

def itemsOfPlainJson? : List Json → Option (List Value)
  | [] => some []
  | item :: rest => do
    let value ← ofPlainJson? item
    let values ← itemsOfPlainJson? rest
    return value :: values

def entriesOfPlainJson? : List (String × Json) → Option (List (String × Value))
  | [] => some []
  | (key, json) :: rest => do
    let value ← ofPlainJson? json
    let values ← entriesOfPlainJson? rest
    return (key, value) :: values

end

def read (text : String) : Except Json.ReadError Value :=
  (do
    let (json, rest) ← Json.readValue Json.maxNesting text.toList
    match ofPlainJson? json with
    | none => .error (.mismatch "data did not match any variant of untagged enum Value")
    | some value => do
      Json.expectEnd rest.1
      return value).mapError (Json.Fault.locate text.toList)

def compact (value : Option Value) : String := (Json.ofOption toJson value).compact

def pretty (value : Option Value) : String := (Json.ofOption toJson value).pretty

end ConfigLang.Value
