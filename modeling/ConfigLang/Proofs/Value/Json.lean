import ConfigLang.Error
import ConfigLang.Proofs.Encoding.Basic
import ConfigLang.Proofs.Json.Printing
import ConfigLang.Proofs.Json.Reading
import ConfigLang.Proofs.Value.Distinct
import ConfigLang.Value.Json
/-! Values and their JSON texts. A value is read back from what it is written as, by either
reader; the strict reader takes just the JSON values that hold strings, arrays and objects only,
and there the lenient one comes to the same value, whatever keys are repeated. -/
namespace ConfigLang

namespace Value

/-! ### The two readers -/

theorem gatherItems_ok (values : List Value) (index : Nat) :
    gatherItems index (values.map .ok) = .ok values := by
  induction values generalizing index with
  | nil => rfl
  | cons value rest ih =>
    rw [List.map_cons, gatherItems, ih]
    rfl

theorem gatherEntries_ok (entries : Entries Value) :
    gatherEntries (entries.map fun entry => (entry.1, .ok entry.2)) = .ok entries := by
  induction entries with
  | nil => rfl
  | cons entry rest ih =>
    rw [List.map_cons, gatherEntries, ih]
    rfl

def ReadAlike (json : Json) (value : Value) : Prop :=
  ofPlainJson? json = some value ∧ ofJson json = .ok value

theorem exists_items_read {items : List Json}
    (inner : ∀ item ∈ items, ∃ value, ReadAlike item value) :
    ∃ values, itemsOfPlainJson? items = some values ∧ itemsOfJson items = values.map .ok := by
  induction items with
  | nil => exact ⟨[], rfl, rfl⟩
  | cons item rest ih =>
    obtain ⟨⟨value, strict, lenient⟩, inner⟩ := List.forall_mem_cons.1 inner
    obtain ⟨values, stricts, lenients⟩ := ih inner
    refine ⟨value :: values, ?_, ?_⟩
    · rw [itemsOfPlainJson?, strict, stricts]
      rfl
    · rw [itemsOfJson, lenient, lenients]
      rfl

theorem exists_entries_read {entries : List (String × Json)}
    (inner : ∀ entry ∈ entries, ∃ value, ReadAlike entry.2 value) :
    ∃ pairs, entriesOfPlainJson? entries = some pairs ∧
      entriesOfJson entries = pairs.map fun pair => (pair.1, .ok pair.2) := by
  induction entries with
  | nil => exact ⟨[], rfl, rfl⟩
  | cons entry rest ih =>
    obtain ⟨⟨value, strict, lenient⟩, inner⟩ := List.forall_mem_cons.1 inner
    obtain ⟨pairs, stricts, lenients⟩ := ih inner
    refine ⟨(entry.1, value) :: pairs, ?_, ?_⟩
    · rw [entriesOfPlainJson?, strict, stricts]
      rfl
    · rw [entriesOfJson, lenient, lenients]
      rfl

theorem exists_readAlike {json : Json} (plain : json.IsPlain) :
    ∃ value, ReadAlike json value := by
  induction json using Json.induct with
  | null => cases plain
  | bool b => cases plain
  | number n => cases plain
  | string text => exact ⟨string text, rfl, rfl⟩
  | array items ih =>
    obtain ⟨values, strict, lenient⟩ := exists_items_read fun item member =>
      ih item member (Json.arePlainItems_iff.1 plain item member)
    refine ⟨list values, ?_, ?_⟩
    · rw [ofPlainJson?, strict]
      rfl
    · rw [ofJson, lenient, gatherItems_ok]
      rfl
  | object entries ih =>
    obtain ⟨pairs, strict, lenient⟩ := exists_entries_read fun entry member =>
      ih entry member (Json.arePlainEntries_iff.1 plain entry member)
    refine ⟨map (Entries.ofPairs pairs), ?_, ?_⟩
    · rw [ofPlainJson?, strict]
      rfl
    · rw [ofJson, lenient, Entries.ofPairs_map, gatherEntries_ok]
      rfl

theorem arePlainItems_of_itemsOfPlainJson? {items : List Json} {values : List Value}
    (inner : ∀ item ∈ items, ∀ value, ofPlainJson? item = some value → item.IsPlain)
    (read : itemsOfPlainJson? items = some values) : Json.ArePlainItems items := by
  induction items generalizing values with
  | nil => trivial
  | cons item rest ih =>
    obtain ⟨here, inner⟩ := List.forall_mem_cons.1 inner
    simp only [itemsOfPlainJson?, Option.bind_eq_bind, Option.bind_eq_some_iff] at read
    obtain ⟨value, first, values, later, _⟩ := read
    exact ⟨here value first, ih inner later⟩

theorem arePlainEntries_of_entriesOfPlainJson? {entries : List (String × Json)}
    {pairs : List (String × Value)}
    (inner : ∀ entry ∈ entries, ∀ value, ofPlainJson? entry.2 = some value → entry.2.IsPlain)
    (read : entriesOfPlainJson? entries = some pairs) : Json.ArePlainEntries entries := by
  induction entries generalizing pairs with
  | nil => trivial
  | cons entry rest ih =>
    obtain ⟨here, inner⟩ := List.forall_mem_cons.1 inner
    simp only [entriesOfPlainJson?, Option.bind_eq_bind, Option.bind_eq_some_iff] at read
    obtain ⟨value, first, pairs, later, _⟩ := read
    exact ⟨here value first, ih inner later⟩

theorem isPlain_of_ofPlainJson? {json : Json} : ∀ value, ofPlainJson? json = some value →
    json.IsPlain := by
  induction json using Json.induct with
  | null => nofun
  | bool b => nofun
  | number n => nofun
  | string text => exact fun _ _ => trivial
  | array items ih =>
    intro value read
    rw [ofPlainJson?, Option.map_eq_some_iff] at read
    obtain ⟨values, read, _⟩ := read
    exact arePlainItems_of_itemsOfPlainJson? ih read
  | object entries ih =>
    intro value read
    rw [ofPlainJson?, Option.map_eq_some_iff] at read
    obtain ⟨pairs, read, _⟩ := read
    exact arePlainEntries_of_entriesOfPlainJson? ih read

theorem ofPlainJson?_eq_some_iff {json : Json} {value : Value} :
    ofPlainJson? json = some value ↔ json.IsPlain ∧ ofJson json = .ok value := by
  constructor
  · intro read
    have plain := isPlain_of_ofPlainJson? value read
    obtain ⟨found, strict, lenient⟩ := exists_readAlike plain
    cases strict.symm.trans read
    exact ⟨plain, lenient⟩
  · rintro ⟨plain, read⟩
    obtain ⟨found, strict, lenient⟩ := exists_readAlike plain
    cases lenient.symm.trans read
    exact strict

theorem read_eq_ok_iff {text : String} {value : Value} :
    read text = .ok value ↔
      ∃ json, Json.read text = .ok json ∧ ofPlainJson? json = some value := by
  unfold read Json.read
  simp only [except_mapError_eq_ok]
  cases parsed : Json.readValue Json.maxNesting text.toList with
  | error fault => simp [bind, Except.bind]
  | ok found =>
    obtain ⟨json, rest⟩ := found
    cases taken : ofPlainJson? json <;> cases ended : Json.expectEnd rest.1 <;>
      simp [bind, Except.bind, pure, Except.pure, taken, ended]

/-! ### What values are written as -/

theorem itemsToJson_eq_map (items : List Value) : itemsToJson items = items.map toJson := by
  induction items with
  | nil => rfl
  | cons item rest ih => rw [itemsToJson, ih, List.map_cons]

theorem entriesToJson_eq_map (entries : List (String × Value)) :
    entriesToJson entries = entries.map fun entry => (entry.1, entry.2.toJson) := by
  induction entries with
  | nil => rfl
  | cons entry rest ih => rw [entriesToJson, ih, List.map_cons]

theorem isPlain_toJson (value : Value) : value.toJson.IsPlain := by
  induction value using Value.induct with
  | string text => trivial
  | list items ih =>
    rw [toJson, itemsToJson_eq_map]
    apply Json.arePlainItems_iff.2
    simpa using ih
  | map entries ih =>
    rw [toJson, entriesToJson_eq_map]
    apply Json.arePlainEntries_iff.2
    intro entry member
    obtain ⟨source, there, rfl⟩ := List.mem_map.1 member
    exact ih source there

theorem nestingOfItems_map {items : List Value}
    (inner : ∀ item ∈ items, item.toJson.nesting = item.depth) :
    Json.nestingOfItems (items.map toJson) = depthOfItems items := by
  induction items with
  | nil => rfl
  | cons item rest ih =>
    obtain ⟨here, inner⟩ := List.forall_mem_cons.1 inner
    rw [List.map_cons, Json.nestingOfItems, depthOfItems, here, ih inner]

theorem nestingOfEntries_map {entries : List (String × Value)}
    (inner : ∀ entry ∈ entries, entry.2.toJson.nesting = entry.2.depth) :
    Json.nestingOfEntries (entries.map fun entry => (entry.1, entry.2.toJson)) =
      depthOfEntries entries := by
  induction entries with
  | nil => rfl
  | cons entry rest ih =>
    obtain ⟨here, inner⟩ := List.forall_mem_cons.1 inner
    rw [List.map_cons, Json.nestingOfEntries, depthOfEntries, here, ih inner]

theorem nesting_toJson (value : Value) : value.toJson.nesting = value.depth := by
  induction value using Value.induct with
  | string text => rfl
  | list items ih => rw [toJson, itemsToJson_eq_map, Json.nesting, nestingOfItems_map ih, depth]
  | map entries ih =>
    rw [toJson, entriesToJson_eq_map, Json.nesting, nestingOfEntries_map ih, depth]

theorem itemsOfJson_map {items : List Value}
    (inner : ∀ item ∈ items, ofJson item.toJson = .ok item) :
    itemsOfJson (items.map toJson) = items.map .ok := by
  induction items with
  | nil => rfl
  | cons item rest ih =>
    obtain ⟨here, inner⟩ := List.forall_mem_cons.1 inner
    rw [List.map_cons, itemsOfJson, here, ih inner, List.map_cons]

theorem entriesOfJson_map {entries : Entries Value}
    (inner : ∀ entry ∈ entries, ofJson entry.2.toJson = .ok entry.2) :
    entriesOfJson (entries.map fun entry => (entry.1, entry.2.toJson)) =
      entries.map fun entry => (entry.1, .ok entry.2) := by
  induction entries with
  | nil => rfl
  | cons entry rest ih =>
    obtain ⟨here, inner⟩ := List.forall_mem_cons.1 inner
    rw [List.map_cons, entriesOfJson, here, ih inner, List.map_cons]

theorem ofJson_toJson {value : Value} (distinct : value.DistinctKeys) :
    ofJson value.toJson = .ok value := by
  induction value using Value.induct with
  | string text => rfl
  | list items ih =>
    have inner := fun item member => ih item member (distinctKeys_list.1 distinct item member)
    rw [toJson, itemsToJson_eq_map, ofJson, itemsOfJson_map inner, gatherItems_ok]
    rfl
  | map entries ih =>
    obtain ⟨nodup, values⟩ := distinctKeys_map.1 distinct
    have inner := fun entry member => ih entry member (values entry member)
    rw [toJson, entriesToJson_eq_map, ofJson, entriesOfJson_map inner, Entries.ofPairs_map,
      Entries.ofPairs_of_nodup nodup, gatherEntries_ok]
    rfl

/-- A value is read back from its compact JSON text, with the keys of its maps in their order,
by the strict reader and by the lenient one. Whatever JSON text is made of strings, arrays and
objects, both readers take it for the same value, even if it repeats keys; and the strict reader
takes no text for which this does not hold. -/
theorem json_round_trip :
    (∀ value : Value, value.DistinctKeys → value.depth < 128 →
      read (compact (some value)) = .ok value ∧
        ∃ json, Json.read (compact (some value)) = .ok json ∧ ofJson json = .ok value) ∧
    (∀ text json, Json.IsText text json → json.nesting < 128 →
      ∃ value, read text = .ok value ∧ Json.read text = .ok json ∧ ofJson json = .ok value) ∧
    ∀ text value, read text = .ok value ↔
      ∃ json, Json.read text = .ok json ∧ json.IsPlain ∧ ofJson json = .ok value := by
  refine ⟨?_, ?_, ?_⟩
  · intro value distinct shallow
    have room : value.toJson.nesting ≤ Json.maxNesting := by
      rw [nesting_toJson]
      exact Nat.le_of_lt_succ shallow
    have parsed := (Json.isText_compact (isPlain_toJson value)).read room
    have taken := ofJson_toJson distinct
    have strict := ofPlainJson?_eq_some_iff.2 ⟨isPlain_toJson value, taken⟩
    exact ⟨read_eq_ok_iff.2 ⟨_, parsed, strict⟩, _, parsed, taken⟩
  · rintro text json isText shallow
    have parsed := isText.read (Nat.le_of_lt_succ shallow)
    obtain ⟨rest, derived, _⟩ := isText
    obtain ⟨value, strict, lenient⟩ := exists_readAlike derived.plain
    exact ⟨value, read_eq_ok_iff.2 ⟨json, parsed, strict⟩, parsed, lenient⟩
  · intro text value
    rw [read_eq_ok_iff]
    simp only [ofPlainJson?_eq_some_iff]

/-- A value with an empty key, keys and texts that need escapes, and empty containers; and a text
with blanks and an escape that writes one key twice, of which the last entry counts. -/
theorem json_round_trip_of_repeated_key :
    let value := map [("", list []), ("a\"\\\n", list [map [], string "", string "\x01é]"])]
    let text := String.ofList ['\x7b', ' ', '"', 'k', '"', ' ', ':', '[', '\n', ']', ',', '"', 'k',
      '"', ':', '"', '\\', 'u', '0', '0', 'E', '9', '"', '\x7d', ' ']
    let latter := map [("k", string "é")]
    read (compact (some value)) = .ok value ∧ read text = .ok latter ∧
      ∃ json, Json.read text = .ok json ∧ ofJson json = .ok latter := by
  intro value text latter
  have distinct : value.DistinctKeys := by
    simp [value, DistinctKeys, DistinctKeysOfEntries, DistinctKeysOfItems, Entries.keys]
  have key (rest : List Char) : Json.IsString ('k' :: '"' :: rest) ['k'] rest :=
    .plain (by decide) (by decide) (by decide) (.close rest)
  have isText : Json.IsText text
      (.object [("k", .array []), ("k", .string "é")]) := by
    refine ⟨[' '], ?_, .blank rfl (.none _)⟩
    rw [String.toList_ofList]
    have accent : Json.IsString ['\\', 'u', '0', '0', 'E', '9', '"', '\x7d', ' '] ['é']
        ['\x7d', ' '] := .unit rfl (by decide) (by decide) (.close _)
    refine .object (.none _) (.some (.blank rfl (.none _)) ?_)
    refine .more (key _) (.blank rfl (.none _)) (.array (.none _) (.none (.blank rfl (.none _))))
      (.none _) (.none _) ?_
    exact .last (key _) (.none _) (.string (.none _) accent) (.none _)
  obtain ⟨round, grammar, _⟩ := json_round_trip
  obtain ⟨found, strict, parsed, lenient⟩ := grammar text _ isText (by decide)
  cases (lenient.symm.trans rfl : Except.ok found = Except.ok latter)
  exact ⟨(round value distinct (by decide)).1, strict, _, parsed, lenient⟩

end Value
end ConfigLang
