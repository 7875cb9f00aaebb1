import ConfigLang.Cli.Run
import ConfigLang.Proofs.Value.Meaning
/-! Arguments. A host may supply any JSON value in which there is no null; what it supplies is
mirrored item by item and entry by entry. A value with nulls is refused, and the path that the
refusal names leads to the first of them. An object holds each key once, so of a repeated key only
the last entry is looked at. -/
namespace ConfigLang

namespace Json

/-- What stands at the end of a path, which selects items by position and entries by key. -/
inductive Leads : Json → List String → Json → Prop
  | here (json : Json) : Leads json [] json
  | item {items : List Json} {i : Nat} {item found : Json} {path : List String}
      (stands : items[i]? = some item) (inner : Leads item path found) :
      Leads (.array items) (toString i :: path) found
  | entry {entries : List (String × Json)} {key : String} {value found : Json}
      {path : List String} (held : Entries.get? key (Entries.ofPairs entries) = some value)
      (inner : Leads value path found) : Leads (.object entries) (key :: path) found

inductive Before : Json → List String → List String → Prop
  | items {items : List Json} {i j : Nat} (earlier : i < j) (path other : List String) :
      Before (.array items) (toString i :: path) (toString j :: other)
  | item {items : List Json} {i : Nat} {item : Json} {path other : List String}
      (stands : items[i]? = some item) (inner : Before item path other) :
      Before (.array items) (toString i :: path) (toString i :: other)
  | entries {entries : List (String × Json)} {key later : String}
      (earlier : [key, later].Sublist (Entries.keys (Entries.ofPairs entries)))
      (path other : List String) : Before (.object entries) (key :: path) (later :: other)
  | entry {entries : List (String × Json)} {key : String} {value : Json}
      {path other : List String} (held : Entries.get? key (Entries.ofPairs entries) = some value)
      (inner : Before value path other) : Before (.object entries) (key :: path) (key :: other)

/-- The path leads to a null, and no path before it does. -/
def IsFirstNull (json : Json) (path : List String) : Prop :=
  Leads json path .null ∧ ∀ other, Leads json other .null → other = path ∨ Before json path other

end Json

namespace Value

open Json

/-- The value is the JSON value in texts, lists and maps: as many items in the same order, the same
keys in the same order, and a text for each number and each truth value. -/
inductive Mirrors : Json → Value → Prop
  | bool (b : Bool) : Mirrors (.bool b) (string (toString b))
  | number (n : Json.Number) : Mirrors (.number n) (string n.text)
  | string (text : String) : Mirrors (.string text) (string text)
  | array {items : List Json} {values : List Value} (length : values.length = items.length)
      (inner : ∀ (i : Nat) item value, items[i]? = some item → values[i]? = some value →
        Mirrors item value) : Mirrors (.array items) (list values)
  | object {entries : List (String × Json)} {values : Entries Value}
      (keys : Entries.keys values = Entries.keys (Entries.ofPairs entries))
      (inner : ∀ key json value, Entries.get? key (Entries.ofPairs entries) = some json →
        Entries.get? key values = some value → Mirrors json value) :
      Mirrors (.object entries) (map values)

/-! ### The first error among items and entries -/

theorem except_map_eq_error {ε α β : Type} {x : Except ε α} {f : α → β} {error : ε} :
    x.map f = .error error ↔ x = .error error := by
  cases x <;> simp [Except.map]

theorem gatherItems_eq_error {index : Nat} {items : List Json} {path : List String}
    (failed : gatherItems index (items.map ofJson) = .error path) :
    ∃ i item inner, items[i]? = some item ∧ ofJson item = .error inner ∧
      path = toString (index + i) :: inner ∧
      ∀ j < i, ∀ item, items[j]? = some item → ∃ value, ofJson item = .ok value := by
  induction items generalizing index with
  | nil => cases failed
  | cons item rest ih =>
    rw [List.map_cons] at failed
    cases read : ofJson item with
    | error inner =>
      rw [read] at failed
      cases failed
      exact ⟨0, item, inner, rfl, read, rfl, fun j below => absurd below (Nat.not_lt_zero j)⟩
    | ok value =>
      rw [read] at failed
      obtain ⟨i, found, inner, stands, refused, rfl, before⟩ := ih (except_map_eq_error.1 failed)
      refine ⟨i + 1, found, inner, stands, refused, ?_, ?_⟩
      · rw [Nat.add_right_comm, Nat.add_assoc]
      · intro j below other there
        cases j with
        | zero =>
          cases there
          exact ⟨value, read⟩
        | succ j => exact before j (Nat.lt_of_succ_lt_succ below) other there

theorem gatherEntries_eq_error {entries : Entries Json} {path : List String}
    (failed : gatherEntries (entries.map fun entry => (entry.1, ofJson entry.2)) = .error path) :
    ∃ before key json after inner, entries = before ++ (key, json) :: after ∧
      ofJson json = .error inner ∧ path = key :: inner ∧
      ∀ entry ∈ before, ∃ value, ofJson entry.2 = .ok value := by
  induction entries with
  | nil => cases failed
  | cons entry rest ih =>
    obtain ⟨name, json⟩ := entry
    rw [List.map_cons] at failed
    dsimp only at failed
    cases read : ofJson json with
    | error inner =>
      rw [read] at failed
      cases failed
      exact ⟨[], name, json, rest, inner, rfl, read, rfl, nofun⟩
    | ok value =>
      rw [read] at failed
      obtain ⟨before, key, found, after, inner, rfl, refused, rfl, fine⟩ :=
        ih (except_map_eq_error.1 failed)
      exact ⟨(name, json) :: before, key, found, after, inner, rfl, refused, rfl,
        List.forall_mem_cons.2 ⟨⟨value, read⟩, fine⟩⟩

/-! ### What a JSON value is read as -/

theorem ofJson_array (items : List Json) :
    ofJson (.array items) = (gatherItems 0 (items.map ofJson)).map list := by
  rw [ofJson, itemsOfJson_eq_map]

theorem ofJson_object (entries : List (String × Json)) :
    ofJson (.object entries) = (gatherEntries ((Entries.ofPairs entries).map fun entry =>
      (entry.1, ofJson entry.2))).map map := by
  rw [ofJson, entriesOfJson_eq_map, Entries.ofPairs_map]

theorem exists_entry_of_get? {entries : List (String × Json)} {key : String} {value : Json}
    (held : Entries.get? key (Entries.ofPairs entries) = some value) :
    ∃ entry ∈ entries, entry.2 = value :=
  ⟨_, Entries.mem_of_mem_ofPairs (Entries.mem_of_get? held), rfl⟩

theorem mirrors_of_ofJson {json : Json} : ∀ {value : Value}, ofJson json = .ok value →
    Mirrors json value ∧ ∀ path, ¬ Leads json path .null := by
  induction json using Json.induct with
  | null => nofun
  | bool b =>
    intro value read
    have same : value = string (toString b) := by cases b <;> cases read <;> rfl
    exact same ▸ ⟨.bool b, nofun⟩
  | number n =>
    rintro value ⟨⟩
    exact ⟨.number n, nofun⟩
  | string text =>
    rintro value ⟨⟩
    exact ⟨.string text, nofun⟩
  | array items ih =>
    intro value read
    rw [ofJson_array] at read
    obtain ⟨values, gathered, rfl⟩ := except_map_eq_ok.1 read
    have results := gatherItems_eq_ok gathered
    have found {i : Nat} {item : Json} (stands : items[i]? = some item) :
        ∃ value, values[i]? = some value ∧ ofJson item = .ok value := by
      have same := congrArg (·[i]?) results
      simp only [List.getElem?_map, stands, Option.map_some] at same
      obtain ⟨value, there, ok⟩ := Option.map_eq_some_iff.1 same.symm
      exact ⟨value, there, ok.symm⟩
    constructor
    · refine .array ?_ fun i item value stands there => ?_
      · simpa using (congrArg List.length results).symm
      · obtain ⟨value', there', ok⟩ := found stands
        cases there.symm.trans there'
        exact (ih item (List.mem_of_getElem? stands) ok).1
    · rintro path (_ | ⟨stands, inner⟩)
      obtain ⟨value, _, ok⟩ := found stands
      exact (ih _ (List.mem_of_getElem? stands) ok).2 _ inner
  | object entries ih =>
    intro value read
    rw [ofJson_object] at read
    obtain ⟨values, gathered, rfl⟩ := except_map_eq_ok.1 read
    have results := gatherEntries_eq_ok gathered
    have found {key : String} {json : Json}
        (held : Entries.get? key (Entries.ofPairs entries) = some json) :
        ∃ value, Entries.get? key values = some value ∧ ofJson json = .ok value := by
      have same := congrArg (Entries.get? key) results
      rw [Entries.get?_map, Entries.get?_map, held] at same
      obtain ⟨value, there, ok⟩ := Option.map_eq_some_iff.1 same.symm
      exact ⟨value, there, ok.symm⟩
    constructor
    · refine .object ?_ fun key json value held there => ?_
      · have same := congrArg Entries.keys results
        simpa [Entries.keys, Function.comp_def] using same.symm
      · obtain ⟨value', there', ok⟩ := found held
        cases there.symm.trans there'
        obtain ⟨entry, member, rfl⟩ := exists_entry_of_get? held
        exact (ih entry member ok).1
    · rintro path (_ | _ | ⟨held, inner⟩)
      obtain ⟨value, _, ok⟩ := found held
      obtain ⟨entry, member, rfl⟩ := exists_entry_of_get? held
      exact (ih entry member ok).2 _ inner

theorem isFirstNull_of_ofJson {json : Json} : ∀ {path : List String},
    ofJson json = .error path → IsFirstNull json path := by
  -- none of the items and entries in front of the one that the path goes into holds a null
  induction json using Json.induct with
  | null =>
    rintro path ⟨⟩
    exact ⟨.here _, fun other leads => by cases leads; exact .inl rfl⟩
  | bool b => cases b <;> nofun
  | number n => nofun
  | string text => nofun
  | array items ih =>
    intro path failed
    rw [ofJson_array, except_map_eq_error] at failed
    obtain ⟨i, item, inner, stands, refused, rfl, before⟩ := gatherItems_eq_error failed
    obtain ⟨leads, first⟩ := ih item (List.mem_of_getElem? stands) refused
    rw [Nat.zero_add]
    refine ⟨.item stands leads, ?_⟩
    rintro other (_ | @⟨_, j, item', _, path, stands', leads'⟩)
    rcases Nat.lt_trichotomy i j with earlier | rfl | later
    · exact .inr (.items earlier _ _)
    · cases stands.symm.trans stands'
      exact (first path leads').imp (congrArg _) (.item stands)
    · obtain ⟨value, read⟩ := before j later item' stands'
      exact absurd leads' ((mirrors_of_ofJson read).2 path)
  | object entries ih =>
    intro path failed
    rw [ofJson_object, except_map_eq_error] at failed
    obtain ⟨before, key, json, after, inner, whole, refused, rfl, fine⟩ :=
      gatherEntries_eq_error failed
    have held : Entries.get? key (Entries.ofPairs entries) = some json :=
      Entries.get?_of_mem (Entries.nodup_ofPairs entries) (whole ▸ by simp)
    obtain ⟨entry, member, rfl⟩ := exists_entry_of_get? held
    obtain ⟨leads, first⟩ := ih entry member refused
    refine ⟨.entry held leads, ?_⟩
    rintro other (_ | _ | @⟨_, key', json', _, path, held', leads'⟩)
    have there : (key', json') ∈ before ++ (key, entry.2) :: after :=
      whole ▸ Entries.mem_of_get? held'
    rcases List.mem_append.1 there with earlier | there
    · obtain ⟨value, read⟩ := fine _ earlier
      exact absurd leads' ((mirrors_of_ofJson read).2 path)
    rcases List.mem_cons.1 there with same | later
    · cases same
      exact (first path leads').imp (congrArg _) (.entry held)
    · have later : [key'].Sublist (Entries.keys after) :=
        List.singleton_sublist.2 (List.mem_map_of_mem later)
      have order : [key, key'].Sublist (Entries.keys (Entries.ofPairs entries)) := by
        rw [whole, Entries.keys, List.map_append, List.map_cons]
        exact (later.cons_cons key).trans (List.sublist_append_right _ _)
      exact .inr (.entries order _ _)

/-- An argument is refused if and only if there is a null in it. The refusal names the path to the
first one; what is not refused is mirrored. -/
theorem argument_fails_at_first_null (json : Json) :
    ((∃ error, Cli.argumentOfJson json = .error error) ↔ ∃ path, Leads json path .null) ∧
      (∀ error, Cli.argumentOfJson json = .error error → ∃ path,
        error = .invalidArgument path "null has no ARCL representation" ∧ IsFirstNull json path) ∧
      ∀ value, Cli.argumentOfJson json = .ok value → Mirrors json value := by
  unfold Cli.argumentOfJson
  cases read : ofJson json with
  | error path =>
    have first := isFirstNull_of_ofJson read
    refine ⟨iff_of_true ⟨_, rfl⟩ ⟨path, first.1⟩, ?_, nofun⟩
    rintro error ⟨⟩
    exact ⟨path, rfl, first⟩
  | ok value =>
    obtain ⟨mirrors, free⟩ := mirrors_of_ofJson read
    refine ⟨iff_of_false nofun fun ⟨path, leads⟩ => free path leads, nofun, ?_⟩
    rintro value' ⟨⟩
    exact mirrors

theorem argument_fails_at_first_null_behind_siblings :
    let json : Json := .object [("k", .null), ("a", .array [.bool true, .object [("b", .array [])],
      .array [.string "x", .null]]), ("k", .number (.whole 1)), ("z", .null)]
    let path := ["a", "2", "1"]
    Cli.argumentOfJson json = .error (.invalidArgument path "null has no ARCL representation") ∧
      IsFirstNull json path ∧ Leads json ["z"] .null ∧ ¬ Leads json ["k"] .null := by
  intro json path
  have failed : Cli.argumentOfJson json =
      .error (.invalidArgument path "null has no ARCL representation") := by rfl
  obtain ⟨_, refused, _⟩ := argument_fails_at_first_null json
  obtain ⟨path', same, first⟩ := refused _ failed
  cases same
  refine ⟨failed, first, .entry rfl (.here _), ?_⟩
  change ¬ Leads (.object _) ["k"] .null
  rintro (_ | _ | ⟨held, inner⟩)
  cases held
  cases inner

end Value
end ConfigLang
