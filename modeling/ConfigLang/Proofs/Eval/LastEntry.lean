import Mathlib.Data.List.Induction
import ConfigLang.Proofs.Eval.BlockShape
/-! The entries of a map. An entry overwrites the one of its key in place, and one without a value
takes it out, so that a later one comes last. Behind all of them the last entry of a key decides what
it holds, and the keys are in the order in which those that are left first came. -/
namespace ConfigLang

def Item.entry? : Item → Option (Key × ValueNode)
  | .tagged key value none _ => some (key, value)
  | _ => none

theorem Item.entry?_of_trivia {item : Item} (trivia : item.isTrivia = true) :
    item.entry? = none := by
  cases item with
  | tagged key value template span => cases trivia
  | _ => rfl

namespace Entries

variable {α : Type}

/-- One pair written into the entries, or taken out of them if it has no value. -/
def put (entries : Entries α) (pair : String × Option α) : Entries α :=
  match pair.2 with
  | some value => insert pair.1 value entries
  | none => erase pair.1 entries

def last? (key : String) (pairs : List (String × Option α)) : Option α :=
  (pairs.reverse.find? fun pair => pair.1 = key).bind Prod.snd

/-- The place of a key among pairs: the first pair for it behind the last one without a value. -/
structure IsPlace (pairs : List (String × Option α)) (key : String) (i : Nat) : Prop where
  own : ∃ value, pairs[i]? = some (key, value)
  behind : ∀ j, pairs[j]? = some (key, none) → j < i
  first : ∀ j value, pairs[j]? = some (key, value) →
    (∀ k, pairs[k]? = some (key, none) → k < j) → i ≤ j

def Precedes (pairs : List (String × Option α)) (key other : String) : Prop :=
  ∃ i j, IsPlace pairs key i ∧ IsPlace pairs other j ∧ i < j

section pairs

variable {pairs : List (String × Option α)} {pair : String × Option α} {key : String} {i : Nat}

theorem last?_concat (pairs : List (String × Option α)) (pair : String × Option α) (key : String) :
    last? key (pairs ++ [pair]) = if pair.1 = key then pair.2 else last? key pairs := by
  rw [last?, List.reverse_append, List.reverse_singleton, List.singleton_append]
  by_cases same : pair.1 = key
  · rw [List.find?_cons_of_pos (by simpa using same), if_pos same]
    rfl
  · rw [List.find?_cons_of_neg (by simpa using same), if_neg same]
    rfl

theorem getElem?_concat_iff {other : String × Option α} :
    (pairs ++ [pair])[i]? = some other ↔
      pairs[i]? = some other ∨ i = pairs.length ∧ pair = other := by
  rcases Nat.lt_trichotomy i pairs.length with before | rfl | behind
  · have other : i ≠ pairs.length := Nat.ne_of_lt before
    simp [List.getElem?_append_left before, other]
  · simp
  · have outside : (pairs ++ [pair])[i]? = none := List.getElem?_eq_none (by simp; omega)
    have none : pairs[i]? = none := List.getElem?_eq_none (by omega)
    have other : i ≠ pairs.length := by omega
    simp [outside, none, other]

theorem IsPlace.lt (place : IsPlace pairs key i) : i < pairs.length := by
  obtain ⟨value, here⟩ := place.own
  exact (List.getElem?_eq_some_iff.1 here).1

theorem IsPlace.concat (place : IsPlace pairs key i) (kept : pair ≠ (key, none)) :
    IsPlace (pairs ++ [pair]) key i := by
  constructor
  · obtain ⟨value, here⟩ := place.own
    exact ⟨value, getElem?_concat_iff.2 (.inl here)⟩
  · intro j absent
    rcases getElem?_concat_iff.1 absent with earlier | ⟨_, same⟩
    · exact place.behind j earlier
    · exact absurd same kept
  · intro j value there later
    rcases getElem?_concat_iff.1 there with earlier | ⟨rfl, _⟩
    · exact place.first j value earlier fun k absent =>
        later k (getElem?_concat_iff.2 (.inl absent))
    · exact Nat.le_of_lt place.lt

theorem Precedes.concat {other : String} (before : Precedes pairs key other)
    (kept : pair ≠ (key, none)) (keptOther : pair ≠ (other, none)) :
    Precedes (pairs ++ [pair]) key other := by
  obtain ⟨i, j, place, placeOther, lt⟩ := before
  exact ⟨i, j, place.concat kept, placeOther.concat keptOther, lt⟩

theorem exists_absent (nothing : last? key pairs = none) {value : Option α}
    (here : pairs[i]? = some (key, value)) : ∃ j, i ≤ j ∧ pairs[j]? = some (key, none) := by
  induction pairs using List.reverseRecOn with
  | nil => cases here
  | append_singleton front pair ih =>
    rw [last?_concat] at nothing
    by_cases same : pair.1 = key
    · rw [if_pos same] at nothing
      refine ⟨front.length, ?_, getElem?_concat_iff.2 (.inr ⟨rfl, Prod.ext same nothing⟩)⟩
      have inside := (List.getElem?_eq_some_iff.1 here).1
      rw [List.length_append, List.length_singleton] at inside
      omega
    · rw [if_neg same] at nothing
      rcases getElem?_concat_iff.1 here with earlier | ⟨_, rfl⟩
      · obtain ⟨j, le, absent⟩ := ih nothing earlier
        exact ⟨j, le, getElem?_concat_iff.2 (.inl absent)⟩
      · exact absurd rfl same

theorem isPlace_length (nothing : last? key pairs = none) (value : α) :
    IsPlace (pairs ++ [(key, some value)]) key pairs.length := by
  constructor
  · exact ⟨some value, getElem?_concat_iff.2 (.inr ⟨rfl, rfl⟩)⟩
  · intro j absent
    rcases getElem?_concat_iff.1 absent with earlier | ⟨_, same⟩
    · exact (List.getElem?_eq_some_iff.1 earlier).1
    · cases same
  · intro j held there later
    rcases getElem?_concat_iff.1 there with earlier | ⟨rfl, _⟩
    · obtain ⟨k, le, absent⟩ := exists_absent nothing earlier
      have lt := later k (getElem?_concat_iff.2 (.inl absent))
      omega
    · exact Nat.le_refl _

/-- What pairs come to that are written one after another: each key holds what its last pair does,
and the keys are in the order of their places. -/
structure Written (pairs : List (String × Option α)) (entries : Entries α) : Prop where
  holds : ∀ key, get? key entries = last? key pairs
  nodup : (keys entries).Nodup
  placed : ∀ key ∈ keys entries, ∃ i, IsPlace pairs key i
  inOrder : (keys entries).Pairwise (Precedes pairs)

theorem get?_put (entries : Entries α) (pair : String × Option α) (key : String) :
    get? key (put entries pair) = if pair.1 = key then pair.2 else get? key entries := by
  obtain ⟨name, value⟩ := pair
  cases value with
  | some value => exact get?_insert key name value entries
  | none => exact get?_erase key name entries

theorem keys_erase (name : String) (entries : Entries α) :
    keys (erase name entries) = (keys entries).filter (· ≠ name) := by
  rw [keys, keys, erase, List.filter_map]
  rfl

section written

variable {entries : Entries α} (written : Written pairs entries)

include written

theorem Written.holds_put (pair : String × Option α) (key : String) :
    get? key (Entries.put entries pair) = last? key (pairs ++ [pair]) := by
  rw [get?_put, last?_concat, written.holds]

theorem Written.erase (name : String) :
    Written (pairs ++ [(name, none)]) (Entries.erase name entries) := by
  have others {key : String} (left : key ∈ keys (Entries.erase name entries)) :
      key ∈ keys entries ∧ (name, none) ≠ (key, (none : Option α)) := by
    rw [keys_erase, List.mem_filter] at left
    refine ⟨left.1, ?_⟩
    rintro ⟨⟩
    simp at left
  have sublist : (keys (Entries.erase name entries)).Sublist (keys entries) := by
    rw [keys_erase]
    exact List.filter_sublist
  constructor
  · exact written.holds_put (name, none)
  · exact nodup_erase name written.nodup
  · intro key left
    obtain ⟨present, kept⟩ := others left
    obtain ⟨i, place⟩ := written.placed key present
    exact ⟨i, place.concat kept⟩
  · refine (written.inOrder.sublist sublist).imp_of_mem fun left left' before => ?_
    exact before.concat (others left).2 (others left').2

theorem Written.overwrite {name : String} (present : name ∈ keys entries) (value : α) :
    Written (pairs ++ [(name, some value)]) (insert name value entries) := by
  have kept (key : String) : (name, some value) ≠ (key, none) := by simp
  have same : keys (insert name value entries) = keys entries :=
    keys_insert_of_mem name value entries present
  constructor
  · exact written.holds_put (name, some value)
  · exact nodup_insert name value written.nodup
  · intro key there
    rw [same] at there
    obtain ⟨i, place⟩ := written.placed key there
    exact ⟨i, place.concat (kept key)⟩
  · rw [same]
    exact written.inOrder.imp fun before => before.concat (kept _) (kept _)

theorem Written.append {name : String} (absent : name ∉ keys entries) (value : α) :
    Written (pairs ++ [(name, some value)]) (insert name value entries) := by
  have kept (key : String) : (name, some value) ≠ (key, none) := by simp
  have last : keys (insert name value entries) = keys entries ++ [name] :=
    keys_insert_of_not_mem name value entries absent
  have nothing : last? name pairs = none := by
    rw [← written.holds]
    exact get?_eq_none_iff.2 absent
  have place := isPlace_length nothing value
  have earlier (key : String) (there : key ∈ keys entries) :
      ∃ i, IsPlace (pairs ++ [(name, some value)]) key i ∧ i < pairs.length := by
    obtain ⟨i, before⟩ := written.placed key there
    exact ⟨i, before.concat (kept key), before.lt⟩
  constructor
  · exact written.holds_put (name, some value)
  · exact nodup_insert name value written.nodup
  · intro key there
    rw [last] at there
    rcases List.mem_append.1 there with before | here
    · obtain ⟨i, placed, _⟩ := earlier key before
      exact ⟨i, placed⟩
    · rw [List.mem_singleton.1 here]
      exact ⟨_, place⟩
  · rw [last, List.pairwise_append]
    refine ⟨written.inOrder.imp fun before => before.concat (kept _) (kept _),
      List.pairwise_singleton _ _, ?_⟩
    intro key there other here
    rw [List.mem_singleton.1 here]
    obtain ⟨i, placed, lt⟩ := earlier key there
    exact ⟨i, _, placed, place, lt⟩

theorem Written.put (pair : String × Option α) :
    Written (pairs ++ [pair]) (Entries.put entries pair) := by
  obtain ⟨name, value⟩ := pair
  cases value with
  | none => exact written.erase name
  | some value =>
    by_cases present : name ∈ keys entries
    · exact written.overwrite present value
    · exact written.append present value

end written

end pairs

theorem written_foldl (pairs : List (String × Option α)) : Written pairs (pairs.foldl put []) := by
  induction pairs using List.reverseRecOn with
  | nil => exact ⟨fun _ => rfl, List.nodup_nil, nofun, List.Pairwise.nil⟩
  | append_singleton front pair ih =>
    rw [List.foldl_append]
    exact ih.put pair

end Entries

namespace Eval

def evalEntry (nested : NodeEval) (argument : Option Value) (entry : Key × ValueNode) :
    Except Error (String × Option Value) := do
  let key ← keyText argument entry.1
  let value ← nested entry.2 argument
  return (key, value)

section items

variable {nested : NodeEval} {argument : Option Value} {items : List Item}

theorem gather_entry (nested : NodeEval) (argument : Option Value) (entries : Entries Value)
    (breakDue : Bool) (key : Key) (value : ValueNode) (span : Span) :
    Accumulator.gather nested argument ⟨some (.map entries), breakDue⟩
        (.tagged key value none span) =
      (evalEntry nested argument (key, value)).map fun pair =>
        ⟨some (.map (entries.put pair)), breakDue⟩ := by
  simp only [Accumulator.gather, addItem, Accumulator.lock, Value.shape, if_true, evalEntry, bind,
    Except.bind]
  cases keyText argument key with
  | error error => rfl
  | ok name =>
    cases nested value argument with
    | error error => rfl
    | ok held => cases held <;> rfl

theorem foldlM_gather_entries
    (entriesOnly : ∀ item ∈ items,
      item.isTrivia = true ∨ ∃ key value span, item = .tagged key value none span)
    (entries : Entries Value) (breakDue : Bool) :
    items.foldlM (Accumulator.gather nested argument) ⟨some (.map entries), breakDue⟩ =
      ((items.filterMap Item.entry?).mapM (evalEntry nested argument)).map fun pairs =>
        ⟨some (.map (pairs.foldl Entries.put entries)), breakDue⟩ := by
  induction items generalizing entries with
  | nil => rfl
  | cons item rest ih =>
    obtain ⟨here, later⟩ := List.forall_mem_cons.1 entriesOnly
    rw [List.foldlM_cons]
    rcases here with trivia | ⟨key, value, span, rfl⟩
    · rw [gather_trivia trivia, List.filterMap_cons_none (Item.entry?_of_trivia trivia)]
      exact ih later entries
    · have first : (Item.tagged key value none span :: rest).filterMap Item.entry? =
          (key, value) :: rest.filterMap Item.entry? := rfl
      rw [gather_entry, first, List.mapM_cons]
      cases evalEntry nested argument (key, value) with
      | error error => rfl
      | ok pair =>
        refine (ih later (entries.put pair)).trans ?_
        simp only [bind, Except.bind]
        cases (rest.filterMap Item.entry?).mapM (evalEntry nested argument) <;> rfl

end items

section block

variable {limit depth : Nat} {argument value : Option Value} {items : List Item}
  {templates : Templates}

/-- The last entry for a key decides. A block of entries that comes to a value is a map. What it
holds under a key is what the last entry with this key comes to, and nothing if that has no value.
It has each key once, and the keys are in the order of their places: that of a key is the first entry
for it behind the last one without a value. -/
theorem last_entry_decides
    (entriesOnly : ∀ item ∈ items,
      item.isTrivia = true ∨ ∃ key value span, item = .tagged key value none span)
    (nonempty : ∃ item ∈ items, item.isTrivia = false)
    (prepared : Prepared limit argument items templates depth (.ok value)) :
    ∃ pairs entries,
      (items.filterMap Item.entry?).mapM (evalEntry (evalNode templates limit depth) argument) =
        .ok pairs ∧
      value = some (.map entries) ∧ Entries.Written pairs entries := by
  have others : ∀ item ∈ items, item.isInherit = false := by
    intro item member
    rcases entriesOnly item member with trivia | ⟨key, value, span, rfl⟩
    · exact Item.isInherit_of_isTrivia trivia
    · rfl
  have shapes : ∀ item ∈ items, item.isTrivia = true ∨ item.shape? = some .map := by
    intro item member
    rcases entriesOnly item member with trivia | ⟨key, value, span, rfl⟩
    · exact .inl trivia
    · exact .inr rfl
  have written : items.foldlM (Accumulator.gather (evalNode templates limit depth) argument)
      (.ofShape .map) = _ := foldlM_gather_entries entriesOnly [] false
  have whole := prepared.outcome_eq others
  rw [foldlM_gather_of_shape .map shapes nonempty, written] at whole
  obtain ⟨last, gathered, rfl⟩ := except_map_eq_ok.1 whole.symm
  obtain ⟨pairs, each, rfl⟩ := except_map_eq_ok.1 gathered
  exact ⟨pairs, _, each, rfl, Entries.written_foldl pairs⟩

/-- Of two entries for `a` the second has its value in the first one's place; its key is read from
the argument. The entry for `b` is taken out by an empty block, and comes last when it is there
again. -/
theorem last_entry_decides_behind_removal :
    let entry (key : Key) (value : ValueNode) : Item := .tagged key value none default
    let name (text : String) : Key := .simple text default
    let read : Key := .multiline [.strings ⟨[.placeholder ⟨["p"], default⟩], default⟩] default
    let leaf (text : String) : ValueNode := .text text default
    let items : List Item := [entry (name "a") (leaf "1"), entry (name "b") (leaf "2"),
      .blank default, entry read (leaf "3"), entry (name "b") (.block [] default),
      entry (name "c") (leaf "4"), entry (name "b") (leaf "5")]
    let argument : Option Value := some (.map [("p", .string "a")])
    let pairs : List (String × Option Value) := [("a", some (.string "1")),
      ("b", some (.string "2")), ("a", some (.string "3")), ("b", none),
      ("c", some (.string "4")), ("b", some (.string "5"))]
    let entries : Entries Value := [("a", .string "3"), ("c", .string "4"), ("b", .string "5")]
    (∀ item ∈ items,
        item.isTrivia = true ∨ ∃ key value span, item = .tagged key value none span) ∧
      (∃ item ∈ items, item.isTrivia = false) ∧
      evalNode [] 2 2 (.block items default) argument = .ok (some (.map entries)) ∧
      Entries.Written pairs entries := by
  intro entry name read leaf items argument pairs entries
  have entriesOnly : ∀ item ∈ items,
      item.isTrivia = true ∨ ∃ key value span, item = .tagged key value none span := by
    simp [items, entry, Item.isTrivia]
  have nonempty : ∃ item ∈ items, item.isTrivia = false := ⟨_, .head _, rfl⟩
  have prepared : Prepared 2 argument items [] 1 (.ok (some (.map entries))) :=
    .block default rfl
  obtain ⟨_, _, each, same, written⟩ := last_entry_decides entriesOnly nonempty prepared
  cases same
  cases each
  exact ⟨entriesOnly, nonempty, rfl, written⟩

end block

end Eval

end ConfigLang
