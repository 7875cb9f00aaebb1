import Mathlib.Data.List.Induction
import Mathlib.Data.List.Nodup
import Mathlib.Logic.Basic
import ConfigLang.Value.Merge
/-! Values whose maps hold each key once. Every way of building a value keeps to them, and of
two such maps it is enough to compare the keys and what is found under each. -/
namespace ConfigLang

namespace Entries

variable {α : Type}

theorem get?_eq_none_iff {key : String} {entries : Entries α} :
    get? key entries = none ↔ key ∉ keys entries := by
  induction entries with
  | nil => simp [keys]
  | cons head rest ih =>
    obtain ⟨name, value⟩ := head
    by_cases same : name = key
    · simp [get?, keys, same]
    · simp only [get?, if_neg same, ih, keys, List.map_cons, List.mem_cons, not_or]
      exact ⟨fun absent => ⟨Ne.symm same, absent⟩, fun absent => absent.2⟩

theorem mem_of_get? {key : String} {value : α} {entries : Entries α}
    (found : get? key entries = some value) : (key, value) ∈ entries := by
  induction entries with
  | nil => cases found
  | cons head rest ih =>
    obtain ⟨name, held⟩ := head
    by_cases same : name = key
    · rw [get?, if_pos same] at found
      cases found
      rw [same]
      exact List.mem_cons_self
    · rw [get?, if_neg same] at found
      exact List.mem_cons_of_mem _ (ih found)

theorem get?_of_mem {key : String} {value : α} {entries : Entries α}
    (nodup : (keys entries).Nodup) (member : (key, value) ∈ entries) :
    get? key entries = some value := by
  induction entries with
  | nil => cases member
  | cons head rest ih =>
    obtain ⟨name, held⟩ := head
    obtain ⟨absent, later⟩ := List.nodup_cons.1 nodup
    rcases List.mem_cons.1 member with same | there
    · cases same
      exact if_pos rfl
    · have other : name ≠ key := by
        rintro rfl
        exact absent (List.mem_map.2 ⟨_, there, rfl⟩)
      rw [get?, if_neg other]
      exact ih later there

theorem ext_get? {xs ys : Entries α} (nodup : (keys xs).Nodup) (order : keys xs = keys ys)
    (same : ∀ key, get? key xs = get? key ys) : xs = ys := by
  induction xs generalizing ys with
  | nil => exact (List.map_eq_nil_iff.1 order.symm).symm
  | cons head rest ih =>
    obtain ⟨key, value⟩ := head
    cases ys with
    | nil => cases order
    | cons head' rest' =>
      obtain ⟨key', value'⟩ := head'
      obtain ⟨rfl, others⟩ := List.cons.inj order
      have first := same key
      simp only [get?, if_true, Option.some.injEq] at first
      have absent := (List.nodup_cons.1 nodup).1
      have absent' : key ∉ keys rest' := by rwa [keys, ← others]
      have later : rest = rest' := by
        refine ih (List.nodup_cons.1 nodup).2 others fun name => ?_
        by_cases here : key = name
        · subst here
          rw [get?_eq_none_iff.2 absent, get?_eq_none_iff.2 absent']
        · simpa only [get?, if_neg here] using same name
      rw [first, later]

theorem insert_of_not_mem {key : String} (value : α) {entries : Entries α}
    (absent : key ∉ keys entries) : insert key value entries = entries ++ [(key, value)] := by
  induction entries with
  | nil => rfl
  | cons head rest ih =>
    obtain ⟨name, held⟩ := head
    simp only [keys, List.map_cons, List.mem_cons, not_or] at absent
    rw [insert, if_neg (Ne.symm absent.1), ih absent.2, List.cons_append]

theorem insert_insert (key : String) (value old : α) (entries : Entries α) :
    insert key value (insert key old entries) = insert key value entries := by
  induction entries with
  | nil => simp [insert]
  | cons head rest ih =>
    obtain ⟨name, held⟩ := head
    by_cases same : name = key
    · simp [insert, same]
    · simp [insert, same, ih]

theorem nodup_insert (key : String) (value : α) {entries : Entries α}
    (nodup : (keys entries).Nodup) : (keys (insert key value entries)).Nodup := by
  by_cases present : key ∈ keys entries
  · rwa [keys_insert_of_mem key value entries present]
  · rw [keys_insert_of_not_mem key value entries present]
    exact nodup.append (List.nodup_singleton key) (List.disjoint_singleton.2 present)

theorem nodup_erase (key : String) {entries : Entries α} (nodup : (keys entries).Nodup) :
    (keys (erase key entries)).Nodup :=
  nodup.sublist (List.filter_sublist.map Prod.fst)

theorem mem_insert {key : String} {value : α} {entries : Entries α} {entry : String × α}
    (member : entry ∈ insert key value entries) : entry = (key, value) ∨ entry ∈ entries := by
  induction entries with
  | nil => exact .inl (List.mem_singleton.1 member)
  | cons head rest ih =>
    obtain ⟨name, held⟩ := head
    rw [insert] at member
    split at member
    · next same =>
      rcases List.mem_cons.1 member with rfl | later
      · exact .inl (by rw [same])
      · exact .inr (List.mem_cons_of_mem _ later)
    · rcases List.mem_cons.1 member with rfl | later
      · exact .inr List.mem_cons_self
      · exact (ih later).imp_right (List.mem_cons_of_mem _)

theorem ofPairs_of_nodup {pairs : List (String × α)} (nodup : (keys pairs).Nodup) :
    ofPairs pairs = pairs := by
  have onto (entries : Entries α) (distinct : (keys (entries ++ pairs)).Nodup) :
      pairs.foldl (fun entries pair => insert pair.1 pair.2 entries) entries = entries ++ pairs := by
    induction pairs generalizing entries with
    | nil => exact (List.append_nil entries).symm
    | cons pair rest ih =>
      obtain ⟨key, value⟩ := pair
      have absent : key ∉ keys entries := by
        rw [keys, List.map_append, List.map_cons, List.nodup_middle] at distinct
        exact fun present => (List.nodup_cons.1 distinct).1 (List.mem_append_left _ present)
      have split : entries ++ (key, value) :: rest = entries ++ [(key, value)] ++ rest := by simp
      rw [List.foldl_cons, insert_of_not_mem value absent, split]
      rw [split] at distinct
      exact ih (List.nodup_cons.1 nodup).2 _ distinct
  exact onto [] nodup

theorem nodup_ofPairs (pairs : List (String × α)) : (keys (ofPairs pairs)).Nodup := by
  have onto (entries : Entries α) (distinct : (keys entries).Nodup) :
      (keys (pairs.foldl (fun entries pair => insert pair.1 pair.2 entries) entries)).Nodup := by
    induction pairs generalizing entries with
    | nil => exact distinct
    | cons pair rest ih => exact ih _ (nodup_insert pair.1 pair.2 distinct)
  exact onto [] List.nodup_nil

theorem ofPairs_concat (pairs : List (String × α)) (pair : String × α) :
    ofPairs (pairs ++ [pair]) = insert pair.1 pair.2 (ofPairs pairs) := by
  rw [ofPairs, List.foldl_append]
  rfl

theorem get?_ofPairs (pairs : List (String × α)) (key : String) :
    get? key (ofPairs pairs) = (pairs.reverse.find? (·.1 = key)).map Prod.snd := by
  induction pairs using List.reverseRecOn with
  | nil => rfl
  | append_singleton front pair ih =>
    rw [ofPairs_concat, get?_insert, ih, List.reverse_append, List.reverse_singleton,
      List.singleton_append]
    by_cases same : pair.1 = key
    · rw [if_pos same, List.find?_cons_of_pos (by simpa using same)]
      rfl
    · rw [if_neg same, List.find?_cons_of_neg (by simpa using same)]

theorem keys_ofPairs (pairs : List (String × α)) :
    keys (ofPairs pairs) = (keys pairs).eraseDups := by
  induction pairs using List.reverseRecOn with
  | nil => rfl
  | append_singleton front pair ih =>
    have last : keys (front ++ [pair]) = keys front ++ [pair.1] := List.map_append
    rw [ofPairs_concat, last, List.eraseDups_append, ← ih]
    by_cases present : pair.1 ∈ keys front
    · have held : pair.1 ∈ keys (ofPairs front) := by
        rw [ih]
        exact List.mem_eraseDups.2 present
      rw [keys_insert_of_mem _ _ _ held, List.cons_removeAll]
      simp [present, List.nil_removeAll]
    · have absent : pair.1 ∉ keys (ofPairs front) := by
        rw [ih]
        exact fun held => present (List.mem_eraseDups.1 held)
      rw [keys_insert_of_not_mem _ _ _ absent, List.cons_removeAll]
      simp [present, List.nil_removeAll, List.eraseDups_cons]

theorem mem_of_mem_ofPairs {pairs : List (String × α)} {entry : String × α} :
    entry ∈ ofPairs pairs → entry ∈ pairs := by
  have onto (entries : Entries α)
      (member : entry ∈ pairs.foldl (fun entries pair => insert pair.1 pair.2 entries) entries) :
      entry ∈ entries ∨ entry ∈ pairs := by
    induction pairs generalizing entries with
    | nil => exact .inl member
    | cons pair rest ih =>
      rcases ih _ member with old | later
      · rcases mem_insert old with rfl | older
        · exact .inr List.mem_cons_self
        · exact .inl older
      · exact .inr (List.mem_cons_of_mem _ later)
  intro member
  rcases onto [] member with none | some
  · cases none
  · exact some

theorem get?_perm {xs ys : Entries α} (order : xs.Perm ys) (nodup : (keys xs).Nodup)
    (key : String) : get? key xs = get? key ys := by
  have nodup' : (keys ys).Nodup := (order.map Prod.fst).nodup_iff.1 nodup
  cases found : get? key xs with
  | none =>
    have absent : key ∉ keys ys := fun present =>
      get?_eq_none_iff.1 found ((order.map Prod.fst).mem_iff.2 present)
    exact (get?_eq_none_iff.2 absent).symm
  | some value => exact (get?_of_mem nodup' (order.mem_iff.1 (mem_of_get? found))).symm

end Entries

namespace Value

@[elab_as_elim]
theorem induct {motive : Value → Prop} (string : ∀ text, motive (string text))
    (list : ∀ items, (∀ item ∈ items, motive item) → motive (list items))
    (map : ∀ entries, (∀ entry ∈ entries, motive entry.2) → motive (map entries)) :
    ∀ value, motive value
  | .string text => string text
  | .list items => list items fun item _ => induct string list map item
  | .map entries => map entries fun entry _ => induct string list map entry.2
decreasing_by
  · next member =>
    have := List.sizeOf_lt_of_mem member
    simp only [Value.list.sizeOf_spec]
    omega
  · next member =>
    have := List.sizeOf_lt_of_mem member
    obtain ⟨key, value⟩ := entry
    simp only [Value.map.sizeOf_spec, Prod.mk.sizeOf_spec] at this ⊢
    omega

mutual

def DistinctKeys : Value → Prop
  | string _ => True
  | list items => DistinctKeysOfItems items
  | map entries => (Entries.keys entries).Nodup ∧ DistinctKeysOfEntries entries

def DistinctKeysOfItems : List Value → Prop
  | [] => True
  | item :: rest => item.DistinctKeys ∧ DistinctKeysOfItems rest

def DistinctKeysOfEntries : List (String × Value) → Prop
  | [] => True
  | (_, value) :: rest => value.DistinctKeys ∧ DistinctKeysOfEntries rest

end

theorem distinctKeys_list {items : List Value} :
    (list items).DistinctKeys ↔ ∀ item ∈ items, item.DistinctKeys := by
  rw [DistinctKeys]
  induction items with
  | nil => simp [DistinctKeysOfItems]
  | cons item rest ih => simp [DistinctKeysOfItems, ih]

theorem distinctKeys_map {entries : Entries Value} :
    (map entries).DistinctKeys ↔
      (Entries.keys entries).Nodup ∧ ∀ entry ∈ entries, entry.2.DistinctKeys := by
  rw [DistinctKeys]
  refine and_congr_right' ?_
  induction entries with
  | nil => simp [DistinctKeysOfEntries]
  | cons entry rest ih => rw [DistinctKeysOfEntries, ih, List.forall_mem_cons]

theorem DistinctKeys.get? {entries : Entries Value} (distinct : (map entries).DistinctKeys)
    {key : String} {value : Value} (found : Entries.get? key entries = some value) :
    value.DistinctKeys :=
  (distinctKeys_map.1 distinct).2 _ (Entries.mem_of_get? found)

theorem DistinctKeys.insert {entries : Entries Value} (distinct : (map entries).DistinctKeys)
    (key : String) {value : Value} (held : value.DistinctKeys) :
    (map (Entries.insert key value entries)).DistinctKeys := by
  obtain ⟨nodup, values⟩ := distinctKeys_map.1 distinct
  refine distinctKeys_map.2 ⟨Entries.nodup_insert key value nodup, fun entry member => ?_⟩
  rcases Entries.mem_insert member with rfl | old
  · exact held
  · exact values entry old

theorem DistinctKeys.erase {entries : Entries Value} (distinct : (map entries).DistinctKeys)
    (key : String) : (map (Entries.erase key entries)).DistinctKeys := by
  obtain ⟨nodup, values⟩ := distinctKeys_map.1 distinct
  exact distinctKeys_map.2
    ⟨Entries.nodup_erase key nodup, fun entry member => values entry (List.mem_filter.1 member).1⟩

theorem DistinctKeys.append {xs ys : List Value} (front : (list xs).DistinctKeys)
    (back : (list ys).DistinctKeys) : (list (xs ++ ys)).DistinctKeys := by
  refine distinctKeys_list.2 fun item member => ?_
  rcases List.mem_append.1 member with left | right
  · exact distinctKeys_list.1 front item left
  · exact distinctKeys_list.1 back item right

theorem DistinctKeys.select? {path : List String} {value found : Value}
    (distinct : value.DistinctKeys) (selected : Value.select? path value = some found) :
    found.DistinctKeys := by
  induction path generalizing value with
  | nil => cases selected; exact distinct
  | cons key path ih =>
    cases value with
    | string text => cases selected
    | list items =>
      simp only [Value.select?, Option.bind_eq_some_iff] at selected
      obtain ⟨i, _, item, there, selected⟩ := selected
      exact ih (distinctKeys_list.1 distinct item (List.mem_of_getElem? there)) selected
    | map entries =>
      simp only [Value.select?, Option.bind_eq_some_iff] at selected
      obtain ⟨item, there, selected⟩ := selected
      exact ih (distinct.get? there) selected

def Distinct (value : Option Value) : Prop := ∀ held ∈ value, held.DistinctKeys

theorem distinct_none : Distinct none := nofun

theorem distinct_some {value : Value} : Distinct (some value) ↔ value.DistinctKeys := by
  constructor
  · intro distinct
    exact distinct value rfl
  · rintro distinct held ⟨⟩
    exact distinct

end Value
end ConfigLang
