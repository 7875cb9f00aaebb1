/-! Entries: pairs of a key and a value in the order in which the keys first came. Writing
to a key that is present keeps its place. -/
namespace ConfigLang

abbrev Entries (α : Type) := List (String × α)

namespace Entries

variable {α β : Type}

def keys (entries : Entries α) : List String := entries.map Prod.fst

def get? (key : String) : Entries α → Option α
  | [] => none
  | (k, v) :: rest => if k = key then some v else get? key rest

def contains (key : String) (entries : Entries α) : Bool := (get? key entries).isSome

/-- The entries with `value` under `key`: in the key's place if it has one, else at the end. -/
def insert (key : String) (value : α) : Entries α → Entries α
  | [] => [(key, value)]
  | (k, v) :: rest => if k = key then (k, value) :: rest else (k, v) :: insert key value rest

def erase (key : String) (entries : Entries α) : Entries α := entries.filter (·.1 ≠ key)

/-- The entries that writing the pairs one after another leaves: a key keeps its first
place and takes its last value. -/
def ofPairs (pairs : List (String × α)) : Entries α :=
  pairs.foldl (fun entries (key, value) => insert key value entries) []

@[simp] theorem get?_nil (key : String) : get? key ([] : Entries α) = none := rfl

theorem get?_cons (key k : String) (v : α) (rest : Entries α) :
    get? key ((k, v) :: rest) = if k = key then some v else get? key rest := rfl

theorem get?_insert (key k : String) (v : α) (entries : Entries α) :
    get? key (insert k v entries) = if k = key then some v else get? key entries := by
  induction entries with
  | nil => rfl
  | cons head rest ih =>
    obtain ⟨h, w⟩ := head
    by_cases hk : h = k
    · subst hk
      by_cases hkey : h = key <;> simp [insert, get?, hkey]
    · by_cases hkey : h = key
      · subst hkey
        simp [insert, get?, hk, Ne.symm hk]
      · simp [insert, get?, hk, hkey, ih]

theorem get?_erase (key k : String) (entries : Entries α) :
    get? key (erase k entries) = if k = key then none else get? key entries := by
  induction entries with
  | nil => simp [erase]
  | cons head rest ih =>
    obtain ⟨h, w⟩ := head
    simp only [erase] at ih ⊢
    by_cases hk : h = k
    · subst hk
      by_cases hkey : h = key <;> simp_all [get?]
    · by_cases hkey : h = key
      · subst hkey
        simp [get?, hk, Ne.symm hk]
      · simpa [get?, hk, hkey] using ih

theorem keys_insert_of_mem (k : String) (v : α) (entries : Entries α) (h : k ∈ keys entries) :
    keys (insert k v entries) = keys entries := by
  induction entries with
  | nil => simp [keys] at h
  | cons head rest ih =>
    obtain ⟨g, w⟩ := head
    by_cases hg : g = k
    · simp [insert, keys, hg]
    · have hrest : k ∈ keys rest := by
        simp only [keys, List.map_cons, List.mem_cons] at h
        rcases h with h | h
        · exact absurd h.symm hg
        · exact h
      have step := ih hrest
      simp only [keys] at step
      simp [insert, keys, hg, step]

theorem keys_insert_of_not_mem (k : String) (v : α) (entries : Entries α)
    (h : k ∉ keys entries) : keys (insert k v entries) = keys entries ++ [k] := by
  induction entries with
  | nil => rfl
  | cons head rest ih =>
    obtain ⟨g, w⟩ := head
    simp only [keys, List.map_cons, List.mem_cons, not_or] at h
    have step := ih h.2
    simp only [keys] at step
    simp [insert, keys, Ne.symm h.1, step]

theorem get?_map (f : α → β) (key : String) (entries : Entries α) :
    get? key (entries.map fun entry => (entry.1, f entry.2)) = (get? key entries).map f := by
  induction entries with
  | nil => rfl
  | cons head rest ih =>
    obtain ⟨name, held⟩ := head
    by_cases same : name = key
    · simp [get?, same]
    · simpa [get?, same] using ih

theorem insert_map (f : α → β) (key : String) (value : α) (entries : Entries α) :
    insert key (f value) (entries.map fun entry => (entry.1, f entry.2)) =
      (insert key value entries).map fun entry => (entry.1, f entry.2) := by
  induction entries with
  | nil => rfl
  | cons head rest ih =>
    obtain ⟨name, held⟩ := head
    by_cases same : name = key
    · simp [insert, same]
    · simpa [insert, same] using ih

theorem ofPairs_map (f : α → β) (pairs : List (String × α)) :
    ofPairs (pairs.map fun pair => (pair.1, f pair.2)) =
      (ofPairs pairs).map fun entry => (entry.1, f entry.2) := by
  have onto (entries : Entries α) :
      (pairs.map fun pair => (pair.1, f pair.2)).foldl
          (fun entries pair => insert pair.1 pair.2 entries)
          (entries.map fun entry => (entry.1, f entry.2)) =
        (pairs.foldl (fun entries pair => insert pair.1 pair.2 entries) entries).map
          fun entry => (entry.1, f entry.2) := by
    induction pairs generalizing entries with
    | nil => rfl
    | cons pair rest ih =>
      rw [List.map_cons, List.foldl_cons, List.foldl_cons]
      dsimp only
      rw [insert_map]
      exact ih _
  exact onto []

end Entries

end ConfigLang
