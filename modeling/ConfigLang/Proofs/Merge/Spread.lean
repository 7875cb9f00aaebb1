import ConfigLang.Proofs.Merge.Associative
/-! Adding spread values one after another. An absent value is neutral on either side and
grouping does not matter, so a chain of spreads may be worked out from either end. -/
namespace ConfigLang.Value

/-- A spread value, if there is one, added to what a block has so far. -/
def spreadOnto (a b : Option Value) : Except Conflict (Option Value) :=
  match b with
  | none => .ok a
  | some b => appendSpread a b

@[simp] theorem spreadOnto_none (a : Option Value) : spreadOnto a none = .ok a := rfl

@[simp] theorem none_spreadOnto (b : Option Value) : spreadOnto none b = .ok b := by
  cases b <;> rfl

theorem spreadOnto_list (xs ys : List Value) :
    spreadOnto (some (list xs)) (some (list ys)) = .ok (some (list (xs ++ ys))) := rfl

theorem spreadOnto_eq_merge {a b : Value} (other : a.shape ≠ .list) :
    spreadOnto (some a) (some b) = merge (some a) (some b) := by
  cases a with
  | list items => exact absurd rfl other
  | _ => rfl

theorem shape_of_spreadOnto {a b : Value} {spread : Option Value}
    (done : spreadOnto (some a) (some b) = .ok spread) :
    a.shape = b.shape ∧ ∃ value, spread = some value ∧ value.shape = b.shape := by
  by_cases isList : a.shape = .list
  · cases a with
    | list items =>
      cases b with
      | list more => exact ⟨rfl, list (items ++ more), (Except.ok.inj done).symm, rfl⟩
      | _ => exact shape_of_merge done
    | _ => cases isList
  · rw [spreadOnto_eq_merge isList] at done
    exact shape_of_merge done

theorem exists_items {value : Value} (isList : value.shape = .list) :
    ∃ items, value = list items := by
  cases value with
  | list items => exact ⟨items, rfl⟩
  | _ => cases isList

def SpreadsAssociate (a b c : Option Value) : Prop :=
  ∀ value, (∃ ab, spreadOnto a b = .ok ab ∧ spreadOnto ab c = .ok value) ↔
    ∃ bc, spreadOnto b c = .ok bc ∧ spreadOnto a bc = .ok value

theorem spreadsAssociate_of_lists {a b c : Value} (ha : a.shape = .list) (hb : b.shape = .list)
    (hc : c.shape = .list) : SpreadsAssociate (some a) (some b) (some c) := by
  obtain ⟨xs, rfl⟩ := exists_items ha
  obtain ⟨ys, rfl⟩ := exists_items hb
  obtain ⟨zs, rfl⟩ := exists_items hc
  intro value
  simp [spreadOnto_list]

theorem spreadsAssociate_of_shapes {a b c : Value}
    (differ : ¬ (a.shape = b.shape ∧ b.shape = c.shape)) :
    SpreadsAssociate (some a) (some b) (some c) :=
  regroups_of_shapes shape_of_spreadOnto differ

theorem spreadsAssociate_of_merges {a b c : Value} (left : a.shape ≠ .list)
    (middle : b.shape ≠ .list) (grouped : Associates (some a) (some b) (some c)) :
    SpreadsAssociate (some a) (some b) (some c) := by
  intro value
  rw [spreadOnto_eq_merge left, spreadOnto_eq_merge middle]
  constructor
  · rintro ⟨ab, first, second⟩
    obtain ⟨_, held, rfl, shape⟩ := shape_of_merge first
    rw [spreadOnto_eq_merge (shape ▸ middle)] at second
    obtain ⟨bc, later, whole⟩ := (grouped value).1 ⟨_, first, second⟩
    obtain ⟨_, held, rfl, _⟩ := shape_of_merge later
    exact ⟨_, later, by rwa [spreadOnto_eq_merge left]⟩
  · rintro ⟨bc, first, second⟩
    obtain ⟨_, held, rfl, _⟩ := shape_of_merge first
    rw [spreadOnto_eq_merge left] at second
    obtain ⟨ab, later, whole⟩ := (grouped value).2 ⟨_, first, second⟩
    obtain ⟨_, held, rfl, shape⟩ := shape_of_merge later
    exact ⟨_, later, by rwa [spreadOnto_eq_merge (shape ▸ middle)]⟩

theorem spreadsAssociate {a b c : Option Value} (ha : Distinct a) (hb : Distinct b)
    (hc : Distinct c) : SpreadsAssociate a b c := by
  cases a with
  | none => simp [SpreadsAssociate]
  | some a =>
    cases b with
    | none => simp [SpreadsAssociate]
    | some b =>
      cases c with
      | none => simp [SpreadsAssociate]
      | some c =>
        by_cases same : a.shape = b.shape ∧ b.shape = c.shape
        · by_cases isList : b.shape = .list
          · exact spreadsAssociate_of_lists (same.1.trans isList) isList (same.2 ▸ isList)
          · exact spreadsAssociate_of_merges (same.1 ▸ isList) isList
              (associates_some b a c (ha a rfl) (hb b rfl) (hc c rfl))
        · exact spreadsAssociate_of_shapes same

end ConfigLang.Value
