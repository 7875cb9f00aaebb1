import Mathlib.Data.List.Nodup
import Mathlib.Data.List.Perm.Subperm
import ConfigLang.Proofs.Value.Distinct
/-! Values that differ at most in the order of the entries of their maps. That is what the
comparison of two values finds out, if no map has a key twice. -/
namespace ConfigLang

namespace Value

mutual

/-- The same value, but that the entries of each map may stand in another order. -/
inductive Reorders : Value → Value → Prop
  | string (text : String) : Reorders (string text) (string text)
  | list {xs ys : List Value} (items : ItemsReorder xs ys) : Reorders (list xs) (list ys)
  | map {xs ys zs : Entries Value} (entries : EntriesReorder xs ys) (order : ys.Perm zs) :
      Reorders (map xs) (map zs)

inductive ItemsReorder : List Value → List Value → Prop
  | nil : ItemsReorder [] []
  | cons {x y : Value} {xs ys : List Value} (here : Reorders x y) (later : ItemsReorder xs ys) :
      ItemsReorder (x :: xs) (y :: ys)

inductive EntriesReorder : Entries Value → Entries Value → Prop
  | nil : EntriesReorder [] []
  | cons (key : String) {x y : Value} {xs ys : Entries Value} (here : Reorders x y)
      (later : EntriesReorder xs ys) : EntriesReorder ((key, x) :: xs) ((key, y) :: ys)

end

theorem ItemsReorder.refl {items : List Value} (inner : ∀ item ∈ items, Reorders item item) :
    ItemsReorder items items := by
  induction items with
  | nil => exact .nil
  | cons item rest ih =>
    obtain ⟨here, inner⟩ := List.forall_mem_cons.1 inner
    exact .cons here (ih inner)

theorem EntriesReorder.refl {entries : Entries Value}
    (inner : ∀ entry ∈ entries, Reorders entry.2 entry.2) : EntriesReorder entries entries := by
  induction entries with
  | nil => exact .nil
  | cons entry rest ih =>
    obtain ⟨here, inner⟩ := List.forall_mem_cons.1 inner
    exact .cons entry.1 here (ih inner)

theorem Reorders.refl (value : Value) : Reorders value value := by
  induction value using Value.induct with
  | string text => exact .string text
  | list items ih => exact .list (.refl ih)
  | map entries ih => exact .map (.refl ih) (List.Perm.refl entries)

end Value
end ConfigLang
