/-! Computations that may fail, taken apart at what they come to. -/
namespace ConfigLang

theorem except_bind_eq_ok {ε α β : Type} {x : Except ε α} {f : α → Except ε β} {result : β} :
    (x >>= f) = .ok result ↔ ∃ value, x = .ok value ∧ f value = .ok result := by
  cases x <;> simp [bind, Except.bind]

theorem except_map_eq_ok {ε α β : Type} {x : Except ε α} {f : α → β} {result : β} :
    x.map f = .ok result ↔ ∃ value, x = .ok value ∧ f value = result := by
  cases x <;> simp [Except.map]

theorem except_mapError_eq_ok {ε δ α : Type} {x : Except ε α} {f : ε → δ} {result : α} :
    x.mapError f = .ok result ↔ x = .ok result := by
  cases x <;> constructor <;> intro done <;> cases done <;> rfl

theorem except_toOption_eq_some {ε α : Type} {x : Except ε α} {result : α} :
    x.toOption = some result ↔ x = .ok result := by
  cases x <;> simp [Except.toOption]

end ConfigLang
