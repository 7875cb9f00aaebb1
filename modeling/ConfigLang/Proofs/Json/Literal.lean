import ConfigLang.Json.Reader
import ConfigLang.Json.Printer
/-! String literals are read back. The reader undoes the escape of one character whatever
stands behind it, and so those of a whole text up to the closing quote. -/
namespace ConfigLang.Json

theorem hexValue?_digitChar : ∀ n < 16, hexValue? (Nat.digitChar n) = some n := by decide

theorem completeEscape_none {value : Nat} (small : value < 0xd800) (rest : List Char) :
    completeEscape value none rest = .ok (.plain, [Char.ofNat value]) := by
  have low : ¬ 0xdc00 ≤ value := by omega
  have high : ¬ 0xd800 ≤ value := by omega
  simp [completeEscape, low, high]

theorem readString_digit {digit : Nat} {c : Char} (known : hexValue? c = some digit)
    (missing value : Nat) (high : Option Nat) (rest : List Char) :
    readString (.digits (missing + 2) value high) (c :: rest) =
      readString (.digits (missing + 1) (value * 16 + digit) high) rest := by
  rw [readString, known]
  simp

theorem readString_lastDigit {digit : Nat} {c : Char} (known : hexValue? c = some digit)
    (value : Nat) (small : value * 16 + digit < 0xd800) (rest : List Char) :
    readString (.digits 1 value none) (c :: rest) = (readString .plain rest).map
      fun read => (Char.ofNat (value * 16 + digit) :: read.1, read.2) := by
  simp only [readString, known, completeEscape_none small]
  simp only [Nat.le_refl, if_true, bind, Except.bind]
  cases readString .plain rest <;> rfl

theorem readString_control {c : Char} (control : c < ' ') (rest : List Char) :
    readString .plain ('\\' :: 'u' :: '0' :: '0' :: Nat.digitChar (c.toNat / 16) ::
        Nat.digitChar (c.toNat % 16) :: rest) =
      (readString .plain rest).map fun read => (c :: read.1, read.2) := by
  have below : c.toNat < 32 := UInt32.lt_iff_toNat_lt.1 control
  have zero : hexValue? '0' = some 0 := by decide
  have high := hexValue?_digitChar (c.toNat / 16) (by omega)
  have low := hexValue?_digitChar (c.toNat % 16) (by omega)
  have whole : (((0 * 16 + 0) * 16 + 0) * 16 + c.toNat / 16) * 16 + c.toNat % 16 = c.toNat := by
    omega
  calc readString .plain ('\\' :: 'u' :: '0' :: '0' :: _ :: _ :: rest)
      = readString (.digits 4 0 none) ('0' :: '0' :: _ :: _ :: rest) := rfl
    _ = readString (.digits 1 _ none) (_ :: rest) := by
      rw [readString_digit zero 2, readString_digit zero 1, readString_digit high 0]
    _ = _ := by
      rw [readString_lastDigit low _ (by omega), whole, Char.ofNat_toNat]

theorem readString_simpleEscape {c d : Char} (known : simpleEscape? c = some d) (rest : List Char) :
    readString .plain ('\\' :: c :: rest) =
      (readString .plain rest).map fun read => (d :: read.1, read.2) := by
  have notU : c ≠ 'u' := by
    rintro rfl
    simp [simpleEscape?] at known
  simp only [readString, known]
  simp only [if_neg notU, bind, Except.bind]
  cases readString .plain rest <;> rfl

theorem readString_unescaped {c : Char} (quote : c ≠ '"') (backslash : c ≠ '\\')
    (control : ¬ c < ' ') (rest : List Char) :
    readString .plain (c :: rest) =
      (readString .plain rest).map fun read => (c :: read.1, read.2) := by
  simp only [readString, if_neg quote, if_neg backslash, if_neg control, bind, Except.bind]
  cases readString .plain rest <;> rfl

theorem readString_escaped (c : Char) (rest : List Char) :
    readString .plain (escaped c ++ rest) =
      (readString .plain rest).map fun read => (c :: read.1, read.2) := by
  unfold escaped
  split
  · subst_vars; exact readString_simpleEscape rfl rest
  split
  · subst_vars; exact readString_simpleEscape rfl rest
  split
  · subst_vars; exact readString_simpleEscape rfl rest
  split
  · subst_vars; exact readString_simpleEscape rfl rest
  split
  · subst_vars; exact readString_simpleEscape rfl rest
  split
  · subst_vars; exact readString_simpleEscape rfl rest
  split
  · subst_vars; exact readString_simpleEscape rfl rest
  split
  · next control => exact readString_control control rest
  · next quote backslash _ _ _ _ _ control =>
    exact readString_unescaped quote backslash control rest

theorem readString_text (text rest : List Char) :
    readString .plain (text.flatMap escaped ++ '"' :: rest) = .ok (text, rest) := by
  induction text with
  | nil => rfl
  | cons c text ih =>
    rw [List.flatMap_cons, List.append_assoc, readString_escaped, ih]
    rfl

theorem readLiteral_literal (text : String) :
    readLiteral (String.ofList (literal text)) = .ok text := by
  have body := readString_text text.toList []
  have blanks : skipBlanks (literal text) = literal text := rfl
  simp only [readLiteral, String.toList_ofList, blanks]
  simp only [literal, List.cons_append, body, bind, Except.bind]
  exact congrArg Except.ok (String.ofList_toList)

end ConfigLang.Json
