import ConfigLang.Proofs.Json.Grammar
import ConfigLang.Proofs.Json.Literal
/-! What the grammar derives is read. The reader comes to the value that a text is derived from,
and to what the derivation leaves, if the value nests no deeper than the reader may go. Blanks
and escapes may be chosen freely. A string that is read is one of the grammar. -/
namespace ConfigLang.Json

theorem PastBlanks.skip {cs rest : List Char} (past : PastBlanks cs rest) :
    skipBlanks cs = skipBlanks rest := by
  induction past with
  | none rest => rfl
  | blank isBlank more ih =>
    rw [skipBlanks, List.dropWhile_cons_of_pos isBlank]
    exact ih

theorem PastBlanks.next? {c : Char} {cs rest : List Char} (past : PastBlanks cs (c :: rest))
    (visible : isJsonBlank c = false) : ∃ shorter, Json.next? cs = some (c, ⟨rest, shorter⟩) := by
  have found : skipBlanks cs = c :: rest := by
    rw [past.skip, skipBlanks, List.dropWhile_cons_of_neg (by simp [visible])]
  refine ⟨length_of_skipBlanks_eq_cons found, ?_⟩
  unfold Json.next?
  split
  · next same =>
    rw [found] at same
    cases same
  · next same =>
    cases found.symm.trans same
    rfl

/-! ### Strings -/

theorem hexValues_of_codeUnit? {a b c d : Char} {unit : Nat}
    (digits : codeUnit? a b c d = some unit) :
    ∃ i j k l, hexValue? a = some i ∧ hexValue? b = some j ∧ hexValue? c = some k ∧
      hexValue? d = some l ∧ ((i * 16 + j) * 16 + k) * 16 + l = unit := by
  simp only [codeUnit?, Option.bind_eq_bind, Option.bind_eq_some_iff] at digits
  obtain ⟨i, hi, j, hj, k, hk, l, hl, whole⟩ := digits
  exact ⟨i, j, k, l, hi, hj, hk, hl, Option.some.inj whole⟩

theorem readString_codeUnit {a b c d : Char} {unit : Nat}
    (digits : codeUnit? a b c d = some unit) {high : Option Nat} {state : StringState}
    {decoded rest : List Char} (complete : completeEscape unit high rest = .ok (state, decoded)) :
    readString (.digits 4 0 high) (a :: b :: c :: d :: rest) =
      (readString state rest).map fun read => (decoded ++ read.1, read.2) := by
  obtain ⟨i, j, k, l, hi, hj, hk, hl, rfl⟩ := hexValues_of_codeUnit? digits
  rw [readString_digit hi 2, readString_digit hj 1, readString_digit hk 0]
  simp only [Nat.zero_mul, Nat.zero_add]
  simp only [readString, hl, Nat.le_refl, if_true, complete, bind, Except.bind]
  cases readString state rest <;> rfl

theorem IsString.read {cs text rest : List Char} (string : IsString cs text rest) :
    readString .plain cs = .ok (text, rest) := by
  induction string with
  | close rest => rfl
  | plain quote backslash control more ih =>
    rw [readString_unescaped quote backslash control, ih]
    rfl
  | escape known more ih =>
    rw [readString_simpleEscape known, ih]
    rfl
  | @unit a b c d unit cs text rest digits notHigh notLow more ih =>
    have complete : completeEscape unit none cs = .ok (.plain, [Char.ofNat unit]) := by
      simp only [IsHighSurrogate, IsLowSurrogate] at notHigh notLow
      simp [completeEscape, notHigh, notLow]
    calc readString .plain ('\\' :: 'u' :: a :: b :: c :: d :: cs)
        = readString (.digits 4 0 none) (a :: b :: c :: d :: cs) := rfl
      _ = .ok (Char.ofNat unit :: text, rest) := by
        rw [readString_codeUnit digits complete, ih]
        rfl
  | @pair a b c d a' b' c' d' high low cs text rest first isHigh second isLow more ih =>
    have opened (behind : List Char) :
        completeEscape high none behind = .ok (.needsBackslash high, []) := by
      obtain ⟨atLeast, atMost⟩ := isHigh
      have notLow : ¬ 0xdc00 ≤ high := by omega
      simp [completeEscape, notLow, atLeast, atMost]
    have closed : completeEscape low (some high) cs =
        .ok (.plain, [Char.ofNat (0x10000 + (high - 0xd800) * 0x400 + (low - 0xdc00))]) := by
      obtain ⟨atLeast, atMost⟩ := isLow
      simp [completeEscape, atLeast, atMost]
    have second' : readString (.needsBackslash high)
        ('\\' :: 'u' :: a' :: b' :: c' :: d' :: cs) =
          readString (.digits 4 0 (some high)) (a' :: b' :: c' :: d' :: cs) := rfl
    calc readString .plain ('\\' :: 'u' :: a :: b :: c :: d :: '\\' :: 'u' :: _)
        = readString (.digits 4 0 none) (a :: b :: c :: d :: '\\' :: 'u' :: _) := rfl
      _ = .ok (_ :: text, rest) := by
        rw [readString_codeUnit first (opened _), second', readString_codeUnit second closed, ih]
        rfl

theorem exists_of_read_digit {missing value : Nat} {high : Option Nat} {cs : List Char}
    {read : List Char × List Char}
    (done : readString (.digits (missing + 2) value high) cs = .ok read) :
    ∃ c digit behind, cs = c :: behind ∧ hexValue? c = some digit ∧
      readString (.digits (missing + 1) (value * 16 + digit) high) behind = .ok read := by
  cases cs with
  | nil => cases done
  | cons c behind =>
    cases known : hexValue? c with
    | none =>
      rw [readString, known] at done
      cases done
    | some digit =>
      rw [readString_digit known] at done
      exact ⟨c, digit, behind, rfl, known, done⟩

theorem exists_of_read_codeUnit {high : Option Nat} {cs text rest : List Char}
    (done : readString (.digits 4 0 high) cs = .ok (text, rest)) :
    ∃ a b c d behind unit state decoded text', cs = a :: b :: c :: d :: behind ∧
      codeUnit? a b c d = some unit ∧ completeEscape unit high behind = .ok (state, decoded) ∧
      readString state behind = .ok (text', rest) ∧ text = decoded ++ text' := by
  obtain ⟨a, i, _, rfl, hi, done⟩ := exists_of_read_digit done
  obtain ⟨b, j, _, rfl, hj, done⟩ := exists_of_read_digit done
  obtain ⟨c, k, cs, rfl, hk, done⟩ := exists_of_read_digit done
  cases cs with
  | nil => cases done
  | cons d behind =>
    cases hl : hexValue? d with
    | none =>
      rw [readString, hl] at done
      cases done
    | some l =>
      simp only [readString, hl, Nat.le_refl, if_true] at done
      obtain ⟨⟨state, decoded⟩, complete, done⟩ := except_bind_eq_ok.1 done
      obtain ⟨⟨text', _⟩, read, same⟩ := except_bind_eq_ok.1 done
      cases same
      refine ⟨a, b, c, d, behind, _, state, decoded, text', rfl, ?_, complete, read, rfl⟩
      simp [codeUnit?, hi, hj, hk, hl]

theorem exists_of_read_needsBackslash {high : Nat} {cs : List Char} {read : List Char × List Char}
    (done : readString (.needsBackslash high) cs = .ok read) :
    ∃ behind, cs = '\\' :: 'u' :: behind ∧
      readString (.digits 4 0 (some high)) behind = .ok read := by
  cases cs with
  | nil => cases done
  | cons c cs =>
    rw [readString] at done
    split at done
    · next backslash =>
      cases cs with
      | nil => cases done
      | cons letter behind =>
        rw [readString] at done
        split at done
        · next isU => exact ⟨behind, by rw [backslash, isU], done⟩
        · cases done
    · cases done

theorem isString_of_read {cs text rest : List Char}
    (done : readString .plain cs = .ok (text, rest)) : IsString cs text rest := by
  cases cs with
  | nil => cases done
  | cons c cs =>
    rw [readString] at done
    split at done
    · next quote =>
      cases done
      exact quote ▸ .close _
    split at done
    · next backslash =>
      rw [backslash]
      cases cs with
      | nil => cases done
      | cons c cs =>
        rw [readString] at done
        split at done
        · next letter =>
          rw [letter]
          obtain ⟨a, b, c, d, behind, unit, state, decoded, text, rfl, digits, complete, later,
            rfl⟩ := exists_of_read_codeUnit done
          simp only [completeEscape, Bool.and_eq_true, decide_eq_true_eq] at complete
          split at complete
          · cases complete
          · next notLow =>
            split at complete
            · next isHigh =>
              -- the first half of a pair gives no character; the string goes on with the second one
              cases complete
              obtain ⟨behind, rfl, later⟩ := exists_of_read_needsBackslash later
              obtain ⟨a', b', c', d', behind, low, state, decoded, text, rfl, second, complete,
                last, rfl⟩ := exists_of_read_codeUnit later
              simp only [completeEscape, Bool.and_eq_true, decide_eq_true_eq] at complete
              split at complete
              · next isLow =>
                cases complete
                exact .pair digits isHigh second isLow (isString_of_read last)
              · cases complete
            · next notHigh =>
              cases complete
              exact .unit digits notHigh notLow (isString_of_read later)
        · split at done
          · cases done
          · next known =>
            obtain ⟨⟨text, _⟩, read, same⟩ := except_bind_eq_ok.1 done
            cases same
            exact .escape known (isString_of_read read)
    split at done
    · cases done
    · next quote backslash control =>
      obtain ⟨⟨text, _⟩, read, same⟩ := except_bind_eq_ok.1 done
      cases same
      exact .plain quote backslash control (isString_of_read read)
termination_by cs.length

theorem IsString.behind {cs text rest : List Char} (string : IsString cs text rest) :
    ∃ shorter, stringBehind cs = .ok (String.ofList text, ⟨rest, shorter⟩) := by
  have found := string.read
  refine ⟨length_readString found, ?_⟩
  unfold stringBehind
  split
  · next failed => cases found.symm.trans failed
  · next same =>
    cases found.symm.trans same
    rfl

/-! ### Values -/

theorem IsValue.starts {cs rest : List Char} {json : Json} (value : IsValue cs json rest) :
    ∃ c behind, skipBlanks cs = c :: behind ∧ c ≠ ']' := by
  cases value with
  | string opens _ => exact ⟨'"', _, opens.skip, by decide⟩
  | array opens _ => exact ⟨'[', _, opens.skip, by decide⟩
  | object opens _ => exact ⟨'\x7b', _, opens.skip, by decide⟩

theorem AreItemsFrom.starts {cs rest : List Char} {items : List Json}
    (elements : AreItemsFrom cs items rest) :
    ∃ c behind, skipBlanks cs = c :: behind ∧ c ≠ ']' := by
  cases elements with
  | last value _ => exact value.starts
  | more value _ _ => exact value.starts

theorem AreItemsFrom.next? {cs rest : List Char} {items : List Json}
    (elements : AreItemsFrom cs items rest) :
    ∃ c left, Json.next? cs = some (c, left) ∧ c ≠ ']' := by
  obtain ⟨c, behind, found, other⟩ := elements.starts
  unfold Json.next?
  split
  · next same =>
    rw [found] at same
    cases same
  · next same =>
    cases found.symm.trans same
    exact ⟨c, _, rfl, other⟩

mutual

theorem IsValue.read : {cs rest : List Char} → {json : Json} → IsValue cs json rest →
    {depth : Nat} → json.nesting ≤ depth →
    ∃ shorter, readValue depth cs = .ok (json, ⟨rest, shorter⟩)
  | cs, rest, _, .string opens inner, depth, _ => by
    obtain ⟨shorter, found⟩ := opens.next? rfl
    obtain ⟨shorter', read⟩ := inner.behind
    refine ⟨Nat.lt_trans shorter' shorter, ?_⟩
    rw [readValue, found]
    simp only [if_true, read]
    rfl
  | cs, rest, _, .array opens elements, depth + 1, room => by
    obtain ⟨shorter, found⟩ := opens.next? rfl
    obtain ⟨shorter', read⟩ := elements.read (Nat.le_of_succ_le_succ room)
    refine ⟨Nat.lt_trans shorter' shorter, ?_⟩
    rw [readValue, found]
    simp only [Char.reduceEq, if_true, if_false, read]
    rfl
  | cs, rest, _, .object opens elements, depth + 1, room => by
    obtain ⟨shorter, found⟩ := opens.next? rfl
    obtain ⟨shorter', read⟩ := elements.read (Nat.le_of_succ_le_succ room)
    refine ⟨Nat.lt_trans shorter' shorter, ?_⟩
    rw [readValue, found]
    simp only [Char.reduceEq, if_true, if_false, read]
    rfl

theorem AreItems.read : {cs rest : List Char} → {items : List Json} → AreItems cs items rest →
    {depth : Nat} → nestingOfItems items ≤ depth →
    ∃ shorter, readItems depth cs = .ok (items, ⟨rest, shorter⟩)
  | cs, rest, _, .none closes, depth, _ => by
    obtain ⟨shorter, found⟩ := closes.next? rfl
    refine ⟨shorter, ?_⟩
    rw [readItems, found]
    simp only [if_true]
  | cs, rest, _, .some elements, depth, room => by
    obtain ⟨c, left, found, other⟩ := elements.next?
    obtain ⟨shorter, read⟩ := elements.read room
    refine ⟨shorter, ?_⟩
    rw [readItems, found]
    simp only [if_neg other, read]

theorem AreItemsFrom.read : {cs rest : List Char} → {items : List Json} →
    AreItemsFrom cs items rest → {depth : Nat} → nestingOfItems items ≤ depth →
    ∃ shorter, readItemsFrom depth cs = .ok (items, ⟨rest, shorter⟩)
  | cs, rest, _, .last value closes, depth, room => by
    obtain ⟨shorter, read⟩ := value.read (Nat.le_trans (Nat.le_max_left _ _) room)
    obtain ⟨shorter', found⟩ := closes.next? rfl
    refine ⟨Nat.lt_trans shorter' shorter, ?_⟩
    rw [readItemsFrom, read]
    simp only [bind, Except.bind, found, if_true]
    rfl
  | cs, rest, _, .more value comma others, depth, room => by
    obtain ⟨shorter, read⟩ := value.read (Nat.le_trans (Nat.le_max_left _ _) room)
    obtain ⟨shorter', found⟩ := comma.next? rfl
    obtain ⟨c, behind, starts, other⟩ := others.starts
    obtain ⟨shorter'', later⟩ := others.read (Nat.le_trans (Nat.le_max_right _ _) room)
    refine ⟨Nat.lt_trans (Nat.lt_trans shorter'' shorter') shorter, ?_⟩
    rw [readItemsFrom, read]
    simp only [bind, Except.bind, found, Char.reduceEq, if_true, if_false, starts, if_neg other,
      later]
    rfl

theorem AreEntries.read : {cs rest : List Char} → {entries : List (String × Json)} →
    AreEntries cs entries rest → {depth : Nat} → nestingOfEntries entries ≤ depth →
    ∃ shorter, readEntries depth cs = .ok (entries, ⟨rest, shorter⟩)
  | cs, rest, _, .none closes, depth, _ => by
    obtain ⟨shorter, found⟩ := closes.next? rfl
    refine ⟨shorter, ?_⟩
    rw [readEntries, found]
    simp only [if_true]
  | cs, rest, _, .some opens elements, depth, room => by
    obtain ⟨shorter, found⟩ := opens.next? rfl
    obtain ⟨shorter', read⟩ := elements.read room
    refine ⟨Nat.lt_trans shorter' shorter, ?_⟩
    rw [readEntries, found]
    simp only [Char.reduceEq, if_true, if_false, read]
    rfl

theorem AreEntriesFrom.read : {cs rest : List Char} → {entries : List (String × Json)} →
    AreEntriesFrom cs entries rest → {depth : Nat} → nestingOfEntries entries ≤ depth →
    ∃ shorter, readEntriesFrom depth cs = .ok (entries, ⟨rest, shorter⟩)
  | cs, rest, _, .last named colon held closes, depth, room => by
    obtain ⟨shorterKey, name⟩ := named.behind
    obtain ⟨shorterColon, divided⟩ := colon.next? rfl
    obtain ⟨shorterValue, value⟩ := held.read (Nat.le_trans (Nat.le_max_left _ _) room)
    obtain ⟨shorter, found⟩ := closes.next? rfl
    refine ⟨by omega, ?_⟩
    rw [readEntriesFrom, name]
    simp only [bind, Except.bind, divided, if_true, value, found]
    rfl
  | cs, rest, _, .more named colon held comma opens others, depth, room => by
    obtain ⟨shorterKey, name⟩ := named.behind
    obtain ⟨shorterColon, divided⟩ := colon.next? rfl
    obtain ⟨shorterValue, value⟩ := held.read (Nat.le_trans (Nat.le_max_left _ _) room)
    obtain ⟨shorterComma, found⟩ := comma.next? rfl
    obtain ⟨shorterQuote, quoted⟩ := opens.next? rfl
    obtain ⟨shorter, later⟩ := others.read (Nat.le_trans (Nat.le_max_right _ _) room)
    refine ⟨by omega, ?_⟩
    rw [readEntriesFrom, name]
    simp only [bind, Except.bind, divided, if_true, value, found, Char.reduceEq, if_false, quoted,
      later]
    rfl

end

theorem pastBlanks_skipBlanks (cs : List Char) : PastBlanks cs (skipBlanks cs) := by
  induction cs with
  | nil => exact .none []
  | cons c cs ih =>
    unfold skipBlanks at ih ⊢
    rw [List.dropWhile_cons]
    split
    · next isBlank => exact .blank isBlank ih
    · exact .none (c :: cs)

theorem expectEnd_eq_ok {rest : List Char} : expectEnd rest = .ok () ↔ PastBlanks rest [] := by
  constructor
  · intro ended
    have past := pastBlanks_skipBlanks rest
    rw [expectEnd] at ended
    split at ended
    · next none => rwa [none] at past
    · cases ended
  · intro past
    rw [expectEnd, past.skip]
    rfl

/-- A literal is read just if it is a JSON text of one string. -/
theorem readLiteral_eq_ok {text name : String} :
    readLiteral text = .ok name ↔ IsText text (.string name) := by
  constructor
  · intro done
    unfold readLiteral at done
    have past := pastBlanks_skipBlanks text.toList
    split at done
    · next body found =>
      obtain ⟨⟨chars, rest⟩, read, later⟩ := except_bind_eq_ok.1 (except_mapError_eq_ok.1 done)
      obtain ⟨_, ended, same⟩ := except_bind_eq_ok.1 later
      cases same
      rw [found] at past
      exact ⟨rest, .string past (isString_of_read read), expectEnd_eq_ok.1 ended⟩
    · cases done
  · rintro ⟨rest, value, ends⟩
    cases value with
    | @string _ body chars _ opens string =>
      have found : skipBlanks text.toList = '"' :: body := by rw [opens.skip]; rfl
      unfold readLiteral
      rw [found]
      simp only [string.read, bind, Except.bind, expectEnd_eq_ok.2 ends]
      rfl

theorem IsText.read {text : String} {json : Json} (isText : IsText text json)
    (room : json.nesting ≤ maxNesting) : Json.read text = .ok json := by
  obtain ⟨rest, value, ends⟩ := isText
  obtain ⟨shorter, read⟩ := value.read room
  rw [Json.read, read]
  simp only [bind, Except.bind, expectEnd_eq_ok.2 ends]
  rfl

end ConfigLang.Json
