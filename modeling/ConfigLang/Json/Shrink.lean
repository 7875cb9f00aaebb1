import ConfigLang.Except
import ConfigLang.Json.Lexeme
/-! Every lexeme takes at least one character: what is left behind it is shorter. Readers of
nested values end for this reason, so the readers of lexemes give it back with the rest. -/
namespace ConfigLang.Json

abbrev Behind (cs : List Char) := { rest : List Char // rest.length < cs.length }

theorem length_dropWhile (p : Char → Bool) (cs : List Char) :
    (cs.dropWhile p).length ≤ cs.length :=
  (List.dropWhile_sublist _).length_le

theorem length_dropWhile_cons {p : Char → Bool} {c : Char} (first : p c = true) (cs : List Char) :
    ((c :: cs).dropWhile p).length < (c :: cs).length := by
  rw [List.dropWhile_cons_of_pos first, List.length_cons]
  exact Nat.lt_succ_of_le (length_dropWhile p cs)

theorem length_skipBlanks (cs : List Char) : (skipBlanks cs).length ≤ cs.length :=
  length_dropWhile isJsonBlank cs

theorem length_of_skipBlanks_eq_cons {c : Char} {cs rest : List Char}
    (h : skipBlanks cs = c :: rest) : rest.length < cs.length := by
  have := length_skipBlanks cs
  rw [h, List.length_cons] at this
  omega

theorem length_readWord {ws cs rest : List Char} (h : readWord ws cs = .ok rest) :
    rest.length ≤ cs.length := by
  induction ws generalizing cs with
  | nil =>
    simp only [readWord, Except.ok.injEq] at h
    exact h ▸ Nat.le_refl _
  | cons w ws ih =>
    cases cs with
    | nil => simp [readWord] at h
    | cons c cs =>
      simp only [readWord] at h
      split at h
      · have := ih h
        simp only [List.length_cons]
        omega
      · simp at h

theorem length_readString {state : StringState} {cs body rest : List Char}
    (h : readString state cs = .ok (body, rest)) : rest.length < cs.length := by
  induction cs generalizing state body rest with
  | nil => cases state <;> simp [readString] at h
  | cons c cs ih =>
    rw [List.length_cons]
    -- What is read of the first character does not change what the rest of the string leaves.
    have behind {state : StringState} {front : List Char → List Char}
        (done : (readString state cs >>= fun read => .ok (front read.1, read.2)) =
          .ok (body, rest)) : rest.length < cs.length + 1 := by
      obtain ⟨_, read, same⟩ := except_bind_eq_ok.1 done
      cases same
      exact Nat.lt_succ_of_lt (ih read)
    cases state with
    | plain =>
      rw [readString] at h
      split at h
      · cases h
        exact Nat.lt_succ_self _
      split at h
      · exact Nat.lt_succ_of_lt (ih h)
      split at h
      · cases h
      · exact behind h
    | escape =>
      rw [readString] at h
      split at h
      · exact Nat.lt_succ_of_lt (ih h)
      split at h
      · cases h
      · exact behind h
    | digits missing value high =>
      rw [readString] at h
      split at h
      · cases h
      split at h
      · obtain ⟨⟨_, _⟩, _, read⟩ := except_bind_eq_ok.1 h
        exact behind read
      · exact Nat.lt_succ_of_lt (ih h)
    | needsBackslash high | needsU high =>
      rw [readString] at h
      split at h
      · exact Nat.lt_succ_of_lt (ih h)
      · cases h

theorem length_skipString {state : StringState} {cs rest : List Char}
    (h : skipString state cs = .ok rest) : rest.length < cs.length := by
  induction cs generalizing state with
  | nil => cases state <;> simp [skipString] at h
  | cons c cs ih =>
    simp only [List.length_cons]
    cases state <;> simp only [skipString] at h <;> (repeat' split at h) <;>
      first
      | (simp at h; done)
      | (simp only [Except.ok.injEq] at h; rw [h]; omega)
      | (have shorter := ih h; omega)

theorem eq_of_binary {negative : Bool} {significand : Nat} {exponent : Int}
    {cs rest : List Char} {n : Number}
    (h : binary negative significand exponent cs = .ok (n, rest)) : rest = cs := by
  rw [binary] at h
  generalize scaled significand exponent = x at h
  cases x with
  | none => simp at h
  | some x =>
    simp only [Except.ok.injEq, Prod.mk.injEq] at h
    exact h.2.symm

theorem eq_of_integer {negative : Bool} {significand : Nat} {cs rest : List Char}
    {n : Number} (h : integer negative significand cs = .ok (n, rest)) : rest = cs := by
  unfold integer at h
  split at h
  · simp only [Except.ok.injEq, Prod.mk.injEq] at h
    exact h.2.symm
  split at h
  · simp only [Except.ok.injEq, Prod.mk.injEq] at h
    exact h.2.symm
  · exact eq_of_binary h

theorem length_exponentDigits (value : Nat) (cs : List Char) :
    (exponentDigits value cs).2.length ≤ cs.length := by
  induction cs generalizing value with
  | nil => simp [exponentDigits]
  | cons c cs ih =>
    simp only [exponentDigits]
    split
    · split
      · simp
      · exact Nat.le_succ_of_le (ih _)
    · simp

theorem length_exponentSign (cs : List Char) : (exponentSign cs).2.length ≤ cs.length := by
  unfold exponentSign
  split
  · exact Nat.le_refl _
  · split
    · simp
    split
    · simp
    · exact Nat.le_refl _

theorem length_exponentPart {negative : Bool} {significand : Nat} {exponent : Int}
    {cs rest : List Char} {n : Number}
    (h : exponentPart negative significand exponent cs = .ok (n, rest)) :
    rest.length ≤ cs.length := by
  have signed := length_exponentSign cs
  unfold exponentPart at h
  split at h
  · simp at h
  next d ds hd =>
  rw [hd, List.length_cons] at signed
  have shrunk := length_exponentDigits (d.toNat - '0'.toNat) ds
  split at h
  · split at h
    · next e left he =>
      rw [he] at shrunk
      rw [eq_of_binary h]
      simp only at shrunk
      omega
    · next left he =>
      rw [he] at shrunk
      simp only at shrunk
      split at h
      · simp at h
      · simp only [Except.ok.injEq, Prod.mk.injEq] at h
        rw [← h.2]
        have := length_dropWhile isDigit left
        omega
  · simp at h

theorem length_fractionPart {negative : Bool} {significand : Nat} {exponent : Int}
    {cs rest : List Char} {n : Number}
    (h : fractionPart negative significand exponent cs = .ok (n, rest)) :
    rest.length ≤ cs.length := by
  have dropped := length_dropWhile isDigit cs
  unfold fractionPart at h
  simp only at h
  split at h
  · simp at h
  split at h
  · next c behind hc =>
    rw [hc, List.length_cons] at dropped
    split at h
    · have := length_exponentPart h
      omega
    · rw [eq_of_binary h, hc, List.length_cons]
      omega
  · next hc =>
    rw [eq_of_binary h, hc]
    exact Nat.zero_le _

theorem length_readNumber {negative : Bool} {cs rest : List Char} {n : Number}
    (h : readNumber negative cs = .ok (n, rest)) : rest.length < cs.length := by
  unfold readNumber at h
  split at h
  · simp at h
  next c behind =>
  split at h
  · simp at h
  next digit =>
  split at h
  · simp at h
  have dropped := length_dropWhile_cons (show isDigit c = true by simpa using digit) behind
  simp only at h
  split at h
  · next fraction hf =>
    rw [hf, List.length_cons] at dropped
    have := length_fractionPart h
    omega
  · next d exponent _ hd =>
    rw [hd, List.length_cons] at dropped
    split at h
    · have := length_exponentPart h
      omega
    split at h
    · rw [eq_of_integer h, hd, List.length_cons]
      omega
    · rw [eq_of_binary h, hd, List.length_cons]
      omega
  · next hd =>
    split at h
    · rw [eq_of_integer h, hd]
      simp
    · rw [eq_of_binary h, hd]
      simp

theorem length_skipExponent {cs rest : List Char}
    (h : skipNumber.skipExponent cs = .ok rest) : rest.length ≤ cs.length := by
  have signed := length_exponentSign cs
  unfold skipNumber.skipExponent at h
  split at h
  · simp at h
  next d ds hd =>
  rw [hd, List.length_cons] at signed
  split at h
  · simp only [Except.ok.injEq] at h
    rw [← h]
    have := length_dropWhile isDigit ds
    omega
  · simp at h

theorem length_skipNumber {cs rest : List Char} (h : skipNumber cs = .ok rest) :
    rest.length < cs.length := by
  unfold skipNumber at h
  split at h
  · simp at h
  next c behind =>
  split at h
  · simp at h
  next digit =>
  split at h
  · simp at h
  have dropped := length_dropWhile_cons (show isDigit c = true by simpa using digit) behind
  split at h
  · next fraction hf =>
    rw [hf, List.length_cons] at dropped
    have behind := length_dropWhile isDigit fraction
    simp only at h
    split at h
    · simp at h
    split at h
    · next d exponent hd =>
      rw [hd, List.length_cons] at behind
      split at h
      · have := length_skipExponent h
        omega
      · simp only [Except.ok.injEq] at h
        rw [← h, hd, List.length_cons]
        omega
    · simp only [Except.ok.injEq] at h
      rw [← h]
      omega
  · next d exponent _ hd =>
    rw [hd, List.length_cons] at dropped
    split at h
    · have := length_skipExponent h
      omega
    · simp only [Except.ok.injEq] at h
      rw [← h, List.length_cons]
      omega
  · simp only [Except.ok.injEq] at h
    rw [← h]
    simp

def Behind.within {cs rest : List Char} (left : Behind rest) (shorter : rest.length < cs.length) :
    Behind cs :=
  ⟨left.1, Nat.lt_trans left.2 shorter⟩

def Behind.withinFrom {c : Char} {cs rest : List Char} (left : Behind (c :: rest))
    (shorter : rest.length < cs.length) : Behind cs :=
  ⟨left.1, Nat.lt_of_lt_of_le left.2 shorter⟩

abbrev UpTo (cs : List Char) := { rest : List Char // rest.length ≤ cs.length }

def UpTo.all (cs : List Char) : UpTo cs := ⟨cs, Nat.le_refl _⟩

def UpTo.within {cs rest : List Char} (left : UpTo rest) (shorter : rest.length < cs.length) :
    UpTo cs :=
  ⟨left.1, Nat.le_trans left.2 (Nat.le_of_lt shorter)⟩

def Behind.withinUpTo {cs rest : List Char} (left : Behind rest)
    (upTo : rest.length ≤ cs.length) : Behind cs :=
  ⟨left.1, Nat.lt_of_lt_of_le left.2 upTo⟩

def next? (cs : List Char) : Option (Char × Behind cs) :=
  match found : skipBlanks cs with
  | [] => none
  | c :: rest => some (c, ⟨rest, length_of_skipBlanks_eq_cons found⟩)

def wordBehind (word : List Char) (c : Char) (cs : List Char) : Except Fault (Behind (c :: cs)) :=
  match read : readWord word cs with
  | .error fault => .error fault
  | .ok left => .ok ⟨left, Nat.lt_succ_of_le (length_readWord read)⟩

def stringBehind (cs : List Char) : Except Fault (String × Behind cs) :=
  match read : readString .plain cs with
  | .error fault => .error fault
  | .ok (body, left) => .ok (String.ofList body, ⟨left, length_readString read⟩)

def skippedString (cs : List Char) : Except Fault (Behind cs) :=
  match read : skipString .plain cs with
  | .error fault => .error fault
  | .ok left => .ok ⟨left, length_skipString read⟩

def numberBehind (negative : Bool) (cs : List Char) : Except Fault (Number × Behind cs) :=
  match read : readNumber negative cs with
  | .error fault => .error fault
  | .ok (n, left) => .ok (n, ⟨left, length_readNumber read⟩)

def skippedNumber (cs : List Char) : Except Fault (Behind cs) :=
  match read : skipNumber cs with
  | .error fault => .error fault
  | .ok left => .ok ⟨left, length_skipNumber read⟩

end ConfigLang.Json
