import ConfigLang.Json.Basic
import ConfigLang.Json.Fault
/-! The lexemes of JSON. Each reader takes the characters of a text from some point on and
answers with what it read and what is left. -/
namespace ConfigLang.Json

def isJsonBlank (c : Char) : Bool := c == ' ' || c == '\n' || c == '\t' || c == '\r'

def skipBlanks (cs : List Char) : List Char := cs.dropWhile isJsonBlank

def hexValue? (c : Char) : Option Nat :=
  if '0' ≤ c && c ≤ '9' then some (c.toNat - '0'.toNat)
  else if 'a' ≤ c && c ≤ 'f' then some (c.toNat - 'a'.toNat + 10)
  else if 'A' ≤ c && c ≤ 'F' then some (c.toNat - 'A'.toNat + 10)
  else none

def readWord : List Char → List Char → Except Fault (List Char)
  | [], cs => .ok cs
  | _ :: _, [] => .error (.before .endInValue [])
  | w :: ws, c :: cs => if w = c then readWord ws cs else .error (.onto .wordExpected (c :: cs))

/-- Where a string reader stands between two characters. A code point beyond the first
65536 is written as two escapes, a high and a low surrogate. -/
inductive StringState
  | plain
  | escape
  /-- Inside a `\u` escape: digits still to come, value so far, high surrogate before it. -/
  | digits (missing value : Nat) (high : Option Nat)
  /-- Behind a high surrogate, before the backslash of the low one. -/
  | needsBackslash (high : Nat)
  | needsU (high : Nat)
  deriving Repr, DecidableEq

def simpleEscape? : Char → Option Char
  | '"' => some '"'
  | '\\' => some '\\'
  | '/' => some '/'
  | 'b' => some '\x08'
  | 'f' => some '\x0c'
  | 'n' => some '\n'
  | 'r' => some '\r'
  | 't' => some '\t'
  | _ => none

/-- A character that cannot be one of the `missing` digits of an escape spoils all of them;
the text may also end before them. -/
def badDigits (missing : Nat) (rest : List Char) : Fault :=
  let bytes := Text.byteLength rest
  if bytes < missing then ⟨.endInString, some 0⟩ else ⟨.badEscape, some (bytes - missing)⟩

def completeEscape (value : Nat) (high : Option Nat) (rest : List Char) :
    Except Fault (StringState × List Char) :=
  let low := 0xdc00 ≤ value && value ≤ 0xdfff
  match high with
  | some h =>
    if low then
      .ok (.plain, [Char.ofNat (0x10000 + (h - 0xd800) * 0x400 + (value - 0xdc00))])
    else .error (.before .loneSurrogate rest)
  | none =>
    if low then .error (.before .loneSurrogate rest)
    else if 0xd800 ≤ value && value ≤ 0xdbff then .ok (.needsBackslash value, [])
    else .ok (.plain, [Char.ofNat value])

def readString : StringState → List Char → Except Fault (List Char × List Char)
  | _, [] => .error (.before .endInString [])
  | .plain, c :: rest =>
    if c = '"' then .ok ([], rest)
    else if c = '\\' then readString .escape rest
    else if c < ' ' then .error (.onto .controlCharacter (c :: rest))
    else do
      let (body, left) ← readString .plain rest
      return (c :: body, left)
  | .escape, c :: rest =>
    if c = 'u' then readString (.digits 4 0 none) rest
    else match simpleEscape? c with
      | none => .error (.onto .badEscape (c :: rest))
      | some d => do
        let (body, left) ← readString .plain rest
        return (d :: body, left)
  | .digits missing value high, c :: rest =>
    match hexValue? c with
    | none => .error (badDigits missing (c :: rest))
    | some digit =>
      if missing ≤ 1 then do
        let (state, decoded) ← completeEscape (value * 16 + digit) high rest
        let (body, left) ← readString state rest
        return (decoded ++ body, left)
      else readString (.digits (missing - 1) (value * 16 + digit) high) rest
  | .needsBackslash high, c :: rest =>
    if c = '\\' then readString (.needsU high) rest
    else .error (.onto .escapeCutShort (c :: rest))
  | .needsU high, c :: rest =>
    if c = 'u' then readString (.digits 4 0 (some high)) rest
    else .error (.onto .escapeCutShort (c :: rest))

/-- Skips the rest of a string. Surrogates may stand alone in a string that nobody keeps. -/
def skipString : StringState → List Char → Except Fault (List Char)
  | _, [] => .error (.before .endInString [])
  | .escape, c :: rest =>
    if c = 'u' then skipString (.digits 4 0 none) rest
    else if (simpleEscape? c).isSome then skipString .plain rest
    else .error (.onto .badEscape (c :: rest))
  | .digits missing _ _, c :: rest =>
    if (hexValue? c).isNone then .error (badDigits missing (c :: rest))
    else skipString (if missing ≤ 1 then .plain else .digits (missing - 1) 0 none) rest
  | _, c :: rest =>
    if c = '"' then .ok rest
    else if c = '\\' then skipString .escape rest
    else if c < ' ' then .error (.before .controlCharacter (c :: rest))
    else skipString .plain rest

/-! ### Numbers -/

def isDigit (c : Char) : Bool := '0' ≤ c && c ≤ '9'

/-- Adds digits to a significand as long as it fits into 64 bits; answers with the digits
that are left over. -/
def absorb (significand : Nat) : List Char → Nat × List Char
  | [] => (significand, [])
  | c :: rest =>
    let next := significand * 10 + (c.toNat - '0'.toNat)
    if next < Nat.pow 2 64 then absorb next rest else (significand, c :: rest)

def powerOfTen (k : Nat) : Decimal.Binary64 := (Decimal.Binary64.ofNat (Nat.pow 10 k)).getD .zero

/-- `x / 10 ^ k`, in steps of at most 308 places that are rounded one by one. -/
def shrink (x : Decimal.Binary64) (k : Nat) : Decimal.Binary64 :=
  if x.isZero then x
  else if k ≤ 308 then (x.div (powerOfTen k)).getD .zero
  else shrink ((x.div (powerOfTen 308)).getD .zero) (k - 308)
termination_by k

/-- `significand * 10 ^ exponent`; `none` if it is too large. -/
def scaled (significand : Nat) (exponent : Int) : Option Decimal.Binary64 := do
  let x ← Decimal.Binary64.ofNat significand
  match exponent with
  | .negSucc k => some (shrink x (k + 1))
  | .ofNat k =>
    if k ≤ 308 then x.mul (powerOfTen k) else if x.isZero then some x else none

def binary (negative : Bool) (significand : Nat) (exponent : Int) (rest : List Char) :
    Except Fault (Number × List Char) :=
  match scaled significand exponent with
  | some x => .ok (.binary negative x, rest)
  | none => .error (.before .numberTooLarge rest)

def maxExponent : Nat := Nat.pow 2 31 - 1

/-- Reads the digits of an exponent. `none` is an exponent beyond `maxExponent`; then `rest`
is what follows the digit that carried it there. -/
def exponentDigits (value : Nat) : List Char → Option Nat × List Char
  | [] => (some value, [])
  | c :: rest =>
    if isDigit c then
      let next := value * 10 + (c.toNat - '0'.toNat)
      if maxExponent < next then (none, rest) else exponentDigits next rest
    else (some value, c :: rest)

def exponentSign (cs : List Char) : Bool × List Char :=
  match cs with
  | [] => (false, [])
  | c :: rest => if c = '+' then (false, rest) else if c = '-' then (true, rest) else (false, cs)

def exponentPart (negative : Bool) (significand : Nat) (exponent : Int) (cs : List Char) :
    Except Fault (Number × List Char) :=
  match (exponentSign cs).2 with
  | [] => .error (.before .endInValue [])
  | c :: rest =>
    if isDigit c then
      match exponentDigits (c.toNat - '0'.toNat) rest with
      | (some e, rest) =>
        let shift : Int := if (exponentSign cs).1 then -e else e
        binary negative significand (exponent + shift) rest
      | (none, rest) =>
        if significand ≠ 0 ∧ !(exponentSign cs).1 then .error (.before .numberTooLarge rest)
        else .ok (.binary negative .zero, rest.dropWhile isDigit)
    else .error (.onto .badNumber (c :: rest))

def isExponentMark (c : Char) : Bool := c == 'e' || c == 'E'

def fractionPart (negative : Bool) (significand : Nat) (exponent : Int) (cs : List Char) :
    Except Fault (Number × List Char) :=
  let digits := cs.takeWhile isDigit
  let rest := cs.dropWhile isDigit
  if digits.isEmpty then
    .error (.onto (if rest.isEmpty then .endInValue else .badNumber) rest)
  else
    let (significand, spare) := absorb significand digits
    let exponent := exponent - (digits.length - spare.length : Nat)
    match rest with
    | c :: behind =>
      if isExponentMark c then exponentPart negative significand exponent behind
      else binary negative significand exponent rest
    | [] => binary negative significand exponent rest

/-- The number without fraction and exponent. A negative zero and integers beyond 64 bits
are binary numbers. -/
def integer (negative : Bool) (significand : Nat) (rest : List Char) :
    Except Fault (Number × List Char) :=
  if !negative then .ok (.whole significand, rest)
  else if 0 < significand && significand ≤ Nat.pow 2 63 then .ok (.whole (-significand), rest)
  else binary true significand 0 rest

def readNumber (negative : Bool) (cs : List Char) : Except Fault (Number × List Char) :=
  match cs with
  | [] => .error (.before .endInValue [])
  | c :: behind =>
    if !isDigit c then .error (.onto .badNumber cs)
    else if c = '0' && (behind.head?.any isDigit) then .error (.onto .badNumber behind)
    else
      let digits := cs.takeWhile isDigit
      let rest := cs.dropWhile isDigit
      let (significand, spare) := absorb 0 digits
      match rest with
      | '.' :: fraction => fractionPart negative significand spare.length fraction
      | d :: exponent =>
        if isExponentMark d then exponentPart negative significand spare.length exponent
        else if spare.isEmpty then integer negative significand rest
        else binary negative significand spare.length rest
      | [] =>
        if spare.isEmpty then integer negative significand rest
        else binary negative significand spare.length rest

def skipNumber (cs : List Char) : Except Fault (List Char) :=
  match cs with
  | [] => .error (.before .badNumber [])
  | c :: behind =>
    if !isDigit c then .error (.onto .badNumber cs)
    else if c = '0' && (behind.head?.any isDigit) then .error (.onto .badNumber behind)
    else
      match cs.dropWhile isDigit with
      | '.' :: fraction =>
        let rest := fraction.dropWhile isDigit
        if (fraction.takeWhile isDigit).isEmpty then .error (.onto .badNumber rest)
        else match rest with
          | d :: exponent => if isExponentMark d then skipExponent exponent else .ok rest
          | [] => .ok rest
      | d :: exponent =>
        if isExponentMark d then skipExponent exponent else .ok (d :: exponent)
      | [] => .ok []
where
  skipExponent (cs : List Char) : Except Fault (List Char) :=
    match (exponentSign cs).2 with
    | [] => .error (.before .badNumber [])
    | c :: rest =>
      if isDigit c then .ok (rest.dropWhile isDigit) else .error (.onto .badNumber (c :: rest))

end ConfigLang.Json
