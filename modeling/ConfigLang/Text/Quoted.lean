import ConfigLang.Text.Unprintable
import ConfigLang.Text.Combining
/-! Quoted text for messages. Every character that a reader could not tell from its
neighbours is written as an escape, so that the quoted form is unambiguous on any screen. -/
namespace ConfigLang.Text

def hexDigits (n : Nat) : List Char := Nat.toDigits 16 n

def needsCodePoint (c : Char) : Bool :=
  if ' ' ≤ c && c < '\x7f' then false else isCombining c || isUnprintable c

def quotedChar (quote c : Char) : List Char :=
  if c = '\n' then ['\\', 'n']
  else if c = '\r' then ['\\', 'r']
  else if c = '\t' then ['\\', 't']
  else if c = '\x00' then ['\\', '0']
  else if c = '\\' || c = quote then ['\\', c]
  else if needsCodePoint c then "\\u\x7b".toList ++ hexDigits c.toNat ++ ['\x7d']
  else [c]

def quote (text : String) : String :=
  String.ofList ('"' :: text.toList.flatMap (quotedChar '"') ++ ['"'])

def quoteChar (c : Char) : String :=
  String.ofList ('\'' :: quotedChar '\'' c ++ ['\''])

end ConfigLang.Text
