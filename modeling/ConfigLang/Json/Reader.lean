import ConfigLang.Json.Shrink
/-! Reading JSON texts. A text is one value between blanks; its lists and objects may lie at
most 127 deep. -/
namespace ConfigLang.Json

def maxNesting : Nat := 127

mutual

def readValue (depth : Nat) (cs : List Char) : Except Fault (Json × Behind cs) :=
  match next? cs with
  | none => .error (.before .endInValue [])
  | some (c, ⟨rest, shorter⟩) =>
    if c = '"' then do
      let (text, left) ← stringBehind rest
      return (.string text, left.within shorter)
    else if c = '[' then
      match depth with
      | 0 => .error (.onto .tooDeep (c :: rest))
      | depth + 1 => do
        let (items, left) ← readItems depth rest
        return (.array items, left.within shorter)
    else if c = '\x7b' then
      match depth with
      | 0 => .error (.onto .tooDeep (c :: rest))
      | depth + 1 => do
        let (entries, left) ← readEntries depth rest
        return (.object entries, left.within shorter)
    else if c = 'n' then do
      return (.null, (← wordBehind ['u', 'l', 'l'] c rest).withinFrom shorter)
    else if c = 't' then do
      return (.bool true, (← wordBehind ['r', 'u', 'e'] c rest).withinFrom shorter)
    else if c = 'f' then do
      return (.bool false, (← wordBehind ['a', 'l', 's', 'e'] c rest).withinFrom shorter)
    else if c = '-' then do
      let (n, left) ← numberBehind true rest
      return (.number n, left.within shorter)
    else if isDigit c then do
      let (n, left) ← numberBehind false (c :: rest)
      return (.number n, left.withinFrom shorter)
    else .error (.onto .valueExpected (c :: rest))
termination_by (cs.length, 0)

def readItems (depth : Nat) (cs : List Char) : Except Fault (List Json × Behind cs) :=
  match next? cs with
  | none => .error (.before .endInList [])
  | some (c, left) => if c = ']' then .ok ([], left) else readItemsFrom depth cs
termination_by (cs.length, 2)

def readItemsFrom (depth : Nat) (cs : List Char) : Except Fault (List Json × Behind cs) := do
  let (item, ⟨behind, shorter⟩) ← readValue depth cs
  match next? behind with
  | none => .error (.before .endInList [])
  | some (c, ⟨rest, shorter'⟩) =>
    if c = ']' then return ([item], Behind.within ⟨rest, shorter'⟩ shorter)
    else if c = ',' then
      match skipBlanks rest with
      | [] => .error (.before .endInValue [])
      | d :: behind =>
        if d = ']' then .error (.onto .trailingComma (d :: behind))
        else
          let (items, left) ← readItemsFrom depth rest
          return (item :: items, (left.within shorter').within shorter)
    else .error (.onto .listSeparatorExpected (c :: rest))
termination_by (cs.length, 1)

def readEntries (depth : Nat) (cs : List Char) :
    Except Fault (List (String × Json) × Behind cs) :=
  match next? cs with
  | none => .error (.before .endInObject [])
  | some (c, ⟨rest, shorter⟩) =>
    if c = '\x7d' then .ok ([], ⟨rest, shorter⟩)
    else if c = '"' then do
      let (entries, left) ← readEntriesFrom depth rest
      return (entries, left.within shorter)
    else .error (.onto .keyNotString (c :: rest))
termination_by (cs.length, 2)

def readEntriesFrom (depth : Nat) (cs : List Char) :
    Except Fault (List (String × Json) × Behind cs) := do
  let (key, ⟨behindKey, named⟩) ← stringBehind cs
  match next? behindKey with
  | none => .error (.before .endInObject [])
  | some (c, ⟨behindColon, divided⟩) =>
    if c = ':' then do
      let (value, ⟨behindValue, valued⟩) ← readValue depth behindColon
      match next? behindValue with
      | none => .error (.before .endInObject [])
      | some (c, ⟨rest, shorter⟩) =>
        let left (left : Behind behindValue) : Behind cs :=
          ((left.within valued).within divided).within named
        if c = '\x7d' then return ([(key, value)], left ⟨rest, shorter⟩)
        else if c = ',' then
          match next? rest with
          | none => .error (.before .endInValue [])
          | some (d, ⟨behind, shorter'⟩) =>
            if d = '"' then
              let (entries, closed) ← readEntriesFrom depth behind
              return ((key, value) :: entries, left ((closed.within shorter').within shorter))
            else if d = '\x7d' then .error (.onto .trailingComma (d :: behind))
            else .error (.onto .keyNotString (d :: behind))
        else .error (.onto .objectSeparatorExpected (c :: rest))
    else .error (.onto .colonExpected (c :: behindColon))
termination_by (cs.length, 1)

end

def expectEnd (rest : List Char) : Except Fault Unit :=
  match skipBlanks rest with
  | [] => .ok ()
  | c :: behind => .error (.onto .trailingCharacters (c :: behind))

def read (text : String) : Except ReadError Json :=
  (do
    let (json, rest) ← readValue maxNesting text.toList
    expectEnd rest.1
    return json).mapError (Fault.locate text.toList)

def readLiteral (text : String) : Except ReadError String :=
  (match skipBlanks text.toList with
    | '"' :: body => do
      let (chars, rest) ← readString .plain body
      expectEnd rest
      return String.ofList chars
    | rest => .error (.onto .valueExpected rest)).mapError (Fault.locate text.toList)

end ConfigLang.Json
