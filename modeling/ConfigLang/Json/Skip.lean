import ConfigLang.Json.Shrink
/-! Skipping values that nobody asked for. A skipped value must be JSON, but it may nest to
any depth, its numbers may be of any size, and its surrogates need no partner. -/
namespace ConfigLang.Json

mutual

def skipValue (cs : List Char) : Except Fault (Behind cs) :=
  match next? cs with
  | none => .error (.before .endInValue [])
  | some (c, ⟨rest, shorter⟩) =>
    if c = '"' then do return (← skippedString rest).within shorter
    else if c = '[' then do return (← skipItems rest).within shorter
    else if c = '\x7b' then do return (← skipEntries rest).within shorter
    else if c = 'n' then do return (← wordBehind ['u', 'l', 'l'] c rest).withinFrom shorter
    else if c = 't' then do return (← wordBehind ['r', 'u', 'e'] c rest).withinFrom shorter
    else if c = 'f' then do return (← wordBehind ['a', 'l', 's', 'e'] c rest).withinFrom shorter
    else if c = '-' then do return (← skippedNumber rest).within shorter
    else if isDigit c then do return (← skippedNumber (c :: rest)).withinFrom shorter
    else .error (.onto .valueExpected (c :: rest))
termination_by (cs.length, 0)

def skipItems (cs : List Char) : Except Fault (Behind cs) :=
  match next? cs with
  | none => .error (.before .endInList [])
  | some (c, left) => if c = ']' then .ok left else skipItemsFrom cs
termination_by (cs.length, 2)

def skipItemsFrom (cs : List Char) : Except Fault (Behind cs) := do
  let ⟨behind, shorter⟩ ← skipValue cs
  match next? behind with
  | none => .error (.before .endInList [])
  | some (c, ⟨rest, shorter'⟩) =>
    if c = ']' then return Behind.within ⟨rest, shorter'⟩ shorter
    else if c = ',' then
      return ((← skipItemsFrom rest).within shorter').within shorter
    else .error (.onto .listSeparatorExpected (c :: rest))
termination_by (cs.length, 1)

def skipEntries (cs : List Char) : Except Fault (Behind cs) :=
  match next? cs with
  | none => .error (.before .endInObject [])
  | some (c, left) => if c = '\x7d' then .ok left else skipEntriesFrom cs
termination_by (cs.length, 2)

def skipEntriesFrom (cs : List Char) : Except Fault (Behind cs) :=
  match next? cs with
  | none => .error (.before .endInObject [])
  | some (q, ⟨key, keyed⟩) =>
    if q = '"' then do
      let ⟨behindKey, named⟩ ← skippedString key
      match next? behindKey with
      | none => .error (.before .endInObject [])
      | some (c, ⟨behindColon, divided⟩) =>
        if c = ':' then do
          let ⟨behindValue, valued⟩ ← skipValue behindColon
          match next? behindValue with
          | none => .error (.before .endInObject [])
          | some (c, ⟨rest, shorter⟩) =>
            let left (left : Behind behindValue) : Behind cs :=
              (((left.within valued).within divided).within named).within keyed
            if c = '\x7d' then return left ⟨rest, shorter⟩
            else if c = ',' then return left ((← skipEntriesFrom rest).within shorter)
            else .error (.onto .objectSeparatorExpected (c :: rest))
        else .error (.onto .colonExpected (c :: behindColon))
    else .error (.onto .keyNotString (q :: key))
termination_by (cs.length, 1)

end

end ConfigLang.Json
