import Mathlib.Data.List.Basic

/-! # JSON texts

The text that `JSON.stringify` makes of texts, arrays and objects.
-/

namespace OpenCowork.Foundation

def jsonChar (c : Char) : List Char :=
  if c = '"' then ['\\', '"']
  else if c = '\\' then ['\\', '\\']
  else if c.toNat = 8 then ['\\', 'b']
  else if c.toNat = 9 then ['\\', 't']
  else if c.toNat = 10 then ['\\', 'n']
  else if c.toNat = 12 then ['\\', 'f']
  else if c.toNat = 13 then ['\\', 'r']
  else if c.toNat < 32 then
    ['\\', 'u', '0', '0', (c.toNat / 16).digitChar, (c.toNat % 16).digitChar]
  else [c]

def jsonText (text : String) : String :=
  "\"" ++ String.ofList (text.toList.flatMap jsonChar) ++ "\""

def jsonArray (items : List String) : String := "[" ++ String.intercalate "," items ++ "]"

def jsonObject (entries : List (String × String)) : String :=
  "\x7b" ++ String.intercalate "," (entries.map fun entry => jsonText entry.1 ++ ":" ++ entry.2) ++
    "\x7d"

end OpenCowork.Foundation
