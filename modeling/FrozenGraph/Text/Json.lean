/-
This file writes a text as a JSON string.
-/

import FrozenGraph.Text.Hex

namespace FrozenGraph.Text

/-- One character of a JSON string: a control character has a short escape or its code point. -/
def jsonChar (character : Char) : List Char :=
  if character = '"' then ['\\', '"']
  else if character = '\\' then ['\\', '\\']
  else if character = '\x08' then ['\\', 'b']
  else if character = '\x0c' then ['\\', 'f']
  else if character = '\n' then ['\\', 'n']
  else if character = '\r' then ['\\', 'r']
  else if character = '\t' then ['\\', 't']
  else if character.toNat < 0x20 then ['\\', 'u'] ++ hex4 character.toNat
  else [character]

/-- A text as a JSON string. -/
def jsonString (text : String) : String :=
  String.ofList ('"' :: text.toList.flatMap jsonChar ++ ['"'])

end FrozenGraph.Text
