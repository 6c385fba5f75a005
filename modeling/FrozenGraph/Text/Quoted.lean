/-
This file writes a text in double quotes for a diagnostic, so that every character of it can be
seen: what has no visible form of its own, or would merge with the character before it, is written
by its code point.
-/

import FrozenGraph.Text.Hex
import FrozenGraph.Unicode.Extending
import FrozenGraph.Unicode.Unprintable

namespace FrozenGraph.Text

/-- One character of a quoted text. -/
def quotedChar (character : Char) : List Char :=
  if character = '\x00' then ['\\', '0']
  else if character = '\t' then ['\\', 't']
  else if character = '\r' then ['\\', 'r']
  else if character = '\n' then ['\\', 'n']
  else if character = '"' then ['\\', '"']
  else if character = '\\' then ['\\', '\\']
  else if Unicode.isExtending character || Unicode.isUnprintable character then
    ['\\', 'u', '\x7b'] ++ hex character.toNat ++ ['\x7d']
  else [character]

/-- A text in double quotes. -/
def quoted (text : String) : String :=
  String.ofList ('"' :: text.toList.flatMap quotedChar ++ ['"'])

end FrozenGraph.Text
