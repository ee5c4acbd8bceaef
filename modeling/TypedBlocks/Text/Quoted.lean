import TypedBlocks.Text.Hex
import TypedBlocks.Text.Hidden

/-!
# Quoted texts in messages

`quoted` shows a text that someone else chose so that every character of it can be seen: in double
quotes, with quotes and backslashes escaped, four controls by a letter, and whatever would show
nothing by its code point.
-/

namespace TypedBlocks.Text

/-- A character as it is shown in quotes. -/
def quotedChar (c : Char) : List Char :=
  if c = '\x00' then ['\\', '0']
  else if c = '\t' then ['\\', 't']
  else if c = '\r' then ['\\', 'r']
  else if c = '\n' then ['\\', 'n']
  else if c = '"' then ['\\', '"']
  else if c = '\\' then ['\\', '\\']
  else if isHidden c then ['\\', 'u', '\x7b'] ++ hexShort c.toNat ++ ['\x7d']
  else [c]

/-- A text in quotes. -/
def quoted (s : String) : String :=
  String.ofList ('"' :: s.toList.flatMap quotedChar ++ ['"'])

end TypedBlocks.Text
