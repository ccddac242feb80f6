import SqlKit.Text.Hex
import SqlKit.Text.HiddenTable

/-!
# Quoted display

A text between double quotes, as messages show it: quote and backslash are escaped, the usual
controls have their letters, and every other hidden character is shown by its code in hexadecimal.
-/

namespace SqlKit.Text

def displayChar (c : Char) : List Char :=
  if c = '\x00' then ['\\', '0']
  else if c = '\t' then ['\\', 't']
  else if c = '\r' then ['\\', 'r']
  else if c = '\n' then ['\\', 'n']
  else if c = '\\' then ['\\', '\\']
  else if c = '"' then ['\\', '"']
  else if isHidden c then ['\\', 'u', '\x7b'] ++ hex c.toNat ++ ['\x7d']
  else [c]

def display (s : String) : String := String.ofList ('"' :: s.toList.flatMap displayChar ++ ['"'])

end SqlKit.Text
