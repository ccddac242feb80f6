import SqlKit.Json.Basic
import SqlKit.Number.Style
import SqlKit.Text.Quoted

/-!
# Writing JSON

`Json.compact` writes a document without blanks, `Json.pretty` one item or field a line with two
spaces a level, and `Json.display` the form that messages show, with the kind of every value. Strings
escape the two characters that need it and the controls.
-/

namespace SqlKit
open Number (Style intChars)

def JsonNumber.chars : JsonNumber → List Char
  | .whole n => intChars n
  | .float x => Style.json.chars x

namespace Json

def escapeChar (c : Char) : List Char :=
  if c = '"' then ['\\', '"']
  else if c = '\\' then ['\\', '\\']
  else if c = '\n' then ['\\', 'n']
  else if c = '\r' then ['\\', 'r']
  else if c = '\t' then ['\\', 't']
  else if c = '\x08' then ['\\', 'b']
  else if c = '\x0c' then ['\\', 'f']
  else if c.toNat < 0x20 then
    ['\\', 'u', '0', '0', Text.hexDigit (c.toNat / 16), Text.hexDigit (c.toNat % 16)]
  else [c]

def stringChars (s : String) : List Char := '"' :: s.toList.flatMap escapeChar ++ ['"']

def boolChars (b : Bool) : List Char := if b then "true".toList else "false".toList

mutual

def chars : Json → List Char
  | .null => "null".toList
  | .bool b => boolChars b
  | .number n => n.chars
  | .text s => stringChars s
  | .array xs => '[' :: itemChars xs ++ [']']
  | .object fs => '\x7b' :: fieldChars fs ++ ['\x7d']

def itemChars : List Json → List Char
  | [] => []
  | [x] => x.chars
  | x :: xs => x.chars ++ ',' :: itemChars xs

def fieldChars : List (String × Json) → List Char
  | [] => []
  | [(k, x)] => stringChars k ++ ':' :: x.chars
  | (k, x) :: fs => stringChars k ++ ':' :: x.chars ++ ',' :: fieldChars fs

end

def compact (j : Json) : String := String.ofList j.chars

def newline (level : Nat) : List Char := '\n' :: List.replicate (2 * level) ' '

mutual

def prettyChars (level : Nat) : Json → List Char
  | .array (x :: xs) => '[' :: prettyItems (level + 1) (x :: xs) ++ newline level ++ [']']
  | .object (f :: fs) => '\x7b' :: prettyFields (level + 1) (f :: fs) ++ newline level ++ ['\x7d']
  | .null => "null".toList
  | .bool b => boolChars b
  | .number n => n.chars
  | .text s => stringChars s
  | .array [] => ['[', ']']
  | .object [] => ['\x7b', '\x7d']

def prettyItems (level : Nat) : List Json → List Char
  | [] => []
  | [x] => newline level ++ prettyChars level x
  | x :: xs => newline level ++ prettyChars level x ++ ',' :: prettyItems level xs

def prettyFields (level : Nat) : List (String × Json) → List Char
  | [] => []
  | [(k, x)] => newline level ++ stringChars k ++ ':' :: ' ' :: prettyChars level x
  | (k, x) :: fs =>
    newline level ++ stringChars k ++ ':' :: ' ' :: prettyChars level x ++ ',' :: prettyFields level fs

end

def pretty (j : Json) : String := String.ofList (prettyChars 0 j)

mutual

def display : Json → String
  | .null => "Null"
  | .bool b => "Bool(" ++ String.ofList (boolChars b) ++ ")"
  | .number n => "Number(" ++ String.ofList n.chars ++ ")"
  | .text s => "String(" ++ Text.display s ++ ")"
  | .array xs => "Array [" ++ String.intercalate ", " (displayItems xs) ++ "]"
  | .object fs => "Object \x7b" ++ String.intercalate ", " (displayFields fs) ++ "\x7d"

def displayItems : List Json → List String
  | [] => []
  | x :: xs => x.display :: displayItems xs

def displayFields : List (String × Json) → List String
  | [] => []
  | (k, x) :: fs => (Text.display k ++ ": " ++ x.display) :: displayFields fs

end

end Json

end SqlKit
