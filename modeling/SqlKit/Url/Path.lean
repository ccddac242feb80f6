import SqlKit.Schema.Identifier
import SqlKit.Url.Percent

/-!
# Paths

A path is a list of segments. Tabs and line ends are no part of it. A segment of one point means this
place and one of two points the place above, also where the points are percent-encoded; a segment that
names a drive is never left upwards. A path that ends in such a segment ends in a slash.
-/

namespace SqlKit.Url

/-- A point, plain or encoded, at the front of a segment, and the rest. -/
def dropPoint : List Char → Option (List Char)
  | '.' :: cs => some cs
  | '%' :: '2' :: 'e' :: cs => some cs
  | '%' :: '2' :: 'E' :: cs => some cs
  | _ => none

def isHere (s : List Char) : Bool := dropPoint s == some []
def isAbove (s : List Char) : Bool := (dropPoint s).bind dropPoint == some []

/-- A letter followed by a colon or a bar, and by nothing or a backslash. -/
def isDrive : List Char → Bool
  | c :: m :: rest => c.isAlpha && (m == ':' || m == '|') && rest.head?.all (· == '\\')
  | _ => false

/-- The segments above the last one, which are held last first. -/
def leave : List (List Char) → List (List Char)
  | [] => []
  | s :: rest => if isDrive s then s :: rest else rest

/-- The segments of a path in which none is a point or two, given those before, last first. -/
def walk : List (List Char) → List (List Char) → List (List Char)
  | before, [] => before.reverse
  | before, [s] =>
    if isAbove s then (leave before).reverse ++ [[]]
    else if isHere s then before.reverse ++ [[]] else before.reverse ++ [s]
  | before, s :: rest =>
    if isAbove s then walk (leave before) rest
    else if isHere s then walk before rest else walk (s :: before) rest

def isLineMark (c : Char) : Bool := c == '\t' || c == '\n' || c == '\r'

/-- The path from the root to a place named by a text. -/
def pathChars (place : List Char) : List Char :=
  let segments := Schema.splitChars '/' (place.filter fun c => !isLineMark c)
  '/' :: ['/'].intercalate (walk [] (segments.map (encodeWith keepPath)))

end SqlKit.Url
