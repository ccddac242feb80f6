/-!
# Lines of a text

A line ends at a line feed, and a carriage return before that line feed is part of the ending. What
follows the last line feed is a line when it is not empty, and keeps its carriage return.
-/

namespace SqlKit.Text

def dropReturn (line : List Char) : List Char :=
  match line.reverse with
  | '\r' :: rest => rest.reverse
  | _ => line

def linesFrom : List Char → List Char → List (List Char)
  | [], [] => []
  | acc, [] => [acc.reverse]
  | acc, '\n' :: rest => dropReturn acc.reverse :: linesFrom [] rest
  | acc, c :: rest => linesFrom (c :: acc) rest

def lines (s : String) : List String := (linesFrom [] s.toList).map String.ofList

end SqlKit.Text
