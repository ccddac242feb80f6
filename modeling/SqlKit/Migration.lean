import SqlKit.Migration.Name
import SqlKit.Schema.Plan
import SqlKit.Text.Lines

/-!
# Migrations

A migration has a name, a plan that applies it and one that takes it back. One that is written as text has
a section for each, begun by a marker on a line of its own. Lines before the first marker belong to no
section; a text without markers is all for applying.
-/

namespace SqlKit

structure Migration where
  name : String
  up : Schema.Plan
  down : Schema.Plan
  transactional : Bool := true
deriving Inhabited

namespace Migration

inductive Way where
  | up
  | down
deriving DecidableEq, Inhabited, Repr

def plan (m : Migration) : Way → Schema.Plan
  | .up => m.up
  | .down => m.down

def Way.marker : Way → String
  | .up => "-- migrate:up"
  | .down => "-- migrate:down"

structure Script where
  name : String
  up : String
  down : String
deriving DecidableEq, Inhabited, Repr

namespace Script

/-- The section that a line begins. -/
def marked? (line : String) : Option Way :=
  let line := Text.trim line
  if line = Way.up.marker then some .up else if line = Way.down.marker then some .down else none

/-- The lines of one section, given the section that the first line is in. -/
def sectionLines (w : Way) : Option Way → List String → List String
  | _, [] => []
  | open?, line :: rest =>
    match marked? line with
    | some v => sectionLines w (some v) rest
    | none => if open? = some w then line :: sectionLines w open? rest else sectionLines w open? rest

def sectionText (w : Way) (lines : List String) : String :=
  Text.trim ("\n".intercalate (sectionLines w none lines))

def parse (name text : String) : Script :=
  let lines := Text.lines text
  if lines.any fun line => (marked? line).isSome then
    ⟨name, sectionText .up lines, sectionText .down lines⟩
  else ⟨name, Text.trim text, ""⟩

def skeleton : String := Way.up.marker ++ "\n\n\n" ++ Way.down.marker ++ "\n\n"

def planOf (sql : String) : Schema.Plan := if sql.isEmpty then [] else [.raw sql]

def toMigration (s : Script) : Migration := { name := s.name, up := planOf s.up, down := planOf s.down }

end Script

end Migration

end SqlKit
