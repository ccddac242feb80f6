import SqlKit.Schema.Ddl

/-!
# Plans

A plan is a list of schema operations. Its statements are those of its operations in order.
-/

namespace SqlKit.Schema

inductive Operation where
  | create (b : Blueprint)
  | alter (b : Blueprint)
  | drop (table : String)
  | dropIfExists (table : String)
  | rename (old new : String)
  /-- Text to run as it stands. -/
  | raw (sql : String)
deriving Inhabited, Repr

abbrev Plan := List Operation

def Blueprint.ofChange (table : String) (c : Change) : Blueprint := { table, changes := [c] }

def Operation.statements (d : Dialect) : Operation → List String
  | .create b => b.statements d .create
  | .alter b => b.statements d .alter
  | .drop table => (Blueprint.ofChange table .drop).statements d .alter
  | .dropIfExists table => (Blueprint.ofChange table .dropIfExists).statements d .alter
  | .rename old new => (Blueprint.ofChange old (.rename new)).statements d .alter
  | .raw sql => [sql]

def Plan.statements (d : Dialect) (p : Plan) : List String := p.flatMap (·.statements d)

end SqlKit.Schema
