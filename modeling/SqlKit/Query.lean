import SqlKit.Query.Operator
import SqlKit.Value.Convert

/-!
# Queries

A query names one table and gathers clauses for it. It belongs to no dialect and to no connection. A
clause is a value of its own, and a query is what a list of clauses makes of the bare table, so that a
law on clauses is a law on all queries.
-/

namespace SqlKit

inductive Predicate where
  | compare (column : String) (op : Operator) (value : Value)
  | inList (column : String) (values : List Value) (negated : Bool)
  | isNull (column : String) (negated : Bool)
  | between (column : String) (low high : Value) (negated : Bool)
deriving Inhabited, Repr

structure Filter where
  connector : Connector
  predicate : Predicate
deriving Inhabited, Repr

inductive Join where
  | on (kind : JoinKind) (table : String) (first : String) (op : Operator) (second : String)
  | cross (table : String)
deriving DecidableEq, Inhabited, Repr

structure Query where
  table : String
  columns : List String := []
  distinct : Bool := false
  joins : List Join := []
  filters : List Filter := []
  groups : List String := []
  groupFilters : List Filter := []
  orders : List (String × Direction) := []
  limit : Option Nat := none
  offset : Option Nat := none
deriving Inhabited, Repr

inductive Clause where
  | select (columns : List String)
  | addSelect (columns : List String)
  | distinct
  | filter (connector : Connector) (predicate : Predicate)
  | join (join : Join)
  | groupBy (columns : List String)
  | having (connector : Connector) (column : String) (op : Operator) (value : Value)
  | orderBy (column : String) (direction : Direction)
  | limit (rows : Nat)
  | offset (rows : Nat)
  /-- The rows of one page; pages are counted from one, and page zero is page one. -/
  | page (number size : Nat)
deriving Inhabited, Repr

namespace Query

/-- How many counts of rows there are; counts are 64-bit words. -/
def countRange : Nat := 18446744073709551616

/-- The rows before a page, counted modulo `countRange`. -/
def pageStart (number size : Nat) : Nat := (number - 1) * size % countRange

theorem pageStart_eq {number size : Nat} (h : (number - 1) * size < countRange) :
    pageStart number size = (number - 1) * size := Nat.mod_eq_of_lt h

def apply (q : Query) : Clause → Query
  | .select cs => { q with columns := cs }
  | .addSelect cs => { q with columns := q.columns ++ cs }
  | .distinct => { q with distinct := true }
  | .filter c p => { q with filters := q.filters ++ [⟨c, p⟩] }
  | .join j => { q with joins := q.joins ++ [j] }
  | .groupBy cs => { q with groups := q.groups ++ cs }
  | .having c column op v => { q with groupFilters := q.groupFilters ++ [⟨c, .compare column op v⟩] }
  | .orderBy column d => { q with orders := q.orders ++ [(column, d)] }
  | .limit n => { q with limit := some n }
  | .offset n => { q with offset := some n }
  | .page number size => { q with offset := some (pageStart number size), limit := some size }

def on (table : String) : Query := { table := table }

def applyAll (q : Query) (cs : List Clause) : Query := cs.foldl apply q

def fresh (q : Query) : Query := on q.table

/-- The query with one more condition that must hold too. -/
def whereEq {α : Type} [ToValue α] (q : Query) (column : String) (v : α) : Query :=
  q.apply (.filter .and (.compare column .eq (toValue v)))

end Query

end SqlKit
