import Mathlib.Data.List.Induction
import Mathlib.Logic.Function.Basic
import SqlKit.Proofs.Outcomes

/-!
# A database with two connections

Of a database that two connections share one sees the names in the ledger, and those that the open
transaction of each connection would add. It is faithful if a statement outside of transactions takes
effect at once, one inside with the commit, and a refused one never. Which statements it accepts is left
open. A history is any interleaving of requests with their replies.
-/

namespace SqlKit

/-- Whether the statement ran without a fault. -/
def Reply.accepted : Reply → Bool
  | .rows _ | .done _ _ => true
  | .refused | .undecodable _ => false

theorem Reply.fault_none_iff {reply : Reply} {sql : String} :
    reply.fault? sql = none ↔ reply.accepted = true := by
  cases reply <;> simp [Reply.fault?, Reply.accepted]

theorem Reply.fault_of_refused {reply : Reply} (sql : String) (h : reply.accepted = false) :
    ∃ e, reply.fault? sql = some e := by
  cases reply with
  | refused => exact ⟨_, rfl⟩
  | undecodable column => exact ⟨_, rfl⟩
  | _ => cases h

namespace Migration
open Session
open Calendar (DateTime)

inductive Side where
  | first
  | second
deriving DecidableEq, Repr

theorem Side.eq_or_eq {i j k : Side} (h : j ≠ i) : k = i ∨ k = j := by
  cases i <;> cases j <;> cases k <;> simp at h ⊢

abbrev Exchanged := Request × Reply

structure Event where
  side : Side
  exchanged : Exchanged

/-- What one connection sent and was answered, in its order. -/
def exchanges (i : Side) (history : List Event) : List Exchanged :=
  (history.filter (·.side = i)).map (·.exchanged)

theorem exchanges_snoc (i : Side) (history : List Event) (e : Event) :
    exchanges i (history ++ [e]) =
      if e.side = i then exchanges i history ++ [e.exchanged] else exchanges i history := by
  by_cases h : e.side = i <;> simp [exchanges, h]

structure Shared (δ : Type) where
  answer : Side → Request → StateM δ Reply
  /-- The names in the ledger, one for each row. -/
  committed : δ → List String
  /-- The names that the open transaction of a connection has entered, if there is one. -/
  pending : δ → Side → Option (List String)

namespace Shared
variable {δ : Type}

/-- The database answers each request of a history as it stands there. -/
inductive Serves (S : Shared δ) (db : δ) : List Event → δ → Prop
  | nil : Serves S db [] db
  | snoc {history db'} (i : Side) (r : Request) : Serves S db history db' →
      Serves S db (history ++ [⟨i, r, (S.answer i r db').1⟩]) (S.answer i r db').2

/-- What a statement does if it is accepted, in whatever way it is sent. -/
def Does (S : Shared δ) (d : Dialect) (i : Side) (st : Statement) (db : δ) (P : Reply → δ → Prop) : Prop :=
  ∀ mode, let a := S.answer i ⟨st, mode, st.compile d⟩ db
    a.1.accepted = true → P a.1 a.2

structure Keeps (S : Shared δ) (i : Side) (db db' : δ) : Prop where
  committed : S.committed db' = S.committed db
  pending : S.pending db' i = S.pending db i

/-- An entry is made at once, or by the open transaction. -/
def Enters (S : Shared δ) (i : Side) (name : String) (db db' : δ) : Prop :=
  match S.pending db i with
  | none => S.committed db' = S.committed db ++ [name] ∧ S.pending db' i = none
  | some names => S.committed db' = S.committed db ∧ S.pending db' i = some (names ++ [name])

end Shared

/-- The question whether a migration is in the ledger. -/
def Ledger.lookup (l : Ledger) (name : String) : Statement := .select ((l.named name).apply (.limit 1))

/-- Statements that leave the entries alone. The texts are those of plans. -/
inductive Idle (d : Dialect) (l : Ledger) (texts : List String) : Statement → Prop
  | count : Idle d l texts (.tableCount l.table)
  | create : Idle d l texts (.raw (Schema.createText d l.blueprint) [])
  | list : Idle d l texts (.select (l.query.apply (.orderBy nameColumn .ascending)))
  | text {sql} : sql ∈ texts → Idle d l texts (.raw sql [])

structure Shared.Faithful {δ : Type} (S : Shared δ) (d : Dialect) (l : Ledger) (texts : List String) :
    Prop where
  apart {i j db r} : j ≠ i → S.pending (S.answer i r db).2 j = S.pending db j
  refused {i db r} : (S.answer i r db).1.accepted = false →
    S.committed (S.answer i r db).2 = S.committed db
  idle {i db st} : Idle d l texts st → S.Does d i st db fun _ => S.Keeps i db
  lookup {i db} (name : String) : S.Does d i (l.lookup name) db fun reply db' => S.Keeps i db db' ∧
    (S.pending db i = none → (reply.rows? = [] ↔ name ∉ S.committed db))
  insert {i db} (now : DateTime) (name : String) :
    S.Does d i (ledgerEntry l now name .up) db fun _ => S.Enters i name db
  begin {i db} : d.transactionalDdl → S.pending db i = none →
    S.Does d i .begin db fun _ db' => S.committed db' = S.committed db ∧ S.pending db' i = some []
  commit {i db names} : S.pending db i = some names →
    S.Does d i .commit db fun _ db' => S.committed db' = S.committed db ++ names ∧ S.pending db' i = none
  rollback {i db} : S.Does d i .rollback db fun _ db' => S.committed db' = S.committed db

/-! ## One in memory -/

structure Memory where
  committed : List String := []
  pending : Side → Option (List String) := fun _ => none
  /-- How many entries it still refuses. -/
  refusing : Nat := 0

namespace Memory

def setPending (db : Memory) (i : Side) (names : Option (List String)) : Memory :=
  { db with pending := Function.update db.pending i names }

def add (db : Memory) (i : Side) (name : String) : Memory :=
  match db.pending i with
  | none => { db with committed := db.committed ++ [name] }
  | some names => db.setPending i (some (names ++ [name]))

/-- What a connection sees: what is committed, and its own. -/
def visible (db : Memory) (i : Side) : List String := db.committed ++ (db.pending i).getD []

end Memory

/-- The name that the rows of a query must have. -/
def nameAsked? (q : Query) : Option String :=
  match q.filters with
  | [⟨_, .compare column .eq (.text name)⟩] => if column = nameColumn then some name else none
  | _ => none

theorem nameAsked_lookup (l : Ledger) (name : String) :
    nameAsked? ((l.named name).apply (.limit 1)) = some name := rfl

def Memory.answer (i : Side) (db : Memory) : Statement → Reply × Memory
  | .select q =>
    match nameAsked? q with
    | some name => (.rows (((db.visible i).filter (· = name)).map (entryRow default)), db)
    | none => (.rows ((db.visible i).map (entryRow default)), db)
  | .insert _ [row] _ =>
    match nameOf? row, db.refusing with
    | some name, 0 => (.done 1 none, db.add i name)
    | some _, n + 1 => (.refused, { db with refusing := n })
    | none, _ => (.refused, db)
  | .tableCount _ => (.rows [Row.ofList [(Aggregate.resultName, .int 1)]], db)
  | .begin => if (db.pending i).isSome then (.refused, db) else (.done 0 none, db.setPending i (some []))
  | .commit =>
    (.done 0 none, { db with committed := db.committed ++ (db.pending i).getD [] }.setPending i none)
  | .rollback => (.done 0 none, db.setPending i none)
  | _ => (.done 0 none, db)

def memory : Shared Memory where
  answer i r := fun db => db.answer i r.statement
  committed := Memory.committed
  pending := Memory.pending

namespace Memory
variable {i j : Side} {db : Memory}

@[simp] theorem setPending_committed (names : Option (List String)) :
    (db.setPending i names).committed = db.committed := rfl
end Memory

end Migration

end SqlKit
