import Mathlib.Logic.Function.Basic
import SqlKit.Proofs.OneLedger
import SqlKit.Proofs.Outcomes

/-!
# A database that can go back

A small database of tables by name. It keeps rows, makes an empty table for any text that it is sent
outside its structured statements, named by the text but for the one that makes the ledger, saves
everything when a transaction begins, and refuses the texts that it is told to.
-/

namespace SqlKit.Migration
open Session
open OneLedger (found meets)

abbrev TablesByName := String → Option (List Row)

structure Catalogue (d : Dialect) (l : Ledger) (refused : List String) where
  tables : TablesByName := fun _ => none
  saved : Option TablesByName := none

namespace Catalogue

variable {d : Dialect} {l : Ledger} {refused : List String}

def accept (s : Catalogue d l refused) : Reply × Catalogue d l refused := (.done 0 none, s)

/-- A table with other rows, if it is there. -/
def change (s : Catalogue d l refused) (name : String) (f : List Row → List Row) :
    Reply × Catalogue d l refused :=
  match s.tables name with
  | some rows => { s with tables := Function.update s.tables name (some (f rows)) }.accept
  | none => (.refused, s)

def make (s : Catalogue d l refused) (name : String) : Reply × Catalogue d l refused :=
  match s.tables name with
  | some _ => (.refused, s)
  | none => { s with tables := Function.update s.tables name (some []) }.accept

def named (d : Dialect) (l : Ledger) (sql : String) : String :=
  if sql = Schema.createText d l.blueprint then l.table else sql

def effect (s : Catalogue d l refused) : Statement → Reply × Catalogue d l refused
  | .tableCount name =>
    (.rows [Row.ofList [("aggregate", .int (if (s.tables name).isSome then 1 else 0))]], s)
  | .select q => (.rows (found ((s.tables q.table).getD []) q), s)
  | .insert name rows _ => s.change name (· ++ rows)
  | .delete q => s.change q.table (List.filter fun r => !meets q.filters r)
  | .raw sql _ => s.make (named d l sql)
  | .begin => if s.saved.isSome then (.refused, s) else { s with saved := some s.tables }.accept
  | .commit => if s.saved.isSome then { s with saved := none }.accept else (.refused, s)
  | .rollback =>
    match s.saved with
    | some tables => { tables, saved := none : Catalogue d l refused }.accept
    | none => (.refused, s)
  | _ => (.refused, s)

instance : Engine (Catalogue d l refused) where
  dial := return true
  answer r := fun s => if r.compiled.sql ∈ refused then (.refused, s) else s.effect r.statement

variable {D : Type} {v : Catalogue d l refused → Snapshot D} {x : Snapshot D}
variable {mode : Mode} {st : Statement}
variable {P : Reply → Snapshot D → Prop} {F : Snapshot D → Prop}

/-- A refused text changes nothing; otherwise the effect of the statement decides. -/
theorem answers (hF : (st.compile d).sql ∈ refused → F x)
    (h : ∀ s, v s = x → Settled (st.compile d).sql P F (s.effect st).1 (v (s.effect st).2)) :
    Answers v d mode st x P F := by
  intro s hs
  by_cases hrefused : (st.compile d).sql ∈ refused
  · have hanswer : Engine.answer ⟨st, mode, st.compile d⟩ s = (.refused, s) := if_pos hrefused
    simpa only [hanswer, Settled, Reply.fault?, hs] using hF hrefused
  · have hanswer : Engine.answer ⟨st, mode, st.compile d⟩ s = s.effect st := if_neg hrefused
    simpa only [hanswer] using h s hs

theorem saved_change (s : Catalogue d l refused) (name : String) (f : List Row → List Row) :
    (s.change name f).2.saved = s.saved := by
  unfold change
  split <;> rfl

theorem saved_make (s : Catalogue d l refused) (name : String) : (s.make name).2.saved = s.saved := by
  unfold make
  split <;> rfl

theorem counted_aggregate (found : Bool) :
    counted [Row.ofList [("aggregate", .int (if found then 1 else 0))]] = found := by
  cases found <;> decide

theorem answers_count {name : String} {I : Snapshot D → Prop}
    (h : ∀ s, (s.tables name).isSome = true ↔ I (v s)) (x : Snapshot D) :
    Answers v d .fetch (.tableCount name) x
      (fun reply y => y = x ∧ (counted reply.rows? ↔ I x)) (· = x) := by
  refine answers (fun _ => rfl) fun s hs => ?_
  subst hs
  refine ⟨rfl, ?_⟩
  rw [show Reply.rows? _ = [_] from rfl, counted_aggregate]
  exact h s

end Catalogue

end SqlKit.Migration
