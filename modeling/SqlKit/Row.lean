import SqlKit.Assoc
import SqlKit.Value

/-!
# Rows

A row names each of its columns once and keeps them in the order in which they came. Writing to a
column that is there replaces its value in place.
-/

namespace SqlKit

structure Row where
  entries : List (String × Value)
  nodup : (Assoc.keys entries).Nodup

namespace Row

def empty : Row := ⟨[], by simp [Assoc.keys]⟩

instance : Inhabited Row := ⟨empty⟩

def put (r : Row) (k : String) (v : Value) : Row :=
  ⟨Assoc.put k v r.entries, Assoc.nodup_keys_put r.nodup⟩

def ofList (l : List (String × Value)) : Row := l.foldl (fun r p => r.put p.1 p.2) empty

def get? (r : Row) (k : String) : Option Value := Assoc.get? r.entries k
theorem get?_put (r : Row) (k j : String) (v : Value) :
    (r.put k v).get? j = if k = j then some v else r.get? j := Assoc.get?_put k j v r.entries

def keys (r : Row) : List String := Assoc.keys r.entries
def values (r : Row) : List Value := r.entries.map (·.2)
def isEmpty (r : Row) : Bool := r.entries.isEmpty
def has (r : Row) (k : String) : Bool := (r.get? k).isSome

def filter (r : Row) (p : String → Value → Bool) : Row :=
  ⟨r.entries.filter fun e => p e.1 e.2, Assoc.nodup_keys_filter _ r.nodup⟩

def first? (r : Row) : Option Value := r.values.head?

end Row

end SqlKit
