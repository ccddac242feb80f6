import SqlKit.Row

/-!
# Rows as maps

Of a row only what is found under a name counts, and of an association list with its keys written once
likewise: what is found after a write, a filter and a fold of writes, and which lists a row can be told from.
-/

namespace SqlKit

namespace Assoc

variable {α β : Type} {l : List (String × α)} {k : String} {v : α}

/-! ## Finding -/

theorem get?_cons (j k : String) (v : α) (l : List (String × α)) :
    get? ((j, v) :: l) k = if j = k then some v else get? l k := by
  by_cases h : j = k <;> simp [get?, h]

theorem get?_append (l l' : List (String × α)) (k : String) :
    get? (l ++ l') k = (get? l k).or (get? l' k) := by
  simp only [get?, List.find?_append, Option.map_or]

theorem get?_of_not_mem (h : k ∉ keys l) : get? l k = none := by
  have hnone : l.find? (·.1 == k) = none := by
    refine List.find?_eq_none.2 fun e he heq => h ?_
    rw [← eq_of_beq heq]
    exact List.mem_map_of_mem he
  rw [get?, hnone, Option.map_none]

theorem get?_of_mem (h : (keys l).Nodup) (hmem : (k, v) ∈ l) : get? l k = some v := by
  induction l with
  | nil => cases hmem
  | cons e l ih =>
    obtain ⟨j, w⟩ := e
    obtain ⟨hj, hl⟩ := List.nodup_cons.1 h
    rw [get?_cons]
    rcases List.mem_cons.1 hmem with heq | hmem
    · cases heq
      rw [if_pos rfl]
    · have hne : j ≠ k := fun heq => hj (heq ▸ List.mem_map.2 ⟨(k, v), hmem, rfl⟩)
      rw [if_neg hne, ih hl hmem]

theorem get?_filter (h : (keys l).Nodup) (p : String × α → Bool) (k : String) :
    get? (l.filter p) k = (get? l k).filter fun v => p (k, v) := by
  induction l with
  | nil => rfl
  | cons e l ih =>
    obtain ⟨j, v⟩ := e
    obtain ⟨hj, hl⟩ := List.nodup_cons.1 h
    have ih := ih hl
    by_cases hjk : j = k
    · subst hjk
      rw [get?_of_not_mem hj] at ih
      cases hp : p (j, v) <;> simp [hp, get?_cons, Option.filter_some, ih]
    · cases hp : p (j, v) <;> simp [hp, get?_cons, hjk, ih]

/-! ## Writing -/

theorem put_of_not_mem (h : k ∉ keys l) (v : α) : put k v l = l ++ [(k, v)] := by
  induction l with
  | nil => rfl
  | cons e l ih =>
    obtain ⟨hk, hl⟩ := not_or.1 (mt List.mem_cons.2 h)
    rw [put, if_neg (Ne.symm hk), ih hl, List.cons_append]

theorem put_of_get? (h : get? l k = some v) : put k v l = l := by
  induction l with
  | nil => cases h
  | cons e l ih =>
    obtain ⟨j, w⟩ := e
    rw [get?_cons] at h
    rw [put]
    split
    · next heq =>
      rw [if_pos heq] at h
      cases h
      rw [heq]
    · next hne =>
      rw [if_neg hne] at h
      rw [ih h]

theorem filter_put {p : String → Bool} (h : p k = false) (v : α) (l : List (String × α)) :
    (put k v l).filter (fun e => p e.1) = l.filter fun e => p e.1 := by
  induction l with
  | nil => simp [put, h]
  | cons e l ih =>
    rw [put]
    split
    · next heq => simp [heq, h]
    · rw [List.filter_cons, List.filter_cons, ih]

theorem get?_putSorted (k j : String) (v : α) (l : List (String × α)) :
    get? (putSorted k v l) j = if k = j then some v else get? l j := by
  induction l with
  | nil => rw [putSorted, get?_cons]
  | cons e l ih =>
    obtain ⟨i, w⟩ := e
    rw [putSorted]
    split
    · next heq =>
      subst heq
      rw [get?_cons, get?_cons]
      split <;> rfl
    · next hne =>
      split
      · rw [get?_cons]
      · rw [get?_cons, get?_cons, ih]
        by_cases h : k = j
        · rw [if_pos h, if_neg (h ▸ hne), if_pos h]
        · rw [if_neg h, if_neg h]

/-- Entries that are put one after another are all found again, each with what was made of its value. -/
theorem get?_foldl_putSorted {f : α → β} (h : (keys l).Nodup) (start : List (String × β))
    (name : String) :
    get? (l.foldl (fun fields e => putSorted e.1 (f e.2) fields) start) name =
      ((get? l name).map f).or (get? start name) := by
  induction l generalizing start with
  | nil => rfl
  | cons e l ih =>
    obtain ⟨k, v⟩ := e
    obtain ⟨hk, hl⟩ := List.nodup_cons.1 h
    rw [List.foldl_cons, ih hl, get?_putSorted, get?_cons]
    by_cases hname : k = name
    · have hnone : get? l name = none := get?_of_not_mem (hname ▸ hk)
      rw [if_pos hname, if_pos hname, hnone]
      rfl
    · rw [if_neg hname, if_neg hname]

/-! ## Names that come again -/

/-- The value that came last under a name. -/
def last? (l : List (String × α)) (k : String) : Option α := get? l.reverse k

theorem last?_append (l l' : List (String × α)) (k : String) :
    last? (l ++ l') k = (last? l' k).or (last? l k) := by
  rw [last?, List.reverse_append, get?_append]
  rfl

theorem last?_cons (j k : String) (v : α) (l : List (String × α)) :
    last? ((j, v) :: l) k = (last? l k).or (if j = k then some v else none) := by
  rw [← List.singleton_append, last?_append]
  exact congrArg _ (get?_cons j k v [])

theorem last?_of_not_mem (h : k ∉ keys l) : last? l k = none := by
  refine get?_of_not_mem ?_
  rwa [keys, List.map_reverse, List.mem_reverse]

theorem last?_of_nodup (h : (keys l).Nodup) (k : String) : last? l k = get? l k := by
  induction l with
  | nil => rfl
  | cons e l ih =>
    obtain ⟨j, v⟩ := e
    obtain ⟨hj, hl⟩ := List.nodup_cons.1 h
    rw [last?_cons, get?_cons]
    by_cases hjk : j = k
    · rw [if_pos hjk, if_pos hjk, last?_of_not_mem (hjk ▸ hj), Option.none_or]
    · rw [if_neg hjk, if_neg hjk, Option.or_none, ih hl]

end Assoc

namespace Row

variable {r s : Row} {k : String} {v : Value}

theorem eq_of_entries (h : r.entries = s.entries) : r = s := by
  cases r
  cases s
  cases h
  rfl

/-! ## What is found -/

theorem get?_filter (r : Row) (p : String → Value → Bool) (k : String) :
    (r.filter p).get? k = (r.get? k).filter (p k) :=
  Assoc.get?_filter r.nodup (fun e => p e.1 e.2) k

/-- Of values written one after another the last one of a name is found. -/
theorem get?_foldl_put (l : List (String × Value)) (r : Row) (k : String) :
    (l.foldl (fun r e => r.put e.1 e.2) r).get? k = (Assoc.last? l k).or (r.get? k) := by
  induction l generalizing r with
  | nil => rfl
  | cons e l ih =>
    rw [List.foldl_cons, ih, get?_put, Assoc.last?_cons, Option.or_assoc]
    split <;> rfl

theorem get?_ofList (l : List (String × Value)) (k : String) : (ofList l).get? k = Assoc.last? l k :=
  (get?_foldl_put l .empty k).trans (Option.or_none ..)

theorem not_mem_keys_iff : k ∉ r.keys ↔ r.get? k = none := by
  constructor
  · exact Assoc.get?_of_not_mem
  · intro hnone hk
    obtain ⟨e, he, rfl⟩ := List.mem_map.1 hk
    have hget : r.get? e.1 = some e.2 := Assoc.get?_of_mem r.nodup he
    rw [hnone] at hget
    cases hget

theorem isEmpty_iff : r.isEmpty = true ↔ ∀ column, r.get? column = none := by
  constructor
  · intro h column
    have hentries : r.entries = [] := List.isEmpty_iff.1 h
    simp [get?, Assoc.get?, hentries]
  · intro h
    cases hentries : r.entries with
    | nil => exact List.isEmpty_iff.2 hentries
    | cons e es =>
      have hnone := h e.1
      simp [get?, Assoc.get?, hentries] at hnone

/-! ## What is written -/

theorem put_of_get? (h : r.get? k = some v) : r.put k v = r :=
  eq_of_entries (Assoc.put_of_get? h)

/-- Behind a filter that drops a column, a write to it is not seen. -/
theorem filter_put {p : String → Bool} (h : p k = false) (r : Row) (v : Value) :
    (r.put k v).filter (fun column _ => p column) = r.filter fun column _ => p column :=
  eq_of_entries (Assoc.filter_put h v r.entries)

theorem entries_foldl_put {l : List (String × Value)} (h : (Assoc.keys (r.entries ++ l)).Nodup) :
    (l.foldl (fun r e => r.put e.1 e.2) r).entries = r.entries ++ l := by
  induction l generalizing r with
  | nil => exact (List.append_nil _).symm
  | cons e l ih =>
    have hnew : e.1 ∉ Assoc.keys r.entries := by
      rw [Assoc.keys, List.map_append, List.map_cons, List.nodup_append] at h
      exact fun he => h.2.2 _ he _ List.mem_cons_self rfl
    have hput : (r.put e.1 e.2).entries = r.entries ++ [e] := Assoc.put_of_not_mem hnew e.2
    rw [List.append_cons, ← hput] at h
    rw [List.foldl_cons, ih h, hput, List.append_assoc, List.singleton_append]

theorem entries_ofList {l : List (String × Value)} (h : (Assoc.keys l).Nodup) :
    (ofList l).entries = l := entries_foldl_put (r := empty) h

/-! ## Rows of one column -/

theorem keys_eq_singleton (hrow : r.entries ≠ []) (h : ∀ column, column ≠ k → r.get? column = none) :
    r.keys = [k] := by
  have hname : ∀ e ∈ r.entries, e.1 = k := by
    intro e he
    by_cases heq : e.1 = k
    · exact heq
    · have hget : r.get? e.1 = some e.2 := Assoc.get?_of_mem r.nodup he
      rw [h e.1 heq] at hget
      cases hget
  -- All columns have the name, and no name stands twice.
  have hkeys : r.keys = List.replicate r.entries.length k := by
    rw [List.eq_replicate_iff]
    exact ⟨List.length_map _, List.forall_mem_map.2 hname⟩
  have hnodup : r.keys.Nodup := r.nodup
  rw [hkeys, List.nodup_replicate] at hnodup
  have hlength : r.entries.length = 1 := Nat.le_antisymm hnodup (List.length_pos_iff.2 hrow)
  rw [hkeys, hlength, List.replicate_one]

theorem entries_eq_singleton (hk : r.get? k = some v) (h : ∀ column, column ≠ k → r.get? column = none) :
    r.entries = [(k, v)] := by
  have hrow : r.entries ≠ [] := by
    intro hnil
    simp [get?, Assoc.get?, hnil] at hk
  have hkeys : r.entries.map (·.1) = [k] := keys_eq_singleton hrow h
  obtain ⟨e, hentries, rfl⟩ := List.map_eq_singleton_iff.1 hkeys
  have hget : r.get? e.1 = some e.2 := Assoc.get?_of_mem r.nodup (hentries ▸ List.mem_singleton_self e)
  rw [hk] at hget
  cases hget
  exact hentries

end Row

end SqlKit
