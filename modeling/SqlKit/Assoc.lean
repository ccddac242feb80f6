/-!
# Association lists

Lists of keys with values, in which a key is written once. `put` keeps the order in which keys came
and gives a known key its new value in place; `putSorted` keeps the keys in ascending order, which for
texts is the order of their code points.
-/

namespace SqlKit.Assoc

variable {α : Type}

def keys (l : List (String × α)) : List String := l.map (·.1)

def get? (l : List (String × α)) (k : String) : Option α := (l.find? (·.1 == k)).map (·.2)

def put (k : String) (v : α) : List (String × α) → List (String × α)
  | [] => [(k, v)]
  | (j, w) :: rest => if j = k then (k, v) :: rest else (j, w) :: put k v rest

def putSorted (k : String) (v : α) : List (String × α) → List (String × α)
  | [] => [(k, v)]
  | (j, w) :: rest =>
    if j = k then (k, v) :: rest
    else if k < j then (k, v) :: (j, w) :: rest else (j, w) :: putSorted k v rest

theorem get?_put (k j : String) (v : α) (l : List (String × α)) :
    get? (put k v l) j = if k = j then some v else get? l j := by
  induction l with
  | nil => by_cases h : k = j <;> simp [put, get?, h]
  | cons p rest ih =>
    obtain ⟨i, w⟩ := p
    by_cases hi : i = k
    · subst hi; by_cases h : i = j <;> simp [put, get?, h]
    · by_cases h : i = j
      · subst h; simp [put, get?, hi, Ne.symm hi]
      · simpa [put, get?, hi, h] using ih

theorem mem_keys_put {k j : String} {v : α} {l : List (String × α)} :
    j ∈ keys (put k v l) ↔ j = k ∨ j ∈ keys l := by
  induction l with
  | nil => simp [put, keys]
  | cons p rest ih =>
    obtain ⟨i, w⟩ := p
    by_cases h : i = k
    · subst h; simp [put, keys]
    · simp only [put, h, if_false, keys, List.map_cons, List.mem_cons]
      rw [show (j ∈ List.map (·.1) (put k v rest)) ↔ _ from ih, keys]
      constructor <;> rintro (h' | h' | h') <;> simp [h']

theorem nodup_keys_put {k : String} {v : α} {l : List (String × α)} (h : (keys l).Nodup) :
    (keys (put k v l)).Nodup := by
  induction l with
  | nil => simp [put, keys]
  | cons p rest ih =>
    obtain ⟨i, w⟩ := p
    simp only [keys, List.map_cons, List.nodup_cons] at h
    by_cases hi : i = k
    · subst hi; simpa [put, keys] using h
    · simp only [put, hi, if_false, keys, List.map_cons, List.nodup_cons]
      refine ⟨fun hm => ?_, ih h.2⟩
      rcases mem_keys_put.1 hm with h' | h'
      · exact hi h'
      · exact h.1 h'

theorem nodup_keys_filter {l : List (String × α)} (p : String × α → Bool) (h : (keys l).Nodup) :
    (keys (l.filter p)).Nodup :=
  List.Nodup.sublist (List.filter_sublist.map _) h

end SqlKit.Assoc
