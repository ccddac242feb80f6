import Mathlib.Data.Finset.Sort
import Mathlib.Data.String.Basic
import SqlKit.Proofs.OneLedger

/-!
# The ledger as a set of names

In a faithful database the ledger is a set of names, and the commands of a migrator are operations on
sets. Applying adds a name, taking back removes it, and the longer commands do so for the names that are
missing, in ascending order, or for the greatest ones, in descending order.
-/

namespace SqlKit.Migrator
open Migration Session
open Calendar (DateTime)

/-! ## Registered names -/

theorem mem_insertSorted {x y : Migration} {xs : List Migration} :
    y ∈ insertSorted x xs ↔ y = x ∨ y ∈ xs := by
  induction xs with
  | nil => simp [insertSorted]
  | cons z xs ih =>
    unfold insertSorted
    split
    · simp
    · simp only [List.mem_cons, ih]
      tauto

theorem insertSorted_ascending {x : Migration} {xs : List Migration}
    (h : xs.Pairwise fun y z => y.name < z.name) (hx : ∀ y ∈ xs, y.name ≠ x.name) :
    (insertSorted x xs).Pairwise fun y z => y.name < z.name := by
  induction xs with
  | nil => simp [insertSorted]
  | cons z xs ih =>
    obtain ⟨hz, hxs⟩ := List.pairwise_cons.1 h
    unfold insertSorted
    split
    · rename_i hlt
      refine List.pairwise_cons.2 ⟨fun y hy => ?_, h⟩
      rcases List.mem_cons.1 hy with rfl | hy
      · exact hlt
      · exact lt_trans hlt (hz y hy)
    · rename_i hlt
      have hzx : z.name < x.name := lt_of_le_of_ne (not_lt.1 hlt) (hx z (by simp))
      refine List.pairwise_cons.2 ⟨fun y hy => ?_, ih hxs fun y hy => hx y (by simp [hy])⟩
      rcases mem_insertSorted.1 hy with rfl | hy
      · exact hzx
      · exact hz y hy

/-- The names stand in ascending order, each once. -/
def Ascending (m : Migrator) : Prop := m.migrations.Pairwise fun x y => x.name < y.name

theorem register_ok {m m' : Migrator} {x : Migration} (h : m.register x = .ok m') :
    x.name ∉ m.names ∧ m' = { m with migrations := insertSorted x m.migrations } := by
  unfold register at h
  cases hname : checkName x.name with
  | error e => rw [hname] at h; cases h
  | ok _ =>
    rw [hname] at h
    by_cases hmem : x.name ∈ m.names
    · have hcontains : m.names.contains x.name = true := by simpa using hmem
      simp only [hcontains, if_true] at h
      cases h
    · have hcontains : m.names.contains x.name = false := by simpa using hmem
      simp only [hcontains] at h
      cases h
      exact ⟨hmem, rfl⟩

theorem register_ascending {m m' : Migrator} {x : Migration} (hm : m.Ascending)
    (h : m.register x = .ok m') : m'.Ascending := by
  obtain ⟨hx, rfl⟩ := register_ok h
  refine insertSorted_ascending hm fun y hy heq => hx ?_
  rw [← heq]
  exact List.mem_map_of_mem hy

theorem registerAll_ascending {m : Migrator} (hm : m.Ascending) (xs : List Migration) :
    (m.registerAll xs).1.Ascending := by
  induction xs generalizing m with
  | nil => exact hm
  | cons x xs ih =>
    unfold registerAll
    cases h : m.register x with
    | error e => exact hm
    | ok m' => exact ih (register_ascending hm h)

theorem registerAll_ledger (m : Migrator) (xs : List Migration) :
    (m.registerAll xs).1.ledger = m.ledger := by
  induction xs generalizing m with
  | nil => rfl
  | cons x xs ih =>
    unfold registerAll
    cases h : m.register x with
    | error e => rfl
    | ok m' =>
      obtain ⟨-, rfl⟩ := register_ok h
      exact ih _

theorem Ascending.names {m : Migrator} (h : m.Ascending) : m.names.Pairwise (· < ·) :=
  List.pairwise_map.2 h

theorem find_of_mem {m : Migrator} {n : String} (h : n ∈ m.names) :
    ∃ x ∈ m.migrations, x.name = n ∧ m.find n = .ok x := by
  obtain ⟨y, hy, hn⟩ := List.mem_map.1 h
  unfold find
  cases hfind : m.migrations.find? (·.name == n) with
  | none =>
    have hnone := List.find?_eq_none.1 hfind y hy
    simp [hn] at hnone
  | some x =>
    have hx := List.find?_some hfind
    exact ⟨x, List.mem_of_find?_eq_some hfind, by simpa using hx, rfl⟩

theorem find_of_not_mem {m : Migrator} {n : String} (h : n ∉ m.names) :
    m.find n = .error (.notFound n m.names) := by
  unfold find
  have hnone : m.migrations.find? (·.name == n) = none := by
    refine List.find?_eq_none.2 fun x hx heq => h ?_
    rw [← eq_of_beq heq]
    exact List.mem_map_of_mem hx
  rw [hnone]

/-! ## Single migrations -/

/-- All texts that the migrations send. -/
def texts (d : Dialect) (m : Migrator) : List String :=
  m.migrations.flatMap fun x => (x.up ++ x.down).statements d

theorem mem_texts {m : Migrator} {d : Dialect} {x : Migration} (hx : x ∈ m.migrations) (w : Way)
    {sql : String} (h : sql ∈ (x.plan w).statements d) : sql ∈ m.texts d := by
  refine List.mem_flatMap.2 ⟨x, hx, ?_⟩
  unfold Schema.Plan.statements at *
  rw [List.flatMap_append]
  cases w with
  | up => exact List.mem_append_left _ h
  | down => exact List.mem_append_right _ h

def namesAfter (w : Way) (n : String) (names : List String) : List String :=
  match w with
  | .up => names ++ [n]
  | .down => names.filter (· ≠ n)

variable {σ : Type} [Engine σ] {V : View σ} {d : Dialect} {b : Bool} {m : Migrator}
variable {c : Connection σ} {names : List String} {x : Migration} {before : String → String → Prop}

theorem gives_execute (hV : V.Collates d m.ledger (m.texts d) before) (hx : x ∈ m.migrations)
    (now : DateTime) (w : Way) (h : Standing V d b (some names) c) :
    (m.execute now x w).Gives c fun _ c' =>
      Standing V d b (some (namesAfter w x.name names)) c' := by
  unfold execute
  refine ((gives_plan hV h fun sql hsql => mem_texts hx w hsql).mapError _).bind fun _ c' hs => ?_
  cases w with
  | up => exact (gives_log hV hs now x.name).mapError _
  | down => exact (gives_erase hV hs x.name).mapError _

theorem gives_run (hV : V.Collates d m.ledger (m.texts d) before) (hx : x ∈ m.migrations)
    (now : DateTime) (w : Way) (h : Standing V d b (some names) c) :
    (m.run now x w).Gives c fun _ c' =>
      Standing V d b (some (namesAfter w x.name names)) c' := by
  have hplain := gives_execute hV hx now w h
  have hdialect := on_dialect (ε := MigrationError) c
  have hflag := on_inTransaction (ε := MigrationError) c
  rw [h.dialect] at hdialect
  rw [h.inTransaction] at hflag
  rw [run, Gives, on_bind_ok hdialect, on_bind_ok hflag]
  split
  · rename_i hown
    simp only [Bool.and_eq_true, Bool.not_eq_true'] at hown
    obtain ⟨⟨-, hd⟩, rfl⟩ := hown
    exact (gives_transaction (x := ()) hV hd h fun c hs =>
      (gives_execute hV hx now w hs).mono fun _ _ hr => ⟨rfl, hr⟩).mono fun _ _ hr => hr.2
  · exact hplain

/-! ## The ledger as a set -/

/-- The ledger has one row for each name of the set and no other row. -/
def Holds (V : View σ) (d : Dialect) (b : Bool) (L : Finset String) (c : Connection σ) : Prop :=
  ∃ names, Standing V d b (some names) c ∧ names.Nodup ∧ names.toFinset = L

/-- The same, or there is no name and no table for it yet. -/
def Tracks (V : View σ) (d : Dialect) (b : Bool) (L : Finset String) (c : Connection σ) : Prop :=
  Holds V d b L c ∨ (L = ∅ ∧ Standing V d b none c)

variable {L : Finset String} {n : String}

theorem Tracks.ensureTable (hV : V.Collates d m.ledger (m.texts d) before) (h : Tracks V d b L c) :
    (onDatabase m.ledger.ensureTable).Gives c fun _ c' => Holds V d b L c' := by
  rcases h with ⟨names, hs, hnodup, hset⟩ | ⟨rfl, hs⟩
  · exact ((gives_ensureTable hV hs).mapError _).mono fun _ _ hs => ⟨names, hs, hnodup, hset⟩
  · exact ((gives_ensureTable hV hs).mapError _).mono fun _ _ hs => ⟨[], hs, List.nodup_nil, rfl⟩

theorem Holds.isApplied (hV : V.Collates d m.ledger (m.texts d) before) (h : Holds V d b L c) :
    (onDatabase (m.ledger.isApplied n)).Gives c fun x c' =>
      x = decide (n ∈ L) ∧ Holds V d b L c' := by
  obtain ⟨names, hs, hnodup, rfl⟩ := h
  refine ((gives_isApplied hV hs n).mapError _).mono fun x c' hfound => ?_
  obtain ⟨hx, hs⟩ := hfound
  exact ⟨by simp [hx], names, hs, hnodup, rfl⟩

omit [Engine σ] in
theorem sorted_sort {found : List String} (hnodup : names.Nodup) (hperm : found.Perm names)
    (hsorted : found.Pairwise (· ≤ ·)) : found = names.toFinset.sort := by
  have hset : found.toFinset = names.toFinset := by
    ext k
    simp [hperm.mem_iff]
  rw [← hset, (List.toFinset_sort (· ≤ ·) (hperm.nodup_iff.2 hnodup)).2 hsorted]

/-- The names of a set in an order in which a database may list them. -/
structure Listed (before : String → String → Prop) (L : Finset String) (found : List String) : Prop where
  nodup : found.Nodup
  set : found.toFinset = L
  ordered : found.Pairwise before

omit [Engine σ] in
theorem Listed.eq_sort {found : List String} (h : Listed (· ≤ ·) L found) : found = L.sort :=
  h.set ▸ sorted_sort h.nodup (.refl found) h.ordered

theorem Holds.applied (hV : V.Collates d m.ledger (m.texts d) before) (h : Holds V d b L c) :
    (onDatabase m.ledger.applied).Gives c fun found c' => Listed before L found ∧ Holds V d b L c' := by
  obtain ⟨names, hs, hnodup, rfl⟩ := h
  refine ((gives_applied hV hs).mapError _).mono fun found c' hfound => ?_
  obtain ⟨hperm, hordered, hs⟩ := hfound
  exact ⟨⟨hperm.nodup_iff.2 hnodup, List.toFinset_eq_of_perm _ _ hperm, hordered⟩, names, hs, hnodup, rfl⟩

theorem Holds.entries (hV : V.Collates d m.ledger (m.texts d) before) (h : Holds V d b L c) :
    (onDatabase m.ledger.entries).Gives c fun es c' =>
      (∀ n, n ∈ es.map (·.migration) ↔ n ∈ L) ∧ Holds V d b L c' := by
  obtain ⟨names, hs, hnodup, rfl⟩ := h
  refine ((gives_entries hV hs).mapError _).mono fun es c' hes => ?_
  obtain ⟨hperm, -, hs⟩ := hes
  exact ⟨fun n => by rw [hperm.mem_iff, List.mem_toFinset], names, hs, hnodup, rfl⟩

theorem gives_up (hV : V.Collates d m.ledger (m.texts d) before) (hn : n ∈ m.names) (now : DateTime)
    (h : Tracks V d b L c) :
    (m.up now n).Gives c fun o c' =>
      o = (if n ∈ L then .skipped n else .applied n) ∧ Holds V d b (insert n L) c' := by
  unfold up
  obtain ⟨x, hx, hname, hfind⟩ := find_of_mem hn
  rw [Gives, on_bind_ok (by rw [on_ofExcept, hfind])]
  refine (h.ensureTable hV).bind fun _ c₁ h₁ => ?_
  refine (h₁.isApplied hV).bind fun found c₂ happlied => ?_
  obtain ⟨hfound, h₂⟩ := happlied
  subst hfound
  by_cases hmem : n ∈ L
  · simp only [hmem, decide_true, if_true]
    exact gives_pure ⟨rfl, by rwa [Finset.insert_eq_of_mem hmem]⟩
  · simp only [hmem, decide_false, if_false]
    obtain ⟨names, hs, hnodup, rfl⟩ := h₂
    refine (gives_run hV hx now .up hs).bind fun _ c₃ h₃ => gives_pure ⟨rfl, names ++ [n], ?_⟩
    rw [hname] at h₃
    have hnew : n ∉ names := by simpa using hmem
    refine ⟨h₃, ?_, ?_⟩
    · rw [← List.concat_eq_append]
      exact (List.nodup_concat names n).2 ⟨hnew, hnodup⟩
    · ext k
      simp

theorem gives_down (hV : V.Collates d m.ledger (m.texts d) before) (hn : n ∈ m.names) (now : DateTime)
    (h : Tracks V d b L c) :
    (m.down now n).Gives c fun o c' =>
      o = (if n ∈ L then .rolledBack n else .skipped n) ∧ Holds V d b (L.erase n) c' := by
  unfold down
  obtain ⟨x, hx, hname, hfind⟩ := find_of_mem hn
  rw [Gives, on_bind_ok (by rw [on_ofExcept, hfind])]
  refine (h.ensureTable hV).bind fun _ c₁ h₁ => ?_
  refine (h₁.isApplied hV).bind fun found c₂ happlied => ?_
  obtain ⟨hfound, h₂⟩ := happlied
  subst hfound
  by_cases hmem : n ∈ L
  · simp only [hmem, decide_true, if_true]
    obtain ⟨names, hs, hnodup, rfl⟩ := h₂
    refine (gives_run hV hx now .down hs).bind fun _ c₃ h₃ => gives_pure ⟨rfl, _, h₃, ?_, ?_⟩
    · exact hnodup.filter _
    · ext k
      simp [namesAfter, hname, and_comm]
  · simp only [hmem, decide_false, if_false]
    exact gives_pure ⟨rfl, by rwa [Finset.erase_eq_of_notMem hmem]⟩

/-! ## Longer commands -/

theorem gives_ups (hV : V.Collates d m.ledger (m.texts d) before) (now : DateTime) {ns : List String}
    (hns : ns.Nodup) (hmem : ∀ n ∈ ns, n ∈ m.names ∧ n ∉ L) (h : Holds V d b L c) :
    (ns.mapM (m.up now)).Gives c fun os c' =>
      os = ns.map .applied ∧ Holds V d b (L ∪ ns.toFinset) c' := by
  induction ns generalizing L c with
  | nil => exact gives_pure ⟨rfl, by simpa using h⟩
  | cons n ns ih =>
    obtain ⟨hn, hrest⟩ := List.nodup_cons.1 hns
    obtain ⟨hname, hnew⟩ := hmem n (by simp)
    have hlater : ∀ k ∈ ns, k ∈ m.names ∧ k ∉ insert n L := by
      intro k hk
      obtain ⟨hkname, hknew⟩ := hmem k (by simp [hk])
      have hkn : k ≠ n := fun he => hn (he ▸ hk)
      exact ⟨hkname, by simp [hkn, hknew]⟩
    rw [List.mapM_cons]
    refine (gives_up hV hname now (Or.inl h)).bind fun o c₁ hup => ?_
    obtain ⟨ho, h₁⟩ := hup
    refine (ih hrest hlater h₁).bind fun os c₂ hups => ?_
    obtain ⟨hos, h₂⟩ := hups
    refine gives_pure ⟨?_, ?_⟩
    · rw [ho, hos, if_neg hnew, List.map_cons]
    · rwa [List.toFinset_cons, Finset.union_insert, ← Finset.insert_union]

theorem gives_downs (hV : V.Collates d m.ledger (m.texts d) before) (now : DateTime) {ns : List String}
    (hns : ns.Nodup) (hmem : ∀ n ∈ ns, n ∈ m.names ∧ n ∈ L) (h : Holds V d b L c) :
    (ns.mapM (m.down now)).Gives c fun os c' =>
      os = ns.map .rolledBack ∧ Holds V d b (L \ ns.toFinset) c' := by
  induction ns generalizing L c with
  | nil => exact gives_pure ⟨rfl, by simpa using h⟩
  | cons n ns ih =>
    obtain ⟨hn, hrest⟩ := List.nodup_cons.1 hns
    obtain ⟨hname, hold⟩ := hmem n (by simp)
    have hlater : ∀ k ∈ ns, k ∈ m.names ∧ k ∈ L.erase n := by
      intro k hk
      obtain ⟨hkname, hkold⟩ := hmem k (by simp [hk])
      have hkn : k ≠ n := fun he => hn (he ▸ hk)
      exact ⟨hkname, Finset.mem_erase.2 ⟨hkn, hkold⟩⟩
    rw [List.mapM_cons]
    refine (gives_down hV hname now (Or.inl h)).bind fun o c₁ hdown => ?_
    obtain ⟨ho, h₁⟩ := hdown
    refine (ih hrest hlater h₁).bind fun os c₂ hdowns => ?_
    obtain ⟨hos, h₂⟩ := hdowns
    refine gives_pure ⟨?_, ?_⟩
    · rw [ho, hos, if_pos hold, List.map_cons]
    · rwa [List.toFinset_cons, Finset.sdiff_insert, ← Finset.erase_sdiff_comm]

omit [Engine σ] in
theorem filter_names (hm : m.Ascending) {found : List String} (hfound : found.toFinset = L) :
    m.names.filter (fun n => !found.contains n) = (m.names.toFinset \ L).sort := by
  have hsorted : (m.names.filter fun n => !found.contains n).Pairwise (· ≤ ·) :=
    (hm.names.imp le_of_lt).filter _
  have hnodup : (m.names.filter fun n => !found.contains n).Nodup :=
    (hm.names.imp ne_of_lt).filter _
  rw [← (List.toFinset_sort (· ≤ ·) hnodup).2 hsorted, ← hfound]
  congr 1
  ext n
  simp

theorem pending_collated (hV : V.Collates d m.ledger (m.texts d) before) (hm : m.Ascending)
    (h : Tracks V d b L c) :
    m.pending.Gives c fun ns c' => ns = (m.names.toFinset \ L).sort ∧ Holds V d b L c' := by
  unfold pending
  refine (h.ensureTable hV).bind fun _ c₁ h₁ => ?_
  refine (h₁.applied hV).bind fun found c₂ happlied => ?_
  obtain ⟨hfound, h₂⟩ := happlied
  exact gives_pure ⟨filter_names hm hfound.set, h₂⟩

theorem gives_pending (hV : V.Faithful d m.ledger (m.texts d)) (hm : m.Ascending)
    (h : Tracks V d b L c) :
    m.pending.Gives c fun ns c' => ns = (m.names.toFinset \ L).sort ∧ Holds V d b L c' :=
  pending_collated hV.collates hm h

theorem gives_status (hV : V.Faithful d m.ledger (m.texts d)) (h : Tracks V d b L c) :
    m.status.Gives c fun ts c' =>
      (ts.map (·.name) = m.names ∧ ∀ t ∈ ts, (t.applied ↔ t.name ∈ L)) ∧ Holds V d b L c' := by
  unfold status
  refine (h.ensureTable hV.collates).bind fun _ c₁ h₁ => ?_
  refine (h₁.entries hV.collates).bind fun es c₂ hentries => ?_
  obtain ⟨hes, h₂⟩ := hentries
  refine gives_pure ⟨⟨?_, ?_⟩, h₂⟩
  · simp [Function.comp_def]
  · intro t ht
    obtain ⟨n, -, rfl⟩ := List.mem_map.1 ht
    rw [← hes n]
    simp [List.find?_isSome]

theorem gives_migrate (hV : V.Collates d m.ledger (m.texts d) before) (hm : m.Ascending) (now : DateTime)
    (h : Tracks V d b L c) :
    (m.migrate now).Gives c fun os c' =>
      os = (m.names.toFinset \ L).sort.map .applied ∧ Holds V d b (L ∪ m.names.toFinset) c' := by
  unfold migrate
  refine (pending_collated hV hm h).bind fun ns c₁ hpending => ?_
  obtain ⟨hns, h₁⟩ := hpending
  subst hns
  have hmissing : ∀ n ∈ (m.names.toFinset \ L).sort, n ∈ m.names ∧ n ∉ L := by
    intro n hn
    simpa using hn
  have hups := gives_ups hV now (Finset.sort_nodup _ _) hmissing h₁
  rwa [Finset.sort_toFinset, Finset.union_sdiff_self_eq_union] at hups

theorem reverse_sort (L : Finset String) : L.sort.reverse = L.sort (· ≥ ·) := by
  have hsorted : L.sort.reverse.Pairwise (· ≥ ·) := List.pairwise_reverse.2 (Finset.pairwise_sort _ _)
  have hnodup : L.sort.reverse.Nodup := List.nodup_reverse.2 (Finset.sort_nodup _ _)
  rw [← (List.toFinset_sort (· ≥ ·) hnodup).2 hsorted, List.toFinset_reverse, Finset.sort_toFinset]

def greatest (k : Nat) (L : Finset String) : List String := (L.sort (· ≥ ·)).take k

theorem mem_of_greatest {k : Nat} (h : n ∈ greatest k L) : n ∈ L :=
  (Finset.mem_sort _).1 (List.mem_of_mem_take h)

theorem greatest_card (L : Finset String) : greatest L.card L = L.sort (· ≥ ·) := by
  rw [greatest, ← Finset.length_sort (· ≥ ·), List.take_length]

/-- What is chosen of the listed names is taken back one by one, in the order chosen. -/
theorem takeBack_listed (hV : V.Collates d m.ledger (m.texts d) before) (now : DateTime)
    {choose : List String → List String} {chosen : List String}
    (hchoose : ∀ found, Listed before L found → choose found.reverse = chosen) (h : Tracks V d b L c) :
    ∃ c', Holds V d b L c' ∧ (m.takeBack now choose).on c = (chosen.mapM (m.down now)).on c' := by
  obtain ⟨_, c₁, hensure, h₁⟩ := h.ensureTable hV
  obtain ⟨found, c₂, happlied, hfound, h₂⟩ := h₁.applied hV
  refine ⟨c₂, h₂, ?_⟩
  rw [takeBack, on_bind_ok hensure, on_bind_ok happlied, hchoose found hfound]

theorem gives_takeBack (hV : V.Faithful d m.ledger (m.texts d)) (now : DateTime)
    (hL : L ⊆ m.names.toFinset) {choose : List String → List String} {k : Nat}
    (hchoose : choose L.sort.reverse = greatest k L) (h : Tracks V d b L c) :
    (m.takeBack now choose).Gives c fun os c' =>
      os = (greatest k L).map .rolledBack ∧ Holds V d b (L \ (greatest k L).toFinset) c' := by
  have hnodup : (greatest k L).Nodup := (Finset.sort_nodup _ _).sublist (List.take_sublist _ _)
  have hmem : ∀ n ∈ greatest k L, n ∈ m.names ∧ n ∈ L := by
    intro n hn
    have hn := mem_of_greatest hn
    exact ⟨by simpa using hL hn, hn⟩
  have hlisted : ∀ found, Listed (· ≤ ·) L found → choose found.reverse = greatest k L := by
    intro found hfound
    rw [hfound.eq_sort, hchoose]
  obtain ⟨c₁, h₁, hrun⟩ := takeBack_listed hV.collates now hlisted h
  rw [Gives, hrun]
  exact gives_downs hV.collates now hnodup hmem h₁

theorem gives_rollbackAll (hV : V.Faithful d m.ledger (m.texts d)) (now : DateTime)
    (hL : L ⊆ m.names.toFinset) (h : Tracks V d b L c) :
    (m.rollbackAll now).Gives c fun os c' =>
      os = (L.sort (· ≥ ·)).map .rolledBack ∧ Holds V d b ∅ c' := by
  have hall : id L.sort.reverse = greatest L.card L := by rw [id, reverse_sort, greatest_card]
  have htaken := gives_takeBack hV now hL hall h
  rwa [greatest_card, Finset.sort_toFinset, Finset.sdiff_self] at htaken

theorem gives_refresh (hV : V.Faithful d m.ledger (m.texts d)) (hm : m.Ascending) (now : DateTime)
    (hL : L ⊆ m.names.toFinset) (h : Tracks V d b L c) :
    (m.refresh now).Gives c fun os c' =>
      os = (L.sort (· ≥ ·)).map .rolledBack ++ m.names.toFinset.sort.map .applied ∧
        Holds V d b m.names.toFinset c' := by
  unfold refresh
  refine (gives_rollbackAll hV now hL h).bind fun undone c₁ hback => ?_
  obtain ⟨hundone, h₁⟩ := hback
  refine (gives_migrate hV.collates hm now (Or.inl h₁)).bind fun done c₂ hagain => ?_
  obtain ⟨hdone, h₂⟩ := hagain
  refine gives_pure ⟨?_, ?_⟩
  · rw [hundone, hdone, Finset.sdiff_empty]
  · rwa [Finset.empty_union] at h₂

/-! ## Commands -/

inductive Command where
  | migrate
  | rollback (steps : Nat)
  | rollbackAll
  | refresh
  | up (name : String)
  | down (name : String)

def Command.perform (m : Migrator) (now : DateTime) :
    Command → Session σ MigrationError (List Outcome)
  | .migrate => m.migrate now
  | .rollback steps => m.rollback now steps
  | .rollbackAll => m.rollbackAll now
  | .refresh => m.refresh now
  | .up name => do return [← m.up now name]
  | .down name => do return [← m.down now name]

/-- What a command answers, and the names it leaves, when `R` are registered and `L` applied. -/
def Command.onSet (R L : Finset String) :
    Command → Except MigrationError (List Outcome) × Finset String
  | .migrate => (.ok ((R \ L).sort.map .applied), L ∪ R)
  | .rollback steps =>
    (.ok ((greatest steps L).map .rolledBack), L \ (greatest steps L).toFinset)
  | .rollbackAll => (.ok ((L.sort (· ≥ ·)).map .rolledBack), ∅)
  | .refresh => (.ok ((L.sort (· ≥ ·)).map .rolledBack ++ R.sort.map .applied), R)
  | .up n =>
    if n ∈ R then (.ok [if n ∈ L then .skipped n else .applied n], insert n L)
    else (.error (.notFound n R.sort), L)
  | .down n =>
    if n ∈ R then (.ok [if n ∈ L then .rolledBack n else .skipped n], L.erase n)
    else (.error (.notFound n R.sort), L)

theorem onSet_subset {R L : Finset String} (h : L ⊆ R) (k : Command) : (k.onSet R L).2 ⊆ R := by
  cases k with
  | migrate => exact Finset.union_subset h (Finset.Subset.refl R)
  | rollback steps => exact Finset.sdiff_subset.trans h
  | rollbackAll => exact Finset.empty_subset R
  | refresh => exact Finset.Subset.refl R
  | up n =>
    simp only [Command.onSet]
    split
    · exact Finset.insert_subset ‹_› h
    · exact h
  | down n =>
    simp only [Command.onSet]
    split
    · exact (Finset.erase_subset n L).trans h
    · exact h

theorem sort_names (hm : m.Ascending) : m.names.toFinset.sort = m.names :=
  (List.toFinset_sort (· ≤ ·) (hm.names.imp ne_of_lt)).2 (hm.names.imp le_of_lt)

/-- A command does to the ledger and answers what it does on the set of names. -/
theorem perform_onSet (hV : V.Faithful d m.ledger (m.texts d)) (hm : m.Ascending) (now : DateTime)
    (hL : L ⊆ m.names.toFinset) (h : Tracks V d b L c) (k : Command) :
    ∃ c', (k.perform m now).on c = ((k.onSet m.names.toFinset L).1, c') ∧
      Tracks V d b (k.onSet m.names.toFinset L).2 c' := by
  cases k with
  | migrate =>
    obtain ⟨os, c', hrun, rfl, h'⟩ := gives_migrate hV.collates hm now h
    exact ⟨c', hrun, Or.inl h'⟩
  | rollback steps =>
    have hchoose : L.sort.reverse.take steps = greatest steps L := by rw [reverse_sort, greatest]
    obtain ⟨os, c', hrun, rfl, h'⟩ := gives_takeBack hV now hL hchoose h
    exact ⟨c', hrun, Or.inl h'⟩
  | rollbackAll =>
    obtain ⟨os, c', hrun, rfl, h'⟩ := gives_rollbackAll hV now hL h
    exact ⟨c', hrun, Or.inl h'⟩
  | refresh =>
    obtain ⟨os, c', hrun, rfl, h'⟩ := gives_refresh hV hm now hL h
    exact ⟨c', hrun, Or.inl h'⟩
  | up n =>
    simp only [Command.perform, Command.onSet, List.mem_toFinset]
    split
    · obtain ⟨o, c', hrun, rfl, h'⟩ := gives_up hV.collates ‹_› now h
      exact ⟨c', by rw [on_bind_ok hrun]; rfl, Or.inl h'⟩
    · refine ⟨c, on_bind_error ?_ _, h⟩
      unfold up
      exact on_bind_error (by rw [on_ofExcept, find_of_not_mem ‹_›, sort_names hm]) _
  | down n =>
    simp only [Command.perform, Command.onSet, List.mem_toFinset]
    split
    · obtain ⟨o, c', hrun, rfl, h'⟩ := gives_down hV.collates ‹_› now h
      exact ⟨c', by rw [on_bind_ok hrun]; rfl, Or.inl h'⟩
    · refine ⟨c, on_bind_error ?_ _, h⟩
      unfold down
      exact on_bind_error (by rw [on_ofExcept, find_of_not_mem ‹_›, sort_names hm]) _

/-! ## Runs -/

/-- The answers of a run of commands, each given at its time, and the connection after it. -/
def runAll (m : Migrator) : List (DateTime × Command) → Connection σ →
    List (Except MigrationError (List Outcome)) × Connection σ
  | [], c => ([], c)
  | (now, k) :: rest, c =>
    let (answer, c₁) := (k.perform m now).on c
    let (answers, c₂) := m.runAll rest c₁
    (answer :: answers, c₂)

def runOnSet (R : Finset String) : List (DateTime × Command) → Finset String →
    List (Except MigrationError (List Outcome)) × Finset String
  | [], L => ([], L)
  | (_, k) :: rest, L =>
    let (answer, L₁) := k.onSet R L
    let (answers, L₂) := runOnSet R rest L₁
    (answer :: answers, L₂)

theorem runAll_onSet (hV : V.Faithful d m.ledger (m.texts d)) (hm : m.Ascending)
    (ks : List (DateTime × Command)) (hL : L ⊆ m.names.toFinset) (h : Tracks V d b L c) :
    (m.runAll ks c).1 = (runOnSet m.names.toFinset ks L).1 ∧
      Tracks V d b (runOnSet m.names.toFinset ks L).2 (m.runAll ks c).2 ∧
      (runOnSet m.names.toFinset ks L).2 ⊆ m.names.toFinset := by
  induction ks generalizing L c with
  | nil => exact ⟨rfl, h, hL⟩
  | cons step rest ih =>
    obtain ⟨now, k⟩ := step
    obtain ⟨c₁, hrun, h₁⟩ := perform_onSet hV hm now hL h k
    obtain ⟨hanswers, h₂, hsubset⟩ := ih (onSet_subset hL k) h₁
    simp only [runAll, runOnSet, hrun]
    exact ⟨by rw [hanswers], h₂, hsubset⟩

/-- The migrator that a list of migrations is registered with, up to the first that is refused. -/
def registered (l : Ledger) (xs : List Migration) : Migrator := (registerAll { ledger := l } xs).1

/-- From an empty database on, in any run of commands, the ledger is a set of names. It is never
without a row for one of them or with two, each command answers and changes it as told for sets, and
what is pending and what counts as applied is told by the set at any time. -/
theorem ledger_acts_as_set (V : View σ) (l : Ledger) (xs : List Migration) (c : Connection σ)
    (ks : List (DateTime × Command))
    (hV : V.Faithful c.dialect l ((registered l xs).texts c.dialect)) (hc : Reachable c)
    (hready : V.ready c.inTransaction c.server) (hempty : V.rows? c.server = none) :
    let m := registered l xs
    let R := m.names.toFinset
    let final := (m.runAll ks c).2
    let L := (runOnSet R ks ∅).2
    (m.runAll ks c).1 = (runOnSet R ks ∅).1 ∧ L ⊆ R ∧
      (∃ names : List String, ((V.rows? final.server).getD []).map nameOf? = names.map some ∧
        names.Nodup ∧ names.toFinset = L) ∧
      (m.pending.on final).1 = .ok (R \ L).sort ∧
      ∃ ts, (m.status.on final).1 = .ok ts ∧ ts.map (·.name) = R.sort ∧
        ∀ t ∈ ts, (t.applied ↔ t.name ∈ L) := by
  intro m R final L
  have hm : m.Ascending := registerAll_ascending (m := { ledger := l }) List.Pairwise.nil xs
  have hledger : m.ledger = l := registerAll_ledger _ xs
  have hV' : V.Faithful c.dialect m.ledger (m.texts c.dialect) := hledger ▸ hV
  have hstart : Tracks V c.dialect c.inTransaction ∅ c :=
    Or.inr ⟨rfl, rfl, hc, rfl, none, ⟨hready, hempty⟩, rfl⟩
  obtain ⟨hanswers, htracks, hsubset⟩ := runAll_onSet hV' hm ks (Finset.empty_subset R) hstart
  obtain ⟨ns, c₁, hpending, hns, -⟩ := gives_pending hV' hm htracks
  obtain ⟨ts, c₂, hstatus, ⟨hnames, happlied⟩, -⟩ := gives_status hV' htracks
  refine ⟨hanswers, hsubset, ?_, ?_, ts, ?_, ?_, happlied⟩
  · rcases htracks with ⟨names, hs, hnodup, hset⟩ | ⟨hset, hs⟩
    · obtain ⟨rows, hat, hrows⟩ := hs.lists
      obtain ⟨rs, rfl, hmap, -⟩ := names_of_rows hrows
      exact ⟨names, by rw [hat.rows]; exact hmap, hnodup, hset⟩
    · obtain ⟨rows, hat, hrows⟩ := hs.lists
      have hnone : rows = none := by simpa using hrows
      exact ⟨[], by rw [hat.rows, hnone]; rfl, List.nodup_nil, hset.symm⟩
  · rw [hpending, hns]
  · rw [hstatus]
  · rw [hnames, sort_names hm]

/-- Two migrations registered in the wrong order; in the end the later one is applied. -/
theorem ledger_acts_as_set_posts :
    let users : Migration :=
      { name := "20240101000000_users", up := [.raw "CREATE TABLE users (id INTEGER)"],
        down := [.raw "DROP TABLE users"] }
    let posts : Migration :=
      { name := "20240102000000_posts", up := [.raw "CREATE TABLE posts (id INTEGER)"],
        down := [.raw "DROP TABLE posts"], transactional := false }
    let V := OneLedger.view
    let m := registered {} [posts, users]
    let R := m.names.toFinset
    let c : Connection OneLedger :=
      { config := { dialect := .sqlite, database := Config.memory }, server := {} }
    let ks : List (DateTime × Command) :=
      [(default, .up posts.name), (default, .migrate), (default, .rollback 1), (default, .refresh),
        (default, .down users.name), (default, .up "unknown")]
    (V.Faithful c.dialect {} (m.texts c.dialect) ∧ Reachable c ∧ V.ready c.inTransaction c.server ∧
      V.rows? c.server = none) ∧
    (R = {users.name, posts.name} ∧ (runOnSet R ks ∅).2 = {posts.name}) ∧
    let final := (m.runAll ks c).2
    let L := (runOnSet R ks ∅).2
    (m.runAll ks c).1 = (runOnSet R ks ∅).1 ∧ L ⊆ R ∧
      (∃ names : List String, ((V.rows? final.server).getD []).map nameOf? = names.map some ∧
        names.Nodup ∧ names.toFinset = L) ∧
      (m.pending.on final).1 = .ok (R \ L).sort ∧
      ∃ ts, (m.status.on final).1 = .ok ts ∧ ts.map (·.name) = R.sort ∧
        ∀ t ∈ ts, (t.applied ↔ t.name ∈ L) := by
  intro users posts V m R c ks
  have hV : V.Faithful c.dialect {} (m.texts c.dialect) := OneLedger.view_faithful c.dialect {} _
  have hc : Reachable c := Or.inr ⟨c.config.fileUrl, rfl⟩
  have hR : R = {users.name, posts.name} := by decide +kernel
  have hL : (runOnSet R ks ∅).2 = {posts.name} := by decide +kernel
  -- opaque from here on, or the run would be computed
  clear_value ks users posts
  exact ⟨⟨hV, hc, rfl, rfl⟩, ⟨hR, hL⟩, ledger_acts_as_set V {} [posts, users] c ks hV hc rfl rfl⟩

end SqlKit.Migrator
