import SqlKit.Proofs.LedgerSet

/-!
# The order of taking back

A migrator applies in byte order of the names. What it takes back are the last names in the order in which
the database lists them, which is that of its collation. The two are exact reverses of each other as far as
the collation agrees with byte order on the names; one that puts the underscore before the digits does not.
-/

namespace SqlKit.Migration
open Session

/-- A total order of texts, in which a database lists them. -/
structure Collation where
  le : String → String → Bool
  trans : ∀ {x y z}, le x y → le y z → le x z
  total : ∀ x y, le x y ∨ le y x
  antisymm : ∀ {x y}, le x y → le y x → x = y

namespace Collation

variable (κ : Collation)

def Before (x y : String) : Prop := κ.le x y = true

instance : DecidableRel κ.Before := fun x y => inferInstanceAs (Decidable (κ.le x y = true))

/-- The names with the last one first. -/
def descending (names : List String) : List String := (names.mergeSort κ.le).reverse

theorem descending_perm (names : List String) : (κ.descending names).Perm names :=
  (List.reverse_perm _).trans (List.mergeSort_perm _ _)

theorem sort_ordered (names : List String) : (names.mergeSort κ.le).Pairwise κ.Before := by
  have htotal : ∀ x y, (κ.le x y || κ.le y x) = true := by
    intro x y
    rw [Bool.or_eq_true]
    exact κ.total x y
  have htrans : ∀ x y z, κ.le x y = true → κ.le y z = true → κ.le x z = true := fun _ _ _ => κ.trans
  exact List.pairwise_mergeSort htrans htotal names

theorem descending_ordered (names : List String) :
    (κ.descending names).Pairwise fun x y => κ.Before y x :=
  List.pairwise_reverse.2 (κ.sort_ordered names)

theorem eq_sort {names found : List String} (hperm : found.Perm names) (h : found.Pairwise κ.Before) :
    found = names.mergeSort κ.le := by
  have hsorted : found.Perm (names.mergeSort κ.le) := hperm.trans (List.mergeSort_perm _ _).symm
  exact hsorted.eq_of_pairwise (fun x y _ _ => κ.antisymm) h (κ.sort_ordered names)

theorem descending_eq {names found : List String} (hperm : found.Perm names)
    (h : found.Pairwise fun x y => κ.Before y x) : κ.descending names = found := by
  have hsorted := κ.eq_sort ((List.reverse_perm found).trans hperm) (List.pairwise_reverse.2 h)
  rw [descending, ← hsorted, List.reverse_reverse]

theorem before_self (x : String) : κ.Before x x := by
  rcases κ.total x x with h | h <;> exact h

theorem head_eq_iff {x z : String} {xs ys : List String} (hperm : (z :: ys).Perm (x :: xs))
    (hz : ∀ y ∈ ys, κ.Before y z) : z = x ↔ ∀ y ∈ x :: xs, κ.Before y x := by
  constructor
  · rintro rfl y hy
    rcases List.mem_cons.1 (hperm.mem_iff.2 hy) with rfl | hy
    · exact κ.before_self y
    · exact hz y hy
  · intro h
    have hzx : κ.Before z x := h z (hperm.mem_iff.1 List.mem_cons_self)
    have hxz : κ.Before x z := by
      rcases List.mem_cons.1 (hperm.mem_iff.2 List.mem_cons_self) with rfl | hx
      · exact κ.before_self x
      · exact hz x hx
    exact κ.antisymm hzx hxz

/-- In a descending list only the first name can stand above the first. -/
theorem forall_below_cons {x : String} {xs : List String} (hx : ∀ y ∈ xs, x > y) (k : Nat) :
    (∀ w ∈ (x :: xs).take (k + 1), ∀ y ∈ x :: xs, y ≤ w → κ.Before y w) ↔
      (∀ y ∈ x :: xs, κ.Before y x) ∧ ∀ w ∈ xs.take k, ∀ y ∈ xs, y ≤ w → κ.Before y w := by
  have hbelow : ∀ y ∈ x :: xs, y ≤ x := by
    intro y hy
    rcases List.mem_cons.1 hy with rfl | hy
    · exact le_refl y
    · exact le_of_lt (hx y hy)
  rw [List.take_succ_cons, List.forall_mem_cons]
  refine and_congr (forall₂_congr fun y hy => ⟨fun h => h (hbelow y hy), fun h _ => h⟩) ?_
  refine forall₂_congr fun w hw => ⟨fun h y hy => h y (List.mem_cons_of_mem _ hy), fun h y hy hle => ?_⟩
  rcases List.mem_cons.1 hy with rfl | hy
  · exact absurd hle (not_le_of_gt (hx w (List.mem_of_mem_take hw)))
  · exact h y hy hle

/-- Of the names in descending byte order the first are also the last ones of the collation exactly if it
puts none of these before a name that is smaller. -/
theorem take_eq_take_iff {xs ys : List String} (hperm : ys.Perm xs) (hxs : xs.Pairwise (· > ·))
    (hys : ys.Pairwise fun x y => κ.Before y x) (k : Nat) :
    ys.take k = xs.take k ↔ ∀ x ∈ xs.take k, ∀ y ∈ xs, y ≤ x → κ.Before y x := by
  induction xs generalizing ys k with
  | nil => simp [hperm.eq_nil]
  | cons x xs ih =>
    cases k with
    | zero => simp
    | succ k =>
      cases ys with
      | nil => exact absurd hperm.nil_eq (List.cons_ne_nil x xs).symm
      | cons z ys =>
        obtain ⟨hx, hbelow⟩ := List.pairwise_cons.1 hxs
        obtain ⟨hz, hlater⟩ := List.pairwise_cons.1 hys
        rw [κ.forall_below_cons hx, ← κ.head_eq_iff hperm hz, List.take_succ_cons, List.take_succ_cons,
          List.cons_eq_cons]
        refine and_congr_right fun hzx => ?_
        subst hzx
        exact ih hperm.cons_inv hbelow hlater k

end Collation

/-! ## A database with a collation -/

/-- The database for one ledger, but what it lists stands in the order of a collation. -/
structure CollatedLedger (κ : Collation) where
  ledger : OneLedger := {}

namespace CollatedLedger

variable {κ : Collation}

def precedes (κ : Collation) (r s : Row) : Bool := κ.le ((nameOf? r).getD "") ((nameOf? s).getD "")

def arrange (κ : Collation) : Reply → Reply
  | .rows rows => .rows (rows.mergeSort (precedes κ))
  | reply => reply

instance : Engine (CollatedLedger κ) where
  dial := return true
  answer r := fun s =>
    let (reply, ledger) := s.ledger.answer r.statement
    (arrange κ reply, ⟨ledger⟩)

def view (κ : Collation) : View (CollatedLedger κ) where
  rows? s := s.ledger.rows
  ready b s := s.ledger.inTransaction = b

theorem rows_arrange (reply : Reply) : (arrange κ reply).rows? = reply.rows?.mergeSort (precedes κ) := by
  cases reply <;> simp [arrange, Reply.rows?]

theorem names_ordered (rows : List Row) :
    ((rows.mergeSort (precedes κ)).filterMap nameOf?).Pairwise κ.Before := by
  have htrans : ∀ r s t : Row, precedes κ r s = true → precedes κ s t = true → precedes κ r t = true :=
    fun _ _ _ => κ.trans
  have htotal : ∀ r s : Row, (precedes κ r s || precedes κ s r) = true := by
    intro r s
    rw [Bool.or_eq_true]
    exact κ.total _ _
  refine List.pairwise_filterMap.2 ((List.pairwise_mergeSort htrans htotal rows).imp ?_)
  intro r s hrs n hn k hk
  simpa [precedes, hn, hk, Collation.Before] using hrs

/-- What the database without a collation accepts is accepted, and its reply arranged. -/
theorem accepts_arranged {d : Dialect} {mode : Mode} {st : Statement} {s : CollatedLedger κ}
    {P : Reply → OneLedger → Prop} {Q : Reply → CollatedLedger κ → Prop}
    (h : Accepts d mode st s.ledger P) (hQ : ∀ reply l, P reply l → Q (arrange κ reply) ⟨l⟩) :
    Accepts d mode st s Q := by
  obtain ⟨reply, ledger, hanswer, hfault, hP⟩ := h
  refine ⟨arrange κ reply, ⟨ledger⟩, ?_, fun sql => ?_, hQ reply ledger hP⟩
  · exact congrArg (fun a : Reply × OneLedger => (arrange κ a.1, (⟨a.2⟩ : CollatedLedger κ))) hanswer
  · rw [← hfault sql]
    cases reply <;> rfl

theorem at_iff {b : Bool} {rows : Option (List Row)} {s : CollatedLedger κ} :
    (view κ).At b rows s ↔ OneLedger.view.At b rows s.ledger :=
  ⟨fun h => ⟨h.ready, h.rows⟩, fun h => ⟨h.ready, h.rows⟩⟩

theorem view_collates (d : Dialect) (l : Ledger) (texts : List String) :
    (view κ).Collates d l texts κ.Before := by
  have hV := OneLedger.view_faithful d l texts
  refine ⟨fun h => ⟨rfl, h⟩, fun h => ?count, fun h => ?create, fun h => ?list, fun name h => ?find,
    fun now name h => ?insert, fun name h => ?delete, fun hd h => ?begin, fun hd h => ?commit,
    fun hsql h => ?text⟩
  case count =>
    refine accepts_arranged (hV.count (at_iff.1 h)) fun reply s' hP => ?_
    obtain ⟨hs, row, n, hrow, hn, hpos⟩ := hP
    exact ⟨at_iff.2 hs, row, n, by rw [rows_arrange, hrow, List.mergeSort_singleton], hn, hpos⟩
  case create => exact accepts_arranged (hV.create (at_iff.1 h)) fun _ _ => at_iff.2
  case list =>
    refine accepts_arranged (hV.list (at_iff.1 h)) fun reply s' hP => ?_
    obtain ⟨hs, hperm, -⟩ := hP
    rw [rows_arrange]
    exact ⟨at_iff.2 hs, (List.mergeSort_perm _ _).trans hperm, names_ordered _⟩
  case find =>
    refine accepts_arranged (hV.find name (at_iff.1 h)) fun reply s' hP => ?_
    obtain ⟨hs, hnone⟩ := hP
    have hempty : reply.rows?.mergeSort (precedes κ) = [] ↔ reply.rows? = [] := by
      rw [← List.length_eq_zero_iff, List.length_mergeSort, List.length_eq_zero_iff]
    rw [rows_arrange, hempty]
    exact ⟨at_iff.2 hs, hnone⟩
  case insert =>
    refine accepts_arranged (hV.insert now name (at_iff.1 h)) fun _ _ hP => ?_
    obtain ⟨row, hrow, hs⟩ := hP
    exact ⟨row, hrow, at_iff.2 hs⟩
  case delete => exact accepts_arranged (hV.delete name (at_iff.1 h)) fun _ _ => at_iff.2
  case begin => exact accepts_arranged (hV.begin hd (at_iff.1 h)) fun _ _ => at_iff.2
  case commit => exact accepts_arranged (hV.commit hd (at_iff.1 h)) fun _ _ => at_iff.2
  case text => exact accepts_arranged (hV.text hsql (at_iff.1 h)) fun _ _ => at_iff.2

end CollatedLedger

namespace Collation

/-- The underscore stands before digits and letters, as punctuation does in the order of Unicode. -/
def weight (c : Char) : Nat := if c = '_' then 0 else c.toNat + 1

def key (s : String) : List Nat := s.toList.map weight

theorem weight_injective : Function.Injective weight := by
  intro c e h
  unfold weight at h
  split_ifs at h with hc he
  · rw [hc, he]
  · exact Char.toNat_inj.1 (Nat.succ.inj h)

theorem key_injective : Function.Injective key := fun _ _ h =>
  String.toList_injective (weight_injective.list_map h)

def underscoreFirst : Collation where
  le x y := key x ≤ key y
  trans := by
    intro x y z hxy hyz
    simp only [decide_eq_true_eq] at *
    exact le_trans hxy hyz
  total := by
    intro x y
    simp only [decide_eq_true_eq]
    exact le_total _ _
  antisymm := by
    intro x y hxy hyx
    simp only [decide_eq_true_eq] at *
    exact key_injective (le_antisymm hxy hyx)

/-- The digit before the underscore in byte order, the underscore before the digit here. -/
theorem underscoreFirst_descending :
    underscoreFirst.descending ["20240101000000_add2fa", "20240101000000_add_email"] =
      ["20240101000000_add2fa", "20240101000000_add_email"] := by
  refine underscoreFirst.descending_eq (List.Perm.refl _) ?_
  rw [List.pairwise_pair]
  decide

end Collation

end SqlKit.Migration

namespace SqlKit.Migrator
open Migration Session
open Calendar (DateTime)

variable {σ : Type} [Engine σ] {V : View σ} {d : Dialect} {b : Bool} {m : Migrator}
variable {c : Connection σ} {κ : Collation}

omit [Engine σ] in
theorem greatest_names (hm : m.Ascending) : m.names.reverse.Pairwise (· > ·) :=
  List.pairwise_reverse.2 hm.names

theorem gives_migrate_all (hV : V.Collates d m.ledger (m.texts d) κ.Before) (hm : m.Ascending)
    (now : DateTime) (h : Tracks V d b ∅ c) :
    (m.migrate now).Gives c fun os c' => os = m.names.map .applied ∧ Holds V d b m.names.toFinset c' := by
  have hall := gives_migrate hV hm now h
  rwa [Finset.sdiff_empty, Finset.empty_union, sort_names hm] at hall

theorem rollback_listed (hV : V.Collates d m.ledger (m.texts d) κ.Before) (hm : m.Ascending)
    (now : DateTime) (k : Nat) (h : Holds V d b m.names.toFinset c) :
    ∃ c', Holds V d b m.names.toFinset c' ∧
      (m.rollback now k).on c = (((κ.descending m.names).take k).mapM (m.down now)).on c' := by
  refine takeBack_listed hV now (fun found hfound => ?_) (Or.inl h)
  have hperm : found.Perm m.names :=
    List.perm_of_nodup_nodup_toFinset_eq hfound.nodup (hm.names.imp ne_of_lt) hfound.set
  rw [κ.eq_sort hperm hfound.ordered]
  rfl

theorem gives_rollback (hV : V.Collates d m.ledger (m.texts d) κ.Before) (hm : m.Ascending)
    (now : DateTime) (k : Nat) (h : Holds V d b m.names.toFinset c) :
    let undone := (κ.descending m.names).take k
    (m.rollback now k).Gives c fun os c' =>
      os = undone.map .rolledBack ∧ Holds V d b (m.names.toFinset \ undone.toFinset) c' := by
  intro undone
  have hnodup : (κ.descending m.names).Nodup :=
    (κ.descending_perm m.names).nodup_iff.2 (hm.names.imp ne_of_lt)
  have hmem : ∀ n ∈ undone, n ∈ m.names ∧ n ∈ m.names.toFinset := by
    intro n hn
    rw [List.mem_toFinset, and_self]
    exact (κ.descending_perm m.names).mem_iff.1 (List.mem_of_mem_take hn)
  obtain ⟨c₁, h₁, hrun⟩ := rollback_listed hV hm now k h
  rw [Gives, hrun]
  exact gives_downs hV now (hnodup.sublist (List.take_sublist _ _)) hmem h₁

/-- Migrations are applied in byte order in every database and taken back in the order of its collation.
The first `k` taken back are the greatest in byte order exactly if the collation puts none of these before
a smaller name; for all of them this is the reverse of the order of application exactly if the collation
has the names in byte order. -/
theorem rollback_in_collation (κ : Collation) (V : View σ) (d : Dialect) (b : Bool) (l : Ledger)
    (xs : List Migration) (hV : V.Collates d l ((registered l xs).texts d) κ.Before) :
    let m := registered l xs
    let all := m.names.toFinset
    m.names.Pairwise (· < ·) ∧
    (∀ (now : DateTime) (c : Connection σ), Tracks V d b ∅ c →
      ∃ c', (m.migrate now).on c = (.ok (m.names.map .applied), c') ∧ Holds V d b all c') ∧
    ∀ (now : DateTime) (k : Nat) (c : Connection σ), Holds V d b all c →
      let undone := (κ.descending m.names).take k
      (∃ c', Holds V d b all c' ∧ (m.rollback now k).on c = (undone.mapM (m.down now)).on c') ∧
      (∃ c', (m.rollback now k).on c = (.ok (undone.map .rolledBack), c') ∧
        Holds V d b (all \ undone.toFinset) c') ∧
      (((m.rollback now k).on c).1 = .ok ((m.names.reverse.take k).map .rolledBack) ↔
        ∀ x ∈ m.names.reverse.take k, ∀ y ∈ m.names, y ≤ x → κ.le y x) := by
  intro m all
  have hm : m.Ascending := registerAll_ascending (m := { ledger := l }) List.Pairwise.nil xs
  have hledger : m.ledger = l := registerAll_ledger _ xs
  have hV' : V.Collates d m.ledger (m.texts d) κ.Before := hledger ▸ hV
  refine ⟨hm.names, fun now c h => ?_, fun now k c h => ?_⟩
  · obtain ⟨os, c', hrun, rfl, h'⟩ := gives_migrate_all hV' hm now h
    exact ⟨c', hrun, h'⟩
  · intro undone
    obtain ⟨os, c', hrun, rfl, h'⟩ := gives_rollback hV' hm now k h
    refine ⟨rollback_listed hV' hm now k h, ⟨c', hrun, h'⟩, ?_⟩
    -- Both lists have the same names, so that only their order decides about the first `k`.
    have hperm : (κ.descending m.names).Perm m.names.reverse :=
      (κ.descending_perm m.names).trans (List.reverse_perm _).symm
    have htake := κ.take_eq_take_iff hperm (greatest_names hm) (κ.descending_ordered m.names) k
    have hsame : ((m.rollback now k).on c).1 = .ok ((m.names.reverse.take k).map .rolledBack) ↔
        undone = m.names.reverse.take k := by
      rw [hrun, Except.ok.injEq]
      exact (List.map_injective_iff.2 fun _ _ => Outcome.rolledBack.inj).eq_iff
    rw [hsame, htake]
    simp only [List.mem_reverse]
    rfl

/-- Two migrations in a database with the underscore first; both are taken back. -/
theorem rollback_in_collation_both :
    let κ := Collation.underscoreFirst
    let V := CollatedLedger.view κ
    let twoFactor : Migration := { name := "20240101000000_add2fa", up := [.raw "SELECT 1"], down := [] }
    let email : Migration := { name := "20240101000000_add_email", up := [.raw "SELECT 2"], down := [] }
    let m := registered {} [email, twoFactor]
    let c : Connection (CollatedLedger κ) :=
      { config := { dialect := .mysql, database := "app" }, server := {}, dialled := true }
    (V.Collates .mysql {} (m.texts .mysql) κ.Before ∧ Tracks V .mysql false ∅ c) ∧
    m.names = [twoFactor.name, email.name] ∧
    ∃ c₁ c₂, (m.migrate default).on c = (.ok [.applied twoFactor.name, .applied email.name], c₁) ∧
      Holds V .mysql false m.names.toFinset c₁ ∧
      (m.rollback default 2).on c₁ = (.ok [.rolledBack twoFactor.name, .rolledBack email.name], c₂) ∧
      Holds V .mysql false ∅ c₂ := by
  intro κ V twoFactor email m c
  have hV : V.Collates .mysql {} (m.texts .mysql) κ.Before := CollatedLedger.view_collates _ _ _
  have hc : Tracks V .mysql false ∅ c := Or.inr ⟨rfl, rfl, Or.inl rfl, rfl, none, ⟨rfl, rfl⟩, rfl⟩
  have hnames : m.names = [twoFactor.name, email.name] := by decide
  have hdescending : (κ.descending m.names).take 2 = [twoFactor.name, email.name] := by
    rw [hnames, Collation.underscoreFirst_descending]
    rfl
  obtain ⟨-, hmigrate, hrollback⟩ := rollback_in_collation κ V .mysql false {} [email, twoFactor] hV
  obtain ⟨c₁, happlied, h₁⟩ := hmigrate default c hc
  obtain ⟨-, ⟨c₂, hundone, h₂⟩, -⟩ := hrollback default 2 c₁ h₁
  have hnone : m.names.toFinset \ ((κ.descending m.names).take 2).toFinset = ∅ := by
    rw [hdescending, hnames, Finset.sdiff_self]
  rw [hnone] at h₂
  refine ⟨⟨hV, hc⟩, hnames, c₁, c₂, ?_, h₁, ?_, h₂⟩
  · rw [happlied]
    exact congrArg (fun names : List String => (Except.ok (names.map Outcome.applied), c₁)) hnames
  · rw [hundone]
    exact congrArg (fun names : List String => (Except.ok (names.map Outcome.rolledBack), c₂)) hdescending

/-- The last one applied is `add_email`, but the one taken back is `add2fa`. -/
theorem earlier_migration_rolled_back :
    let κ := Collation.underscoreFirst
    let V := CollatedLedger.view κ
    let twoFactor : Migration := { name := "20240101000000_add2fa", up := [.raw "SELECT 1"], down := [] }
    let email : Migration := { name := "20240101000000_add_email", up := [.raw "SELECT 2"], down := [] }
    let m := registered {} [email, twoFactor]
    let c : Connection (CollatedLedger κ) :=
      { config := { dialect := .mysql, database := "app" }, server := {}, dialled := true }
    V.Collates .mysql {} (m.texts .mysql) κ.Before ∧ twoFactor.name < email.name ∧
    ∃ c₁ c₂, (m.migrate default).on c = (.ok [.applied twoFactor.name, .applied email.name], c₁) ∧
      (m.rollback default 1).on c₁ = (.ok [.rolledBack twoFactor.name], c₂) ∧
      Holds V .mysql false {email.name} c₂ := by
  intro κ V twoFactor email m c
  have hV : V.Collates .mysql m.ledger (m.texts .mysql) κ.Before := CollatedLedger.view_collates _ _ _
  have hc : Tracks V .mysql false ∅ c := Or.inr ⟨rfl, rfl, Or.inl rfl, rfl, none, ⟨rfl, rfl⟩, rfl⟩
  have hm : m.Ascending := registerAll_ascending (m := { ledger := {} }) List.Pairwise.nil [email, twoFactor]
  have hnames : m.names = [twoFactor.name, email.name] := by decide
  have hfirst : (κ.descending m.names).take 1 = [twoFactor.name] := by
    rw [hnames, Collation.underscoreFirst_descending]
    rfl
  have hleft : m.names.toFinset \ [twoFactor.name].toFinset = {email.name} := by
    rw [hnames]
    decide
  obtain ⟨os, c₁, happlied, rfl, h₁⟩ := gives_migrate_all hV hm default hc
  obtain ⟨os, c₂, hundone, rfl, h₂⟩ := gives_rollback hV hm default 1 h₁
  rw [hfirst] at hundone h₂
  rw [hleft] at h₂
  refine ⟨CollatedLedger.view_collates _ _ _, by decide, c₁, c₂, ?_, hundone, h₂⟩
  rw [happlied, hnames]
  rfl

end SqlKit.Migrator
