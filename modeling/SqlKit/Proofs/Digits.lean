import Mathlib.Data.String.Basic
import Mathlib.Tactic.Ring
import SqlKit.Number.Decimal

/-!
# Numbers in decimal digits

What is written of a number has digits only and is read as that number. Digits of one length are ordered as
the numbers that they write, and their number is bounded by their length.
-/

namespace SqlKit.Number

/-! ## Writing -/

theorem isDigit_of_mem_digits {n : Nat} {c : Char} (h : c ∈ digits n) : c.isDigit = true :=
  Nat.isDigit_of_mem_toDigits (by decide) (by decide) h

theorem not_mem_digits {c : Char} (h : c.isDigit = false) (n : Nat) : c ∉ digits n := by
  intro hmem
  rw [isDigit_of_mem_digits hmem] at h
  cases h

theorem isDigit_of_mem_padded {width n : Nat} {c : Char} (h : c ∈ padded width n) : c.isDigit = true := by
  rcases List.mem_append.1 h with hzero | hdigit
  · obtain rfl := (List.mem_replicate.1 hzero).2
    rfl
  · exact isDigit_of_mem_digits hdigit

theorem length_padded {width n : Nat} (hwidth : 0 < width) (h : n < 10 ^ width) :
    (padded width n).length = width := by
  have hle : (digits n).length ≤ width := (Nat.length_toDigits_le_iff (by decide) hwidth).2 h
  rw [padded, List.length_append, List.length_replicate]
  omega

theorem length_padded_pos (width n : Nat) : 0 < (padded width n).length := by
  have hpos := List.length_pos_iff.2 (digits_ne_nil n)
  rw [padded, List.length_append]
  omega

/-! ## Reading -/

theorem foldDigits_digits (n : Nat) : foldDigits (digits n) 0 = n :=
  Nat.ofDigitChars_toDigits (by decide) (by decide)

theorem foldDigits_padded (width n : Nat) : foldDigits (padded width n) 0 = n := by
  have hzeros : ∀ k, foldDigits (List.replicate k '0') 0 = 0 := by
    intro k
    induction k with
    | zero => rfl
    | succ k ih => exact ih
  have happend : foldDigits (padded width n) 0 =
      foldDigits (digits n) (foldDigits (List.replicate (width - (digits n).length) '0') 0) :=
    List.foldl_append
  rw [happend, hzeros, foldDigits_digits]

theorem readDigits?_digits (n : Nat) : readDigits? (digits n) = some n := by
  have hall : (digits n).all Char.isDigit = true := List.all_eq_true.2 fun c => isDigit_of_mem_digits
  rw [readDigits?, if_pos ⟨digits_ne_nil n, hall⟩, foldDigits_digits]

theorem readDigits?_of_mark {cs : List Char} {c : Char} (hc : c ∈ cs) (hmark : c.isDigit = false) :
    readDigits? cs = none := by
  refine if_neg fun h => ?_
  have hdigit := List.all_eq_true.1 h.2 c hc
  rw [hmark] at hdigit
  cases hdigit

/-! ## Order -/

theorem digitValue_le {c : Char} (h : c.isDigit = true) : digitValue c ≤ 9 := by
  have hnine := (Char.isDigit_iff_toNat.1 h).2
  exact Nat.sub_le_of_le_add hnine

theorem digitValue_lt_iff {c e : Char} (hc : c.isDigit = true) (he : e.isDigit = true) :
    digitValue c < digitValue e ↔ c < e := by
  rw [Char.isDigit_iff_toNat] at hc he
  have hlt : c < e ↔ c.toNat < e.toNat := UInt32.lt_iff_toNat_lt
  rw [hlt, digitValue, digitValue]
  omega

theorem foldDigits_lt {ds : List Char} (h : ∀ c ∈ ds, c.isDigit = true) (n : Nat) :
    foldDigits ds n < (n + 1) * 10 ^ ds.length := by
  induction ds generalizing n with
  | nil => simp [foldDigits]
  | cons d ds ih =>
    obtain ⟨hd, hds⟩ := List.forall_mem_cons.1 h
    have hdigit := digitValue_le hd
    calc foldDigits ds (10 * n + digitValue d)
        < (10 * n + digitValue d + 1) * 10 ^ ds.length := ih hds _
      _ ≤ ((n + 1) * 10) * 10 ^ ds.length := Nat.mul_le_mul_right _ (by omega)
      _ = (n + 1) * 10 ^ (d :: ds).length := by rw [List.length_cons, Nat.pow_succ]; ring

theorem le_foldDigits (ds : List Char) (n : Nat) : n * 10 ^ ds.length ≤ foldDigits ds n := by
  induction ds generalizing n with
  | nil => simp [foldDigits]
  | cons d ds ih =>
    calc n * 10 ^ (d :: ds).length = 10 * n * 10 ^ ds.length := by rw [List.length_cons, Nat.pow_succ]; ring
      _ ≤ (10 * n + digitValue d) * 10 ^ ds.length := Nat.mul_le_mul_right _ (Nat.le_add_right _ _)
      _ ≤ foldDigits ds (10 * n + digitValue d) := ih _

theorem foldDigits_lt_of_lt {xs ys : List Char} (hlength : xs.length = ys.length)
    (hxs : ∀ c ∈ xs, c.isDigit = true) {n k : Nat} (h : n < k) : foldDigits xs n < foldDigits ys k :=
  calc foldDigits xs n < (n + 1) * 10 ^ xs.length := foldDigits_lt hxs n
    _ ≤ k * 10 ^ ys.length := by rw [hlength]; exact Nat.mul_le_mul_right _ h
    _ ≤ foldDigits ys k := le_foldDigits ys k

/-- Numbers of one length in ASCII digits stand as their texts do. -/
theorem foldDigits_lt_iff {xs ys : List Char} (hlength : xs.length = ys.length)
    (hxs : ∀ c ∈ xs, c.isDigit = true) (hys : ∀ c ∈ ys, c.isDigit = true) (n : Nat) :
    foldDigits xs n < foldDigits ys n ↔ xs < ys := by
  induction xs generalizing ys n with
  | nil =>
    obtain rfl := List.eq_nil_of_length_eq_zero hlength.symm
    simp
  | cons x xs ih =>
    cases ys with
    | nil => cases hlength
    | cons y ys =>
      obtain ⟨hx, hxs'⟩ := List.forall_mem_cons.1 hxs
      obtain ⟨hy, hys'⟩ := List.forall_mem_cons.1 hys
      have hrest : xs.length = ys.length := Nat.succ.inj hlength
      rw [List.cons_lt_cons_iff]
      change foldDigits xs (10 * n + digitValue x) < foldDigits ys (10 * n + digitValue y) ↔ _
      -- The first digits that differ decide, whatever stands behind them.
      rcases lt_trichotomy x y with hlt | rfl | hgt
      · have hvalue := (digitValue_lt_iff hx hy).2 hlt
        have hless := foldDigits_lt_of_lt hrest hxs' (Nat.add_lt_add_left hvalue (10 * n))
        exact iff_of_true hless (Or.inl hlt)
      · rw [ih hrest hxs' hys']
        simp
      · have hvalue := (digitValue_lt_iff hy hx).2 hgt
        have hmore := foldDigits_lt_of_lt hrest.symm hys' (Nat.add_lt_add_left hvalue (10 * n))
        refine iff_of_false (by omega) ?_
        rintro (hlt | ⟨rfl, -⟩)
        · exact absurd hlt (lt_asymm hgt)
        · exact absurd hgt (lt_irrefl x)

end SqlKit.Number
