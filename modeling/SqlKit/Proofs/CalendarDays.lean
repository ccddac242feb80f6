import Mathlib.Data.List.TakeWhile
import Mathlib.Tactic.IntervalCases
import SqlKit.Calendar.Reading
import SqlKit.Proofs.Digits

/-!
# Dates from days

A number of days is a date of the calendar, and so is what a text or an offset from universal time is
read as: months run from 1 to 12, days to the end of their month, years within their range.
-/

namespace SqlKit.Calendar

/-! ### The day in an era of four hundred years -/

section
variable {century cycle day : Int}

/-- The years before a day of an era, the day given by whole centuries, whole cycles of four years and
the days after them. -/
theorem yearOfEra_split (hcentury : 0 ≤ century ∧ century ≤ 3) (hcycle : 0 ≤ cycle)
    (hday : 0 ≤ day ∧ day ≤ 1460) (hrest : 1461 * cycle + day < 36524) {dayOfEra : Int}
    (hera : dayOfEra = 36524 * century + 1461 * cycle + day) :
    (dayOfEra - dayOfEra / 1460 + dayOfEra / 36524 - dayOfEra / 146096) / 365
      = 100 * century + 4 * cycle + min (day / 365) 3 := by
  have hcenturies : dayOfEra / 36524 = century := by omega
  have hera : dayOfEra / 146096 = 0 := by omega
  have hcycles : dayOfEra / 1460 = 25 * century + cycle + (24 * century + cycle + day) / 1460 := by omega
  rw [hcenturies, hera, hcycles]
  omega

theorem dayOfYear_split (hcycle : 0 ≤ cycle) (hday : 0 ≤ day ∧ day ≤ 1460)
    (hrest : 1461 * cycle + day < 36524) {dayOfEra year : Int}
    (hera : dayOfEra = 36524 * century + 1461 * cycle + day)
    (hyear : year = 100 * century + 4 * cycle + min (day / 365) 3) :
    dayOfEra - (365 * year + year / 4 - year / 100) = day - 365 * min (day / 365) 3 := by
  have hleap : year / 4 = 25 * century + cycle := by omega
  have hcenturies : year / 100 = century := by omega
  omega
end

/-- A year that starts in March and its days, of which the last is a leap day. -/
structure MarchYear (year day : Int) : Prop where
  yearBound : 0 ≤ year ∧ year ≤ 399
  dayBound : 0 ≤ day ∧ day ≤ 365
  leapDay : day = 365 → (year + 1) % 4 = 0 ∧ ((year + 1) % 100 ≠ 0 ∨ (year + 1) % 400 = 0)

theorem marchYear_split {century cycle day : Int} (hcentury : 0 ≤ century ∧ century ≤ 3)
    (hcycle : 0 ≤ cycle) (hday : 0 ≤ day ∧ day ≤ 1460) (hrest : 1461 * cycle + day < 36524) :
    MarchYear (100 * century + 4 * cycle + min (day / 365) 3) (day - 365 * min (day / 365) 3) := by
  have hcycle' : cycle ≤ 24 := by omega
  refine ⟨by omega, by omega, fun hlast => ?_⟩
  -- only the last day of a cycle is a leap day, and the last cycle of a century has none
  have hend : day = 1460 := by omega
  have hshort : cycle ≤ 23 := by omega
  subst hend
  have hyear : 100 * century + 4 * cycle + min (1460 / 365) 3 + 1 = 100 * century + 4 * (cycle + 1) := by
    omega
  rw [hyear]
  omega

theorem marchYear_of_dayOfEra {dayOfEra : Int} (h : 0 ≤ dayOfEra ∧ dayOfEra ≤ 146096) :
    let year := (dayOfEra - dayOfEra / 1460 + dayOfEra / 36524 - dayOfEra / 146096) / 365
    MarchYear year (dayOfEra - (365 * year + year / 4 - year / 100)) := by
  intro year
  by_cases hlast : dayOfEra = 146096
  · subst hlast
    exact ⟨by decide, by decide, by decide⟩
  obtain ⟨century, rest, hcentury, hrest, hera⟩ : ∃ century rest : Int, (0 ≤ century ∧ century ≤ 3) ∧
      (0 ≤ rest ∧ rest < 36524) ∧ dayOfEra = 36524 * century + rest :=
    ⟨dayOfEra / 36524, dayOfEra % 36524, by omega, by omega, by omega⟩
  obtain ⟨cycle, day, hcycle, hday, rfl⟩ : ∃ cycle day : Int, 0 ≤ cycle ∧
      (0 ≤ day ∧ day ≤ 1460) ∧ rest = 1461 * cycle + day :=
    ⟨rest / 1461, rest % 1461, by omega, by omega, by omega⟩
  rw [← Int.add_assoc] at hera
  have hyear : year = 100 * century + 4 * cycle + min (day / 365) 3 :=
    yearOfEra_split hcentury hcycle hday hrest.2 hera
  rw [dayOfYear_split hcycle hday hrest.2 hera hyear, hyear]
  exact marchYear_split hcentury hcycle hday hrest.2

theorem isLeap_iff (year : Int) :
    isLeap year = true ↔ year % 4 = 0 ∧ (year % 100 ≠ 0 ∨ year % 400 = 0) := by
  simp [isLeap]

theorem length_le_daysInMonth (year : Int) {m : Int} (h : 0 ≤ m ∧ m ≤ 10) :
    (153 * (m + 1) + 2) / 5 - (153 * m + 2) / 5
      ≤ daysInMonth year (if m < 10 then m + 3 else m - 9).toNat := by
  obtain ⟨hlow, hhigh⟩ := h
  interval_cases m <;> simp [daysInMonth]

/-- The month and the day in it, of a day in a year that starts in March. -/
theorem month_of_day {year day : Int} (h : MarchYear year day) (era : Int) :
    let m := (5 * day + 2) / 153
    let dayOfMonth := day - (153 * m + 2) / 5 + 1
    let month := if m < 10 then m + 3 else m - 9
    1 ≤ month ∧ month ≤ 12 ∧ 1 ≤ dayOfMonth ∧
      dayOfMonth ≤ daysInMonth (year + era * 400 + (if month ≤ 2 then 1 else 0)) month.toNat := by
  intro m dayOfMonth month
  have hday := h.dayBound
  have hm : 0 ≤ m ∧ m ≤ 11 := by omega
  have hmonth : 1 ≤ month ∧ month ≤ 12 := by
    simp only [month]
    split <;> omega
  refine ⟨hmonth.1, hmonth.2, by omega, ?_⟩
  -- February comes last in such a year, and its length alone depends on the year.
  by_cases hfebruary : m = 11
  · have hmonth : month = 2 := by simp [month, hfebruary]
    have hlast : dayOfMonth = day - 336 := by
      simp only [dayOfMonth, hfebruary]
      omega
    have hdays : daysInMonth (year + era * 400 + 1) 2 = if isLeap (year + era * 400 + 1) then 29 else 28 := rfl
    have hleap : day = 365 → isLeap (year + era * 400 + 1) = true := by
      intro heq
      have hrule := h.leapDay heq
      rw [isLeap_iff]
      omega
    rw [hmonth, hlast, if_pos (by decide)]
    show _ ≤ ((daysInMonth (year + era * 400 + 1) 2 : Nat) : Int)
    rw [hdays]
    by_cases heq : day = 365
    · rw [if_pos (hleap heq), heq]
      decide
    · split <;> omega
  · have hlength := length_le_daysInMonth (year + era * 400 + (if month ≤ 2 then 1 else 0)) (m := m) (by omega)
    have hnext : dayOfMonth ≤ (153 * (m + 1) + 2) / 5 - (153 * m + 2) / 5 := by omega
    exact hnext.trans hlength

/-! ### Dates -/

theorem yearInRange_iff (year : Int) : yearInRange year = true ↔ -262143 ≤ year ∧ year ≤ 262142 := by
  simp [yearInRange]

theorem Time.isValid_iff (t : Time) :
    t.isValid = true ↔ t.hour ≤ 23 ∧ t.minute ≤ 59 ∧ t.second ≤ 60 ∧ t.nano < 1000000000 := by
  simp [Time.isValid, and_assoc]

theorem DateTime.isValid_iff (t : DateTime) :
    t.isValid = true ↔ t.date.isValid = true ∧ t.time.isValid = true := by
  simp [DateTime.isValid]

theorem Date.isValid_iff (d : Date) :
    d.isValid = true ↔ (-262143 ≤ d.year ∧ d.year ≤ 262142) ∧ (1 ≤ d.month ∧ d.month ≤ 12) ∧
      1 ≤ d.day ∧ d.day ≤ daysInMonth d.year d.month := by
  simp [Date.isValid, yearInRange, and_assoc]

theorem Date.isValid_ofDays (days : Int) (h : yearInRange (Date.ofDays days).year = true) :
    (Date.ofDays days).isValid = true := by
  have hera : 0 ≤ (days + 719468) % 146097 ∧ (days + 719468) % 146097 ≤ 146096 := by omega
  obtain ⟨hmonth, hmonth', hday, hday'⟩ :=
    month_of_day (marchYear_of_dayOfEra hera) ((days + 719468) / 146097)
  rw [Date.isValid_iff]
  refine ⟨(yearInRange_iff _).1 h, ?_, ?_⟩
  · show 1 ≤ Int.toNat _ ∧ Int.toNat _ ≤ 12
    omega
  · show 1 ≤ Int.toNat _ ∧ Int.toNat _ ≤ _
    exact ⟨by omega, Int.toNat_le.2 hday'⟩

/-- The year of a day is at most one year away from its era. -/
theorem Date.year_ofDays (days : Int) :
    400 * ((days + 719468) / 146097) ≤ (Date.ofDays days).year ∧
      (Date.ofDays days).year ≤ 400 * ((days + 719468) / 146097) + 400 := by
  have hera : 0 ≤ (days + 719468) % 146097 ∧ (days + 719468) % 146097 ≤ 146096 := by omega
  have hyear := (marchYear_of_dayOfEra hera).yearBound
  simp only [Date.ofDays]
  split_ifs <;> omega

theorem DateTime.isValid_ofSeconds? {s : Int} {t : DateTime} (h : DateTime.ofSeconds? s = some t) :
    t.isValid = true := by
  simp only [DateTime.ofSeconds?] at h
  split at h
  · next hyear =>
    obtain rfl := Option.some.inj h
    refine (DateTime.isValid_iff _).2 ⟨Date.isValid_ofDays _ hyear, (Time.isValid_iff _).2 ?_⟩
    dsimp only
    omega
  · cases h

theorem daysInMonth_le (year : Int) (month : Nat) : daysInMonth year month ≤ 31 := by
  unfold daysInMonth
  split_ifs <;> omega

theorem Date.toDays_bounds {d : Date} (h : d.isValid = true) (hyear : 0 ≤ d.year ∧ d.year ≤ 9999) :
    -800000 ≤ d.toDays ∧ d.toDays ≤ 3700000 := by
  obtain ⟨-, hmonth, hday, hday'⟩ := (Date.isValid_iff d).1 h
  have hlast := hday'.trans (daysInMonth_le _ _)
  simp only [Date.toDays]
  split_ifs <;> omega

theorem DateTime.isValid_minusMinutes {t : DateTime} (h : t.isValid = true)
    (hyear : 0 ≤ t.date.year ∧ t.date.year ≤ 9999) {n : Int} (hn : -1440 ≤ n ∧ n ≤ 1440) :
    (t.minusMinutes n).isValid = true := by
  obtain ⟨hdate, htime⟩ := (DateTime.isValid_iff t).1 h
  have hdays := Date.toDays_bounds hdate hyear
  obtain ⟨hhour, hminute, hsecond, hnano⟩ := (Time.isValid_iff _).1 htime
  have hrange : yearInRange (t.minusMinutes n).date.year = true := by
    have hera := Date.year_ofDays ((t.date.toDays * 1440 + t.time.hour * 60 + t.time.minute - n) / 1440)
    rw [yearInRange_iff]
    dsimp only [DateTime.minusMinutes]
    omega
  refine (DateTime.isValid_iff _).2 ⟨Date.isValid_ofDays _ hrange, (Time.isValid_iff _).2 ?_⟩
  dsimp only [DateTime.minusMinutes]
  omega

/-! ### Dates that are read -/

theorem scanNumber_lt {least most n : Nat} {cs rest : List Char} (h : scanNumber least most cs = some (n, rest)) :
    n < 10 ^ most := by
  simp only [scanNumber] at h
  split at h
  · cases h
  · obtain ⟨rfl, -⟩ := Prod.mk.inj (Option.some.inj h)
    have hdigits : ∀ c ∈ (cs.takeWhile Char.isDigit).take most, c.isDigit = true :=
      fun c hc => List.mem_takeWhile_imp (List.mem_of_mem_take hc)
    calc Number.foldDigits _ 0 < (0 + 1) * 10 ^ ((cs.takeWhile Char.isDigit).take most).length :=
          Number.foldDigits_lt hdigits 0
      _ = 10 ^ ((cs.takeWhile Char.isDigit).take most).length := Nat.one_mul _
      _ ≤ 10 ^ most := Nat.pow_le_pow_right (by decide) (List.length_take_le _ _)

/-- An item that reads no year. -/
def Item.keepsYear : Item → Bool
  | .relaxed .year | .strict .year => false
  | _ => true

theorem Item.read_year {i : Item} (hi : i.keepsYear = true) {t u : DateTime}
    {cs rest : List Char} (h : i.read t cs = some (u, rest)) : u.date.year = t.date.year := by
  unfold Item.read at h
  split at h
  · cases hi
  · next p hp =>
    obtain ⟨⟨n, r⟩, -, hput⟩ := Option.map_eq_some_iff.1 h
    obtain ⟨rfl, -⟩ := Prod.mk.inj hput
    cases p <;> first | rfl | exact absurd rfl hp
  · next p =>
    obtain ⟨⟨n, r⟩, -, hput⟩ := Option.map_eq_some_iff.1 h
    obtain ⟨rfl, -⟩ := Prod.mk.inj hput
    cases p <;> first | rfl | cases hi
  · split at h
    · split at h
      · obtain ⟨rfl, -⟩ := Prod.mk.inj (Option.some.inj h)
        rfl
      · cases h
    · cases h
  · obtain ⟨rfl, -⟩ := Prod.mk.inj (Option.some.inj h)
    rfl
  · split at h
    · obtain ⟨⟨n, r⟩, -, hput⟩ := Option.map_eq_some_iff.1 h
      obtain ⟨rfl, -⟩ := Prod.mk.inj hput
      rfl
    · obtain ⟨rfl, -⟩ := Prod.mk.inj (Option.some.inj h)
      rfl

theorem Layout.scan_year {l : Layout} (hl : ∀ i ∈ l, i.keepsYear = true) {t u : DateTime}
    {cs rest : List Char} (h : l.scan t cs = some (u, rest)) : u.date.year = t.date.year := by
  induction l generalizing t cs with
  | nil =>
    obtain ⟨rfl, rfl⟩ := Prod.mk.inj (Option.some.inj h)
    rfl
  | cons i l ih =>
    obtain ⟨⟨v, after⟩, hread, hscan⟩ := Option.bind_eq_some_iff.1 h
    rw [ih (fun j hj => hl j (List.mem_cons_of_mem _ hj)) hscan, Item.read_year (hl i List.mem_cons_self) hread]

theorem offsetLayout_year {t : DateTime} {cs rest : List Char}
    (h : offsetLayout.scan blankDateTime cs = some (t, rest)) : 0 ≤ t.date.year ∧ t.date.year ≤ 9999 := by
  obtain ⟨⟨u, after⟩, hread, hscan⟩ := Option.bind_eq_some_iff.1 h
  have hsame := Layout.scan_year (by decide) hscan
  obtain ⟨⟨n, r⟩, hnumber, hput⟩ := Option.map_eq_some_iff.1 hread
  obtain ⟨rfl, -⟩ := Prod.mk.inj hput
  have hlt : n < 10 ^ 4 := scanNumber_lt hnumber
  rw [hsame]
  show 0 ≤ (n : Int) ∧ (n : Int) ≤ 9999
  omega

theorem readOffset?_bounds {cs : List Char} {n : Int} (h : readOffset? cs = some n) :
    -1440 ≤ n ∧ n ≤ 1440 := by
  unfold readOffset? at h
  split at h
  · obtain rfl := Option.some.inj h
    decide
  · obtain rfl := Option.some.inj h
    decide
  · dsimp only at h
    split_ifs at h <;> (obtain rfl := Option.some.inj h) <;> omega
  · cases h

theorem Layout.isValid_read? {l : Layout} {cs : List Char} {t : DateTime} (h : l.read? cs = some t) :
    t.isValid = true := by
  unfold Layout.read? at h
  split at h
  · split at h
    · next hvalid =>
      obtain rfl := Option.some.inj h
      exact hvalid
    · cases h
  · cases h

theorem isValid_readOffsetForm? {cs : List Char} {t : DateTime} (h : readOffsetForm? cs = some t) :
    t.isValid = true := by
  obtain ⟨⟨u, rest⟩, hscan, h⟩ := Option.bind_eq_some_iff.1 h
  obtain ⟨n, hoffset, h⟩ := Option.bind_eq_some_iff.1 h
  split at h
  · next hvalid =>
    obtain rfl := Option.some.inj h
    exact DateTime.isValid_minusMinutes hvalid (offsetLayout_year hscan) (readOffset?_bounds hoffset)
  · cases h

theorem DateTime.isValid_read? {s : String} {t : DateTime} (h : DateTime.read? s = some t) :
    t.isValid = true := by
  simp only [DateTime.read?, Option.orElse_eq_orElse, Option.orElse_eq_or, Option.or_eq_some_iff] at h
  obtain h | ⟨-, h | ⟨-, h | ⟨-, h⟩⟩⟩ := h
  · exact Layout.isValid_read? h
  · exact Layout.isValid_read? h
  · exact Layout.isValid_read? h
  · exact isValid_readOffsetForm? h

end SqlKit.Calendar
