import SqlKit.Number.Reading
import SqlKit.Proofs.CalendarDays
import SqlKit.Proofs.Lists

/-!
# Stored date-times are read back

The text that a date-time is stored as is read as the same date and time without the fraction of its
second: years with a sign and leap seconds included. The text is no whole number, no floating-point
number and no word for a truth value.
-/

namespace SqlKit.Calendar
open Number (padded foldDigits foldDigits_padded isDigit_of_mem_padded length_padded length_padded_pos)

/-! ### Numbers in a layout -/

theorem scanNumber_append {least most : Nat} {ds rest : List Char} (hdigits : ∀ c ∈ ds, c.isDigit = true)
    (hrest : ∀ c ∈ rest.head?, c.isDigit = false) (hleast : least ≤ ds.length) (hmost : ds.length ≤ most) :
    scanNumber least most (ds ++ rest) = some (foldDigits ds 0, rest) := by
  have hspan : ((ds ++ rest).takeWhile Char.isDigit).take most = ds := by
    rw [takeWhile_append_stop hdigits hrest, List.take_of_length_le hmost]
  simp [scanNumber, hspan, Nat.not_lt_of_le hleast]

theorem scanNumber_padded {width n : Nat} (hwidth : 0 < width) (h : n < 10 ^ width) {rest : List Char}
    (hrest : ∀ c ∈ rest.head?, c.isDigit = false) :
    scanNumber 1 width (padded width n ++ rest) = some (n, rest) := by
  have hlength := length_padded hwidth h
  rw [scanNumber_append (fun c => isDigit_of_mem_padded) hrest (by omega) (by omega), foldDigits_padded]

theorem trimLeft_of_head {cs : List Char} (h : ∀ c ∈ cs.head?, Text.isBlank c = false) :
    Text.trimLeft cs = cs := by
  cases cs with
  | nil => rfl
  | cons c cs => simp [Text.trimLeft, h c rfl]

theorem isBlank_of_isDigit {c : Char} (h : c.isDigit = true) : Text.isBlank c = false := by
  simp only [Char.isDigit, Bool.and_eq_true, decide_eq_true_eq, UInt32.le_iff_toNat_le] at h
  have hlow : 48 ≤ c.toNat := h.1
  have hhigh : c.toNat ≤ 57 := h.2
  by_contra hblank
  obtain ⟨r, hr, hc⟩ := (Text.Ranges.has_iff _ _).1 (Bool.eq_true_of_not_eq_false hblank)
  simp only [Text.blankRanges, List.mem_cons, List.not_mem_nil, or_false] at hr
  rcases hr with rfl | rfl | rfl | rfl | rfl | rfl | rfl | rfl | rfl | rfl <;> omega

/-! ### The stored form, item by item -/

theorem head_padded {width n : Nat} {rest : List Char} :
    ∀ c ∈ (padded width n ++ rest).head?, c.isDigit = true := by
  intro c hc
  rw [List.head?_append_of_ne_nil _ (List.ne_nil_of_length_pos (length_padded_pos width n))] at hc
  exact isDigit_of_mem_padded (List.mem_of_mem_head? hc)

theorem trimLeft_padded (width n : Nat) (rest : List Char) :
    Text.trimLeft (padded width n ++ rest) = padded width n ++ rest :=
  trimLeft_of_head fun c hc => isBlank_of_isDigit (head_padded c hc)

theorem scanYear_yearChars (y : Int) {rest : List Char} (hrest : ∀ c ∈ rest.head?, c.isDigit = false) :
    scanYear (yearChars y ++ rest) = some (y, rest) := by
  have hsigned : scanNumber 1 (padded 4 y.natAbs ++ rest).length (padded 4 y.natAbs ++ rest)
      = some (y.natAbs, rest) := by
    rw [scanNumber_append (fun c => isDigit_of_mem_padded) hrest (length_padded_pos _ _) (by simp),
      foldDigits_padded]
  unfold yearChars
  split_ifs with hnegative hlarge
  · have hvalue : -(y.natAbs : Int) = y := by omega
    rw [List.cons_append, scanYear, hsigned]
    exact congrArg (fun i => some (i, rest)) hvalue
  · have hvalue : (y.natAbs : Int) = y := by omega
    rw [List.cons_append, scanYear, hsigned]
    exact congrArg (fun i => some (i, rest)) hvalue
  · have hvalue : (y.natAbs : Int) = y := by omega
    have hplain : scanYear (padded 4 y.natAbs ++ rest)
        = (scanNumber 1 4 (padded 4 y.natAbs ++ rest)).map fun found => ((found.1 : Int), found.2) := by
      have hhead : ∀ c ∈ (padded 4 y.natAbs ++ rest).head?, c.isDigit = true := head_padded
      unfold scanYear
      split
      · next heq => exact absurd (hhead '-' (by rw [heq]; rfl)) (by decide)
      · next heq => exact absurd (hhead '+' (by rw [heq]; rfl)) (by decide)
      · rfl
    rw [hplain, scanNumber_padded (by decide) (by omega) hrest]
    exact congrArg (fun i => some (i, rest)) hvalue

theorem read_year (t : DateTime) (y : Int) (rest : List Char) :
    (Item.relaxed .year).read t (yearChars y ++ '-' :: rest) = some (t.put .year y, '-' :: rest) := by
  have htrim : Text.trimLeft (yearChars y ++ '-' :: rest) = yearChars y ++ '-' :: rest := by
    unfold yearChars
    split_ifs
    · rfl
    · rfl
    · exact trimLeft_padded _ _ _
  rw [Item.read, htrim, scanYear_yearChars y (by simp)]
  rfl

theorem read_part (t : DateTime) {p : Part} (hp : p ≠ .year) {n : Nat} (hn : n < 100) {rest : List Char}
    (hrest : ∀ c ∈ rest.head?, c.isDigit = false) :
    (Item.relaxed p).read t (padded 2 n ++ rest) = some (t.put p n, rest) := by
  have hwidth : p.width = 2 := by cases p <;> first | rfl | exact absurd rfl hp
  have hread : (Item.relaxed p).read t (padded 2 n ++ rest) =
      (scanNumber 1 p.width (Text.trimLeft (padded 2 n ++ rest))).map fun found => (t.put p found.1, found.2) := by
    cases p <;> first | rfl | exact absurd rfl hp
  rw [hread, trimLeft_padded, hwidth, scanNumber_padded (by decide) hn hrest]
  rfl

theorem scan_mark (t : DateTime) (c : Char) (l : Layout) (rest : List Char) :
    Layout.scan (.mark [c] :: l) t (c :: rest) = l.scan t rest := by
  simp [Layout.scan, Item.read]

theorem scan_year (t : DateTime) (y : Int) (l : Layout) (rest : List Char) :
    Layout.scan (.relaxed .year :: l) t (yearChars y ++ '-' :: rest) = l.scan (t.put .year y) ('-' :: rest) := by
  rw [Layout.scan, read_year]
  rfl

theorem scan_part (t : DateTime) {p : Part} (hp : p ≠ .year) {n : Nat} (hn : n < 100) (l : Layout)
    {rest : List Char} (hrest : ∀ c ∈ rest.head?, c.isDigit = false) :
    Layout.scan (.relaxed p :: l) t (padded 2 n ++ rest) = l.scan (t.put p n) rest := by
  rw [Layout.scan, read_part t hp hn hrest]
  rfl

theorem scan_date (t : DateTime) {d : Date} (hmonth : d.month < 100) (hday : d.day < 100) (l : Layout)
    {rest : List Char} (hrest : ∀ c ∈ rest.head?, c.isDigit = false) :
    Layout.scan (dateItems .relaxed ++ l) t (d.chars ++ rest) = l.scan { t with date := d } rest := by
  have hchars : d.chars ++ rest
      = yearChars d.year ++ '-' :: (padded 2 d.month ++ '-' :: (padded 2 d.day ++ rest)) := by
    simp [Date.chars]
  rw [hchars]
  show Layout.scan (.relaxed .year :: .mark ['-'] :: .relaxed .month :: .mark ['-'] :: .relaxed .day :: l) _ _ = _
  rw [scan_year, scan_mark, scan_part _ (by decide) hmonth _ (by simp), scan_mark, scan_part _ (by decide) hday _ hrest]
  rfl

theorem scan_time (t : DateTime) {m : Time} (hhour : m.hour < 100) (hminute : m.minute < 100)
    (hsecond : m.second < 100) :
    Layout.scan (timeItems .relaxed) t m.chars = some (⟨t.date, { m with nano := t.time.nano }⟩, []) := by
  have hchars : m.chars = padded 2 m.hour ++ ':' :: (padded 2 m.minute ++ ':' :: (padded 2 m.second ++ [])) := by
    simp [Time.chars]
  rw [hchars]
  show Layout.scan (.relaxed .hour :: .mark [':'] :: .relaxed .minute :: .mark [':'] :: .relaxed .second :: []) _ _ = _
  rw [scan_part _ (by decide) hhour _ (by simp), scan_mark, scan_part _ (by decide) hminute _ (by simp), scan_mark,
    scan_part _ (by decide) hsecond _ (by simp)]
  rfl

/-- A valid date-time in its stored form, read by the layout of that form. -/
theorem spacedLayout_stored {t : DateTime} (h : t.isValid = true) :
    spacedLayout.read? t.stored.toList = some t.truncated := by
  obtain ⟨hdate, htime⟩ := (DateTime.isValid_iff t).1 h
  obtain ⟨-, ⟨-, hmonth⟩, -, hday⟩ := (Date.isValid_iff _).1 hdate
  obtain ⟨hhour, hminute, hsecond, -⟩ := (Time.isValid_iff _).1 htime
  have hlast := hday.trans (daysInMonth_le _ _)
  have hblank : Text.trimLeft (' ' :: t.time.chars) = t.time.chars := by
    have hskip : Text.trimLeft (' ' :: t.time.chars) = Text.trimLeft t.time.chars :=
      List.dropWhile_cons_of_pos (by decide)
    rw [hskip, Time.chars, List.append_assoc]
    exact trimLeft_padded _ _ _
  have hscan : spacedLayout.scan blankDateTime t.stored.toList = some (t.truncated, []) := by
    rw [DateTime.stored, String.toList_ofList, spacedLayout, scan_date _ (by omega) (by omega) _ (by simp)]
    rw [Layout.scan, Item.read, hblank, Option.bind_some]
    simp only
    rw [scan_time _ (by omega) (by omega) (by omega)]
    rfl
  have hvalid : t.truncated.isValid = true :=
    (DateTime.isValid_iff _).2 ⟨hdate, (Time.isValid_iff _).2 ⟨hhour, hminute, hsecond, Nat.zero_lt_succ _⟩⟩
  simp [Layout.read?, hscan, hvalid]

/-! ### The stored form as a whole -/

theorem trimChars_of_ends {cs : List Char} (hhead : ∀ c ∈ cs.head?, Text.isBlank c = false)
    (hlast : ∀ c ∈ cs.getLast?, Text.isBlank c = false) : Text.trimChars cs = cs := by
  have hright : Text.trimRight cs = cs := by
    have hreverse : Text.trimLeft cs.reverse = cs.reverse :=
      trimLeft_of_head (by rwa [List.head?_reverse])
    exact (congrArg List.reverse hreverse).trans (List.reverse_reverse cs)
  rw [Text.trimChars, trimLeft_of_head hhead, hright]

theorem yearChars_shape (y : Int) : ∃ sign ds, yearChars y = sign ++ ds ∧
    (sign = [] ∨ sign = ['-'] ∨ sign = ['+']) ∧ ds ≠ [] ∧ ∀ c ∈ ds, c.isDigit = true := by
  have hne : padded 4 y.natAbs ≠ [] := List.ne_nil_of_length_pos (length_padded_pos _ _)
  have hdigits : ∀ c ∈ padded 4 y.natAbs, c.isDigit = true := fun c => isDigit_of_mem_padded
  unfold yearChars
  split_ifs
  · exact ⟨['-'], _, rfl, .inr (.inl rfl), hne, hdigits⟩
  · exact ⟨['+'], _, rfl, .inr (.inr rfl), hne, hdigits⟩
  · exact ⟨[], _, rfl, .inl rfl, hne, hdigits⟩

/-- The stored form begins with a year and a dash. -/
theorem stored_shape (t : DateTime) : ∃ sign ds rest, t.stored.toList = sign ++ (ds ++ '-' :: rest) ∧
    (sign = [] ∨ sign = ['-'] ∨ sign = ['+']) ∧ ds ≠ [] ∧ ∀ c ∈ ds, c.isDigit = true := by
  obtain ⟨sign, ds, hyear, hsign, hne, hdigits⟩ := yearChars_shape t.date.year
  refine ⟨sign, ds, padded 2 t.date.month ++ '-' :: padded 2 t.date.day ++ ' ' :: t.time.chars, ?_, hsign, hne,
    hdigits⟩
  rw [DateTime.stored, String.toList_ofList, Date.chars, hyear]
  simp only [List.append_assoc, List.cons_append]

theorem trimChars_stored (t : DateTime) : Text.trimChars t.stored.toList = t.stored.toList := by
  refine trimChars_of_ends (fun c hc => ?_) (fun c hc => ?_)
  · obtain ⟨sign, ds, rest, hshape, hsign, hne, hdigits⟩ := stored_shape t
    obtain ⟨d, ds, rfl⟩ := List.exists_cons_of_ne_nil hne
    rw [hshape] at hc
    rcases hsign with rfl | rfl | rfl
    · obtain rfl := Option.some.inj hc
      exact isBlank_of_isDigit (hdigits _ List.mem_cons_self)
    · obtain rfl := Option.some.inj hc
      decide
    · obtain rfl := Option.some.inj hc
      decide
  · have hne : padded 2 t.time.second ≠ [] := List.ne_nil_of_length_pos (length_padded_pos _ _)
    have htail : t.stored.toList = (t.date.chars ++ ' ' :: (padded 2 t.time.hour ++ ':' :: padded 2 t.time.minute
        ++ [':'])) ++ padded 2 t.time.second := by
      simp [DateTime.stored, Time.chars]
    rw [htail, List.getLast?_append_of_ne_nil _ hne] at hc
    exact isBlank_of_isDigit (isDigit_of_mem_padded (List.mem_of_getLast? hc))

theorem DateTime.read?_stored {t : DateTime} (h : t.isValid = true) :
    DateTime.read? t.stored = some t.truncated := by
  rw [DateTime.read?, trimChars_stored, spacedLayout_stored h]
  rfl

/-! ### What the stored form is not -/

section
variable {ds rest : List Char} (hne : ds ≠ []) (hdigits : ∀ c ∈ ds, c.isDigit = true)
include hne hdigits

theorem ne_cons_of_digits {c : Char} (hc : c.isDigit = false) (cs : List Char) : ds ++ rest ≠ c :: cs := by
  obtain ⟨d, ds, rfl⟩ := List.exists_cons_of_ne_nil hne
  have hd := hdigits d List.mem_cons_self
  intro heq
  obtain ⟨rfl, -⟩ := List.cons.inj heq
  rw [hc] at hd
  cases hd

theorem readInt?_dashed {sign : List Char} (hsign : sign = [] ∨ sign = ['-'] ∨ sign = ['+']) :
    Number.readInt? (sign ++ (ds ++ '-' :: rest)) = none := by
  have hdash : Number.readDigits? (ds ++ '-' :: rest) = none :=
    Number.readDigits?_of_mark (c := '-') (by simp) (by decide)
  rcases hsign with rfl | rfl | rfl
  · rw [List.nil_append]
    unfold Number.readInt? Number.readNat?
    split
    · next heq => exact absurd heq (ne_cons_of_digits hne hdigits (by decide) _)
    · split
      · next heq => exact absurd heq (ne_cons_of_digits hne hdigits (by decide) _)
      · rw [hdash]
        rfl
  · simp [Number.readInt?, hdash]
  · simp [Number.readInt?, Number.readNat?, hdash]

/-- Behind the digits of a number no dash can stand. -/
theorem readMagnitude?_dashed (negative : Bool) :
    Number.readMagnitude? negative (ds ++ '-' :: rest) = none := by
  have hmem : '-' ∈ (ds ++ '-' :: rest).map Char.toLower :=
    List.mem_map.2 ⟨'-', by simp, by decide⟩
  have hword : ∀ word : List Char, '-' ∉ word → (ds ++ '-' :: rest).map Char.toLower ≠ word := by
    rintro word hword rfl
    exact hword hmem
  have hspan : Number.spanDigits (ds ++ '-' :: rest) = (ds, '-' :: rest) := by
    rw [Number.spanDigits, takeWhile_append_stop hdigits (by simp),
      List.dropWhile_append_of_pos hdigits]
    rfl
  have hnumber : Number.readUnsigned? negative (ds ++ '-' :: rest) = none := by
    simp [Number.readUnsigned?, hspan, hne, Number.readExponent?]
  have hinfinite : ¬((ds ++ '-' :: rest).map Char.toLower = "inf".toList ∨
      (ds ++ '-' :: rest).map Char.toLower = "infinity".toList) :=
    not_or.2 ⟨hword _ (by decide), hword _ (by decide)⟩
  have hnan : (ds ++ '-' :: rest).map Char.toLower ≠ "nan".toList := hword _ (by decide)
  rw [Number.readMagnitude?, if_neg hinfinite, if_neg hnan, hnumber]

theorem read?_dashed {sign : List Char} (hsign : sign = [] ∨ sign = ['-'] ∨ sign = ['+']) :
    Number.Binary64.read? (sign ++ (ds ++ '-' :: rest)) = none := by
  have hmagnitude : ∀ negative, Number.readMagnitude? negative (ds ++ '-' :: rest) = none :=
    readMagnitude?_dashed hne hdigits
  rcases hsign with rfl | rfl | rfl
  · rw [List.nil_append]
    unfold Number.Binary64.read?
    split
    · next heq => exact absurd heq (ne_cons_of_digits hne hdigits (by decide) _)
    · next heq => exact absurd heq (ne_cons_of_digits hne hdigits (by decide) _)
    · exact hmagnitude false
  · exact hmagnitude true
  · exact hmagnitude false
end

theorem readInt64?_stored (t : DateTime) : Number.readInt64? t.stored.toList = none := by
  obtain ⟨sign, ds, rest, hshape, hsign, hne, hdigits⟩ := stored_shape t
  rw [hshape, Number.readInt64?, readInt?_dashed hne hdigits hsign]
  rfl

theorem readBinary64?_stored (t : DateTime) : Number.Binary64.read? t.stored.toList = none := by
  obtain ⟨sign, ds, rest, hshape, hsign, hne, hdigits⟩ := stored_shape t
  rw [hshape, read?_dashed hne hdigits hsign]

end SqlKit.Calendar
