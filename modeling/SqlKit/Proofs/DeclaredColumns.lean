import SqlKit.Proofs.DeclarationReading

/-!
# Keys in column definitions

The type of a column and its modifiers are quiet text: none of it declares a key, and it closes the
parentheses that it opens. So a column definition declares one key if the engine numbers the column, and
none otherwise. Words that are written as they were given, such as expressions for defaults, have to be
quiet themselves, which plain words are unless they are key words that declare something.
-/

namespace SqlKit.Declarations
open Schema

variable {d : Dialect} {n k m : Nat}

/-! ## Quiet text -/

/-- Symbols that declare nothing and lead from `n` open parentheses to `k`. -/
def quietly (n k : Nat) (ss : List Symbol) : Bool :=
  decide (levelAfter? ss n = some k) && ss.all fun x => !x.declares

theorem quietly_iff {ss : List Symbol} :
    quietly n k ss = true ↔ levelAfter? ss n = some k ∧ ∀ s ∈ ss, s.declares = false := by
  simp [quietly]

theorem quietly_append {ss ts : List Symbol} (hs : quietly n k ss = true) (ht : quietly k m ts = true) :
    quietly n m (ss ++ ts) = true := by
  simp only [quietly, Bool.and_eq_true, decide_eq_true_eq] at hs ht ⊢
  refine ⟨by rw [levelAfter_append, hs.1, Option.bind_some, ht.1], ?_⟩
  rw [List.all_append, hs.2, ht.2, Bool.and_self]

/-- Text that is read as such symbols. -/
def Quiet (d : Dialect) (n k : Nat) (s : String) : Prop :=
  ∃ ss, symbols? d s = some ss ∧ quietly n k ss = true

def Follows (d : Dialect) (n k : Nat) (s : String) : Prop := Quiet d n k s ∧ Apart s

def QuietWord (n k : Nat) (w : String) : Prop :=
  unquoted w = true ∧ (symbols? .mysql w).any (quietly n k) = true

instance (w : String) : Decidable (QuietWord n k w) := inferInstanceAs (Decidable (_ ∧ _))

def QuietLead (n k : Nat) (w : String) : Prop :=
  unquoted w = true ∧ (Mode.outside.scan .mysql w.toList).2 = .outside ∧
    quietly n k (Mode.outside.scan .mysql w.toList).1 = true

instance (w : String) : Decidable (QuietLead n k w) := inferInstanceAs (Decidable (_ ∧ _ ∧ _))

def QuietLink (n k : Nat) (w : String) : Prop := QuietLead n k w ∧ Apart w ∧ w ≠ ""

instance (w : String) : Decidable (QuietLink n k w) := inferInstanceAs (Decidable (_ ∧ _ ∧ _))

section
variable {s t w : String}

theorem Quiet.append (hs : Quiet d n k s) (ht : Follows d k m t) : Quiet d n m (s ++ t) := by
  obtain ⟨ss, hss, hquiet⟩ := hs
  obtain ⟨⟨ts, hts, hquiet'⟩, hapart⟩ := ht
  exact ⟨ss ++ ts, symbols?_append hss hts hapart, quietly_append hquiet hquiet'⟩

theorem Follows.append (hs : Follows d n k s) (ht : Follows d k m t) : Follows d n m (s ++ t) :=
  ⟨hs.1.append ht, apart_append hs.2 ht.2⟩

theorem quietly_nil : quietly n n [] = true := by simp [quietly, levelAfter?]

theorem quietly_singleton {x : Symbol} (hlevel : x.level? n = some n) (h : x.declares = false) :
    quietly n n [x] = true := by
  simp [quietly, levelAfter?, hlevel, h]

theorem quiet_empty : Quiet d n n "" := ⟨[], rfl, quietly_nil⟩

theorem follows_empty : Follows d n n "" := ⟨quiet_empty, by simp [Apart]⟩

theorem QuietWord.quiet (h : QuietWord n k w) : Quiet d n k w := by
  obtain ⟨hplain, hquiet⟩ := h
  obtain ⟨ws, hws, hquiet⟩ := (Option.any_eq_true _ _).1 hquiet
  exact ⟨ws, Says.symbols ⟨hplain, hws⟩, hquiet⟩

theorem QuietLead.before (h : QuietLead n k w) (ht : Quiet d k m t) : Quiet d n m (w ++ t) := by
  obtain ⟨hplain, hmode, hquiet⟩ := h
  obtain ⟨ts, hts, hquiet'⟩ := ht
  exact ⟨_, Clear.before ⟨hplain, Prod.ext rfl hmode⟩ hts, quietly_append hquiet hquiet'⟩

theorem QuietLink.before (h : QuietLink n k w) (ht : Quiet d k m t) : Follows d n m (w ++ t) :=
  ⟨h.1.before ht, apart_before h.2.1 h.2.2⟩

theorem quiet_quote (text : String) : Quiet d n n (Value.quote text) :=
  ⟨[.literal text], symbols?_quote text, quietly_singleton rfl rfl⟩

theorem quiet_name {name : String} (h : Simple d name) : Quiet d n n (quoteName d name) :=
  ⟨[.name name], symbols?_name h, quietly_singleton rfl rfl⟩

theorem quiet_intercalate {l : List String} (hw : QuietLink n n w) (h : ∀ x ∈ l, Quiet d n n x) :
    Quiet d n n (w.intercalate l) := by
  induction l with
  | nil => exact quiet_empty
  | cons x l ih =>
    have hfirst := h x List.mem_cons_self
    have hrest := ih fun y hy => h y (List.mem_cons_of_mem x hy)
    by_cases hnil : l = []
    · rw [hnil, String.intercalate_singleton]
      exact hfirst
    · rw [String.intercalate_cons_of_ne_nil hnil, String.append_assoc]
      exact hfirst.append (hw.before hrest)

theorem follows_option {word : String} {write : String → String} {o : Option String}
    (hword : QuietLink n n word) (h : ∀ a ∈ o, Quiet d n n (write a)) :
    Follows d n n (option word write o) := by
  cases o with
  | none => exact follows_empty
  | some a => exact hword.before (h a rfl)

end

/-! ## Plain words -/

/-- A word that declares something has an E or an R in it. -/
theorem declares_ofWord {text : List Char} (hE : 'E' ∉ text.map Char.toUpper)
    (hR : 'R' ∉ text.map Char.toUpper) : (Symbol.ofWord text).declares = false := by
  have hall : keywords.all (fun entry => !entry.2.declares || entry.1.toList.any (fun c => c == 'E' || c == 'R')) =
      true := by decide +kernel
  unfold Symbol.ofWord
  cases hnamed : Keyword.named? text with
  | none => rfl
  | some keyword =>
    obtain ⟨entry, hfound, rfl⟩ := Option.map_eq_some_iff.1 hnamed
    have htext : entry.1 = String.ofList (text.map Char.toUpper) := by
      simpa using List.find?_some hfound
    have hentry := List.all_eq_true.1 hall entry (List.mem_of_find?_eq_some hfound)
    rw [htext, String.toList_ofList] at hentry
    have hnone : (text.map Char.toUpper).any (fun c => c == 'E' || c == 'R') = false := by
      rw [List.any_eq_false]
      intro c hc
      have hcE : c ≠ 'E' := fun he => hE (he ▸ hc)
      have hcR : c ≠ 'R' := fun he => hR (he ▸ hc)
      simp [hcE, hcR]
    rw [hnone] at hentry
    simpa [Symbol.declares] using hentry

theorem isQuote_of_isWordChar {c : Char} (h : Store.isWordChar c = true) : isQuote d c = false := by
  refine isQuote_of_mysql (Bool.eq_false_iff.2 fun hquote => ?_)
  have hc : c = '\'' ∨ c = '"' ∨ c = '`' := by
    simpa [isQuote, quoteChar, or_assoc] using hquote
  obtain rfl | rfl | rfl := hc <;> revert h <;> decide

/-- A character of a number that is written out. -/
def Numeric (c : Char) : Prop :=
  (c = '-' ∨ c = '.' ∨ Store.isWordChar c = true) ∧ c.toUpper ≠ 'E' ∧ c.toUpper ≠ 'R'

instance (c : Char) : Decidable (Numeric c) := inferInstanceAs (Decidable (_ ∧ _))

theorem quiet_ofWord {text : List Char} (h : ∀ c ∈ text, Numeric c) :
    quietly n n [.ofWord text] = true := by
  have hupper : ∀ x : Char, (∀ c ∈ text, c.toUpper ≠ x) → x ∉ text.map Char.toUpper := by
    intro x hx hmem
    obtain ⟨c, hc, rfl⟩ := List.mem_map.1 hmem
    exact hx c hc rfl
  have hdeclares := declares_ofWord (hupper 'E' fun c hc => (h c hc).2.1)
    (hupper 'R' fun c hc => (h c hc).2.2)
  have hlevel : (Symbol.ofWord text).level? n = some n := by
    unfold Symbol.ofWord
    split <;> rfl
  exact quietly_singleton hlevel hdeclares

namespace Mode

/-- A mode between two characters of a number. -/
def Counting : Mode → Prop
  | .outside => True
  | .word text => ∀ c ∈ text, Numeric c
  | _ => False

theorem counting_enter {c : Char} (h : Numeric c) :
    quietly n n (enter d c).1 = true ∧ (enter d c).2.Counting := by
  have hmark : c = '-' ∨ c = '.' → isQuote d c = false ∧ quietly n n [.ofMark c] = true ∧ c ≠ ' ' := by
    rintro (rfl | rfl)
    · exact ⟨isQuote_of_mysql (by decide), quietly_singleton rfl rfl, by decide⟩
    · exact ⟨isQuote_of_mysql (by decide), quietly_singleton rfl rfl, by decide⟩
  unfold enter
  by_cases hword : Store.isWordChar c = true
  · rw [isQuote_of_isWordChar hword, if_neg Bool.false_ne_true, if_pos hword]
    exact ⟨quietly_nil, by simpa [Counting] using h⟩
  · obtain ⟨hquote, hquiet, hblank⟩ := hmark (by simpa [hword] using h.1)
    rw [hquote, if_neg Bool.false_ne_true, if_neg hword, if_neg hblank]
    exact ⟨hquiet, trivial⟩

theorem counting_step {mode : Mode} (hm : mode.Counting) {c : Char} (h : Numeric c) :
    quietly n n (mode.step d c).1 = true ∧ (mode.step d c).2.Counting := by
  obtain ⟨hquiet, hafter⟩ := counting_enter (d := d) (n := n) h
  cases mode with
  | outside => exact ⟨hquiet, hafter⟩
  | word text =>
    simp only [step]
    split
    · exact ⟨quietly_nil, List.forall_mem_append.2 ⟨hm, by simpa using h⟩⟩
    · exact ⟨quietly_append (quiet_ofWord hm) hquiet, hafter⟩
  | inside => exact hm.elim
  | closing => exact hm.elim

theorem counting_scan {mode : Mode} (hm : mode.Counting) {cs : List Char} (h : ∀ c ∈ cs, Numeric c) :
    quietly n n (mode.scan d cs).1 = true ∧ (mode.scan d cs).2.Counting := by
  induction cs generalizing mode with
  | nil => exact ⟨quietly_nil, hm⟩
  | cons c cs ih =>
    obtain ⟨hfirst, hafter⟩ := counting_step (d := d) (n := n) hm (h c List.mem_cons_self)
    obtain ⟨hrest, hlast⟩ := ih hafter fun x hx => h x (List.mem_cons_of_mem c hx)
    exact ⟨quietly_append hfirst hrest, hlast⟩

end Mode

theorem quiet_number {s : String} (h : ∀ c ∈ s.toList, Numeric c) : Quiet d n n s := by
  have hstart : Mode.outside.Counting := trivial
  obtain ⟨hquiet, hlast⟩ := Mode.counting_scan (d := d) (n := n) hstart h
  have hfinish : ∀ mode : Mode, mode.Counting →
      ∃ last, mode.finish? d = some last ∧ quietly n n last = true := by
    intro mode hm
    cases mode with
    | outside => exact ⟨[], rfl, quietly_nil⟩
    | word text => exact ⟨_, rfl, quiet_ofWord hm⟩
    | inside => exact hm.elim
    | closing => exact hm.elim
  obtain ⟨last, hfinal, hquiet'⟩ := hfinish _ hlast
  exact ⟨_, by rw [symbols?, hfinal]; rfl, quietly_append hquiet hquiet'⟩

theorem numeric_of_isDigit (c : Char) (h : c.isDigit = true) : Numeric c := by
  have hdigit : 48 ≤ c.val ∧ c.val ≤ 57 := by simpa [Char.isDigit] using h
  have hsmall : ¬97 ≤ c.val := fun hc => absurd (UInt32.le_trans hc hdigit.2) (by decide)
  have hupper : c.toUpper = c := dif_neg fun hc => hsmall hc.1
  have hne : ∀ x : Char, x.isDigit = false → c ≠ x := by
    rintro x hx rfl
    rw [h] at hx
    cases hx
  refine ⟨Or.inr (Or.inr ?_), ?_, ?_⟩
  · simp [Store.isWordChar, Char.isAlphanum, h]
  · rw [hupper]
    exact hne 'E' rfl
  · rw [hupper]
    exact hne 'R' rfl

theorem quiet_natText (i : Nat) : Quiet d n n (Number.natText i) :=
  quiet_number (by simpa [Number.natText] using forall_digits numeric_of_isDigit)

theorem quiet_intText (i : Int) : Quiet d n n (Number.intText i) :=
  quiet_number (forall_intText numeric_of_isDigit (by decide) i)

theorem quiet_plainText (x : Number.Binary64) : Quiet d n n (Number.Style.plain.text x) := by
  have hother : ['-', '.', 'N', 'a', 'i', 'n', 'f'].all (fun c => decide (Numeric c)) = true := by decide
  refine quiet_number (forall_plainText numeric_of_isDigit (fun c hc => ?_) x)
  exact of_decide_eq_true (List.all_eq_true.1 hother c hc)

/-- A plain word, which is quiet unless it is a key word that declares something. -/
def Identifier (w : String) : Prop := ∀ c ∈ w.toList, Store.isWordChar c = true

instance (w : String) : Decidable (Identifier w) := List.decidableBAll _ w.toList

theorem Mode.scan_word {cs : List Char} (h : ∀ c ∈ cs, Store.isWordChar c = true) (text : List Char) :
    (Mode.word text).scan d cs = ([], .word (text ++ cs)) := by
  induction cs generalizing text with
  | nil => simp [scan]
  | cons c cs ih =>
    have hc := h c List.mem_cons_self
    simp [scan, step, hc, ih fun x hx => h x (List.mem_cons_of_mem c hx)]

theorem quiet_identifier {w : String} (h : Identifier w) (hquiet : (Symbol.ofWord w.toList).declares = false) :
    Quiet d n n w := by
  cases hchars : w.toList with
  | nil =>
    obtain rfl := String.toList_eq_nil_iff.1 hchars
    exact quiet_empty
  | cons c cs =>
    have hc := h c (by simp [hchars])
    have hrest : ∀ x ∈ cs, Store.isWordChar x = true := fun x hx => h x (by simp [hchars, hx])
    have hcs := Mode.scan_word (d := d) hrest [c]
    have hscan : Mode.outside.scan d w.toList = ([], .word w.toList) := by
      simp [hchars, Mode.scan, Mode.step, Mode.enter, isQuote_of_isWordChar hc, hc, hcs]
    have hlevel : (Symbol.ofWord w.toList).level? n = some n := by
      unfold Symbol.ofWord
      split <;> rfl
    exact ⟨[.ofWord w.toList], by simp [symbols?, hscan, Mode.finish?], quietly_singleton hlevel hquiet⟩

/-! ## Types -/

theorem Quiet.further {j : Nat} {s w t : String} (hs : Quiet d n k s) (hw : QuietLink k m w)
    (ht : Quiet d m j t) : Quiet d n j (s ++ w ++ t) := by
  rw [String.append_assoc]
  exact hs.append (hw.before ht)

theorem follows_word {w : String} (h : QuietWord n k w) (hapart : Apart w) : Follows d n k w :=
  ⟨h.quiet, hapart⟩

theorem follows_closing : Follows d 1 0 ")" := follows_word (by decide) (by decide)

theorem quiet_sized {word : String} (h : QuietLead 0 1 (word ++ "(")) (i : Nat) :
    Quiet d 0 0 (sized word i) :=
  (h.before (quiet_natText i)).append follows_closing

theorem quiet_decimal (p s : Nat) : Quiet d 0 0 (decimalText p s) := by
  have hopening : QuietLead 0 1 "DECIMAL(" := by decide
  have hcomma : QuietLink 1 1 ", " := by decide
  exact ((hopening.before (quiet_natText p)).further hcomma (quiet_natText s)).append follows_closing

theorem quiet_members (members : List String) :
    Quiet d 0 0 ("ENUM(" ++ ", ".intercalate (members.map Value.quote) ++ ")") := by
  have hopening : QuietLead 0 1 "ENUM(" := by decide
  have hcomma : QuietLink 1 1 ", " := by decide
  have hquoted : ∀ x ∈ members.map Value.quote, Quiet d 1 1 x := by
    intro x hx
    obtain ⟨text, -, rfl⟩ := List.mem_map.1 hx
    exact quiet_quote text
  exact (hopening.before (quiet_intercalate hcomma hquoted)).append follows_closing

theorem quiet_mysqlType (t : ColumnType) : Quiet d 0 0 (mysqlType t) := by
  cases t with
  | char i => exact quiet_sized (by decide) i
  | varchar i => exact quiet_sized (by decide) i
  | decimal p s => exact quiet_decimal p s
  | oneOf members => exact quiet_members members
  | _ => exact QuietWord.quiet (by decide)

theorem quiet_postgresType (t : ColumnType) : Quiet d 0 0 (postgresType t) := by
  have henum : QuietWord 0 0 "VARCHAR(255)" := by decide
  cases t with
  | char i => exact quiet_sized (by decide) i
  | varchar i => exact quiet_sized (by decide) i
  | decimal p s => exact quiet_decimal p s
  | oneOf _ => exact henum.quiet
  | _ => exact QuietWord.quiet (by decide)

theorem quiet_postgresCountedType (t : ColumnType) : Quiet d 0 0 (postgresCountedType t) := by
  cases t with
  | tinyInt | smallInt | int | bigInt => exact QuietWord.quiet (by decide)
  | _ => exact quiet_postgresType _

theorem quiet_sqliteType (t : ColumnType) : Quiet d 0 0 (sqliteType t) := by
  have hvarchar : QuietWord 0 0 "VARCHAR" := by decide
  have hnumeric : QuietWord 0 0 "NUMERIC" := by decide
  cases t with
  | char _ | varchar _ | oneOf _ => exact hvarchar.quiet
  | decimal _ _ => exact hnumeric.quiet
  | _ => exact QuietWord.quiet (by decide)

theorem quiet_typeText (c : Column) : Quiet d 0 0 (typeText d c) := by
  unfold typeText
  split
  · exact quiet_mysqlType c.type
  · split
    · exact quiet_postgresCountedType c.type
    · exact quiet_postgresType c.type
  · exact quiet_sqliteType c.type

/-! ## Modifiers -/

theorem quiet_blob (bytes : List UInt8) : Quiet d n n (Value.blob bytes).inline := by
  rw [inline_blob]
  exact ⟨_, symbols?_bytes _, quietly_append (quietly_singleton rfl rfl) (quietly_singleton rfl rfl)⟩

theorem quiet_default {v : Default} (h : ∀ sql, v = .expression sql → Quiet d 0 0 sql) :
    Quiet d 0 0 (v.text d) := by
  cases v with
  | expression sql => exact h sql rfl
  | literal v =>
    cases v with
    | null => exact QuietWord.quiet (w := "NULL") (by decide)
    | bool b => exact QuietWord.quiet (by cases d <;> cases b <;> decide)
    | int i => exact quiet_intText _
    | float x => exact quiet_plainText x
    | text s => exact quiet_quote s
    | blob bytes => exact quiet_blob bytes
    | json j => exact quiet_quote _
    | dateTime t => exact quiet_quote _

/-- A column whose names do not end their quotes and whose other words are quiet. -/
structure Column.Plain (d : Dialect) (c : Column) : Prop where
  name : Simple d c.name
  collation : ∀ x ∈ c.collation, Simple d x
  behind : ∀ x ∈ c.behind, Simple d x
  charset : ∀ w ∈ c.charset, Quiet d 0 0 w
  expression : ∀ sql, c.default = some (.expression sql) → Quiet d 0 0 sql

theorem follows_leading {c : Column} (h : Column.Plain d c) : Follows d 0 0 (leadingText d c) := by
  cases d with
  | mysql =>
    have hunsigned : Follows .mysql 0 0
        (if c.unsigned && (c.type.isInteger || c.counted) then " UNSIGNED" else "") := by
      split
      · exact follows_word (by decide) (by decide)
      · exact follows_empty
    have hcharset : Follows .mysql 0 0 (option " CHARACTER SET " id c.charset) :=
      follows_option (by decide) h.charset
    have hcollation : Follows .mysql 0 0 (option " COLLATE " Value.quote c.collation) :=
      follows_option (by decide) fun x _ => quiet_quote x
    exact (hunsigned.append hcharset).append hcollation
  | postgres => exact follows_option (by decide) fun x hx => quiet_name (h.collation x hx)
  | sqlite => exact follows_empty

theorem follows_null (c : Column) : Follows d 0 0 (nullText c) := by
  unfold nullText
  split <;> exact follows_word (by decide) (by decide)

theorem follows_default {c : Column} (h : Column.Plain d c) : Follows d 0 0 (defaultText d c) := by
  have hword : QuietLink 0 0 " DEFAULT " := by decide
  unfold defaultText
  cases hdefault : c.default with
  | none => exact follows_empty
  | some v =>
    refine hword.before (quiet_default fun sql hsql => h.expression sql ?_)
    rw [hdefault, hsql]

theorem follows_trailing {c : Column} (h : Column.Plain d c) : Follows d 0 0 (trailingText d c) := by
  cases d with
  | mysql =>
    have hcomment : Follows .mysql 0 0 (option " COMMENT " Value.quote c.comment) :=
      follows_option (by decide) fun x _ => quiet_quote x
    have hbehind : Follows .mysql 0 0 (option " AFTER " (quoteName .mysql) c.behind) :=
      follows_option (by decide) fun x hx => quiet_name (h.behind x hx)
    have hfront : Follows .mysql 0 0 (if c.atFront then " FIRST" else "") := by
      split
      · exact follows_word (by decide) (by decide)
      · exact follows_empty
    exact (hcomment.append hbehind).append hfront
  | postgres | sqlite => exact follows_empty

/-! ## Definitions -/

theorem ownKeys_cons (column : String) {s : Symbol} (h : s.declares = false) (ss : List Symbol) :
    ownKeys? column (s :: ss) = ownKeys? column ss := by
  cases s with
  | keyword keyword =>
    cases keyword
    all_goals first
      | exact absurd h Bool.noConfusion
      | rfl
  | _ => rfl

theorem ownKeys_quiet (column : String) {ss : List Symbol} (h : ∀ s ∈ ss, s.declares = false)
    (ts : List Symbol) : ownKeys? column (ss ++ ts) = ownKeys? column ts := by
  induction ss with
  | nil => rfl
  | cons s ss ih =>
    rw [List.cons_append, ownKeys_cons column (h s List.mem_cons_self)]
    exact ih fun x hx => h x (List.mem_cons_of_mem s hx)

/-- The key that a column declares by itself. -/
def ownKeys (c : Column) : List Key := if c.counted then [.own c.name] else []

theorem counter_symbols (c : Column) : ∃ ks, symbols? d (counterText d c) = some ks ∧
    Apart (counterText d c) ∧ levelAfter? ks 0 = some 0 ∧
    ∀ ss, ownKeys? c.name (ks ++ ss) = (ownKeys? c.name ss).map (ownKeys c ++ ·) := by
  have hkey : ∀ (before after ss : List Symbol), (∀ s ∈ before, s.declares = false) →
      (∀ s ∈ after, s.declares = false) →
      ownKeys? c.name (before ++ [.keyword .primary, .keyword .key] ++ after ++ ss) =
        (ownKeys? c.name ss).map ([.own c.name] ++ ·) := by
    intro before after ss hbefore hafter
    rw [List.append_assoc, List.append_assoc, ownKeys_quiet c.name hbefore, List.cons_append,
      List.cons_append, List.nil_append, ownKeys?, ownKeys_quiet c.name hafter]
    rfl
  unfold counterText ownKeys
  by_cases hcounted : c.counted = true
  · rw [if_pos hcounted, if_pos hcounted]
    let auto : Symbol := .word "AUTO_INCREMENT".toList
    let autoincrement : Symbol := .word "AUTOINCREMENT".toList
    cases d with
    | mysql =>
      exact ⟨[auto] ++ [.keyword .primary, .keyword .key] ++ [], Says.symbols (by decide), by decide,
        by decide, fun ss => hkey _ _ ss (by simp [auto, Symbol.declares]) (by simp)⟩
    | postgres =>
      exact ⟨[] ++ [.keyword .primary, .keyword .key] ++ [], Says.symbols (by decide), by decide,
        by decide, fun ss => hkey _ _ ss (by simp) (by simp)⟩
    | sqlite =>
      exact ⟨[] ++ [.keyword .primary, .keyword .key] ++ [autoincrement], Says.symbols (by decide),
        by decide, by decide, fun ss => hkey _ _ ss (by simp) (by simp [autoincrement, Symbol.declares])⟩
  · rw [if_neg hcounted, if_neg hcounted]
    exact ⟨[], rfl, by decide, rfl, fun ss => by simp⟩

/-- The name of a column, and behind it the key that it is, if the engine numbers it. -/
theorem definition_symbols {c : Column} (h : Column.Plain d c) :
    ∃ ss, symbols? d (definitionText d c) = some (.name c.name :: ss) ∧ levelAfter? ss 0 = some 0 ∧
      ownKeys? c.name ss = some (ownKeys c) := by
  have hblank : QuietLink 0 0 " " := by decide
  have hbefore : Follows d 0 0 (" " ++ (typeText d c ++ leadingText d c ++ nullText c ++ defaultText d c)) :=
    hblank.before ((((quiet_typeText c).append (follows_leading h)).append (follows_null c)).append
      (follows_default h))
  obtain ⟨⟨before, hbefore, hquiet⟩, hapart⟩ := hbefore
  obtain ⟨ks, hks, hapartKey, hlevel, hown⟩ := counter_symbols (d := d) c
  obtain ⟨⟨after, hafter, hquiet'⟩, hapartAfter⟩ := follows_trailing h
  obtain ⟨hlevelBefore, hbeforeQuiet⟩ := quietly_iff.1 hquiet
  obtain ⟨hlevelAfter, hafterQuiet⟩ := quietly_iff.1 hquiet'
  have htext : definitionText d c = quoteName d c.name ++
      (" " ++ (typeText d c ++ leadingText d c ++ nullText c ++ defaultText d c)) ++ counterText d c ++
        trailingText d c := by
    simp [definitionText, modifiersText, String.append_assoc]
  refine ⟨before ++ ks ++ after, ?_, ?_, ?_⟩
  · have hname := symbols?_append (symbols?_name h.name) hbefore hapart
    have hall := symbols?_append (symbols?_append hname hks hapartKey) hafter hapartAfter
    rw [htext, hall]
    simp
  · exact level_append (level_append hlevelBefore hlevel) hlevelAfter
  · have hnone : ownKeys? c.name after = some [] := by
      simpa [ownKeys?] using ownKeys_quiet c.name hafterQuiet []
    rw [List.append_assoc, ownKeys_quiet c.name hbeforeQuiet, hown, hnone]
    simp

end SqlKit.Declarations
