import Mathlib.Algebra.Order.Group.Nat
import Mathlib.Algebra.Order.BigOperators.Group.List
import SqlKit.Proofs.DeclaredKeys

/-!
# Quoted names read back

The quotes around a name are read as its parts with points between them, however many parts there are
and whether or not some are empty, exactly if no part holds the quote of the dialect: a quote inside of a
part is not written twice and ends the part. Different names are still written differently, since what
stands between two points begins and ends with a quote of its own.
-/

namespace SqlKit.Declarations
open Schema

variable {d : Dialect}

/-- The parts of a name, which are divided by its points. -/
def pathOf (name : String) : List String := (splitChars '.' name.toList).map String.ofList

def pathSymbols (path : List String) : List Symbol := [Symbol.point].intercalate (path.map fun part => [.name part])

def namesSymbols (names : List String) : List Symbol :=
  [Symbol.comma].intercalate (names.map fun name => pathSymbols (pathOf name))

@[simp] theorem pathSymbols_singleton (part : String) : pathSymbols [part] = [.name part] := by
  simp [pathSymbols]

theorem pathSymbols_cons (part : String) {path : List String} (h : path ≠ []) :
    pathSymbols (part :: path) = .name part :: .point :: pathSymbols path := by
  rw [pathSymbols, List.map_cons, List.intercalate_cons_of_ne_nil (by simpa using h)]
  rfl

theorem pathSymbols_ne_nil {path : List String} (h : path ≠ []) : pathSymbols path ≠ [] := by
  obtain ⟨part, parts, rfl⟩ := List.exists_cons_of_ne_nil h
  by_cases hnil : parts = []
  · simp [hnil]
  · simp [pathSymbols_cons part hnil]

theorem pathOf_ne_nil (name : String) : pathOf name ≠ [] := by
  simp [pathOf, splitChars_eq_splitOn, List.splitOn_ne_nil]

theorem intercalate_pathOf (name : String) : ".".intercalate (pathOf name) = name := by
  have hparts : (splitChars '.' name.toList).map (String.toList ∘ String.ofList) =
      name.toList.splitOn '.' := by
    simp [Function.comp_def, splitChars_eq_splitOn]
  have hpoint : ".".toList = ['.'] := rfl
  rw [← String.toList_inj, String.toList_intercalate, pathOf, List.map_map, hparts, hpoint,
    List.intercalate_splitOn]

/-! ## Parts between quotes -/

theorem link_point : Link "." [.point] := by decide

theorem toList_quotedPart (part : List Char) :
    (quotedPart d part).toList = quoteChar d :: part ++ [quoteChar d] := by
  simp [quotedPart]

theorem symbols?_part {part : List Char} (h : quoteChar d ∉ part) :
    symbols? d (quotedPart d part) = some [.name (String.ofList part)] := by
  have henclosed : (quotedPart d part).toList = Quoting.enclosed (quoteChar d) part := by
    rw [toList_quotedPart, Quoting.enclosed, Quoting.doubled_of_not_mem h]
  have hquote : isQuote d (quoteChar d) = true := by simp [isQuote]
  rw [symbols?, henclosed, scan_enclosed (m := .outside) (enter_quote hquote)]
  simp [Mode.finish?, Symbol.quoted]

theorem symbols?_path {name : String} (h : quoteChar d ∉ name.toList) :
    symbols? d (quoteName d name) = some (pathSymbols (pathOf name)) := by
  rw [pathOf, pathSymbols, List.map_map]
  refine symbols?_intercalate link_point ?_
  rw [List.forall₂_map_left_iff, List.forall₂_map_right_iff, List.forall₂_same]
  exact fun part hpart => symbols?_part fun hmem => h (mem_of_mem_splitChars hpart _ hmem)

theorem symbols?_names {names : List String} (h : ∀ name ∈ names, quoteChar d ∉ name.toList) :
    symbols? d (quoteNames d names) = some (namesSymbols names) := by
  refine symbols?_intercalate link_comma ?_
  rw [List.forall₂_map_left_iff, List.forall₂_map_right_iff, List.forall₂_same]
  exact fun name hname => symbols?_path (h name hname)

/-! ## Quotes counted

Every name that is read has used up the two quotes around it and two for each quote inside of it. What is
written has one quote inside of a part where the part has one.
-/

/-- The quotes of names that were used up by what was read. -/
def Symbol.quotes (q : Char) : Symbol → Nat
  | .name text => 2 + 2 * text.toList.count q
  | _ => 0

def quotesOf (q : Char) (ss : List Symbol) : Nat := (ss.map (Symbol.quotes q)).sum

/-- The quotes of names that were used up by what is not yet read to its end. -/
def Mode.quotes (q : Char) : Mode → Nat
  | .inside quote text => if quote = q then 1 + 2 * text.count q else 0
  | .closing quote text => if quote = q then 2 + 2 * text.count q else 0
  | _ => 0

theorem quotesOf_append (q : Char) (ss ts : List Symbol) :
    quotesOf q (ss ++ ts) = quotesOf q ss + quotesOf q ts := by
  simp [quotesOf]

theorem quotes_intercalate {q : Char} {sep : List Symbol} (hsep : quotesOf q sep = 0)
    (sss : List (List Symbol)) : quotesOf q (sep.intercalate sss) = (sss.map (quotesOf q)).sum :=
  sum_intercalate rfl (quotesOf_append q) hsep sss

theorem count_intercalate {q : Char} {sep : String} (hsep : q ∉ sep.toList) (l : List String) :
    (sep.intercalate l).toList.count q = (l.map fun s => s.toList.count q).sum := by
  rw [String.toList_intercalate, sum_intercalate rfl (fun _ _ => List.count_append) (List.count_eq_zero.2 hsep),
    List.map_map]
  rfl

theorem quotes_ofWord (q : Char) (text : List Char) : (Symbol.ofWord text).quotes q = 0 := by
  unfold Symbol.ofWord
  split <;> rfl

theorem quotes_ofMark (q c : Char) : (Symbol.ofMark c).quotes q = 0 := by
  unfold Symbol.ofMark
  repeat' split
  all_goals rfl

theorem quotes_quoted (quote : Char) (text : List Char) :
    (Symbol.quoted d quote text).quotes (quoteChar d) = (Mode.closing quote text).quotes (quoteChar d) := by
  unfold Symbol.quoted
  split <;> simp_all [Symbol.quotes, Mode.quotes]

theorem quotes_enter (c : Char) :
    quotesOf (quoteChar d) (Mode.enter d c).1 + (Mode.enter d c).2.quotes (quoteChar d)
      ≤ [c].count (quoteChar d) := by
  unfold Mode.enter
  split
  · by_cases hc : c = quoteChar d
    · simp [quotesOf, Mode.quotes, hc]
    · simp [quotesOf, Mode.quotes, hc]
  · split
    · exact Nat.zero_le _
    · split
      · exact Nat.zero_le _
      · simp [quotesOf, Mode.quotes, quotes_ofMark]

theorem quotes_step (m : Mode) (c : Char) :
    quotesOf (quoteChar d) (m.step d c).1 + (m.step d c).2.quotes (quoteChar d)
      ≤ m.quotes (quoteChar d) + [c].count (quoteChar d) := by
  have henter := quotes_enter (d := d) c
  cases m with
  | outside => exact henter.trans (Nat.le_add_left _ _)
  | word text =>
    simp only [Mode.step]
    split
    · exact Nat.zero_le _
    · simpa [quotesOf, quotes_ofWord, Mode.quotes] using henter
  | inside quote text =>
    by_cases hquote : quote = quoteChar d
    · subst hquote
      by_cases hc : c = quoteChar d
      · simp [Mode.step, Mode.quotes, quotesOf, hc]
        omega
      · simp [Mode.step, Mode.quotes, quotesOf, hc, List.count_append]
    · simp only [Mode.step]
      split <;> simp [Mode.quotes, quotesOf, hquote]
  | closing quote text =>
    by_cases hc : c = quote
    · subst hc
      by_cases hquote : c = quoteChar d
      · simp [Mode.step, Mode.quotes, quotesOf, hquote, List.count_append]
        omega
      · simp [Mode.step, Mode.quotes, quotesOf, hquote]
    · rw [← quotes_quoted quote text]
      simp only [Mode.step, if_neg hc]
      simp only [quotesOf, List.map_cons, List.sum_cons] at henter ⊢
      omega

theorem quotes_scan (m : Mode) (cs : List Char) :
    quotesOf (quoteChar d) (m.scan d cs).1 + (m.scan d cs).2.quotes (quoteChar d)
      ≤ m.quotes (quoteChar d) + cs.count (quoteChar d) := by
  induction cs generalizing m with
  | nil => simp [Mode.scan, quotesOf]
  | cons c cs ih =>
    have hstep := quotes_step (d := d) m c
    have hrest := ih (m.step d c).2
    have hcount : (c :: cs).count (quoteChar d) = [c].count (quoteChar d) + cs.count (quoteChar d) := by
      rw [← List.count_append, List.singleton_append]
    simp only [Mode.scan, quotesOf_append]
    omega

theorem quotes_symbols {s : String} {ss : List Symbol} (h : symbols? d s = some ss) :
    quotesOf (quoteChar d) ss ≤ s.toList.count (quoteChar d) := by
  obtain ⟨last, hlast, rfl⟩ := Option.map_eq_some_iff.1 h
  have hscan : _ ≤ 0 + _ := quotes_scan (d := d) .outside s.toList
  have hfinish : ∀ m : Mode, m.finish? d = some last →
      quotesOf (quoteChar d) last = m.quotes (quoteChar d) := by
    intro m hm
    cases m with
    | outside | word => cases hm; simp [quotesOf, quotes_ofWord, Mode.quotes]
    | inside => cases hm
    | closing => cases hm; simp [quotesOf, quotes_quoted]
  rw [quotesOf_append, hfinish _ hlast]
  omega

theorem quotes_path (name : String) :
    quotesOf (quoteChar d) (pathSymbols (pathOf name)) =
      (quoteName d name).toList.count (quoteChar d) + name.toList.count (quoteChar d) := by
  have hpoint : quoteChar d ∉ ".".toList := by cases d <;> decide
  have hwritten : (quoteName d name).toList.count (quoteChar d) =
      ((splitChars '.' name.toList).map fun part => 2 + part.count (quoteChar d)).sum := by
    rw [quoteName, count_intercalate hpoint, List.map_map]
    congr 1
    refine List.map_congr_left fun part _ => ?_
    simp [toList_quotedPart, List.count_append]
    omega
  have hgiven : name.toList.count (quoteChar d) =
      ((splitChars '.' name.toList).map fun part => part.count (quoteChar d)).sum := by
    conv_lhs => rw [← intercalate_pathOf name]
    rw [count_intercalate hpoint, pathOf, List.map_map]
    simp [Function.comp_def]
  have hpart (part : List Char) : quotesOf (quoteChar d) [Symbol.name (String.ofList part)] =
      2 + part.count (quoteChar d) + part.count (quoteChar d) := by
    simp [quotesOf, Symbol.quotes]
    omega
  rw [pathSymbols, quotes_intercalate rfl, hwritten, hgiven, ← List.sum_map_add, pathOf]
  simp [Function.comp_def, hpart]

theorem quotes_names (names : List String) :
    quotesOf (quoteChar d) (namesSymbols names) =
      (quoteNames d names).toList.count (quoteChar d) +
        (names.map fun name => name.toList.count (quoteChar d)).sum := by
  have hcomma : quoteChar d ∉ ", ".toList := by cases d <;> decide
  rw [namesSymbols, quotes_intercalate rfl, quoteNames, count_intercalate hcomma, List.map_map,
    List.map_map, ← List.sum_map_add]
  simp [Function.comp_def, quotes_path]

/-! ## Names read back -/

theorem symbols?_names_iff (names : List String) :
    symbols? d (quoteNames d names) = some (namesSymbols names) ↔
      ∀ name ∈ names, quoteChar d ∉ name.toList := by
  refine ⟨fun h name hname => ?_, symbols?_names⟩
  have hquotes := quotes_symbols h
  rw [quotes_names] at hquotes
  have hzero : (names.map fun name => name.toList.count (quoteChar d)).sum = 0 := by omega
  have hnone := List.sum_eq_zero_iff.1 hzero _ (List.mem_map_of_mem hname)
  exact List.count_eq_zero.1 hnone

theorem point_not_mem_part {name : String} {part : List Char} (h : part ∈ splitChars '.' name.toList) :
    '.' ∉ part := by
  rw [splitChars_eq_splitOn] at h
  exact not_mem_of_mem_splitOn h

/-- What stands between two points of a quoted name. -/
theorem splitOn_quoteName (name : String) :
    (quoteName d name).toList.splitOn '.' =
      (splitChars '.' name.toList).map fun part => quoteChar d :: part ++ [quoteChar d] := by
  have hpoint : '.' ≠ quoteChar d := by cases d <;> decide
  rw [quoteName, String.toList_intercalate, List.map_map]
  simp only [Function.comp_def, toList_quotedPart]
  refine List.splitOn_intercalate '.' (fun l hl => ?_) (by simp [splitChars_eq_splitOn, List.splitOn_ne_nil])
  obtain ⟨part, hpart, rfl⟩ := List.mem_map.1 hl
  simpa [hpoint] using point_not_mem_part hpart

theorem quoteName_injective : Function.Injective (quoteName d) := by
  intro name other h
  have hparts := splitOn_quoteName (d := d) name
  rw [h, splitOn_quoteName] at hparts
  have hwrap : Function.Injective fun part : List Char => quoteChar d :: part ++ [quoteChar d] := by
    intro part other h
    simpa using h
  have hsame := List.map_injective_iff.2 hwrap hparts
  rw [← intercalate_pathOf name, ← intercalate_pathOf other, pathOf, pathOf, hsame]

theorem level_path (path : List String) : levelAfter? (pathSymbols path) 0 = some 0 := by
  induction path with
  | nil => rfl
  | cons part path ih =>
    by_cases hnil : path = []
    · rw [hnil, pathSymbols_singleton]
      rfl
    · rw [pathSymbols_cons part hnil]
      have hpart : levelAfter? [.name part, .point] 0 = some 0 := rfl
      exact level_append hpart ih

theorem elements_names (names : List String) :
    elements (namesSymbols names) = names.map fun name => pathSymbols (pathOf name) := by
  have hlevel : ∀ e ∈ names.map fun name => pathSymbols (pathOf name), levelAfter? e 0 = some 0 := by
    intro e he
    obtain ⟨name, -, rfl⟩ := List.mem_map.1 he
    exact level_path _
  have hne : names.map (fun name => pathSymbols (pathOf name)) ≠ [[]] := by
    intro hempty
    obtain ⟨name, -, hname⟩ := List.mem_map.1 (hempty ▸ List.mem_singleton_self ([] : List Symbol))
    exact pathSymbols_ne_nil (pathOf_ne_nil name) hname
  have hlast : parts 0 [] = [[]] := rfl
  have hjoined := elements_joined hlevel hne hlast
  rwa [List.append_nil] at hjoined

/-- A list of quoted names is read as these names, part by part, exactly if none of them holds the quote of
the dialect. -/
theorem quoted_names_read_back (d : Dialect) :
    (∀ name, symbols? d (quoteName d name) = some (pathSymbols (pathOf name)) ↔
      quoteChar d ∉ name.toList) ∧
    (∀ names, symbols? d (quoteNames d names) = some (namesSymbols names) ↔
      ∀ name ∈ names, quoteChar d ∉ name.toList) ∧
    (∀ names, elements (namesSymbols names) = names.map fun name => pathSymbols (pathOf name)) ∧
    Function.Injective (quoteName d) := by
  refine ⟨fun name => ?_, symbols?_names_iff, elements_names, quoteName_injective⟩
  simpa [quoteNames, namesSymbols] using symbols?_names_iff (d := d) [name]

/-- A quote inside of a name ends it; written twice it would not. -/
theorem quote_ends_name :
    symbols? .postgres (quoteName .postgres "a\"b") = none ∧
    symbols? .postgres "\"a\"\"b\"" = some (pathSymbols (pathOf "a\"b")) := by
  decide +kernel

end SqlKit.Declarations
