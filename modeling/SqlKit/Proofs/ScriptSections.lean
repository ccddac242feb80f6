import Mathlib.Data.List.Induction
import SqlKit.Migration
import SqlKit.Proofs.StoredTimes

/-!
# The sections of a script

Every line of a script that is no marker and stands below one goes into the section of the nearest marker
above it, in the order of the text. Two texts that are written below markers are read back.
-/

namespace SqlKit

namespace Text

/-! ## Lines are parts between line feeds -/

theorem dropReturn_of_not_mem {line : List Char} (h : '\r' ∉ line) : dropReturn line = line := by
  unfold dropReturn
  split
  · next rest hreverse =>
    have hmem : '\r' ∈ line.reverse := hreverse ▸ List.mem_cons_self
    exact absurd (List.mem_reverse.1 hmem) h
  · rfl

theorem linesFrom_nil : linesFrom [] [] = [] := rfl

theorem linesFrom_feed (acc rest : List Char) :
    linesFrom acc ('\n' :: rest) = dropReturn acc.reverse :: linesFrom [] rest := by
  cases acc <;> rfl

theorem linesFrom_other {c : Char} (h : c ≠ '\n') (acc rest : List Char) :
    linesFrom acc (c :: rest) = linesFrom (c :: acc) rest := by
  cases acc <;> simp [linesFrom]

/-- Behind a text without carriage returns comes a line feed: its lines are its parts. -/
theorem linesFrom_append {acc cs : List Char} (hfeed : '\n' ∉ acc) (hacc : '\r' ∉ acc) (hcs : '\r' ∉ cs)
    (rest : List Char) :
    linesFrom acc (cs ++ '\n' :: rest) = (acc.reverse ++ cs).splitOn '\n' ++ linesFrom [] rest := by
  -- What is read of a line so far belongs to its first part and has no line feed.
  induction cs generalizing acc with
  | nil =>
    have hline : acc.reverse.splitOn '\n' = [acc.reverse] :=
      List.splitOn_eq_singleton (mt List.mem_reverse.1 hfeed)
    rw [List.nil_append, linesFrom_feed, dropReturn_of_not_mem (mt List.mem_reverse.1 hacc),
      List.append_nil, hline]
    rfl
  | cons c cs ih =>
    have hcs' : '\r' ∉ cs := List.not_mem_of_not_mem_cons hcs
    by_cases hc : c = '\n'
    · subst hc
      have hline : acc.reverse.splitOn '\n' = [acc.reverse] :=
        List.splitOn_eq_singleton (mt List.mem_reverse.1 hfeed)
      rw [List.cons_append, linesFrom_feed, dropReturn_of_not_mem (mt List.mem_reverse.1 hacc),
        List.splitOn_append_cons_self, hline, ih List.not_mem_nil List.not_mem_nil hcs']
      rfl
    · have hfeed' : '\n' ∉ c :: acc := by simp [hfeed, Ne.symm hc]
      have hacc' : '\r' ∉ c :: acc := List.not_mem_cons_of_ne_of_not_mem (List.ne_of_not_mem_cons hcs) hacc
      rw [List.cons_append, linesFrom_other hc, ih hfeed' hacc' hcs', List.reverse_cons, List.append_assoc]
      rfl

/-- The line feed at the end of a text may be missing. -/
theorem linesFrom_final {acc cs : List Char} (hne : acc ++ cs ≠ []) (hacc : '\r' ∉ acc) (hcs : '\r' ∉ cs)
    (hlast : ∀ c ∈ cs.getLast?, c ≠ '\n') : linesFrom acc (cs ++ ['\n']) = linesFrom acc cs := by
  induction cs generalizing acc with
  | nil =>
    rw [List.nil_append, linesFrom_feed, dropReturn_of_not_mem (mt List.mem_reverse.1 hacc)]
    cases acc with
    | nil => exact absurd rfl hne
    | cons c acc => rfl
  | cons c cs ih =>
    have hcs' : '\r' ∉ cs := List.not_mem_of_not_mem_cons hcs
    have hlast' : ∀ d ∈ cs.getLast?, d ≠ '\n' := fun d hd => hlast d (List.mem_getLast?_cons hd)
    by_cases hc : c = '\n'
    · subst hc
      have hrest : [] ++ cs ≠ [] := by
        rintro rfl
        exact hlast '\n' rfl rfl
      rw [List.cons_append, linesFrom_feed, linesFrom_feed, ih hrest List.not_mem_nil hcs' hlast']
    · have hacc' : '\r' ∉ c :: acc := List.not_mem_cons_of_ne_of_not_mem (List.ne_of_not_mem_cons hcs) hacc
      rw [List.cons_append, linesFrom_other hc, linesFrom_other hc,
        ih (List.cons_ne_nil c _) hacc' hcs' hlast']

/-- The parts of a text between its line feeds. -/
def parts (s : String) : List String := (s.toList.splitOn '\n').map String.ofList

theorem lines_append {s : String} (h : '\r' ∉ s.toList) (rest : String) :
    lines (s ++ "\n" ++ rest) = parts s ++ lines rest := by
  have htext : (s ++ "\n" ++ rest).toList = s.toList ++ '\n' :: rest.toList := by
    simp [String.toList_append]
  rw [lines, htext, linesFrom_append List.not_mem_nil List.not_mem_nil h, List.map_append]
  rfl

theorem lines_eq_parts {s : String} (hne : s ≠ "") (h : '\r' ∉ s.toList)
    (hlast : ∀ c ∈ s.toList.getLast?, c ≠ '\n') : lines s = parts s := by
  have hchars : [] ++ s.toList ≠ [] := fun hnil => hne (String.toList_injective hnil)
  rw [lines, ← linesFrom_final hchars List.not_mem_nil h hlast,
    linesFrom_append List.not_mem_nil List.not_mem_nil h, linesFrom_nil, List.append_nil]
  rfl

theorem intercalate_parts (s : String) : "\n".intercalate (parts s) = s := by
  refine String.toList_injective ?_
  have hparts : (parts s).map String.toList = s.toList.splitOn '\n' :=
    List.map_map.trans (by simp [Function.comp_def])
  rw [String.toList_intercalate, hparts]
  exact List.intercalate_splitOn '\n'

theorem parts_of_not_mem {s : String} (h : '\n' ∉ s.toList) : parts s = [s] :=
  calc parts s = [String.ofList s.toList] := congrArg (List.map String.ofList) (List.splitOn_eq_singleton h)
    _ = [s] := by rw [String.ofList_toList]

theorem trim_of_ends {s : String} (hfirst : ∀ c ∈ s.toList.head?, isBlank c = false)
    (hlast : ∀ c ∈ s.toList.getLast?, isBlank c = false) : trim s = s := by
  rw [trim, Calendar.trimChars_of_ends hfirst hlast, String.ofList_toList]

end Text

namespace Migration

namespace Script

/-! ## Markers -/

/-- A line that is a marker, apart from white space around it. -/
def Marks (w : Way) (line : String) : Prop := Text.trim line = w.marker

theorem marker_inj {v w : Way} : v.marker = w.marker ↔ v = w := by
  cases v <;> cases w <;> decide

theorem marked?_eq_some_iff {line : String} {w : Way} : marked? line = some w ↔ Marks w line := by
  change _ ↔ Text.trim line = w.marker
  unfold marked?
  dsimp only
  split_ifs with hup hdown
  · rw [hup, Option.some.injEq, marker_inj]
  · rw [hdown, Option.some.injEq, marker_inj]
  · cases w with
    | up => exact iff_of_false (fun h => nomatch h) hup
    | down => exact iff_of_false (fun h => nomatch h) hdown

theorem marked?_eq_none_iff {line : String} : marked? line = none ↔ ∀ w, ¬Marks w line := by
  rw [Option.eq_none_iff_forall_ne_some]
  exact forall_congr' fun w => not_congr marked?_eq_some_iff

/-! ## The nearest marker above -/

/-- The section of the last marker of the lines, or the one that was open before them. -/
def lastOpened (open? : Option Way) (lines : List String) : Option Way :=
  (lines.filterMap marked?).getLast?.or open?

@[simp] theorem lastOpened_nil (open? : Option Way) : lastOpened open? [] = open? := rfl

theorem lastOpened_cons (open? : Option Way) (line : String) (lines : List String) :
    lastOpened open? (line :: lines) = lastOpened ((marked? line).or open?) lines := by
  change ((line :: lines).filterMap marked?).getLast?.or open? =
    (lines.filterMap marked?).getLast?.or ((marked? line).or open?)
  cases hline : marked? line with
  | none => rw [List.filterMap_cons_none hline, Option.none_or]
  | some v =>
    rw [List.filterMap_cons_some hline, List.getLast?_cons, Option.some_or]
    cases (lines.filterMap marked?).getLast? <;> rfl

theorem lastOpened_concat (open? : Option Way) (lines : List String) (line : String) :
    lastOpened open? (lines ++ [line]) = (marked? line).or (lastOpened open? lines) := by
  change ((lines ++ [line]).filterMap marked?).getLast?.or open? =
    (marked? line).or ((lines.filterMap marked?).getLast?.or open?)
  rw [List.filterMap_append, List.getLast?_append, Option.or_assoc]
  cases hline : marked? line with
  | none => rw [List.filterMap_cons_none hline]; rfl
  | some v => rw [List.filterMap_cons_some hline]; rfl

@[simp] theorem sectionLines_nil (w : Way) (open? : Option Way) : sectionLines w open? [] = [] := rfl

theorem sectionLines_cons (w : Way) (open? : Option Way) (line : String) (lines : List String) :
    sectionLines w open? (line :: lines) =
      (if marked? line = none ∧ open? = some w then [line] else []) ++
        sectionLines w ((marked? line).or open?) lines := by
  cases hline : marked? line with
  | none => by_cases hopen : open? = some w <;> simp [sectionLines, hline, hopen]
  | some v => simp [sectionLines, hline]

theorem sectionLines_append (w : Way) (open? : Option Way) (xs ys : List String) :
    sectionLines w open? (xs ++ ys) = sectionLines w open? xs ++ sectionLines w (lastOpened open? xs) ys := by
  induction xs generalizing open? with
  | nil => simp
  | cons line xs ih =>
    rw [List.cons_append, sectionLines_cons, sectionLines_cons, ih, lastOpened_cons, List.append_assoc]

theorem sectionLines_of_unmarked {w : Way} {open? : Option Way} {xs : List String}
    (h : ∀ line ∈ xs, marked? line = none) :
    sectionLines w open? xs = if open? = some w then xs else [] := by
  induction xs with
  | nil => simp
  | cons line xs ih =>
    obtain ⟨hline, hrest⟩ := List.forall_mem_cons.1 h
    rw [sectionLines_cons, hline, Option.none_or, ih hrest]
    by_cases hopen : open? = some w <;> simp [hopen]

def markerAt (lines : List String) (i : Nat) : Option Way := lines[i]?.bind marked?

/-- The nearest marker above a place begins the section. -/
def OpenAt (lines : List String) (w : Way) (i : Nat) : Prop :=
  ∃ j < i, (∃ line ∈ lines[j]?, Marks w line) ∧
    ∀ k, j < k → k < i → ∀ line ∈ lines[k]?, ∀ v, ¬Marks v line

/-- A line that is no marker, and the nearest marker above it begins the section. -/
def Belongs (lines : List String) (w : Way) (i : Nat) : Prop :=
  (∃ line ∈ lines[i]?, ∀ v, ¬Marks v line) ∧ OpenAt lines w i

variable {lines : List String} {v w : Way} {i : Nat}

theorem markerAt_eq_some_iff : markerAt lines i = some w ↔ ∃ line ∈ lines[i]?, Marks w line := by
  simp only [← marked?_eq_some_iff]
  exact Option.bind_eq_some_iff

theorem markerAt_eq_none_iff : markerAt lines i = none ↔ ∀ line ∈ lines[i]?, ∀ v, ¬Marks v line := by
  simp only [← marked?_eq_none_iff]
  exact Option.bind_eq_none_iff

theorem openAt_iff : OpenAt lines w i ↔
    ∃ j < i, markerAt lines j = some w ∧ ∀ k, j < k → k < i → markerAt lines k = none := by
  simp only [markerAt_eq_some_iff, markerAt_eq_none_iff]
  rfl

theorem openAt_succ_of_marker (h : markerAt lines i = some v) : OpenAt lines w (i + 1) ↔ v = w := by
  rw [openAt_iff]
  constructor
  · rintro ⟨j, hj, hmark, hbetween⟩
    rcases Nat.lt_succ_iff_lt_or_eq.1 hj with hlt | rfl
    · have hnone := hbetween i hlt (Nat.lt_succ_self i)
      rw [h] at hnone
      cases hnone
    · exact Option.some.inj (h.symm.trans hmark)
  · rintro rfl
    exact ⟨i, Nat.lt_succ_self i, h, fun k hik hk => by omega⟩

theorem openAt_succ_of_none (h : markerAt lines i = none) : OpenAt lines w (i + 1) ↔ OpenAt lines w i := by
  rw [openAt_iff, openAt_iff]
  constructor
  · rintro ⟨j, hj, hmark, hbetween⟩
    have hne : j ≠ i := by
      rintro rfl
      rw [h] at hmark
      cases hmark
    exact ⟨j, by omega, hmark, fun k hjk hk => hbetween k hjk (by omega)⟩
  · rintro ⟨j, hj, hmark, hbetween⟩
    refine ⟨j, by omega, hmark, fun k hjk hk => ?_⟩
    rcases Nat.lt_succ_iff_lt_or_eq.1 hk with hlt | rfl
    · exact hbetween k hjk hlt
    · exact h

theorem lastOpened_take_succ (lines : List String) (i : Nat) :
    lastOpened none (lines.take (i + 1)) = (markerAt lines i).or (lastOpened none (lines.take i)) := by
  change _ = (lines[i]?.bind marked?).or _
  rw [List.take_add_one]
  cases lines[i]? with
  | none => rw [Option.toList_none, List.append_nil, Option.bind_none, Option.none_or]
  | some line => rw [Option.toList_some, lastOpened_concat, Option.bind_some]

theorem lastOpened_take_eq_some_iff : lastOpened none (lines.take i) = some w ↔ OpenAt lines w i := by
  induction i with
  | zero => exact iff_of_false (by simp) fun ⟨j, hj, _⟩ => absurd hj (Nat.not_lt_zero j)
  | succ i ih =>
    rw [lastOpened_take_succ]
    cases hline : markerAt lines i with
    | none => rw [Option.none_or, ih, openAt_succ_of_none hline]
    | some v => rw [Option.some_or, Option.some.injEq, openAt_succ_of_marker hline]

theorem belongs_iff : Belongs lines w i ↔
    i < lines.length ∧ markerAt lines i = none ∧ lastOpened none (lines.take i) = some w := by
  rw [lastOpened_take_eq_some_iff, markerAt_eq_none_iff, ← and_assoc]
  refine and_congr_left fun _ => ?_
  constructor
  · rintro ⟨line, hline, hmark⟩
    exact ⟨(List.getElem?_eq_some_iff.1 hline).1, fun other hother => Option.mem_unique hline hother ▸ hmark⟩
  · rintro ⟨hi, hmark⟩
    exact ⟨lines[i], List.getElem?_eq_getElem hi, hmark _ (List.getElem?_eq_getElem hi)⟩

def stands (lines : List String) (w : Way) (i : Nat) : Bool :=
  decide (markerAt lines i = none ∧ lastOpened none (lines.take i) = some w)

theorem stands_iff : stands lines w i = true ↔
    markerAt lines i = none ∧ lastOpened none (lines.take i) = some w :=
  decide_eq_true_iff

/-- The places of the lines of a section. -/
def places (lines : List String) (w : Way) : List Nat := (List.range lines.length).filter (stands lines w)

theorem mem_places : i ∈ places lines w ↔ Belongs lines w i :=
  List.mem_filter.trans (by rw [List.mem_range, stands_iff, belongs_iff])

theorem places_pairwise (lines : List String) (w : Way) : (places lines w).Pairwise (· < ·) :=
  List.pairwise_lt_range.filter _

theorem stands_concat (lines : List String) (line : String) (w : Way) (hi : i < lines.length) :
    stands (lines ++ [line]) w i = stands lines w i := by
  have hmark : markerAt (lines ++ [line]) i = markerAt lines i :=
    congrArg (·.bind marked?) (List.getElem?_append_left hi)
  rw [Bool.eq_iff_iff, stands_iff, stands_iff, hmark, List.take_append_of_le_length hi.le]

theorem stands_last (lines : List String) (line : String) (w : Way) :
    stands (lines ++ [line]) w lines.length = true ↔ marked? line = none ∧ lastOpened none lines = some w := by
  have hmark : markerAt (lines ++ [line]) lines.length = marked? line :=
    congrArg (·.bind marked?) List.getElem?_concat_length
  rw [stands_iff, hmark, List.take_left]

theorem places_concat (lines : List String) (line : String) (w : Way) :
    places (lines ++ [line]) w = places lines w ++
      if marked? line = none ∧ lastOpened none lines = some w then [lines.length] else [] := by
  have hearlier : (List.range lines.length).filter (stands (lines ++ [line]) w) = places lines w :=
    List.filter_congr fun i hi => stands_concat lines line w (List.mem_range.1 hi)
  change (List.range (lines ++ [line]).length).filter _ = _
  rw [List.length_append, List.length_singleton, List.range_succ, List.filter_append, hearlier,
    List.filter_singleton, Bool.cond_eq_ite]
  simp only [stands_last]

theorem sectionLines_eq_places (lines : List String) (w : Way) :
    sectionLines w none lines = (places lines w).filterMap (lines[·]?) := by
  -- The nearest marker above is the last of those before, so the lines are added at the end.
  induction lines using List.reverseRecOn with
  | nil => rfl
  | append_singleton lines line ih =>
    have hearlier : (places lines w).filterMap ((lines ++ [line])[·]?) =
        (places lines w).filterMap (lines[·]?) :=
      List.filterMap_congr fun i hi => List.getElem?_append_left (belongs_iff.1 (mem_places.1 hi)).1
    rw [sectionLines_append, sectionLines_cons, places_concat, List.filterMap_append, hearlier, ih]
    by_cases hhere : marked? line = none ∧ lastOpened none lines = some w <;>
      simp [hhere]

/-! ## Scripts of any text -/

def text (s : Script) : Way → String
  | .up => s.up
  | .down => s.down

theorem any_marked_iff :
    (lines.any fun line => (marked? line).isSome) = true ↔ ∃ line ∈ lines, ∃ v, Marks v line := by
  simp only [List.any_eq_true, Option.isSome_iff_exists, marked?_eq_some_iff]

theorem parse_of_unmarked (name : String) {text : String} (h : ∀ line ∈ Text.lines text, ∀ v, ¬Marks v line) :
    parse name text = ⟨name, Text.trim text, ""⟩ := by
  have hnone : ¬(Text.lines text).any (fun line => (marked? line).isSome) = true := by
    rw [any_marked_iff]
    rintro ⟨line, hline, v, hmark⟩
    exact h line hline v hmark
  simp only [parse, if_neg hnone]

theorem parse_of_marked (name : String) {text : String} (h : ∃ line ∈ Text.lines text, ∃ v, Marks v line) :
    parse name text = ⟨name, sectionText .up (Text.lines text), sectionText .down (Text.lines text)⟩ := by
  simp only [parse, if_pos (any_marked_iff.2 h)]

theorem text_parse (name : String) {text : String} (h : ∃ line ∈ Text.lines text, ∃ v, Marks v line)
    (w : Way) :
    (parse name text).text w =
      Text.trim ("\n".intercalate ((places (Text.lines text) w).filterMap ((Text.lines text)[·]?))) := by
  rw [← sectionLines_eq_places, parse_of_marked name h]
  cases w <;> rfl

theorem exists_lastOpened {j : Nat} (hj : j < i) (hmark : markerAt lines j = some v) :
    ∃ w, lastOpened none (lines.take i) = some w := by
  obtain ⟨marker, hmarker, hv⟩ := Option.bind_eq_some_iff.1 hmark
  have hmem : marker ∈ lines.take i :=
    List.mem_of_getElem? ((List.getElem?_take_of_lt hj).trans hmarker)
  have hne : (lines.take i).filterMap marked? ≠ [] :=
    List.ne_nil_of_mem (List.mem_filterMap.2 ⟨marker, hmem, hv⟩)
  exact ⟨_, congrArg (·.or none) (List.getLast?_eq_some_getLast hne)⟩

/-- A line below a marker that is none itself is in one section. -/
theorem existsUnique_belongs {j : Nat} (hi : i < lines.length) (hplain : markerAt lines i = none)
    (hj : j < i) (hmark : markerAt lines j = some v) : ∃! w, Belongs lines w i := by
  obtain ⟨w, hw⟩ := exists_lastOpened hj hmark
  refine ⟨w, belongs_iff.2 ⟨hi, hplain, hw⟩, fun u hu => ?_⟩
  have hopen := (belongs_iff.1 hu).2.2
  rw [hw] at hopen
  exact (Option.some.inj hopen).symm

/-! ## Scripts of two texts -/

/-- A text that a section can hold: no carriage returns, no white space at its ends, no marker in it. -/
structure Plain (sql : String) : Prop where
  noReturn : '\r' ∉ sql.toList
  first : ∀ c ∈ sql.toList.head?, Text.isBlank c = false
  last : ∀ c ∈ sql.toList.getLast?, Text.isBlank c = false
  noMarker : ∀ line ∈ Text.lines sql, ∀ v, ¬Marks v line

theorem plain_iff {sql : String} : Plain sql ↔ '\r' ∉ sql.toList ∧
    (sql.toList.head?.all fun c => !Text.isBlank c) = true ∧
      (sql.toList.getLast?.all fun c => !Text.isBlank c) = true ∧
        ((Text.lines sql).all fun line => (marked? line).isNone) = true := by
  simp only [Option.all_eq_true, List.all_eq_true, Bool.not_eq_true', Option.isNone_iff_eq_none,
    marked?_eq_none_iff]
  exact ⟨fun h => ⟨h.noReturn, h.first, h.last, h.noMarker⟩, fun ⟨hr, hf, hl, hm⟩ => ⟨hr, hf, hl, hm⟩⟩

instance (sql : String) : Decidable (Plain sql) := decidable_of_iff _ plain_iff.symm

variable {sql up down : String}

theorem Plain.lines_eq_parts (h : Plain sql) (hne : sql ≠ "") : Text.lines sql = Text.parts sql := by
  refine Text.lines_eq_parts hne h.noReturn fun c hc => ?_
  rintro rfl
  exact absurd (h.last _ hc) (by decide)

theorem Plain.trim_parts (h : Plain sql) : Text.trim ("\n".intercalate (Text.parts sql)) = sql := by
  rw [Text.intercalate_parts, Text.trim_of_ends h.first h.last]

theorem Plain.trim_lines (h : Plain sql) : Text.trim ("\n".intercalate (Text.lines sql)) = sql := by
  by_cases hne : sql = ""
  · subst hne
    decide
  · rw [h.lines_eq_parts hne, h.trim_parts]

theorem Plain.lines_unmarked (h : Plain sql) : ∀ line ∈ Text.lines sql, marked? line = none :=
  fun line hline => marked?_eq_none_iff.2 (h.noMarker line hline)

theorem Plain.parts_unmarked (h : Plain sql) : ∀ line ∈ Text.parts sql, marked? line = none := by
  by_cases hne : sql = ""
  · subst hne
    decide
  · rw [← h.lines_eq_parts hne]
    exact h.lines_unmarked

theorem marked?_marker (w : Way) : marked? w.marker = some w := by
  cases w <;> decide

theorem lines_marker (w : Way) (rest : String) :
    Text.lines (w.marker ++ "\n" ++ rest) = w.marker :: Text.lines rest := by
  have hreturn : '\r' ∉ w.marker.toList := by cases w <;> decide
  have hfeed : '\n' ∉ w.marker.toList := by cases w <;> decide
  rw [Text.lines_append hreturn, Text.parts_of_not_mem hfeed]
  rfl

theorem lines_sections (h : Plain up) (down : String) :
    Text.lines ("\n".intercalate [Way.up.marker, up, Way.down.marker, down]) =
      Way.up.marker :: (Text.parts up ++ Way.down.marker :: Text.lines down) := by
  have htext : "\n".intercalate [Way.up.marker, up, Way.down.marker, down] =
      Way.up.marker ++ "\n" ++ (up ++ "\n" ++ (Way.down.marker ++ "\n" ++ down)) := by
    simp [String.intercalate_cons_cons, String.append_assoc]
  rw [htext, lines_marker, Text.lines_append h.noReturn, lines_marker]

theorem sectionLines_sections (hup : Plain up) (hdown : Plain down) (w : Way) :
    sectionLines w none (Way.up.marker :: (Text.parts up ++ Way.down.marker :: Text.lines down)) =
      if w = .up then Text.parts up else Text.lines down := by
  rw [sectionLines_cons, marked?_marker, sectionLines_append, sectionLines_cons, marked?_marker,
    Option.some_or, Option.some_or, sectionLines_of_unmarked hup.parts_unmarked,
    sectionLines_of_unmarked hdown.lines_unmarked]
  cases w <;> simp

/-- Two texts written below the markers are read back. -/
theorem parse_written (name : String) (hup : Plain up) (hdown : Plain down) :
    parse name ("\n".intercalate [Way.up.marker, up, Way.down.marker, down]) = ⟨name, up, down⟩ := by
  have hlines := lines_sections hup down
  have hmarked : ∃ line ∈ Text.lines ("\n".intercalate [Way.up.marker, up, Way.down.marker, down]),
      ∃ v, Marks v line :=
    ⟨Way.up.marker, hlines ▸ List.mem_cons_self, .up, marked?_eq_some_iff.1 (marked?_marker .up)⟩
  rw [parse_of_marked name hmarked, hlines, sectionText, sectionText, sectionLines_sections hup hdown,
    sectionLines_sections hup hdown, if_pos rfl, if_neg (by decide), hup.trim_parts, hdown.trim_lines]

/-- A text without markers is all for applying. In any other the lines of a section, in order, are those
whose nearest marker above begins it; each line below a marker is in one section. Two texts written below
the markers are read back. -/
theorem sections_of_scripts (name : String) :
    (∀ text,
      let lines := Text.lines text
      let s := parse name text
      ((∀ line ∈ lines, ∀ v, ¬Marks v line) → s.up = Text.trim text ∧ s.down = "") ∧
      ((∃ line ∈ lines, ∃ v, Marks v line) →
        (∀ w, ∃ places : List Nat, places.Pairwise (· < ·) ∧ (∀ i, i ∈ places ↔ Belongs lines w i) ∧
          s.text w = Text.trim ("\n".intercalate (places.filterMap (lines[·]?)))) ∧
        ∀ i j, j < i → (∃ line ∈ lines[j]?, ∃ v, Marks v line) →
          (∃ line ∈ lines[i]?, ∀ v, ¬Marks v line) → ∃! w, Belongs lines w i)) ∧
    ∀ up down, Plain up → Plain down →
      parse name ("\n".intercalate [Way.up.marker, up, Way.down.marker, down]) = ⟨name, up, down⟩ := by
  refine ⟨fun text => ⟨fun hnone => ?_, fun hsome => ⟨fun w => ?_, ?_⟩⟩,
    fun up down hup hdown => parse_written name hup hdown⟩
  · rw [parse_of_unmarked name hnone]
    exact ⟨rfl, rfl⟩
  · exact ⟨places _ w, places_pairwise _ w, fun i => mem_places, text_parse name hsome w⟩
  · rintro i j hj ⟨marker, hmarker, v, hv⟩ ⟨line, hline, hplain⟩
    have hmark : markerAt (Text.lines text) j = some v := markerAt_eq_some_iff.2 ⟨marker, hmarker, hv⟩
    have hnone : markerAt (Text.lines text) i = none :=
      markerAt_eq_none_iff.2 fun other hother => Option.mem_unique hline hother ▸ hplain
    exact existsUnique_belongs (List.getElem?_eq_some_iff.1 hline).1 hnone hj hmark

theorem sections_of_scripts_users :
    let up := "CREATE TABLE users (id INT);\n\nCREATE TABLE posts (id INT);"
    let down := "DROP TABLE users;"
    Plain up ∧ Plain down ∧
      parse "20240101000000_users" ("\n".intercalate [Way.up.marker, up, Way.down.marker, down]) =
        ⟨"20240101000000_users", up, down⟩ := by
  intro up down
  have hup : Plain up := by decide
  have hdown : Plain down := by decide
  exact ⟨hup, hdown, (sections_of_scripts "20240101000000_users").2 up down hup hdown⟩

end Script

end Migration

end SqlKit
