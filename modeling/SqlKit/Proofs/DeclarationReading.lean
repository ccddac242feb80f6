import SqlKit.Proofs.DeclarationGrammar
import SqlKit.Proofs.SchemaTexts

/-!
# How declarations are read

What is read from a text that is put together: texts may stand next to each other where the second one
begins with neither a word nor a quote, names and literals are read as they were given, and elements that
are joined by commas are found again. Nothing in the type of a column or in its modifiers declares a key
but the words for a column that the engine numbers.
-/

namespace SqlKit.Declarations
open Schema (quoteChar quoteName)
open Quoting (doubled enclosed)

variable {d : Dialect}

/-! ## Texts next to each other -/

namespace Mode

/-- A mode between quotes was entered through one. -/
def Opened (d : Dialect) : Mode → Prop
  | .inside quote _ | .closing quote _ => isQuote d quote = true
  | _ => True

theorem opened_enter (c : Char) : (enter d c).2.Opened d := by
  unfold enter
  split
  · assumption
  · split
    · trivial
    · split <;> trivial

theorem opened_step {m : Mode} (h : m.Opened d) (c : Char) : (m.step d c).2.Opened d := by
  have henter := opened_enter (d := d) c
  cases m with
  | outside => exact henter
  | word text =>
    simp only [step]
    split
    · trivial
    · exact henter
  | inside quote text =>
    simp only [step]
    split <;> exact h
  | closing quote text =>
    simp only [step]
    split
    · exact h
    · exact henter

theorem opened_scan {m : Mode} (h : m.Opened d) (cs : List Char) : (m.scan d cs).2.Opened d := by
  induction cs generalizing m with
  | nil => exact h
  | cons c cs ih => exact ih (opened_step h c)

theorem scan_append (m : Mode) (cs ds : List Char) :
    m.scan d (cs ++ ds) =
      ((m.scan d cs).1 ++ ((m.scan d cs).2.scan d ds).1, ((m.scan d cs).2.scan d ds).2) := by
  induction cs generalizing m with
  | nil => rfl
  | cons c cs ih => simp [scan, ih, List.append_assoc]

theorem step_of_finish {m : Mode} {last : List Symbol} {c : Char} (h : m.Opened d)
    (hlast : m.finish? d = some last) (hquote : isQuote d c = false) (hword : Store.isWordChar c = false) :
    m.step d c = (last ++ (enter d c).1, (enter d c).2) := by
  cases m with
  | outside =>
    obtain rfl := Option.some.inj hlast
    rfl
  | word text =>
    obtain rfl := Option.some.inj hlast
    simp [step, hword]
  | inside quote text => cases hlast
  | closing quote text =>
    obtain rfl := Option.some.inj hlast
    have hc : c ≠ quote := by
      rintro rfl
      rw [show isQuote d c = true from h] at hquote
      cases hquote
    simp [step, hc]

end Mode

theorem isQuote_of_mysql {c : Char} (h : isQuote .mysql c = false) : isQuote d c = false := by
  simp only [isQuote, quoteChar, Bool.or_eq_false_iff, beq_eq_false_iff_ne] at h
  cases d <;> simp [isQuote, quoteChar, h.1.1, h.1.2, h.2]

/-- A text that begins with neither a quote nor a word. -/
def Apart (s : String) : Prop :=
  s.toList.head?.all (fun c => !isQuote .mysql c && !Store.isWordChar c) = true

instance (s : String) : Decidable (Apart s) := inferInstanceAs (Decidable (_ = true))

theorem apart_iff {s : String} : Apart s ↔
    ∀ c ∈ s.toList.head?, isQuote .mysql c = false ∧ Store.isWordChar c = false := by
  simp [Apart, Option.all_eq_true]

section
variable {s t w : String} {ss ts ws : List Symbol}

theorem symbols?_append (hs : symbols? d s = some ss) (ht : symbols? d t = some ts) (hapart : Apart t) :
    symbols? d (s ++ t) = some (ss ++ ts) := by
  obtain ⟨last, hlast, rfl⟩ := Option.map_eq_some_iff.1 hs
  obtain ⟨final, hfinal, rfl⟩ := Option.map_eq_some_iff.1 ht
  have hopened : (Mode.outside.scan d s.toList).2.Opened d := Mode.opened_scan (m := .outside) trivial _
  unfold symbols?
  rw [String.toList_append, Mode.scan_append]
  cases hchars : t.toList with
  | nil =>
    rw [hchars] at hfinal
    obtain rfl := Option.some.inj hfinal
    simp [Mode.scan, hlast]
  | cons c cs =>
    obtain ⟨hquote, hword⟩ := apart_iff.1 hapart c (by simp [hchars])
    have hstep := Mode.step_of_finish hopened hlast (isQuote_of_mysql hquote) hword
    have hfirst : Mode.outside.step d c = Mode.enter d c := rfl
    rw [hchars] at hfinal
    simp only [Mode.scan, hfirst] at hfinal
    simp [Mode.scan, hstep, hfirst, hfinal]

theorem apart_append (hs : Apart s) (ht : Apart t) : Apart (s ++ t) := by
  unfold Apart at hs ht ⊢
  rw [String.toList_append, List.head?_append]
  cases hfirst : s.toList.head? with
  | none => exact ht
  | some x =>
    rw [hfirst] at hs
    exact hs

theorem apart_before (h : Apart w) (hne : w ≠ "") : Apart (w ++ t) := by
  obtain ⟨c, cs, hcs⟩ := List.exists_cons_of_ne_nil fun he => hne (String.toList_eq_nil_iff.1 he)
  unfold Apart at h ⊢
  rw [String.toList_append, hcs, List.cons_append, List.head?_cons]
  rwa [hcs, List.head?_cons] at h

/-! ## Words -/

def unquoted (w : String) : Bool := w.toList.all fun c => !isQuote .mysql c

def Mode.Unquoted : Mode → Prop
  | .outside | .word _ => True
  | _ => False

theorem Mode.unquoted_enter {c : Char} (h : isQuote .mysql c = false) :
    enter d c = enter .mysql c ∧ (enter .mysql c).2.Unquoted := by
  unfold enter
  rw [h, isQuote_of_mysql h]
  refine ⟨rfl, ?_⟩
  rw [if_neg Bool.false_ne_true]
  split
  · trivial
  · split <;> trivial

theorem Mode.unquoted_step {m : Mode} (hm : m.Unquoted) {c : Char} (h : isQuote .mysql c = false) :
    m.step d c = m.step .mysql c ∧ (m.step .mysql c).2.Unquoted := by
  obtain ⟨henter, hafter⟩ := unquoted_enter (d := d) h
  cases m with
  | outside => exact ⟨henter, hafter⟩
  | word text =>
    simp only [step, henter, true_and]
    split
    · trivial
    · exact hafter
  | inside quote text => exact hm.elim
  | closing quote text => exact hm.elim

/-- Text without quotes is read alike in all dialects. -/
theorem scan_unquoted {cs : List Char} (h : cs.all (fun c => !isQuote .mysql c) = true) {m : Mode}
    (hm : m.Unquoted) : m.scan d cs = m.scan .mysql cs ∧ (m.scan .mysql cs).2.Unquoted := by
  induction cs generalizing m with
  | nil => exact ⟨rfl, hm⟩
  | cons c cs ih =>
    obtain ⟨hc, hcs⟩ := by simpa only [List.all_cons, Bool.and_eq_true] using h
    obtain ⟨hstep, hafter⟩ := Mode.unquoted_step (d := d) hm (c := c) (by simpa using hc)
    obtain ⟨hscan, hlast⟩ := ih hcs hafter
    simp only [Mode.scan, hstep, hscan, true_and]
    exact hlast

/-- These symbols are read from the text in all dialects. -/
def Says (w : String) (ws : List Symbol) : Prop := unquoted w = true ∧ symbols? .mysql w = some ws

instance : Decidable (Says w ws) := inferInstanceAs (Decidable (_ ∧ _))

theorem Says.symbols (h : Says w ws) : symbols? d w = some ws := by
  obtain ⟨hscan, hlast⟩ := scan_unquoted (d := d) h.1 (m := .outside) trivial
  have hfinish : ∀ m : Mode, m.Unquoted → m.finish? d = m.finish? .mysql := by
    intro m hm
    cases m with
    | outside | word => rfl
    | inside | closing => exact hm.elim
  rw [← h.2, symbols?, symbols?, hscan, hfinish _ hlast]

/-- The same for a text that any other may follow. -/
def Clear (w : String) (ws : List Symbol) : Prop :=
  unquoted w = true ∧ Mode.outside.scan .mysql w.toList = (ws, .outside)

instance : Decidable (Clear w ws) := inferInstanceAs (Decidable (_ ∧ _))

/-- The same for a text that may stand between any two others. -/
def Link (w : String) (ws : List Symbol) : Prop := Clear w ws ∧ Apart w ∧ w ≠ ""

instance : Decidable (Link w ws) := inferInstanceAs (Decidable (_ ∧ _))

theorem Clear.before (h : Clear w ws) (ht : symbols? d t = some ts) :
    symbols? d (w ++ t) = some (ws ++ ts) := by
  obtain ⟨last, hlast, rfl⟩ := Option.map_eq_some_iff.1 ht
  have hscan : Mode.outside.scan d w.toList = (ws, .outside) :=
    (scan_unquoted h.1 (m := .outside) trivial).1.trans h.2
  rw [symbols?, String.toList_append, Mode.scan_append, hscan]
  simp [hlast]

theorem symbols?_further (hs : symbols? d s = some ss) (hw : Link w ws) (ht : symbols? d t = some ts) :
    symbols? d (s ++ w ++ t) = some (ss ++ (ws ++ ts)) := by
  rw [String.append_assoc]
  exact symbols?_append hs (hw.1.before ht) (apart_before hw.2.1 hw.2.2)

theorem symbols?_intercalate {l : List String} {sss : List (List Symbol)} (hw : Link w ws)
    (h : List.Forall₂ (fun s ss => symbols? d s = some ss) l sss) :
    symbols? d (w.intercalate l) = some (ws.intercalate sss) := by
  induction h with
  | nil => rfl
  | cons hfirst hrest ih =>
    cases hrest with
    | nil => simpa using hfirst
    | cons _ _ =>
      rw [String.intercalate_cons_of_ne_nil (by simp), List.intercalate_cons_of_ne_nil (by simp),
        List.append_assoc]
      exact symbols?_further hfirst hw ih

end

/-! ## Names and literals -/

theorem scan_inside (quote : Char) (before text : List Char) :
    (Mode.inside quote before).scan d (doubled quote text) = ([], .inside quote (before ++ text)) := by
  induction text generalizing before with
  | nil => simp [doubled, Mode.scan]
  | cons c text ih =>
    have hnext : (Mode.inside quote before).scan d (doubled quote [c]) =
        ([], .inside quote (before ++ [c])) := by
      by_cases hc : c = quote
      · subst hc
        simp [doubled, Mode.scan, Mode.step]
      · simp [doubled, Mode.scan, Mode.step, hc]
    have hsplit : doubled quote (c :: text) = doubled quote [c] ++ doubled quote text := by simp [doubled]
    rw [hsplit, Mode.scan_append, hnext, ih]
    simp

theorem scan_enclosed {m : Mode} {quote : Char} {ss : List Symbol}
    (h : m.step d quote = (ss, .inside quote [])) (text : List Char) :
    m.scan d (enclosed quote text) = (ss, .closing quote text) := by
  have hlast : (Mode.inside quote text).step d quote = ([], .closing quote text) := by simp [Mode.step]
  simp [enclosed, Mode.scan, h, Mode.scan_append, scan_inside, hlast]

theorem enter_quote {quote : Char} (h : isQuote d quote = true) :
    Mode.enter d quote = ([], .inside quote []) := by
  simp [Mode.enter, h]

theorem toList_quote (text : String) : (Value.quote text).toList = enclosed '\'' text.toList := by
  simp [Value.quote, Value.quoteChars, enclosed, doubled]

theorem finish_literal (text : List Char) :
    (Mode.closing '\'' text).finish? d = some [.literal (String.ofList text)] := by
  cases d <;> simp [Mode.finish?, Symbol.quoted, quoteChar]

theorem symbols?_quote (text : String) : symbols? d (Value.quote text) = some [.literal text] := by
  have hquote : isQuote d '\'' = true := rfl
  rw [symbols?, toList_quote, scan_enclosed (m := .outside) (enter_quote hquote), finish_literal]
  simp

/-- A literal of bytes: the letter X, and the digits between quotes. -/
theorem symbols?_bytes (text : String) :
    symbols? d ("X" ++ Value.quote text) = some [.word ['X'], .literal text] := by
  have hfirst : Mode.outside.step d 'X' = ([], .word ['X']) := by cases d <;> decide
  have hnext : (Mode.word ['X']).step d '\'' = ([.word ['X']], .inside '\'' []) := by
    cases d <;> decide
  have hscan : Mode.outside.scan d ("X" ++ Value.quote text).toList =
      ([.word ['X']], .closing '\'' text.toList) := by
    have hquoted := scan_enclosed hnext text.toList
    simp [toList_quote, Mode.scan, hfirst, hquoted]
  rw [symbols?, hscan, finish_literal]
  simp

/-- A name of one part that does not end its own quotes. -/
def Simple (d : Dialect) (name : String) : Prop := quoteChar d ∉ name.toList ∧ '.' ∉ name.toList

theorem symbols?_name {name : String} (h : Simple d name) :
    symbols? d (quoteName d name) = some [.name name] := by
  have henclosed : (quoteName d name).toList = enclosed (quoteChar d) name.toList := by
    rw [quoteName, Schema.splitChars_of_not_mem h.2]
    simp [Schema.quotedPart, enclosed, Quoting.doubled_of_not_mem h.1]
  have hquote : isQuote d (quoteChar d) = true := by simp [isQuote]
  rw [symbols?, henclosed, scan_enclosed (m := .outside) (enter_quote hquote)]
  simp [Mode.finish?, Symbol.quoted]

/-! ## Elements -/

theorem levelAfter_append (ss ts : List Symbol) (n : Nat) :
    levelAfter? (ss ++ ts) n = (levelAfter? ss n).bind (levelAfter? ts) := List.foldlM_append

theorem level_append {ss ts : List Symbol} {n : Nat} (hs : levelAfter? ss n = some n)
    (ht : levelAfter? ts n = some n) : levelAfter? (ss ++ ts) n = some n := by
  rw [levelAfter_append, hs, Option.bind_some, ht]

theorem level_intercalate {sss : List (List Symbol)} {n : Nat} (hn : 0 < n)
    (h : ∀ ss ∈ sss, levelAfter? ss n = some n) : levelAfter? ([Symbol.comma].intercalate sss) n = some n := by
  have hcomma : levelAfter? [.comma] n = some n := by
    simp [levelAfter?, Symbol.level?, Nat.ne_of_gt hn]
  exact intercalate_induction (P := fun ss => levelAfter? ss n = some n) (fun _ => rfl)
    (fun _ _ hss hts => level_append (level_append hss hcomma) hts) h

theorem level_parens {ss : List Symbol} {n : Nat} (h : levelAfter? ss (n + 1) = some (n + 1)) :
    levelAfter? (.opening :: ss ++ [.closing]) n = some n := by
  have hinner : levelAfter? (ss ++ [.closing]) (n + 1) = some n := by
    rw [levelAfter_append, h]
    simp [levelAfter?, Symbol.level?]
  exact hinner

theorem parts_ne_nil (n : Nat) (ss : List Symbol) : parts n ss ≠ [] := by
  cases ss with
  | nil => simp [parts]
  | cons s ss =>
    unfold parts
    split
    · cases parts _ ss <;> simp [prepend]
    · split <;> simp

theorem prepend_prepend (ss ts : List Symbol) (es : List (List Symbol)) :
    prepend ss (prepend ts es) = prepend (ss ++ ts) es := by
  cases es <;> simp [prepend]

theorem parts_append {ss ts : List Symbol} {n k : Nat} (h : levelAfter? ss n = some k) :
    parts n (ss ++ ts) = prepend ss (parts k ts) := by
  induction ss generalizing n with
  | nil =>
    obtain rfl : n = k := by simpa [levelAfter?] using h
    obtain ⟨e, es, hes⟩ := List.exists_cons_of_ne_nil (parts_ne_nil n ts)
    simp [hes, prepend]
  | cons s ss ih =>
    have hfirst : (s.level? n).bind (levelAfter? ss) = some k := h
    obtain ⟨j, hj, hrest⟩ := Option.bind_eq_some_iff.1 hfirst
    simp only [List.cons_append, parts, hj, ih hrest, prepend_prepend]
    rfl

/-- Elements that are joined by commas are found again, up to where the last of them ends. -/
theorem parts_joined {es : List (List Symbol)} {rest : List Symbol} (hes : es ≠ [])
    (h : ∀ e ∈ es, levelAfter? e 0 = some 0) (hrest : parts 0 rest = [[]]) :
    parts 0 ([Symbol.comma].intercalate es ++ rest) = es := by
  induction es with
  | nil => exact absurd rfl hes
  | cons e es ih =>
    have he := h e List.mem_cons_self
    by_cases hnil : es = []
    · subst hnil
      rw [List.intercalate_singleton, parts_append he, hrest]
      simp [prepend]
    · have hmore := ih hnil fun x hx => h x (List.mem_cons_of_mem e hx)
      rw [List.intercalate_cons_of_ne_nil hnil, List.append_assoc, List.append_assoc, parts_append he]
      simp [parts, Symbol.level?, hmore, prepend]

theorem elements_joined {es : List (List Symbol)} {rest : List Symbol}
    (h : ∀ e ∈ es, levelAfter? e 0 = some 0) (hes : es ≠ [[]]) (hrest : parts 0 rest = [[]]) :
    elements ([Symbol.comma].intercalate es ++ rest) = es := by
  unfold elements
  by_cases hnil : es = []
  · subst hnil
    rw [List.intercalate_nil, List.nil_append, hrest]
  · rw [parts_joined hnil h hrest]
    split
    · exact absurd rfl hes
    · rfl

theorem effects_of_forall₂ {read : List Symbol → Option (List Effect)} {es : List (List Symbol)}
    {effects : List (List Effect)} (h : List.Forall₂ (fun e told => read e = some told) es effects) :
    effects? read es = some effects.flatten := by
  induction h with
  | nil => rfl
  | cons hfirst _ ih => simp [effects?, hfirst, ih]

/-! ## Columns in parentheses -/

def columnSymbols (columns : List String) : List Symbol :=
  .opening :: [Symbol.comma].intercalate (columns.map fun c => [.name c]) ++ [.closing]

theorem level_columns (columns : List String) (n : Nat) :
    levelAfter? (columnSymbols columns) n = some n := by
  refine level_parens (level_intercalate n.succ_pos fun ss hss => ?_)
  obtain ⟨c, -, rfl⟩ := List.mem_map.1 hss
  rfl

theorem listed_names {columns : List String} (h : columns ≠ []) (rest : List Symbol) :
    listed? ([Symbol.comma].intercalate (columns.map fun c => [.name c]) ++ .closing :: rest) =
      some (columns, rest) := by
  induction columns with
  | nil => exact absurd rfl h
  | cons c columns ih =>
    by_cases hnil : columns = []
    · subst hnil
      rfl
    · rw [List.map_cons, List.intercalate_cons_of_ne_nil (by simpa using hnil)]
      simp [listed?, ih hnil]

theorem columns_symbols (columns : List String) (rest : List Symbol) :
    columns? (columnSymbols columns ++ rest) = some (columns, rest) := by
  cases columns with
  | nil => rfl
  | cons c columns =>
    have hlisted := listed_names (List.cons_ne_nil c columns) rest
    obtain ⟨ss, hss⟩ : ∃ ss, [Symbol.comma].intercalate ((c :: columns).map fun c => [Symbol.name c]) ++
        .closing :: rest = .name c :: ss := by
      cases columns with
      | nil => exact ⟨_, rfl⟩
      | cons x xs => exact ⟨_, by rw [List.map_cons, List.intercalate_cons_of_ne_nil (by simp)]; rfl⟩
    rw [columnSymbols, List.cons_append, List.cons_append, List.append_assoc, List.singleton_append]
    rw [hss] at hlisted ⊢
    exact hlisted

@[simp] theorem allColumns_symbols (columns : List String) :
    allColumns? (columnSymbols columns) = some columns := by
  have hcolumns := columns_symbols columns []
  rw [List.append_nil] at hcolumns
  simp [allColumns?, hcolumns]

end SqlKit.Declarations
