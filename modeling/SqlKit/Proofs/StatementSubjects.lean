import SqlKit.Proofs.QuotedNames

/-!
# What statements are about

The first symbols of a schema statement tell which table it makes, changes or renames, under the name
part by part, and are read without a look at what follows. An index that is dropped or renamed may be
named without its table, and a comment names its column behind the table.
-/

namespace SqlKit.Declarations
open Schema

variable {d : Dialect}

/-! ## Reading -/

/-- The symbols of a text, short of a last one whose quote is left open. -/
def lead (d : Dialect) (s : String) : List Symbol :=
  (Mode.outside.scan d s.toList).1 ++ ((Mode.outside.scan d s.toList).2.finish? d).getD []

/-- A name part by part, and what follows it. -/
def path? : List Symbol → Option (List String × List Symbol)
  | .name part :: .point :: ss => (path? ss).map fun (path, rest) => (part :: path, rest)
  | .name part :: ss => some ([part], ss)
  | _ => none

inductive Subject where
  | created (table : List String)
  | table (path : List String)
  | renamed (table new : List String)
  | dropped (table : List String)
  | column (path : List String)
  | index
deriving DecidableEq, Repr

namespace Subject

def ofCreated? : List Symbol → Option Subject
  | .keyword .table :: ss => (path? ss).map fun (path, _) => .created path
  | .keyword .unique :: .keyword .index :: ss | .keyword .index :: ss => do
    let (_, ss) ← path? ss
    match ss with
    | .keyword .on :: ss => (path? ss).map fun (path, _) => .table path
    | _ => none
  | _ => none

def ofAltered? : List Symbol → Option Subject
  | .keyword .index :: _ => some .index
  | .keyword .table :: ss => do
    let (path, ss) ← path? ss
    match ss with
    | .keyword .rename :: .keyword .to :: ss => (path? ss).map fun (new, _) => .renamed path new
    | _ => some (.table path)
  | _ => none

def ofDropped? : List Symbol → Option Subject
  | .keyword .index :: _ => some .index
  | .keyword .table :: .keyword .whether :: .keyword .existing :: ss | .keyword .table :: ss =>
    (path? ss).map fun (path, _) => .dropped path
  | _ => none

def of? : List Symbol → Option Subject
  | .keyword .create :: ss => ofCreated? ss
  | .keyword .alter :: ss => ofAltered? ss
  | .keyword .drop :: ss => ofDropped? ss
  | .keyword .rename :: .keyword .table :: ss => do
    let (path, ss) ← path? ss
    match ss with
    | .keyword .to :: ss => (path? ss).map fun (new, _) => .renamed path new
    | _ => none
  | .keyword .comment :: .keyword .on :: .keyword .column :: ss => (path? ss).map fun (path, _) => .column path
  | _ => none

end Subject

def subject? (d : Dialect) (s : String) : Option Subject := Subject.of? (lead d s)

theorem pathSymbols_append {path more : List String} (h : path ≠ []) (hmore : more ≠ []) :
    pathSymbols (path ++ more) = pathSymbols path ++ [.point] ++ pathSymbols more := by
  induction path with
  | nil => exact absurd rfl h
  | cons part path ih =>
    by_cases hnil : path = []
    · simp [hnil, pathSymbols_cons part hmore]
    · have hne : path ++ more ≠ [] := List.append_ne_nil_of_left_ne_nil hnil more
      rw [List.cons_append, pathSymbols_cons part hne, pathSymbols_cons part hnil, ih hnil]
      simp

theorem path_symbols {path : List String} (h : path ≠ []) (rest : List Symbol)
    (hrest : rest.head? ≠ some .point) : path? (pathSymbols path ++ rest) = some (path, rest) := by
  induction path with
  | nil => exact absurd rfl h
  | cons part path ih =>
    by_cases hnil : path = []
    · subst hnil
      rw [pathSymbols_singleton]
      cases rest with
      | nil => rfl
      | cons s rest => cases s <;> first | rfl | exact absurd rfl hrest
    · rw [pathSymbols_cons part hnil]
      simp [path?, ih hnil]

theorem path_alone {path : List String} (h : path ≠ []) : path? (pathSymbols path) = some (path, []) := by
  have hpath := path_symbols h [] (by simp)
  rwa [List.append_nil] at hpath

/-! ## First symbols -/

section
variable {s t w : String} {ss ws : List Symbol}

theorem lead_symbols (h : symbols? d s = some ss) : lead d s = ss := by
  obtain ⟨last, hlast, rfl⟩ := Option.map_eq_some_iff.1 h
  rw [lead, hlast, Option.getD_some]

theorem lead_clear (h : Clear w ws) : lead d (w ++ t) = ws ++ lead d t := by
  have hscan : Mode.outside.scan d w.toList = (ws, .outside) :=
    (scan_unquoted h.1 (m := .outside) trivial).1.trans h.2
  rw [lead, String.toList_append, Mode.scan_append, hscan]
  simp [lead]

theorem lead_append (hs : symbols? d s = some ss) (hapart : Apart t) :
    lead d (s ++ t) = ss ++ lead d t := by
  obtain ⟨last, hlast, rfl⟩ := Option.map_eq_some_iff.1 hs
  have hopened : (Mode.outside.scan d s.toList).2.Opened d := Mode.opened_scan (m := .outside) trivial _
  rw [lead, String.toList_append, Mode.scan_append]
  cases hchars : t.toList with
  | nil =>
    have houtside : Mode.outside.finish? d = some [] := rfl
    simp [lead, hchars, Mode.scan, hlast, houtside]
  | cons c cs =>
    obtain ⟨hquote, hword⟩ := apart_iff.1 hapart c (by simp [hchars])
    have hstep := Mode.step_of_finish hopened hlast (isQuote_of_mysql hquote) hword
    have hfirst : Mode.outside.step d c = Mode.enter d c := rfl
    simp [lead, hchars, Mode.scan, hstep, hfirst]

end

/-! ## Statements of blueprints -/

/-- Words that begin a change of a table, but not a new name for it. -/
def isClause (w : String) : Bool :=
  unquoted w && match Mode.outside.scan .mysql w.toList with
    | (.keyword k :: s :: _, .outside) => !(k == .rename && s == .keyword .to)
    | _ => false

section
variable {table : String}

theorem symbols?_worded {w name : String} {ws : List Symbol} (hword : Clear w ws)
    (h : quoteChar d ∉ name.toList) : symbols? d (w ++ quoteName d name) = some (ws ++ pathSymbols (pathOf name)) :=
  hword.before (symbols?_path h)

theorem lead_alterText (h : quoteChar d ∉ table.toList) (clause : String) :
    lead d (alterText d table clause) =
      .keyword .alter :: .keyword .table :: (pathSymbols (pathOf table) ++ lead d clause) := by
  have hword : Clear "ALTER TABLE " [.keyword .alter, .keyword .table] := by decide
  have hblank : lead d (" " ++ clause) = lead d clause := lead_clear link_blank.1
  have happart : Apart (" " ++ clause) := apart_before link_blank.2.1 link_blank.2.2
  rw [alterText, String.append_assoc, lead_append (symbols?_worded hword h) happart, hblank]
  simp

theorem subject_clause (h : quoteChar d ∉ table.toList) {w : String} (hw : isClause w = true) (t : String) :
    subject? d (alterText d table (w ++ t)) = some (.table (pathOf table)) := by
  obtain ⟨hplain, hscan⟩ := Bool.and_eq_true_iff.1 hw
  split at hscan
  · rename_i k s ss heq
    have hclear : Clear w (.keyword k :: s :: ss) := ⟨hplain, heq⟩
    have hpath := path_symbols (pathOf_ne_nil table) (.keyword k :: s :: (ss ++ lead d t)) (by simp)
    rw [subject?, lead_alterText h, lead_clear hclear]
    simp only [List.cons_append, Subject.of?, Subject.ofAltered?, hpath, Option.bind_eq_bind, Option.bind_some]
    split
    · simp_all
    · rfl
  · cases hscan

theorem subject_noClause (h : quoteChar d ∉ table.toList) :
    subject? d (alterText d table "") = some (.table (pathOf table)) := by
  have hempty : lead d "" = [] := by cases d <;> rfl
  rw [subject?, lead_alterText h, hempty]
  simp [Subject.of?, Subject.ofAltered?, path_alone (pathOf_ne_nil table)]

theorem subject_renameTo (h : quoteChar d ∉ table.toList) {new : String} (hnew : quoteChar d ∉ new.toList) :
    subject? d (alterText d table ("RENAME TO " ++ quoteName d new)) =
      some (.renamed (pathOf table) (pathOf new)) := by
  have hword : Clear "RENAME TO " [.keyword .rename, .keyword .to] := by decide
  have hpath := path_symbols (pathOf_ne_nil table)
    (.keyword .rename :: .keyword .to :: pathSymbols (pathOf new)) (by simp)
  rw [subject?, lead_alterText h, lead_symbols (symbols?_worded hword hnew)]
  simp [Subject.of?, Subject.ofAltered?, hpath, path_alone (pathOf_ne_nil new)]

theorem subject_renameTable (h : quoteChar d ∉ table.toList) {new : String} (hnew : quoteChar d ∉ new.toList) :
    subject? d ("RENAME TABLE " ++ quoteName d table ++ " TO " ++ quoteName d new) =
      some (.renamed (pathOf table) (pathOf new)) := by
  have hword : Clear "RENAME TABLE " [.keyword .rename, .keyword .table] := by decide
  have hpath := path_symbols (pathOf_ne_nil table) (.keyword .to :: pathSymbols (pathOf new)) (by simp)
  have hall := symbols?_further (symbols?_worded hword h) link_to (symbols?_path hnew)
  rw [subject?, lead_symbols hall]
  simp [Subject.of?, hpath, path_alone (pathOf_ne_nil new)]

theorem subject_drop (h : quoteChar d ∉ table.toList) :
    subject? d ("DROP TABLE " ++ quoteName d table) = some (.dropped (pathOf table)) := by
  have hword : Clear "DROP TABLE " [.keyword .drop, .keyword .table] := by decide
  obtain ⟨part, parts, hparts⟩ := List.exists_cons_of_ne_nil (pathOf_ne_nil table)
  have hpath := path_alone (pathOf_ne_nil table)
  rw [subject?, lead_symbols (symbols?_worded hword h)]
  by_cases hnil : parts = []
  · simp_all [Subject.of?, Subject.ofDropped?]
  · simp_all [Subject.of?, Subject.ofDropped?, pathSymbols_cons part hnil]

theorem subject_dropIfExists (h : quoteChar d ∉ table.toList) :
    subject? d ("DROP TABLE IF EXISTS " ++ quoteName d table) = some (.dropped (pathOf table)) := by
  have hword : Clear "DROP TABLE IF EXISTS "
      [.keyword .drop, .keyword .table, .keyword .whether, .keyword .existing] := by decide
  rw [subject?, lead_symbols (symbols?_worded hword h)]
  simp [Subject.of?, Subject.ofDropped?, path_alone (pathOf_ne_nil table)]

theorem subject_createIndex (h : quoteChar d ∉ table.toList) {word : String} {ix : Index}
    (hword : Clear ("CREATE " ++ word ++ " ") [.keyword .create, .keyword .index] ∨
      Clear ("CREATE " ++ word ++ " ") [.keyword .create, .keyword .unique, .keyword .index])
    (hname : quoteChar d ∉ ix.name.toList) :
    subject? d (createIndexText d word table ix) = some (.table (pathOf table)) := by
  have hon : Link " ON " [.keyword .on] := by decide
  have hopening : Clear " (" [.opening] := by decide
  have hapart (t : String) : Apart (" (" ++ t) := apart_before (by decide) (by decide)
  obtain ⟨t, ht⟩ : ∃ t, " " ++ inParens d ix.columns = " (" ++ t :=
    ⟨quoteNames d ix.columns ++ ")", by simp only [inParens, ← String.append_assoc]; rfl⟩
  have hindex := path_symbols (pathOf_ne_nil ix.name)
    (.keyword .on :: (pathSymbols (pathOf table) ++ .opening :: lead d t)) (by simp)
  have htable := path_symbols (pathOf_ne_nil table) (.opening :: lead d t) (by simp)
  rw [subject?, createIndexText, String.append_assoc, ht]
  rcases hword with hword | hword
  all_goals
    rw [lead_append (symbols?_further (symbols?_worded hword hname) hon (symbols?_path h)) (hapart t),
      lead_clear hopening]
    simp [Subject.of?, Subject.ofCreated?, hindex, htable]

/-- A comment names its column by the parts of the table and those of the column. -/
theorem subject_comment (h : quoteChar d ∉ table.toList) {column : String}
    (hcolumn : quoteChar d ∉ column.toList) (comment : String) :
    subject? d (commentText d table column comment) = some (.column (pathOf table ++ pathOf column)) := by
  have hword : Clear "COMMENT ON COLUMN " [.keyword .comment, .keyword .on, .keyword .column] := by decide
  have his : Link " IS " [.keyword .is] := by decide
  have hnamed := symbols?_further (symbols?_worded hword h) link_point (symbols?_path hcolumn)
  have hlead : lead d (commentText d table column comment) =
      .keyword .comment :: .keyword .on :: .keyword .column ::
        (pathSymbols (pathOf table ++ pathOf column) ++ [.keyword .is, .literal comment]) := by
    rw [pathSymbols_append (pathOf_ne_nil table) (pathOf_ne_nil column)]
    have hall := lead_symbols (symbols?_further hnamed his (symbols?_quote comment))
    simp only [List.append_assoc, List.cons_append, List.nil_append] at hall ⊢
    exact hall
  have hne : pathOf table ++ pathOf column ≠ [] := by simp [pathOf_ne_nil]
  have hpath := path_symbols hne [.keyword .is, .literal comment] (by simp)
  have hsubject := congrArg (Option.map fun (path, _) => Subject.column path) hpath
  exact (congrArg Subject.of? hlead).trans hsubject

end
end SqlKit.Declarations
