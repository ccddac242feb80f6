import SqlKit.Proofs.DeclaredColumns

/-!
# Creation and alteration declare the same keys

What is read from the statements of a blueprint is what its columns and changes say. Creation declares
every key once, in the parentheses or in a statement behind it. Alteration declares the same keys, but
in SQLite, where a primary key and a foreign key can only be declared by creation. Other changes keep
their effects and their order, and only SQLite leaves some of them out.
-/

namespace SqlKit.Declarations
open Schema

variable {d : Dialect}

/-! ## What changes say -/

/-- The key that a change declares. SQLite gives foreign keys no names. -/
def keyOf? (d : Dialect) : Change → Option Key
  | .primary ix => some (.primary ix.columns)
  | .unique ix => some (.unique ix.name ix.columns)
  | .index ix => some (.index ix.name ix.columns)
  | .foreign k =>
    let name := match d with
      | .sqlite => none
      | _ => some k.name
    some (.foreign name k.columns k.table k.references k.onDelete k.onUpdate)
  | _ => none

/-- What a change does that declares no key. -/
def others (d : Dialect) (table : String) : Change → List Effect
  | .primary _ | .unique _ | .index _ | .foreign _ => []
  | .dropColumns columns => columns.map (.dropColumn table)
  | .dropPrimary name =>
    match d with
    | .mysql => [.dropPrimary table]
    | .postgres => [.dropConstraint table name]
    | .sqlite => []
  | .dropUnique name =>
    match d with
    | .mysql => [.dropIndex (some table) name]
    | .postgres => [.dropConstraint table name]
    | .sqlite => [.dropIndex none name]
  | .dropIndex name =>
    match d with
    | .mysql => [.dropIndex (some table) name]
    | _ => [.dropIndex none name]
  | .dropForeign name =>
    match d with
    | .mysql => [.dropForeign table name]
    | .postgres => [.dropConstraint table name]
    | .sqlite => []
  | .renameColumn old new => [.renameColumn table old new]
  | .renameIndex old new =>
    match d with
    | .mysql => [.renameIndex (some table) old new]
    | .postgres => [.renameIndex none old new]
    | .sqlite => []
  | .rename new => [.renameTable table new]
  | .drop => [.dropTable table false]
  | .dropIfExists => [.dropTable table true]

def told (d : Dialect) (table : String) (c : Change) : List Effect :=
  (keyOf? d c).toList.map (.key table) ++ others d table c

def columnTold (table : String) (c : Column) : List Effect :=
  .column table c.name :: (ownKeys c).map (.key table)

/-! ## Words of more than one statement -/

theorem link_blank : Link " " [] := by decide
theorem link_comma : Link ", " [.comma] := by decide
theorem link_to : Link " TO " [.keyword .to] := by decide
theorem link_unique : Link " UNIQUE " [.keyword .unique] := by decide
theorem says_closing : Says ")" [.closing] := by decide
theorem clear_constraint : Clear "CONSTRAINT " [.keyword .constraint] := by decide
theorem clear_addConstraint : Clear "ADD CONSTRAINT " [.keyword .add, .keyword .constraint] := by decide

/-! ## Texts of keys -/

theorem read_of_symbols {s : String} {ss : List Symbol} (h : symbols? d s = some ss) :
    read? d s = statement? ss := by
  rw [read?, h, Option.bind_some]

theorem symbols?_inParens {names : List String} (h : ∀ n ∈ names, Simple d n) :
    symbols? d (inParens d names) = some (columnSymbols names) := by
  have hopening : Clear "(" [.opening] := by decide
  have hlist : symbols? d (quoteNames d names) =
      some ([Symbol.comma].intercalate (names.map fun c => [.name c])) := by
    refine symbols?_intercalate link_comma ?_
    rw [List.forall₂_map_left_iff, List.forall₂_map_right_iff, List.forall₂_same]
    exact fun n hn => symbols?_name (h n hn)
  exact symbols?_append (hopening.before hlist) says_closing.symbols (by decide)

theorem symbols?_named {word name : String} {ws : List Symbol} (hword : Clear word ws)
    (h : Simple d name) : symbols? d (word ++ quoteName d name) = some (ws ++ [.name name]) :=
  hword.before (symbols?_name h)

def actionSymbols : ReferenceAction → List Symbol
  | .noAction => [.keyword .no, .keyword .action]
  | .restrict => [.keyword .restrict]
  | .cascade => [.keyword .cascade]
  | .setNull => [.keyword .set, .keyword .null]
  | .setDefault => [.keyword .set, .keyword .default]

def eventSymbols (event : Keyword) : Option ReferenceAction → List Symbol
  | none => []
  | some a => .keyword .on :: .keyword event :: actionSymbols a

theorem action_symbols (a : ReferenceAction) (rest : List Symbol) :
    action? (actionSymbols a ++ rest) = some (a, rest) := by
  cases a <;> rfl

theorem level_event (event : Keyword) (a : Option ReferenceAction) :
    levelAfter? (eventSymbols event a) 0 = some 0 := by
  cases a with
  | none => rfl
  | some a => cases a <;> rfl

theorem symbols?_event {word : String} {event : Keyword} (hword : Link word [.keyword .on, .keyword event])
    (a : Option ReferenceAction) :
    symbols? d (option word id (a.map (·.keyword))) = some (eventSymbols event a) ∧
      Apart (option word id (a.map (·.keyword))) := by
  cases a with
  | none => exact ⟨rfl, (by decide : Apart "")⟩
  | some a =>
    have haction : Says a.keyword (actionSymbols a) := by cases a <;> decide
    exact ⟨hword.1.before haction.symbols, apart_before hword.2.1 hword.2.2⟩

def foreignSymbols (k : ForeignKey) : List Symbol :=
  [.keyword .foreign, .keyword .key] ++ columnSymbols k.columns ++ ([.keyword .references] ++ [.name k.table])
    ++ ([] ++ columnSymbols k.references) ++ eventSymbols .delete k.onDelete ++ eventSymbols .update k.onUpdate

theorem symbols?_foreign {k : ForeignKey} (h : ∀ n ∈ (Change.foreign k).names, Simple d n) :
    symbols? d (k.text d) = some (foreignSymbols k) := by
  have hword : Clear "FOREIGN KEY " [.keyword .foreign, .keyword .key] := by decide
  have hreferences : Link " REFERENCES " [.keyword .references] := by decide
  have hcolumns : ∀ n ∈ k.columns, Simple d n := fun n hn => h n (by simp [Change.names, hn])
  have htargets : ∀ n ∈ k.references, Simple d n := fun n hn => h n (by simp [Change.names, hn])
  have htable : Simple d k.table := h _ (by simp [Change.names])
  have honDelete : Link " ON DELETE " [.keyword .on, .keyword .delete] := by decide
  have honUpdate : Link " ON UPDATE " [.keyword .on, .keyword .update] := by decide
  obtain ⟨hdelete, hapart⟩ := symbols?_event (d := d) honDelete k.onDelete
  obtain ⟨hupdate, hapart'⟩ := symbols?_event (d := d) honUpdate k.onUpdate
  have hown := hword.before (symbols?_inParens hcolumns)
  have htarget := symbols?_further hown hreferences (symbols?_name htable)
  have hpair := symbols?_further htarget link_blank (symbols?_inParens htargets)
  exact symbols?_append (symbols?_append hpair hdelete hapart) hupdate hapart'

theorem level_foreign (k : ForeignKey) : levelAfter? (foreignSymbols k) 0 = some 0 := by
  have hwords : levelAfter? [.keyword .foreign, .keyword .key] 0 = some 0 := rfl
  have hreferences : levelAfter? ([.keyword .references] ++ [.name k.table]) 0 = some 0 := rfl
  have hkey := level_append hwords (level_columns k.columns 0)
  have hpair := level_append (level_append hkey hreferences) (level_columns k.references 0)
  exact level_append (level_append hpair (level_event .delete k.onDelete)) (level_event .update k.onUpdate)

theorem foreign_symbols (name : Option String) (k : ForeignKey) :
    foreign? name ((foreignSymbols k).drop 2) =
      some (.foreign name k.columns k.table k.references k.onDelete k.onUpdate) := by
  have hupdate : onUpdate? (eventSymbols .update k.onUpdate) = some k.onUpdate := by
    cases k.onUpdate with
    | none => rfl
    | some a => cases a <;> rfl
  have hdelete : onDelete? (eventSymbols .delete k.onDelete ++ eventSymbols .update k.onUpdate) =
      some (k.onDelete, eventSymbols .update k.onUpdate) := by
    cases k.onDelete with
    | none =>
      cases k.onUpdate with
      | none => rfl
      | some a => rfl
    | some a => simp [eventSymbols, onDelete?, action_symbols]
  have hdrop : (foreignSymbols k).drop 2 = columnSymbols k.columns ++ (.keyword .references :: .name k.table ::
      (columnSymbols k.references ++ (eventSymbols .delete k.onDelete ++ eventSymbols .update k.onUpdate))) := by
    simp [foreignSymbols]
  simp [hdrop, foreign?, columns_symbols, reference?, hdelete, hupdate]

@[simp] theorem key_foreign (k : ForeignKey) : key? (foreignSymbols k) =
    some (.foreign none k.columns k.table k.references k.onDelete k.onUpdate) := foreign_symbols none k

@[simp] theorem key_named_foreign (name : String) (k : ForeignKey) :
    key? (.keyword .constraint :: .name name :: foreignSymbols k) =
      some (.foreign (some name) k.columns k.table k.references k.onDelete k.onUpdate) :=
  foreign_symbols (some name) k

/-! ## Elements and clauses -/

/-- The text of one element is read in this way. -/
def Reading (d : Dialect) (read : List Symbol → Option (List Effect)) (text : String)
    (effects : List Effect) : Prop :=
  ∃ ss, symbols? d text = some ss ∧ levelAfter? ss 0 = some 0 ∧ ss ≠ [] ∧ read ss = some effects

section
variable {read : List Symbol → Option (List Effect)} {effects : List Effect} {word between name : String}
  {columns : List String} {ws bs : List Symbol}

theorem reading_named (hword : Clear word ws) (h : Simple d name) (hws : levelAfter? ws 0 = some 0)
    (hread : read (ws ++ [.name name]) = some effects) :
    Reading d read (word ++ quoteName d name) effects :=
  ⟨_, symbols?_named hword h, level_append hws rfl, by simp, hread⟩

theorem reading_renamed {new : String} (hword : Clear word ws) (h : Simple d name) (h' : Simple d new)
    (hws : levelAfter? ws 0 = some 0)
    (hread : read (ws ++ [.name name] ++ ([.keyword .to] ++ [.name new])) = some effects) :
    Reading d read (word ++ quoteName d name ++ " TO " ++ quoteName d new) effects := by
  refine ⟨_, symbols?_further (symbols?_named hword h) link_to (symbols?_name h'), ?_, by simp, hread⟩
  exact level_append (level_append hws rfl) rfl

theorem reading_columns (hword : Clear word ws) (hcolumns : ∀ n ∈ columns, Simple d n)
    (hws : levelAfter? ws 0 = some 0) (hread : read (ws ++ columnSymbols columns) = some effects) :
    Reading d read (word ++ inParens d columns) effects := by
  refine ⟨_, hword.before (symbols?_inParens hcolumns), level_append hws (level_columns columns 0), ?_, hread⟩
  simp [columnSymbols]

theorem reading_keyed (hword : Clear word ws) (hbetween : Link between bs) {ix : Index}
    (h : ∀ n ∈ ix.name :: ix.columns, Simple d n) (hws : levelAfter? ws 0 = some 0)
    (hbs : levelAfter? bs 0 = some 0)
    (hread : read (ws ++ [.name ix.name] ++ (bs ++ columnSymbols ix.columns)) = some effects) :
    Reading d read (word ++ quoteName d ix.name ++ between ++ inParens d ix.columns) effects := by
  obtain ⟨hname, hcolumns⟩ := List.forall_mem_cons.1 h
  refine ⟨_, symbols?_further (symbols?_named hword hname) hbetween (symbols?_inParens hcolumns), ?_,
    by simp, hread⟩
  exact level_append (level_append hws rfl) (level_append hbs (level_columns ix.columns 0))

theorem reading_foreign (hword : Clear word ws) {k : ForeignKey}
    (h : ∀ n ∈ (Change.foreign k).names, Simple d n) (hws : levelAfter? ws 0 = some 0)
    (hread : read (ws ++ [.name k.name] ++ ([] ++ foreignSymbols k)) = some effects) :
    Reading d read (word ++ quoteName d k.name ++ " " ++ k.text d) effects := by
  have hname : Simple d k.name := h _ (by simp [Change.names])
  refine ⟨_, symbols?_further (symbols?_named hword hname) link_blank (symbols?_foreign h), ?_, by simp, hread⟩
  exact level_append (level_append hws rfl) (level_foreign k)

theorem reading_definition {c : Column} (h : Column.Plain d c) (table : String) :
    Reading d (element? table) (definitionText d c) (columnTold table c) := by
  obtain ⟨ss, hss, hlevel, hown⟩ := definition_symbols h
  exact ⟨_, hss, hlevel, by simp, by simp [element?, definition?, hown, columnTold]⟩

theorem reading_addColumn {c : Column} (h : Column.Plain d c) (table : String) :
    Reading d (clause? table) ("ADD COLUMN " ++ definitionText d c) (columnTold table c) := by
  have hword : Clear "ADD COLUMN " [.keyword .add, .keyword .column] := by decide
  obtain ⟨ss, hss, hlevel, hown⟩ := definition_symbols h
  exact ⟨_, hword.before hss, hlevel, by simp, by simp [clause?, definition?, hown, columnTold]⟩

theorem read_joined {texts : List String} {told : List (List Effect)}
    (h : List.Forall₂ (Reading d read) texts told) :
    ∃ ss, symbols? d (", ".intercalate texts) = some ss ∧
      ∀ rest, parts 0 rest = [[]] → effects? read (elements (ss ++ rest)) = some told.flatten := by
  obtain ⟨sss, hsymbols, hread, hlevel, hne⟩ : ∃ sss : List (List Symbol),
      List.Forall₂ (fun s ss => symbols? d s = some ss) texts sss ∧
      List.Forall₂ (fun ss effects => read ss = some effects) sss told ∧
      (∀ ss ∈ sss, levelAfter? ss 0 = some 0) ∧ ∀ ss ∈ sss, ss ≠ [] := by
    induction h with
    | nil => exact ⟨[], .nil, .nil, by simp, by simp⟩
    | cons hfirst _ ih =>
      obtain ⟨ss, hss, hlevel, hne, hread⟩ := hfirst
      obtain ⟨sss, hsymbols, hreads, hlevels, hnes⟩ := ih
      exact ⟨ss :: sss, .cons hss hsymbols, .cons hread hreads, by simpa using ⟨hlevel, hlevels⟩,
        by simpa using ⟨hne, hnes⟩⟩
  refine ⟨_, symbols?_intercalate link_comma hsymbols, fun rest hrest => ?_⟩
  rw [elements_joined hlevel (fun he => hne [] (by simp [he]) rfl) hrest]
  exact effects_of_forall₂ hread

end

/-- What stands in a creation for a change says what the change says. -/
theorem reading_inline {table text : String} {c : Change} (h : ∀ n ∈ c.names, Simple d n)
    (htext : inlineText? d c = some text) : Reading d (element? table) text (told d table c) := by
  cases c with
  | primary ix =>
    obtain rfl := Option.some.inj htext
    have hword : Clear "PRIMARY KEY " [.keyword .primary, .keyword .key] := by decide
    exact reading_columns hword (List.forall_mem_cons.1 h).2 rfl
      (by simp [element?, key?, told, keyOf?, others])
  | unique ix =>
    cases d with
    | mysql =>
      obtain rfl := Option.some.inj htext
      have hword : Clear "UNIQUE KEY " [.keyword .unique, .keyword .key] := by decide
      exact reading_keyed hword link_blank h rfl rfl (by simp [element?, key?, told, keyOf?, others])
    | postgres =>
      obtain rfl := Option.some.inj htext
      exact reading_keyed clear_constraint link_unique h rfl rfl (by simp [element?, key?, told, keyOf?, others])
    | sqlite => cases htext
  | index ix =>
    cases d with
    | mysql =>
      obtain rfl := Option.some.inj htext
      have hword : Clear "INDEX " [.keyword .index] := by decide
      exact reading_keyed hword link_blank h rfl rfl (by simp [element?, key?, told, keyOf?, others])
    | postgres | sqlite => cases htext
  | foreign k =>
    cases d with
    | sqlite =>
      obtain rfl := Option.some.inj htext
      refine ⟨_, symbols?_foreign h, level_foreign k, by simp [foreignSymbols], ?_⟩
      have helement : element? table (foreignSymbols k) =
          (key? (foreignSymbols k)).map fun key => [.key table key] := rfl
      simp [helement, told, keyOf?, others]
    | mysql | postgres =>
      obtain rfl := Option.some.inj htext
      exact reading_foreign clear_constraint h rfl (by simp [element?, told, keyOf?, others])
  | _ => cases htext

/-! ## Statements of changes -/

theorem readAll_append (l l' : List String) :
    readAll? d (l ++ l') = (readAll? d l).bind fun es => (readAll? d l').map (es ++ ·) := by
  induction l with
  | nil => simp [readAll?]
  | cons s l ih =>
    cases hs : read? d s with
    | none => simp [readAll?, hs]
    | some effects =>
      cases hl : readAll? d l with
      | none => simp [readAll?, hs, ih, hl]
      | some es => cases hl' : readAll? d l' <;> simp [readAll?, hs, ih, hl, hl']

theorem readAll_both {l l' : List String} {es es' : List Effect} (h : readAll? d l = some es)
    (h' : readAll? d l' = some es') : readAll? d (l ++ l') = some (es ++ es') := by
  rw [readAll_append, h, Option.bind_some, h', Option.map_some]

theorem readAll_one {s : String} {es : List Effect} (h : read? d s = some es) :
    readAll? d [s] = some es := by
  simp [readAll?, h]

theorem readAll_flatMap {α : Type} {l : List α} {write : α → List String} {tell : α → List Effect}
    (h : ∀ x ∈ l, readAll? d (write x) = some (tell x)) :
    readAll? d (l.flatMap write) = some (l.flatMap tell) := by
  induction l with
  | nil => rfl
  | cons x l ih =>
    rw [List.flatMap_cons, List.flatMap_cons]
    exact readAll_both (h x List.mem_cons_self) (ih fun y hy => h y (List.mem_cons_of_mem x hy))

theorem read_clauses {table : String} {clauses : List String} {effects : List (List Effect)}
    (htable : Simple d table) (h : List.Forall₂ (Reading d (clause? table)) clauses effects) :
    read? d (alterText d table (", ".intercalate clauses)) = some effects.flatten := by
  have hword : Clear "ALTER TABLE " [.keyword .alter, .keyword .table] := by decide
  obtain ⟨ss, hss, hread⟩ := read_joined h
  have hsymbols := symbols?_further (symbols?_named hword htable) link_blank hss
  have hall := hread [] rfl
  rw [List.append_nil] at hall
  exact (read_of_symbols hsymbols).trans hall

theorem read_clause {table clause : String} {effects : List Effect} (htable : Simple d table)
    (h : Reading d (clause? table) clause effects) : read? d (alterText d table clause) = some effects := by
  have hone := read_clauses htable (.cons h .nil)
  simpa using hone

theorem read_createIndex {word table : String} {ws : List Symbol} {key : List String → Key} {ix : Index}
    (hword : Clear ("CREATE " ++ word ++ " ") ws) (htable : Simple d table)
    (h : ∀ n ∈ ix.name :: ix.columns, Simple d n)
    (hread : statement? (ws ++ [.name ix.name] ++ ([.keyword .on] ++ [.name table]) ++
      ([] ++ columnSymbols ix.columns)) = some [.key table (key ix.columns)]) :
    read? d (createIndexText d word table ix) = some [.key table (key ix.columns)] := by
  have hon : Link " ON " [.keyword .on] := by decide
  obtain ⟨hname, hcolumns⟩ := List.forall_mem_cons.1 h
  have hindex := symbols?_further (symbols?_named hword hname) hon (symbols?_name htable)
  have hall := symbols?_further hindex link_blank (symbols?_inParens hcolumns)
  exact (read_of_symbols hall).trans hread

section
variable {table : String}

theorem read_primary (htable : Simple d table) {ix : Index} (h : ∀ n ∈ ix.columns, Simple d n) :
    read? d (alterText d table ("ADD PRIMARY KEY " ++ inParens d ix.columns)) =
      some [.key table (.primary ix.columns)] := by
  have hword : Clear "ADD PRIMARY KEY " [.keyword .add, .keyword .primary, .keyword .key] := by decide
  exact read_clause htable (reading_columns hword h rfl (by simp [clause?, key?]))

theorem readAll_unique (htable : Simple d table) {ix : Index} (h : ∀ n ∈ ix.name :: ix.columns, Simple d n) :
    readAll? d (changeStatements d table (.unique ix)) =
      some [.key table (.unique ix.name ix.columns)] := by
  cases d with
  | mysql =>
    have hword : Clear "ADD UNIQUE " [.keyword .add, .keyword .unique] := by decide
    exact readAll_one (read_clause htable (reading_keyed hword link_blank h rfl rfl (by simp [clause?, key?])))
  | postgres =>
    exact readAll_one (read_clause htable
      (reading_keyed clear_addConstraint link_unique h rfl rfl (by simp [clause?, key?])))
  | sqlite =>
    have hword : Clear ("CREATE " ++ "UNIQUE INDEX" ++ " ")
        [.keyword .create, .keyword .unique, .keyword .index] := by decide
    have hindex : read? .sqlite (createIndexText .sqlite "UNIQUE INDEX" table ix) =
        some [.key table (.unique ix.name ix.columns)] :=
      read_createIndex hword htable h (by simp [statement?, created?, indexOn?])
    exact readAll_one hindex

theorem readAll_index (htable : Simple d table) {ix : Index} (h : ∀ n ∈ ix.name :: ix.columns, Simple d n) :
    readAll? d (changeStatements d table (.index ix)) = some [.key table (.index ix.name ix.columns)] := by
  have hcreate : Clear ("CREATE " ++ "INDEX" ++ " ") [.keyword .create, .keyword .index] := by decide
  have hindex : read? d (createIndexText d "INDEX" table ix) =
      some [.key table (.index ix.name ix.columns)] :=
    read_createIndex hcreate htable h (by simp [statement?, created?, indexOn?])
  cases d with
  | mysql =>
    have hword : Clear "ADD INDEX " [.keyword .add, .keyword .index] := by decide
    exact readAll_one (read_clause htable (reading_keyed hword link_blank h rfl rfl (by simp [clause?, key?])))
  | postgres | sqlite => exact readAll_one hindex

theorem read_foreign (htable : Simple d table) {k : ForeignKey}
    (h : ∀ n ∈ (Change.foreign k).names, Simple d n) :
    read? d (alterText d table ("ADD CONSTRAINT " ++ quoteName d k.name ++ " " ++ k.text d)) =
      some [.key table (.foreign (some k.name) k.columns k.table k.references k.onDelete k.onUpdate)] := by
  exact read_clause htable (reading_foreign clear_addConstraint h rfl (by simp [clause?]))

/-- Columns are dropped in one statement, or in SQLite in one for each of them. -/
theorem readAll_dropColumns (htable : Simple d table) {columns : List String}
    (h : ∀ n ∈ columns, Simple d n) :
    readAll? d (changeStatements d table (.dropColumns columns)) =
      some (columns.map (.dropColumn table)) := by
  have hword : Clear "DROP COLUMN " [.keyword .drop, .keyword .column] := by decide
  have hdropped : ∀ c ∈ columns, Reading d (clause? table) (dropColumnText d c) [.dropColumn table c] :=
    fun c hc => reading_named hword (h c hc) rfl rfl
  have hall : List.Forall₂ (Reading d (clause? table)) (columns.map (dropColumnText d))
      (columns.map fun c => [.dropColumn table c]) := by
    rw [List.forall₂_map_left_iff, List.forall₂_map_right_iff, List.forall₂_same]
    exact hdropped
  have htold : (columns.map fun c => [Effect.dropColumn table c]).flatten = columns.map (.dropColumn table) := by
    rw [← List.flatMap_def, List.map_eq_flatMap]
  have hone : readAll? d [alterText d table (", ".intercalate (columns.map (dropColumnText d)))] =
      some (columns.map (.dropColumn table)) := by
    rw [← htold]
    exact readAll_one (read_clauses htable hall)
  cases d with
  | mysql | postgres => exact hone
  | sqlite =>
    rw [changeStatements, List.map_eq_flatMap, List.map_eq_flatMap]
    exact readAll_flatMap fun c hc => readAll_one (read_clause htable (hdropped c hc))

theorem readAll_clause_named {word name : String} {ws : List Symbol} {effect : Effect}
    (htable : Simple d table) (hname : Simple d name) (hword : Clear word ws)
    (hlevel : levelAfter? ws 0 = some 0) (hread : clause? table (ws ++ [.name name]) = some [effect]) :
    readAll? d [alterText d table (word ++ quoteName d name)] = some [effect] :=
  readAll_one (read_clause htable (reading_named hword hname hlevel hread))

theorem readAll_dropConstraint (htable : Simple d table) {name : String} (hname : Simple d name) :
    readAll? d [alterText d table ("DROP CONSTRAINT " ++ quoteName d name)] =
      some [.dropConstraint table name] := by
  have hword : Clear "DROP CONSTRAINT " [.keyword .drop, .keyword .constraint] := by decide
  exact readAll_clause_named htable hname hword rfl rfl

/-- MySQL drops an index of a table, the others an index of a name. -/
theorem readAll_dropIndex (htable : Simple d table) {name : String} (hname : Simple d name) :
    readAll? d [alterText d table ("DROP INDEX " ++ quoteName d name)] =
        some [.dropIndex (some table) name] ∧
      readAll? d ["DROP INDEX " ++ quoteName d name] = some [.dropIndex none name] := by
  have hword : Clear "DROP INDEX " [.keyword .drop, .keyword .index] := by decide
  exact ⟨readAll_clause_named htable hname hword rfl rfl,
    readAll_one (read_of_symbols (symbols?_named hword hname))⟩

theorem readAll_renameIndex (htable : Simple d table) {old new : String} (hold : Simple d old)
    (hnew : Simple d new) : readAll? d (changeStatements d table (.renameIndex old new)) =
      some (others d table (.renameIndex old new)) := by
  cases d with
  | mysql =>
    have hword : Clear "RENAME INDEX " [.keyword .rename, .keyword .index] := by decide
    exact readAll_one (read_clause htable (reading_renamed hword hold hnew rfl rfl))
  | postgres =>
    have hword : Clear "ALTER INDEX " [.keyword .alter, .keyword .index] := by decide
    have hto : Link " RENAME TO " [.keyword .rename, .keyword .to] := by decide
    have hsymbols := symbols?_further (symbols?_named hword hold) hto (symbols?_name hnew)
    exact readAll_one (read_of_symbols hsymbols)
  | sqlite => rfl

theorem readAll_rename (htable : Simple d table) {new : String} (hnew : Simple d new) :
    readAll? d (changeStatements d table (.rename new)) = some [.renameTable table new] := by
  have hword : Clear "RENAME TO " [.keyword .rename, .keyword .to] := by decide
  have hrenamed : readAll? d [alterText d table ("RENAME TO " ++ quoteName d new)] =
      some [.renameTable table new] := readAll_clause_named htable hnew hword rfl rfl
  cases d with
  | mysql =>
    have hwhole : Clear "RENAME TABLE " [.keyword .rename, .keyword .table] := by decide
    have hsymbols := symbols?_further (symbols?_named hwhole htable) link_to (symbols?_name hnew)
    exact readAll_one (read_of_symbols hsymbols)
  | postgres | sqlite => exact hrenamed

/-- Keys that only the creation of a table declares. -/
def creationOnly (d : Dialect) : Change → Bool
  | .primary _ | .foreign _ => d = .sqlite
  | _ => false

/-- The statements of a change say what the change says. -/
theorem readAll_change {c : Change} (htable : Simple d table) (h : ∀ n ∈ c.names, Simple d n)
    (hc : creationOnly d c = false) :
    readAll? d (changeStatements d table c) = some (told d table c) := by
  cases c with
  | primary ix =>
    have hadded := readAll_one (read_primary htable (List.forall_mem_cons.1 h).2)
    cases d with
    | mysql | postgres => exact hadded
    | sqlite => cases hc
  | unique ix => exact readAll_unique htable h
  | index ix => exact readAll_index htable h
  | foreign k =>
    have hadded := readAll_one (read_foreign htable h)
    cases d with
    | mysql | postgres => exact hadded
    | sqlite => cases hc
  | dropColumns columns => exact readAll_dropColumns htable h
  | dropPrimary name =>
    have hname : Simple d name := h name List.mem_cons_self
    cases d with
    | mysql =>
      have hkey : Says "DROP PRIMARY KEY" [.keyword .drop, .keyword .primary, .keyword .key] := by decide
      exact readAll_one (read_clause htable ⟨_, hkey.symbols, rfl, by simp, rfl⟩)
    | postgres => exact readAll_dropConstraint htable hname
    | sqlite => rfl
  | dropUnique name =>
    have hname : Simple d name := h name List.mem_cons_self
    cases d with
    | mysql => exact (readAll_dropIndex htable hname).1
    | postgres => exact readAll_dropConstraint htable hname
    | sqlite => exact (readAll_dropIndex htable hname).2
  | dropIndex name =>
    have hname : Simple d name := h name List.mem_cons_self
    cases d with
    | mysql => exact (readAll_dropIndex htable hname).1
    | postgres | sqlite => exact (readAll_dropIndex htable hname).2
  | dropForeign name =>
    have hname : Simple d name := h name List.mem_cons_self
    have hword : Clear "DROP FOREIGN KEY " [.keyword .drop, .keyword .foreign, .keyword .key] := by decide
    cases d with
    | mysql => exact readAll_clause_named htable hname hword rfl rfl
    | postgres => exact readAll_dropConstraint htable hname
    | sqlite => rfl
  | renameColumn old new =>
    have hnew : Simple d new := h new (by simp [Change.names])
    have hword : Clear "RENAME COLUMN " [.keyword .rename, .keyword .column] := by decide
    exact readAll_one (read_clause htable (reading_renamed hword (h old List.mem_cons_self) hnew rfl rfl))
  | renameIndex old new =>
    exact readAll_renameIndex htable (h old List.mem_cons_self) (h new (by simp [Change.names]))
  | rename new => exact readAll_rename htable (h new List.mem_cons_self)
  | drop =>
    have hword : Clear "DROP TABLE " [.keyword .drop, .keyword .table] := by decide
    exact readAll_one (read_of_symbols (symbols?_named hword htable))
  | dropIfExists =>
    have hword : Clear "DROP TABLE IF EXISTS "
        [.keyword .drop, .keyword .table, .keyword .whether, .keyword .existing] := by decide
    exact readAll_one (read_of_symbols (symbols?_named hword htable))

end

/-! ## Blueprints -/

/-- The names that a blueprint was given, those of columns that others are placed behind included. -/
def allNames (b : Blueprint) : List String := b.names ++ b.columns.flatMap (·.behind.toList)

def columnWords (c : Column) : List String :=
  c.charset.toList ++
    match c.default with
    | some (.expression sql) => [sql]
    | _ => []

/-- What is written as it was given: character sets, expressions for defaults, and options of the table. -/
def words (b : Blueprint) : List String :=
  b.columns.flatMap columnWords ++ (b.engine.toList ++ b.charset.toList ++ b.collation.toList)

/-- A blueprint whose names do not end their quotes and have one part, and whose other words declare
nothing. Comments and literals for defaults may be any. -/
structure Plain (d : Dialect) (b : Blueprint) : Prop where
  names : ∀ n ∈ allNames b, Simple d n
  words : ∀ w ∈ words b, Quiet d 0 0 w

namespace Plain
variable {b : Blueprint}

theorem table (h : Plain d b) : Simple d b.table := h.names _ (by simp [allNames, Blueprint.names])

theorem column (h : Plain d b) {c : Column} (hc : c ∈ b.columns) : Column.Plain d c := by
  have hnames : ∀ n ∈ c.name :: c.collation.toList, Simple d n := by
    intro n hn
    refine h.names n (List.mem_append_left _ (List.mem_append_left _ (List.mem_cons_of_mem _ ?_)))
    exact List.mem_flatMap.2 ⟨c, hc, hn⟩
  have hwords : ∀ w ∈ columnWords c, Quiet d 0 0 w := by
    intro w hw
    exact h.words w (List.mem_append_left _ (List.mem_flatMap.2 ⟨c, hc, hw⟩))
  refine ⟨hnames _ List.mem_cons_self, fun n hn => hnames n ?_, fun n hn => h.names n ?_,
    fun w hw => hwords w ?_, fun sql hsql => hwords sql ?_⟩
  · exact List.mem_cons_of_mem _ (Option.mem_toList.2 hn)
  · exact List.mem_append_right _ (List.mem_flatMap.2 ⟨c, hc, Option.mem_toList.2 hn⟩)
  · exact List.mem_append_left _ (Option.mem_toList.2 hw)
  · simp [columnWords, hsql]

theorem change (h : Plain d b) : ∀ c ∈ b.allChanges, ∀ n ∈ c.names, Simple d n := by
  have hnames : ∀ n ∈ b.names, Simple d n := fun n hn => h.names n (List.mem_append_left _ hn)
  have hquote : quoteChar d ∈ delimiters := by cases d <;> simp [quoteChar, delimiters]
  have hpoint : '.' ∈ delimiters := by simp [delimiters]
  intro c hc n hn
  exact ⟨not_mem_allChanges hquote (fun n hn => (hnames n hn).1) c hc n hn,
    not_mem_allChanges hpoint (fun n hn => (hnames n hn).2) c hc n hn⟩

end Plain

/-- Plain words are simple names in every dialect, and declare nothing unless they are key words. -/
theorem plain_of_identifiers {b : Blueprint} (hnames : ∀ n ∈ allNames b, Identifier n)
    (hwords : ∀ w ∈ words b, Identifier w ∧ (Symbol.ofWord w.toList).declares = false) : Plain d b := by
  have hquote : Store.isWordChar (quoteChar d) = false := by cases d <;> decide
  have hpoint : Store.isWordChar '.' = false := by decide
  refine ⟨fun n hn => ⟨fun hmem => ?_, fun hmem => ?_⟩, fun w hw => ?_⟩
  · have hword := hnames n hn _ hmem
    rw [hquote] at hword
    cases hword
  · have hword := hnames n hn _ hmem
    rw [hpoint] at hword
    cases hword
  · exact quiet_identifier (hwords w hw).1 (hwords w hw).2

/-- The changes that creation declares between its parentheses. -/
def inlineChanges (d : Dialect) (b : Blueprint) : List Change :=
  b.allChanges.filter fun c => (inlineText? d c).isSome

theorem reading_inlines {table : String} {changes : List Change}
    (h : ∀ c ∈ changes, ∀ n ∈ c.names, Simple d n) :
    List.Forall₂ (Reading d (element? table)) (changes.filterMap (inlineText? d))
      ((changes.filter fun c => (inlineText? d c).isSome).map (told d table)) := by
  induction changes with
  | nil => exact .nil
  | cons c changes ih =>
    have hrest := ih fun x hx => h x (List.mem_cons_of_mem c hx)
    cases htext : inlineText? d c with
    | none => simpa [htext] using hrest
    | some text =>
      have hfirst : Reading d (element? table) text (told d table c) :=
        reading_inline (h c List.mem_cons_self) htext
      rw [List.filterMap_cons_some htext, List.filter_cons_of_pos (by simp [htext]), List.map_cons]
      exact .cons hfirst hrest

theorem follows_tableOptions {b : Blueprint} (h : Plain d b) : Follows d 0 0 (tableOptions d b) := by
  have hwords : ∀ w ∈ b.engine.toList ++ b.charset.toList ++ b.collation.toList, Quiet d 0 0 w :=
    fun w hw => h.words w (List.mem_append_right _ hw)
  cases d with
  | mysql =>
    have hengine : Follows .mysql 0 0 (option " ENGINE = " id b.engine) :=
      follows_option (by decide) fun w hw => hwords w (by simp [Option.mem_toList.2 hw])
    have hcharset : Follows .mysql 0 0 (option " DEFAULT CHARACTER SET = " id b.charset) :=
      follows_option (by decide) fun w hw => hwords w (by simp [Option.mem_toList.2 hw])
    have hcollation : Follows .mysql 0 0 (option " COLLATE = " id b.collation) :=
      follows_option (by decide) fun w hw => hwords w (by simp [Option.mem_toList.2 hw])
    exact (hengine.append hcharset).append hcollation
  | postgres | sqlite => exact follows_empty

/-- The statement that creates a table declares its columns and, behind them, the changes that can stand
between its parentheses. -/
theorem read_createText {b : Blueprint} (h : Plain d b) :
    read? d (createText d b) =
      some (b.columns.flatMap (columnTold b.table) ++ (inlineChanges d b).flatMap (told d b.table)) := by
  have helements : List.Forall₂ (Reading d (element? b.table)) (tableElements d b)
      (b.columns.map (columnTold b.table) ++ (inlineChanges d b).map (told d b.table)) := by
    refine List.rel_append ?_ (reading_inlines h.change)
    rw [List.forall₂_map_left_iff, List.forall₂_map_right_iff, List.forall₂_same]
    exact fun c hc => reading_definition (h.column hc) b.table
  obtain ⟨ss, hss, hread⟩ := read_joined helements
  obtain ⟨⟨os, hos, -⟩, hapart⟩ := follows_tableOptions h
  have hopening : Link " (" [.opening] := by decide
  have hflat : (b.columns.map (columnTold b.table) ++ (inlineChanges d b).map (told d b.table)).flatten =
      b.columns.flatMap (columnTold b.table) ++ (inlineChanges d b).flatMap (told d b.table) := by
    rw [List.flatten_append, List.flatMap_def, List.flatMap_def]
  have hbody := hread ([.closing] ++ os) rfl
  rw [hflat] at hbody
  -- A table that stays and a temporary one differ in the words in front.
  have hwhole : ∀ {word : String} {ws : List Symbol}, Clear word ws →
      symbols? d (word ++ quoteName d b.table ++ " (" ++ ", ".intercalate (tableElements d b) ++ ")" ++
        tableOptions d b) = some (ws ++ [.name b.table] ++ ([.opening] ++ ss) ++ [.closing] ++ os) := by
    intro word ws hword
    have hinner := symbols?_further (symbols?_named hword h.table) hopening hss
    have hclosed := symbols?_append hinner says_closing.symbols (by decide)
    exact symbols?_append hclosed hos hapart
  have htable : tableOf? (.keyword .table :: .name b.table :: .opening :: (ss ++ ([.closing] ++ os))) =
      some (b.columns.flatMap (columnTold b.table) ++ (inlineChanges d b).flatMap (told d b.table)) := hbody
  rw [read?, createText]
  cases b.temporary with
  | true =>
    have hword : Clear ("CREATE " ++ "TEMPORARY " ++ "TABLE ")
        [.keyword .create, .keyword .temporary, .keyword .table] := by decide
    rw [if_pos rfl, hwhole hword]
    simpa [statement?, created?] using htable
  | false =>
    have hword : Clear ("CREATE " ++ "" ++ "TABLE ") [.keyword .create, .keyword .table] := by decide
    rw [if_neg Bool.false_ne_true, hwhole hword]
    simpa [statement?, created?] using htable

theorem read_commentText {table column : String} (htable : Simple d table) (hcolumn : Simple d column)
    (comment : String) : read? d (commentText d table column comment) = some [] := by
  have hword : Clear "COMMENT ON COLUMN " [.keyword .comment, .keyword .on, .keyword .column] := by decide
  have hpoint : Link "." [.point] := by decide
  have his : Link " IS " [.keyword .is] := by decide
  have hnamed := symbols?_further (symbols?_named hword htable) hpoint (symbols?_name hcolumn)
  have hall := symbols?_further hnamed his (symbols?_quote comment)
  exact (read_of_symbols hall).trans rfl

theorem readAll_comments {b : Blueprint} (h : Plain d b) : readAll? d (commentStatements d b) = some [] := by
  have hsilent : ∀ l : List String, (∀ s ∈ l, read? d s = some []) → readAll? d l = some [] := by
    intro l hl
    induction l with
    | nil => rfl
    | cons s l ih =>
      have hfirst := hl s List.mem_cons_self
      simp [readAll?, hfirst, ih fun x hx => hl x (List.mem_cons_of_mem s hx)]
  refine hsilent _ fun s hs => ?_
  cases d with
  | mysql | sqlite => cases hs
  | postgres =>
    obtain ⟨c, hc, htext⟩ := List.mem_filterMap.1 hs
    obtain ⟨comment, -, rfl⟩ := Option.map_eq_some_iff.1 htext
    exact read_commentText h.table (h.column hc).name comment

theorem creationOnly_of_inline {c : Change} (h : inlineText? d c = none) : creationOnly d c = false := by
  cases c with
  | primary ix => cases h
  | foreign k => cases d <;> first | rfl | cases h
  | _ => rfl

theorem changeStatements_of_creationOnly {table : String} {c : Change} (h : creationOnly d c = true) :
    changeStatements d table c = [] := by
  cases c with
  | primary ix | foreign k => cases d <;> first | rfl | cases h
  | _ => cases h

/-- What creation says of a blueprint. -/
def creation (d : Dialect) (b : Blueprint) : List Effect :=
  b.columns.flatMap (columnTold b.table) ++ (inlineChanges d b).flatMap (told d b.table)
    ++ (trailingChanges d b).flatMap (told d b.table)

/-- What alteration says of it. -/
def alteration (d : Dialect) (b : Blueprint) : List Effect :=
  b.columns.flatMap (columnTold b.table)
    ++ (b.allChanges.filter fun c => !creationOnly d c).flatMap (told d b.table)

theorem readAll_creation {b : Blueprint} (h : Plain d b) :
    readAll? d (b.statements d .create) = some (creation d b) := by
  have htrailing : readAll? d ((trailingChanges d b).flatMap (changeStatements d b.table)) =
      some ((trailingChanges d b).flatMap (told d b.table)) := by
    refine readAll_flatMap fun c hc => ?_
    obtain ⟨hmem, hnone⟩ := List.mem_filter.1 hc
    exact readAll_change h.table (h.change c hmem) (creationOnly_of_inline (Option.isNone_iff_eq_none.1 hnone))
  have hall := readAll_both (readAll_both (readAll_one (read_createText h)) htrailing) (readAll_comments h)
  rw [List.append_nil] at hall
  exact hall

theorem readAll_changes {b : Blueprint} (h : Plain d b) {changes : List Change}
    (hchanges : ∀ c ∈ changes, c ∈ b.allChanges) :
    readAll? d (changes.flatMap (changeStatements d b.table)) =
      some ((changes.filter fun c => !creationOnly d c).flatMap (told d b.table)) := by
  induction changes with
  | nil => rfl
  | cons c changes ih =>
    have hrest := ih fun x hx => hchanges x (List.mem_cons_of_mem c hx)
    have hnames := h.change c (hchanges c List.mem_cons_self)
    cases hc : creationOnly d c with
    | true =>
      rw [List.flatMap_cons, changeStatements_of_creationOnly hc, List.nil_append,
        List.filter_cons_of_neg (by simp [hc])]
      exact hrest
    | false =>
      rw [List.flatMap_cons, List.filter_cons_of_pos (by simp [hc]), List.flatMap_cons]
      exact readAll_both (readAll_change h.table hnames hc) hrest

theorem readAll_alteration {b : Blueprint} (h : Plain d b) :
    readAll? d (b.statements d .alter) = some (alteration d b) := by
  have hcolumns : readAll? d (b.columns.map (addColumnText d b.table)) =
      some (b.columns.flatMap (columnTold b.table)) := by
    rw [List.map_eq_flatMap]
    exact readAll_flatMap fun c hc => readAll_one (read_clause h.table (reading_addColumn (h.column hc) _))
  have hchanges := readAll_both hcolumns (readAll_changes h fun c hc => hc)
  have hall := readAll_both hchanges (readAll_comments h)
  rw [List.append_nil] at hall
  exact hall

/-! ## Keys -/

/-- The keys that columns are by themselves. -/
def columnKeys (b : Blueprint) : List (String × Key) := (b.columns.flatMap ownKeys).map (b.table, ·)

def changeKeys (d : Dialect) (b : Blueprint) (changes : List Change) : List (String × Key) :=
  (changes.filterMap (keyOf? d)).map (b.table, ·)

/-- Whether an effect is neither a column nor a key that is declared. -/
def Effect.isOther : Effect → Bool
  | .column _ _ | .key _ _ => false
  | _ => true

theorem declared_append (es es' : List Effect) : declared (es ++ es') = declared es ++ declared es' :=
  List.filterMap_append

theorem declared_keys (table : String) (ks : List Key) : declared (ks.map (.key table)) = ks.map (table, ·) := by
  induction ks with
  | nil => rfl
  | cons k ks ih => simpa [declared, Effect.key?] using ih

theorem others_spec (table : String) (c : Change) :
    declared (others d table c) = [] ∧ (others d table c).filter Effect.isOther = others d table c := by
  cases c with
  | dropColumns columns =>
    constructor
    · simp [others, declared, Effect.key?]
    · simp [others, Effect.isOther]
  | dropPrimary name | dropUnique name | dropIndex name | dropForeign name | renameIndex old new =>
    cases d <;> exact ⟨rfl, rfl⟩
  | _ => exact ⟨rfl, rfl⟩

theorem told_spec (table : String) (c : Change) :
    declared (told d table c) = (keyOf? d c).toList.map (table, ·) ∧
      (told d table c).filter Effect.isOther = others d table c := by
  obtain ⟨hnone, hall⟩ := others_spec (d := d) table c
  refine ⟨by rw [told, declared_append, declared_keys, hnone, List.append_nil], ?_⟩
  rw [told, List.filter_append, hall]
  cases keyOf? d c <;> simp [Effect.isOther]

theorem declared_columns (b : Blueprint) :
    declared (b.columns.flatMap (columnTold b.table)) = columnKeys b ∧
      (b.columns.flatMap (columnTold b.table)).filter Effect.isOther = [] := by
  unfold columnKeys
  induction b.columns with
  | nil => exact ⟨rfl, rfl⟩
  | cons c columns ih =>
    have hcolumn : declared (columnTold b.table c) = (ownKeys c).map (b.table, ·) :=
      declared_keys b.table (ownKeys c)
    have hnone : (columnTold b.table c).filter Effect.isOther = [] := by
      simp [columnTold, Effect.isOther]
    rw [List.flatMap_cons, declared_append, List.filter_append, hcolumn, hnone, ih.1, ih.2, List.flatMap_cons,
      List.map_append]
    exact ⟨rfl, rfl⟩

theorem declared_changes (b : Blueprint) (changes : List Change) :
    declared (changes.flatMap (told d b.table)) = changeKeys d b changes ∧
      (changes.flatMap (told d b.table)).filter Effect.isOther = changes.flatMap (others d b.table) := by
  unfold changeKeys
  induction changes with
  | nil => exact ⟨rfl, rfl⟩
  | cons c changes ih =>
    obtain ⟨hkey, hothers⟩ := told_spec (d := d) b.table c
    rw [List.flatMap_cons, declared_append, List.filter_append, hkey, hothers, ih.1, ih.2, List.flatMap_cons]
    cases hc : keyOf? d c with
    | none => simp [hc]
    | some k => simp [hc]

/-- What SQLite has no statement for, keys aside. -/
def unsupported : Change → Bool
  | .dropPrimary _ | .dropForeign _ | .renameIndex _ _ => true
  | .dropColumns columns => columns.isEmpty
  | _ => false

theorem changeStatements_eq_nil {table : String} {c : Change} (h : keyOf? d c = none) :
    changeStatements d table c = [] ↔ d = .sqlite ∧ unsupported c = true := by
  cases c with
  | primary ix | unique ix | index ix | foreign k => cases h
  | dropColumns columns => cases d <;> simp [changeStatements, unsupported]
  | dropPrimary name | dropUnique name | dropIndex name | dropForeign name | renameIndex old new | rename new =>
    cases d <;> simp [changeStatements, unsupported]
  | _ => simp [changeStatements, unsupported]

theorem others_of_inline {table text : String} {c : Change} (h : inlineText? d c = some text) :
    others d table c = [] := by
  cases c with
  | primary ix | unique ix | index ix | foreign k => rfl
  | _ => cases h

theorem others_of_creationOnly {table : String} {c : Change} (h : creationOnly d c = true) :
    others d table c = [] := by
  cases c with
  | primary ix | foreign k => rfl
  | _ => cases h

/-- Changes without effects of their own make no difference to the effects of all. -/
theorem others_filter {table : String} {p : Change → Bool} {changes : List Change}
    (h : ∀ c ∈ changes, p c = false → others d table c = []) :
    (changes.filter p).flatMap (others d table) = changes.flatMap (others d table) := by
  induction changes with
  | nil => rfl
  | cons c changes ih =>
    have hrest := ih fun x hx => h x (List.mem_cons_of_mem c hx)
    cases hc : p c with
    | true => rw [List.filter_cons_of_pos hc, List.flatMap_cons, List.flatMap_cons, hrest]
    | false =>
      rw [List.filter_cons_of_neg (by simp [hc]), List.flatMap_cons, h c List.mem_cons_self hc, hrest,
        List.nil_append]

theorem changes_perm (d : Dialect) (b : Blueprint) :
    (inlineChanges d b ++ trailingChanges d b).Perm b.allChanges := by
  have htrailing : trailingChanges d b = b.allChanges.filter fun c => !(inlineText? d c).isSome := by
    simp [trailingChanges]
  rw [htrailing]
  exact List.filter_append_perm _ _

theorem declared_creation (d : Dialect) (b : Blueprint) :
    (declared (creation d b)).Perm (columnKeys b ++ changeKeys d b b.allChanges) := by
  have hsplit : declared (creation d b) =
      columnKeys b ++ changeKeys d b (inlineChanges d b ++ trailingChanges d b) := by
    rw [creation, declared_append, declared_append, (declared_columns b).1, (declared_changes b _).1,
      (declared_changes b _).1, List.append_assoc]
    simp [changeKeys]
  rw [hsplit]
  exact (((changes_perm d b).filterMap _).map _).append_left _

theorem declared_alteration (d : Dialect) (b : Blueprint) : declared (alteration d b) =
    columnKeys b ++ changeKeys d b (b.allChanges.filter fun c => !creationOnly d c) := by
  rw [alteration, declared_append, (declared_columns b).1, (declared_changes b _).1]

theorem others_creation (d : Dialect) (b : Blueprint) :
    (creation d b).filter Effect.isOther = b.allChanges.flatMap (others d b.table) := by
  have hinline : (inlineChanges d b).flatMap (others d b.table) = [] := by
    refine List.flatMap_eq_nil_iff.2 fun c hc => ?_
    obtain ⟨text, htext⟩ := Option.isSome_iff_exists.1 (List.mem_filter.1 hc).2
    exact others_of_inline htext
  have htrailing : (trailingChanges d b).flatMap (others d b.table) =
      b.allChanges.flatMap (others d b.table) := by
    refine others_filter fun c _ hc => ?_
    obtain ⟨text, htext⟩ := Option.isSome_iff_exists.1 (by simpa using hc)
    exact others_of_inline htext
  rw [creation, List.filter_append, List.filter_append, (declared_columns b).2, (declared_changes b _).2,
    (declared_changes b _).2, hinline, htrailing, List.nil_append, List.nil_append]

theorem others_alteration (d : Dialect) (b : Blueprint) :
    (alteration d b).filter Effect.isOther = b.allChanges.flatMap (others d b.table) := by
  rw [alteration, List.filter_append, (declared_columns b).2, (declared_changes b _).2, List.nil_append]
  exact others_filter fun c _ hc => others_of_creationOnly (by simpa using hc)

/-- Creation and alteration are read to their ends. Creation declares the key of every change once, next to
those that columns are by themselves, and so does alteration, except for the keys that only the creation
of a table declares, which there are in SQLite alone. All other changes have the same effects in both, in
their order, and only SQLite has no statement for some of them. -/
theorem same_keys {b : Blueprint} (h : Plain d b) :
    readAll? d (b.statements d .create) = some (creation d b) ∧
    readAll? d (b.statements d .alter) = some (alteration d b) ∧
    (declared (creation d b)).Perm (columnKeys b ++ changeKeys d b b.allChanges) ∧
    declared (alteration d b) =
      columnKeys b ++ changeKeys d b (b.allChanges.filter fun c => !creationOnly d c) ∧
    (d ≠ .sqlite → (declared (creation d b)).Perm (declared (alteration d b))) ∧
    (creation d b).filter Effect.isOther = b.allChanges.flatMap (others d b.table) ∧
    (alteration d b).filter Effect.isOther = b.allChanges.flatMap (others d b.table) ∧
    ∀ c ∈ b.allChanges, keyOf? d c = none →
      (changeStatements d b.table c = [] ↔ d = .sqlite ∧ unsupported c = true) := by
  refine ⟨readAll_creation h, readAll_alteration h, declared_creation d b, declared_alteration d b,
    fun hd => ?_, others_creation d b, others_alteration d b, fun c _ hc => changeStatements_eq_nil hc⟩
  have hnever : ∀ c : Change, creationOnly d c = false := by
    intro c
    cases c <;> simp [creationOnly, hd]
  have hall : (b.allChanges.filter fun c => !creationOnly d c) = b.allChanges := by simp [hnever]
  rw [declared_alteration, hall]
  exact declared_creation d b

def orders : Blueprint where
  table := "orders"
  columns :=
    [Column.id,
     { name := "placed", type := .timestamp, indexed := true,
       default := some (.expression "CURRENT_TIMESTAMP") }]
  changes :=
    [.foreign { name := "orders_user", columns := ["user"], table := "users", references := ["id"],
                onDelete := some .cascade },
     .dropColumns ["note"]]
  engine := some "InnoDB"

theorem same_keys_orders : Plain .sqlite orders ∧
    ∃ created altered, readAll? .sqlite (orders.statements .sqlite .create) = some created ∧
      readAll? .sqlite (orders.statements .sqlite .alter) = some altered ∧
      (declared created).Perm [("orders", .own "id"),
        ("orders", .foreign none ["user"] "users" ["id"] (some .cascade) none),
        ("orders", .index "orders_placed_index" ["placed"])] ∧
      declared altered = [("orders", .own "id"), ("orders", .index "orders_placed_index" ["placed"])] ∧
      created.filter Effect.isOther = [.dropColumn "orders" "note"] ∧
      altered.filter Effect.isOther = [.dropColumn "orders" "note"] := by
  have hnames : ∀ n ∈ allNames orders, Identifier n := by decide +kernel
  have hwords : ∀ w ∈ words orders, Identifier w ∧ (Symbol.ofWord w.toList).declares = false := by
    decide +kernel
  have horders : Plain .sqlite orders := plain_of_identifiers hnames hwords
  have hkeys : columnKeys orders ++ changeKeys .sqlite orders orders.allChanges =
      [("orders", .own "id"), ("orders", .foreign none ["user"] "users" ["id"] (some .cascade) none),
        ("orders", .index "orders_placed_index" ["placed"])] := by decide +kernel
  have hkept : columnKeys orders ++
      changeKeys .sqlite orders (orders.allChanges.filter fun c => !creationOnly .sqlite c) =
      [("orders", .own "id"), ("orders", .index "orders_placed_index" ["placed"])] := by decide +kernel
  have hothers : orders.allChanges.flatMap (others .sqlite orders.table) =
      [.dropColumn "orders" "note"] := by decide +kernel
  obtain ⟨hcreate, halter, hcreated, haltered, -, hother, hother', -⟩ := same_keys horders
  refine ⟨horders, _, _, hcreate, halter, hkeys ▸ hcreated, haltered.trans hkept, hother.trans hothers,
    hother'.trans hothers⟩

end SqlKit.Declarations
