import SqlKit.Proofs.StatementSubjects

/-!
# Tables that are renamed among other changes

Every statement of an alteration takes the name of the table from the blueprint. Behind a renaming as the
last declared change there are still the keys and indexes that columns ask for, and in PostgreSQL their
comments, so these name the table as it was called before. If no column asks for any, or if the name stays
what it was, every statement of the alteration names the table as it is called at that time.
-/

namespace SqlKit.Declarations
open Schema

variable {d : Dialect}

/-! ## Statements followed -/

/-- The name of a table that is given a new one. Only MySQL takes a new name of several parts; elsewhere a
table stays in its place. -/
def moved (d : Dialect) (current new : List String) : List String :=
  match d, new with
  | .mysql, _ => new
  | _, [name] => current.dropLast ++ [name]
  | _, _ => current

/-- The name of a table after a statement, if the statement addresses the table by the name that it has. -/
def follow? (d : Dialect) (current : List String) (s : String) : Option (List String) :=
  match subject? d s with
  | some (.table path) | some (.dropped path) => if path = current then some current else none
  | some (.column path) => if path.dropLast = current then some current else none
  | some (.renamed path new) => if path = current then some (moved d current new) else none
  | some .index => some current
  | some (.created _) | none => none

/-- The name of a table after statements of which each addresses it by the name that it has then. -/
def followAll? (d : Dialect) (current : List String) (statements : List String) : Option (List String) :=
  statements.foldlM (follow? d) current

theorem followAll_append (current : List String) (ss ts : List String) :
    followAll? d current (ss ++ ts) = (followAll? d current ss).bind (followAll? d · ts) := List.foldlM_append

theorem followAll_kept {current : List String} {ss : List String}
    (h : ∀ s ∈ ss, follow? d current s = some current) : followAll? d current ss = some current := by
  induction ss with
  | nil => rfl
  | cons s ss ih =>
    have hfirst := h s List.mem_cons_self
    have hrest := ih fun x hx => h x (List.mem_cons_of_mem s hx)
    simpa [followAll?, hfirst] using hrest

theorem followAll_lost {current : List String} {ss : List String}
    (h : ∀ s ∈ ss, follow? d current s = none) : (followAll? d current ss).isSome = true ↔ ss = [] := by
  cases ss with
  | nil => simp [followAll?]
  | cons s ss => simp [followAll?, h s List.mem_cons_self]

theorem followAll_iff {current : List String} {ss : List String}
    (h : ∀ s ∈ ss, follow? d current s = some current ∨ follow? d current s = none) :
    (followAll? d current ss).isSome = true ↔ ∀ s ∈ ss, follow? d current s = some current := by
  refine ⟨fun hsome => ?_, fun hall => by rw [followAll_kept hall]; rfl⟩
  induction ss with
  | nil => simp
  | cons s ss ih =>
    have hrest := ih fun x hx => h x (List.mem_cons_of_mem s hx)
    cases h s List.mem_cons_self with
    | inl hkept =>
      refine List.forall_mem_cons.2 ⟨hkept, hrest ?_⟩
      simpa [followAll?, hkept] using hsome
    | inr hlost => simp [followAll?, hlost] at hsome

/-! ## Changes -/

section
variable {table : String}

/-- What the statements for a change are about. -/
def subjectOf (d : Dialect) (table : String) : Change → Subject
  | .rename new => .renamed (pathOf table) (pathOf new)
  | .drop | .dropIfExists => .dropped (pathOf table)
  | .dropUnique _ =>
    match d with
    | .sqlite => .index
    | _ => .table (pathOf table)
  | .dropIndex _ =>
    match d with
    | .mysql => .table (pathOf table)
    | _ => .index
  | .renameIndex _ _ =>
    match d with
    | .mysql => .table (pathOf table)
    | _ => .index
  | _ => .table (pathOf table)

theorem exists_dropped (d : Dialect) (column : String) (columns : List String) :
    ∃ t, ", ".intercalate ((column :: columns).map (dropColumnText d)) = "DROP COLUMN " ++ t := by
  by_cases hnil : columns = []
  · exact ⟨quoteName d column, by simp [hnil, dropColumnText]⟩
  · refine ⟨quoteName d column ++ (", " ++ ", ".intercalate (columns.map (dropColumnText d))), ?_⟩
    rw [List.map_cons, String.intercalate_cons_of_ne_nil (by simpa using hnil), dropColumnText]
    simp only [String.append_assoc]

theorem subject_dropColumns (h : quoteChar d ∉ table.toList) (columns : List String) :
    subject? d (alterText d table (", ".intercalate (columns.map (dropColumnText d)))) =
      some (.table (pathOf table)) := by
  cases columns with
  | nil => exact subject_noClause h
  | cons column columns =>
    obtain ⟨t, ht⟩ := exists_dropped d column columns
    rw [ht]
    exact subject_clause h (by decide) t

theorem subject_dropIndex (name : String) : subject? d ("DROP INDEX " ++ name) = some .index := by
  have hword : Clear "DROP INDEX " [.keyword .drop, .keyword .index] := by decide
  rw [subject?, lead_clear hword]
  rfl

theorem subject_alterIndex (name : String) : subject? d ("ALTER INDEX " ++ name) = some .index := by
  have hword : Clear "ALTER INDEX " [.keyword .alter, .keyword .index] := by decide
  rw [subject?, lead_clear hword]
  rfl

theorem subject_change (h : quoteChar d ∉ table.toList) {c : Change}
    (hc : ∀ n ∈ c.names, quoteChar d ∉ n.toList) :
    ∀ s ∈ changeStatements d table c, subject? d s = some (subjectOf d table c) := by
  -- In every case the words behind the name of the table decide.
  cases c with
  | primary ix =>
    cases d with
    | mysql | postgres =>
      exact List.forall_mem_singleton.2 (subject_clause h (by decide) _)
    | sqlite => simp [changeStatements]
  | unique ix =>
    have hname := hc ix.name (by simp [Change.names])
    cases d with
    | mysql | postgres =>
      simp only [changeStatements, String.append_assoc, List.forall_mem_singleton]
      exact subject_clause h (by decide) _
    | sqlite =>
      exact List.forall_mem_singleton.2 (subject_createIndex h (.inr (by decide)) hname)
  | index ix =>
    have hname := hc ix.name (by simp [Change.names])
    cases d with
    | mysql =>
      simp only [changeStatements, String.append_assoc, List.forall_mem_singleton]
      exact subject_clause h (by decide) _
    | postgres | sqlite =>
      exact List.forall_mem_singleton.2 (subject_createIndex h (.inl (by decide)) hname)
  | foreign k =>
    cases d with
    | mysql | postgres =>
      simp only [changeStatements, String.append_assoc, List.forall_mem_singleton]
      exact subject_clause h (by decide) _
    | sqlite => simp [changeStatements]
  | dropColumns columns =>
    cases d with
    | mysql | postgres =>
      exact List.forall_mem_singleton.2 (subject_dropColumns h columns)
    | sqlite =>
      intro s hs
      obtain ⟨column, -, rfl⟩ := List.mem_map.1 hs
      exact subject_clause h (by decide) _
  | dropPrimary name =>
    cases d with
    | mysql =>
      exact List.forall_mem_singleton.2 (subject_clause h (w := "DROP PRIMARY ") (by decide) "KEY")
    | postgres =>
      exact List.forall_mem_singleton.2 (subject_clause h (by decide) _)
    | sqlite => simp [changeStatements]
  | dropForeign name =>
    cases d with
    | mysql | postgres =>
      exact List.forall_mem_singleton.2 (subject_clause h (by decide) _)
    | sqlite => simp [changeStatements]
  | dropUnique name =>
    cases d with
    | mysql | postgres =>
      exact List.forall_mem_singleton.2 (subject_clause h (by decide) _)
    | sqlite =>
      exact List.forall_mem_singleton.2 (subject_dropIndex _)
  | dropIndex name =>
    cases d with
    | mysql =>
      exact List.forall_mem_singleton.2 (subject_clause h (by decide) _)
    | postgres | sqlite =>
      exact List.forall_mem_singleton.2 (subject_dropIndex _)
  | renameColumn old new =>
    simp only [changeStatements, String.append_assoc, List.forall_mem_singleton]
    exact subject_clause h (by decide) _
  | renameIndex old new =>
    cases d with
    | mysql =>
      simp only [changeStatements, String.append_assoc, List.forall_mem_singleton]
      exact subject_clause h (by decide) _
    | postgres =>
      simp only [changeStatements, String.append_assoc, List.forall_mem_singleton]
      exact subject_alterIndex _
    | sqlite => simp [changeStatements]
  | rename new =>
    have hnew := hc new (by simp [Change.names])
    cases d with
    | mysql =>
      exact List.forall_mem_singleton.2 (subject_renameTable h hnew)
    | postgres | sqlite =>
      exact List.forall_mem_singleton.2 (subject_renameTo h hnew)
  | drop =>
    exact List.forall_mem_singleton.2 (subject_drop h)
  | dropIfExists =>
    exact List.forall_mem_singleton.2 (subject_dropIfExists h)

theorem subject_addColumn (h : quoteChar d ∉ table.toList) (c : Column) :
    subject? d (addColumnText d table c) = some (.table (pathOf table)) := by
  rw [addColumnText]
  exact subject_clause h (by decide) _

theorem subjectOf_cases {c : Change} (hc : ∀ n, c ≠ .rename n) :
    subjectOf d table c ∈ [.table (pathOf table), .dropped (pathOf table), .index] := by
  cases c with
  | rename new => exact absurd rfl (hc new)
  | dropUnique | dropIndex | renameIndex => cases d <;> simp [subjectOf]
  | _ => simp [subjectOf]

/-- The changes that columns ask for name the table in all of their statements. -/
theorem subjectOf_flag {b : Blueprint} {column : Column} {c : Change} (hc : c ∈ b.flagChanges column) :
    subjectOf d table c = .table (pathOf table) := by
  simp only [Blueprint.flagChanges, List.mem_append, List.mem_ite_nil_right, List.mem_singleton] at hc
  obtain (⟨-, rfl⟩ | ⟨-, rfl⟩) | ⟨-, rfl⟩ := hc
  all_goals rfl

theorem follow_kept (h : quoteChar d ∉ table.toList) {c : Change} (hnames : ∀ n ∈ c.names, quoteChar d ∉ n.toList)
    (hc : ∀ n, c ≠ .rename n) :
    ∀ s ∈ changeStatements d table c, follow? d (pathOf table) s = some (pathOf table) := by
  intro s hs
  have hsubject := subject_change h hnames s hs
  have hcases : subjectOf d table c ∈ [.table (pathOf table), .dropped (pathOf table), .index] :=
    subjectOf_cases hc
  simp only [List.mem_cons, List.not_mem_nil, or_false] at hcases
  rcases hcases with htold | htold | htold
  all_goals simp [follow?, hsubject, htold]

end

/-! ## Alterations -/

/-- Whether a column asks for more statements than its own. -/
def followed (d : Dialect) (c : Column) : Bool :=
  (c.primary && !c.counted && d != .sqlite) || c.unique || c.indexed || (d == .postgres && c.comment.isSome)

/-- The statements for the changes that columns ask for. -/
def flagStatements (d : Dialect) (b : Blueprint) : List String :=
  (b.columns.flatMap b.flagChanges).flatMap (changeStatements d b.table)

theorem flags_eq_nil_iff (d : Dialect) (b : Blueprint) (c : Column) :
    (b.flagChanges c).flatMap (changeStatements d b.table) = [] ↔
      (c.primary && !c.counted && d != .sqlite) = false ∧ c.unique = false ∧ c.indexed = false := by
  have hprimary : changeStatements d b.table (b.primaryOf [c.name]) = [] ↔ d = .sqlite := by
    cases d <;> simp [Blueprint.primaryOf, changeStatements]
  have hunique : changeStatements d b.table (b.uniqueOf [c.name]) ≠ [] := by
    cases d <;> simp [Blueprint.uniqueOf, changeStatements]
  have hindex : changeStatements d b.table (b.indexOf [c.name]) ≠ [] := by
    cases d <;> simp [Blueprint.indexOf, changeStatements]
  cases hkey : c.primary && !c.counted <;> cases hu : c.unique <;> cases hi : c.indexed <;>
    simp [Blueprint.flagChanges, hkey, hu, hi, hprimary, hunique, hindex]

theorem later_eq_nil_iff (d : Dialect) (b : Blueprint) :
    flagStatements d b ++ commentStatements d b = [] ↔ ∀ c ∈ b.columns, followed d c = false := by
  have hcomments : commentStatements d b = [] ↔
      ∀ c ∈ b.columns, (d == .postgres && c.comment.isSome) = false := by
    cases d <;> simp [commentStatements]
  rw [List.append_eq_nil_iff, hcomments, flagStatements, List.flatMap_assoc, List.flatMap_eq_nil_iff, ← forall₂_and]
  refine forall₂_congr fun c hc => ?_
  rw [flags_eq_nil_iff]
  simp only [followed, Bool.or_eq_false_iff, and_assoc]

/-! ## Comments -/

theorem dropLast_pathOf_iff (name : String) : (pathOf name).dropLast = [] ↔ '.' ∉ name.toList := by
  constructor
  · intro h
    obtain ⟨part, hpart⟩ : ∃ part, pathOf name = [part] := by
      obtain ⟨part, parts, hparts⟩ := List.exists_cons_of_ne_nil (pathOf_ne_nil name)
      cases parts with
      | nil => exact ⟨part, hparts⟩
      | cons next parts => simp [hparts] at h
    obtain ⟨cs, hcs, hpartcs⟩ : ∃ cs ∈ splitChars '.' name.toList, String.ofList cs = part :=
      List.mem_map.1 (hpart ▸ List.mem_singleton_self part : part ∈ pathOf name)
    have hname := intercalate_pathOf name
    rw [hpart, String.intercalate_singleton] at hname
    rw [← hname, ← hpartcs, String.toList_ofList]
    exact point_not_mem_part hcs
  · intro h
    simp [pathOf, splitChars_of_not_mem h]

section
variable {table column comment : String} {current : List String}

theorem follow_comment (h : quoteChar d ∉ table.toList) (hcolumn : quoteChar d ∉ column.toList) :
    follow? d current (commentText d table column comment) =
      if pathOf table ++ (pathOf column).dropLast = current then some current else none := by
  simp only [follow?, subject_comment h hcolumn, List.dropLast_append_of_ne_nil (pathOf_ne_nil column)]

/-- A renamed table is not taken for a column's name with more parts. -/
theorem follow_comment_renamed (h : quoteChar d ∉ table.toList) (hcolumn : quoteChar d ∉ column.toList)
    (hlength : current.length = (pathOf table).length) (hne : current ≠ pathOf table) :
    follow? d current (commentText d table column comment) = none := by
  rw [follow_comment h hcolumn, if_neg]
  intro heq
  have hzero : (pathOf column).dropLast.length = 0 := by
    have hsum := congrArg List.length heq
    rw [List.length_append] at hsum
    omega
  rw [List.length_eq_zero_iff.1 hzero, List.append_nil] at heq
  exact hne heq.symm

end

theorem length_moved (hd : d ≠ .mysql) {current new : List String} (h : current ≠ []) :
    (moved d current new).length = current.length := by
  have hpos := List.length_pos_iff.2 h
  unfold moved
  split
  · exact absurd rfl hd
  · simp
    omega
  · rfl

/-! ## Whole alterations -/

section
variable {b : Blueprint}

theorem quoteChar_mem_delimiters (d : Dialect) : quoteChar d ∈ delimiters := by
  cases d <;> simp [quoteChar, delimiters]

theorem follow_columns (h : quoteChar d ∉ b.table.toList) :
    followAll? d (pathOf b.table) (b.columns.map (addColumnText d b.table)) = some (pathOf b.table) := by
  refine followAll_kept fun s hs => ?_
  obtain ⟨c, -, rfl⟩ := List.mem_map.1 hs
  simp [follow?, subject_addColumn h]

theorem follow_changes {table : String} (h : quoteChar d ∉ table.toList) {changes : List Change}
    (hnames : ∀ c ∈ changes, ∀ n ∈ c.names, quoteChar d ∉ n.toList)
    (hchanges : ∀ c ∈ changes, ∀ n, c ≠ .rename n) :
    followAll? d (pathOf table) (changes.flatMap (changeStatements d table)) = some (pathOf table) := by
  refine followAll_kept fun s hs => ?_
  obtain ⟨c, hc, htext⟩ := List.mem_flatMap.1 hs
  exact follow_kept h (hnames c hc) (hchanges c hc) s htext

/-- The name of a table after the renaming that ends the declared changes, if there is one. -/
def renamed (d : Dialect) (table : List String) (new : Option String) : List String :=
  (new.map fun n => moved d table (pathOf n)).getD table

theorem follow_renaming {table : String} (h : quoteChar d ∉ table.toList) {new : Option String}
    (hnew : ∀ n ∈ new, quoteChar d ∉ n.toList) :
    followAll? d (pathOf table) ((new.toList.map Change.rename).flatMap (changeStatements d table)) =
      some (renamed d (pathOf table) new) := by
  cases new with
  | none => rfl
  | some n =>
    obtain ⟨s, hs⟩ : ∃ s, changeStatements d table (.rename n) = [s] := by
      cases d <;> exact ⟨_, rfl⟩
    have hsubject := subject_change h (c := .rename n) (by simpa [Change.names] using hnew) s (by simp [hs])
    simp [followAll?, hs, follow?, hsubject, subjectOf, renamed]

theorem subject_flag (hnames : ∀ n ∈ b.names, quoteChar d ∉ n.toList) {s : String}
    (hs : s ∈ flagStatements d b) : subject? d s = some (.table (pathOf b.table)) := by
  obtain ⟨c, hc, htext⟩ := List.mem_flatMap.1 hs
  obtain ⟨column, -, hflag⟩ := List.mem_flatMap.1 hc
  have hall := not_mem_allChanges (quoteChar_mem_delimiters d) hnames c (List.mem_append_right _ hc)
  have hsubject := subject_change (hnames _ (by simp [Blueprint.names])) hall s htext
  rwa [subjectOf_flag hflag] at hsubject

theorem mem_commentStatements {s : String} : s ∈ commentStatements d b ↔
    d = .postgres ∧ ∃ c ∈ b.columns, ∃ text ∈ c.comment, commentText d b.table c.name text = s := by
  cases d <;> simp [commentStatements]

theorem follow_comments (hnames : ∀ n ∈ b.names, quoteChar d ∉ n.toList) :
    (followAll? d (pathOf b.table) (commentStatements d b)).isSome = true ↔
      ∀ c ∈ b.columns, d = .postgres → c.comment.isSome → '.' ∉ c.name.toList := by
  have htable : quoteChar d ∉ b.table.toList := hnames _ (by simp [Blueprint.names])
  have hcolumn : ∀ c ∈ b.columns, quoteChar d ∉ c.name.toList := fun c hc =>
    hnames _ (List.mem_append_left _ (List.mem_cons_of_mem _ (List.mem_flatMap.2 ⟨c, hc, by simp⟩)))
  have hkept : ∀ c ∈ b.columns, ∀ text, follow? d (pathOf b.table) (commentText d b.table c.name text) =
      some (pathOf b.table) ↔ '.' ∉ c.name.toList := by
    intro c hc text
    rw [follow_comment htable (hcolumn c hc), ← dropLast_pathOf_iff]
    simp
  rw [followAll_iff]
  · simp only [mem_commentStatements]
    constructor
    · intro h c hc hd hsome
      obtain ⟨text, htext⟩ := Option.isSome_iff_exists.1 hsome
      exact (hkept c hc text).1 (h _ ⟨hd, c, hc, text, htext, rfl⟩)
    · rintro h s ⟨hd, c, hc, text, htext, rfl⟩
      exact (hkept c hc text).2 (h c hc hd (by simp [Option.mem_def.1 htext]))
  · intro s hs
    obtain ⟨-, c, hc, text, -, rfl⟩ := mem_commentStatements.1 hs
    rw [follow_comment htable (hcolumn c hc)]
    split <;> simp

/-- What follows the declared changes finds the table under its own name, or under none, or is nothing. -/
theorem follow_later {current : List String} (hnames : ∀ n ∈ b.names, quoteChar d ∉ n.toList)
    (hlength : d ≠ .mysql → current.length = (pathOf b.table).length) :
    (followAll? d current (flagStatements d b ++ commentStatements d b)).isSome = true ↔
      (∀ c ∈ b.columns, d = .postgres → c.comment.isSome → '.' ∉ c.name.toList) ∧
      (current = pathOf b.table ∨ ∀ c ∈ b.columns, followed d c = false) := by
  by_cases hcurrent : current = pathOf b.table
  · subst hcurrent
    have hflags : followAll? d (pathOf b.table) (flagStatements d b) = some (pathOf b.table) :=
      followAll_kept fun s hs => by simp [follow?, subject_flag hnames hs]
    rw [followAll_append, hflags, Option.bind_some, follow_comments hnames]
    simp
  · have hlost : ∀ s ∈ flagStatements d b ++ commentStatements d b, follow? d current s = none := by
      intro s hs
      rcases List.mem_append.1 hs with hs | hs
      · simp [follow?, subject_flag hnames hs, Ne.symm hcurrent]
      · obtain ⟨hd, c, hc, text, -, rfl⟩ := mem_commentStatements.1 hs
        have hcolumn : c.name ∈ b.names :=
          List.mem_append_left _ (List.mem_cons_of_mem _ (List.mem_flatMap.2 ⟨c, hc, by simp⟩))
        exact follow_comment_renamed (hnames _ (by simp [Blueprint.names])) (hnames _ hcolumn)
          (hlength (by simp [hd])) hcurrent
    have hpointed : (∀ c ∈ b.columns, followed d c = false) →
        ∀ c ∈ b.columns, d = .postgres → c.comment.isSome → '.' ∉ c.name.toList := by
      intro h c hc hd hcomment
      have hnone := h c hc
      simp [followed, hd, hcomment] at hnone
    rw [followAll_lost hlost, later_eq_nil_iff]
    exact ⟨fun h => ⟨hpointed h, .inr h⟩, fun h => h.2.resolve_left hcurrent⟩

end

/-- Every statement of an alteration whose last declared change may be a renaming names the table as it is
called at that time, exactly if the table keeps its name or no column asks for statements behind the changes.
A comment can only be given to a column whose name has no points, as these would be read as more of the
table's name. -/
theorem alterations_follow_renames {b : Blueprint} {before : List Change} {new : Option String}
    (hnames : ∀ n ∈ b.names, quoteChar d ∉ n.toList)
    (hchanges : b.changes = before ++ new.toList.map .rename) (hbefore : ∀ c ∈ before, ∀ n, c ≠ .rename n) :
    (followAll? d (pathOf b.table) (b.statements d .alter)).isSome = true ↔
      (∀ c ∈ b.columns, d = .postgres → c.comment.isSome → '.' ∉ c.name.toList) ∧
      (renamed d (pathOf b.table) new = pathOf b.table ∨ ∀ c ∈ b.columns, followed d c = false) := by
  have htable : quoteChar d ∉ b.table.toList := hnames _ (by simp [Blueprint.names])
  have hall : ∀ c ∈ b.changes, ∀ n ∈ c.names, quoteChar d ∉ n.toList := fun c hc =>
    not_mem_allChanges (quoteChar_mem_delimiters d) hnames c (List.mem_append_left _ hc)
  have hnew : ∀ n ∈ new, quoteChar d ∉ n.toList := fun n hn =>
    hall (.rename n) (by simp [hchanges, Option.mem_def.1 hn]) n (by simp [Change.names])
  have hstatements : b.statements d .alter = b.columns.map (addColumnText d b.table) ++
      (before.flatMap (changeStatements d b.table) ++
        ((new.toList.map Change.rename).flatMap (changeStatements d b.table) ++
          (flagStatements d b ++ commentStatements d b))) := by
    simp only [Blueprint.statements, alterStatements, Blueprint.allChanges, hchanges, flagStatements,
      List.flatMap_append, List.append_assoc]
  rw [hstatements, followAll_append, follow_columns htable, Option.bind_some, followAll_append,
    follow_changes htable (fun c hc => hall c (by simp [hchanges, hc])) hbefore, Option.bind_some,
    followAll_append, follow_renaming htable hnew, Option.bind_some]
  refine follow_later hnames fun hd => ?_
  cases new with
  | none => rfl
  | some n => exact length_moved hd (pathOf_ne_nil b.table)

/-- A new column of a table that is renamed. -/
def renamedUsers (unique : Bool) : Blueprint :=
  { table := "users", columns := [{ name := "email", type := .varchar 50, unique }],
    changes := [.rename "people"] }

theorem alterations_follow_renames_users :
    (∀ n ∈ (renamedUsers false).names, quoteChar .postgres ∉ n.toList) ∧
    (followAll? .postgres ["users"] ((renamedUsers false).statements .postgres .alter)).isSome = true := by
  have hnames : ∀ n ∈ (renamedUsers false).names, quoteChar .postgres ∉ n.toList := by decide
  have hspared : ∀ c ∈ (renamedUsers false).columns, followed .postgres c = false := by decide
  have hchanges : (renamedUsers false).changes = [] ++ (some "people").toList.map .rename := rfl
  exact ⟨hnames, (alterations_follow_renames hnames hchanges (by simp)).2 ⟨by decide, .inr hspared⟩⟩

/-- The index of a unique column is made on a table that is no longer called so. -/
theorem index_under_old_name :
    (renamedUsers true).statements .sqlite .alter =
      ["ALTER TABLE \"users\" ADD COLUMN \"email\" VARCHAR NOT NULL",
        "ALTER TABLE \"users\" RENAME TO \"people\"",
        "CREATE UNIQUE INDEX \"users_email_unique\" ON \"users\" (\"email\")"] ∧
    followAll? .sqlite ["users"] (((renamedUsers true).statements .sqlite .alter).take 2) = some ["people"] ∧
    followAll? .sqlite ["users"] ((renamedUsers true).statements .sqlite .alter) = none := by
  decide +kernel

end SqlKit.Declarations
