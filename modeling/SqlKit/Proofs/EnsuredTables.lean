import SqlKit.Proofs.Catalogue
import SqlKit.Proofs.SentStatements
import SqlKit.Proofs.RenamedTables
import SqlKit.Store

/-!
# Tables that are ensured

A table is made under the parts of its name, a schema and a table, but the catalogue is asked for the whole
name among the tables of the schema that is used. So a table whose name has no point is found once it is
made, ensuring it again sends nothing but the question, and a migrator gets by with questions after the
ledger was there once. A table that was made in another schema, or even in this one under both names, is not
found: ensuring it sends its creation again, which the engine refuses, and a migrator fails as soon as a
migration is pending.
-/

namespace SqlKit.Schema
open Session Declarations
open Migration (Ledger)

variable {σ : Type}

/-! ## Engines with schemas -/

/-- The places that are taken, each a schema and the name of a table in it. -/
abbrev Places := List (String × String)

/-- Where a table is made that is named by one part or two. -/
def placeOf? (home : String) : List String → Option (String × String)
  | [table] => some (home, table)
  | [schema, table] => some (schema, table)
  | _ => none

/-- Changes after which the table is there under its name. -/
def Change.keepsTable : Change → Bool
  | .rename _ | .drop | .dropIfExists => false
  | _ => true

/-- A blueprint of a table that is made to stay under its name. -/
structure Lasting (d : Dialect) (b : Blueprint) : Prop where
  names : ∀ n ∈ b.names, quoteChar d ∉ n.toList
  kept : b.temporary = false
  changes : ∀ x ∈ b.changes, x.keepsTable = true

theorem Lasting.table {d : Dialect} {b : Blueprint} (h : Lasting d b) : quoteChar d ∉ b.table.toList :=
  h.names _ (by simp [Blueprint.names])

/-- One sees the places. The engine counts the tables of one schema that have the name that it is asked for.
A table that it makes was not there before and then is, in the place that its name says, and no other
statement of a creation, of a ledger or of a transaction makes or removes any. -/
structure MakesTables [Engine σ] (v : σ → Snapshot Places) (d : Dialect) (home : String) : Prop where
  dial : Dialable v
  count x name : Answers v d .fetch (.tableCount name) x
    (fun reply y => y.data = x.data ∧ (counted reply.rows? = true ↔ (home, name) ∈ x.data)) fun _ => False
  create x sql path : subject? d sql = some (.created path) → Answers v d .script (.raw sql []) x
    (fun _ y => ∃ p, placeOf? home path = some p ∧ p ∉ x.data ∧ y.data = p :: x.data) (·.data = x.data)
  detail x sql path : subject? d sql ∈ [some (.table path), some (.column path), some .index] →
    Answers v d .script (.raw sql []) x (fun _ y => y.data = x.data) (·.data = x.data)
  select x q : Answers v d .fetch (.select q) x (fun _ y => y.data = x.data) (·.data = x.data)
  insert x table rows : Answers v d .change (.insert table rows none) x (fun _ y => y.data = x.data)
    (·.data = x.data)
  begin x : Answers v d .script .begin x (fun _ y => y.data = x.data) (·.data = x.data)
  commit x : Answers v d .script .commit x (fun _ y => y.data = x.data) (·.data = x.data)

section
variable [Engine σ] {v : σ → Snapshot Places} {d : Dialect} {home : String} {t : Bool} {data : Places}
variable {c : Connection (Watched σ)} {b : Blueprint}

/-! ## Questions -/

omit [Engine σ] in
theorem live_places {I : Snapshot Places → Prop} (h : Live v d t I c) :
    Live v d t (·.data = (v c.server.server).data) c := h.exactly.mono fun x hx => by rw [hx]

omit [Engine σ] in
theorem live_settled {sql : String} {reply : Reply} {P : Reply → Snapshot Places → Prop}
    {F : Snapshot Places → Prop} (h : Live v d t (Settled sql P F reply) c) :
    (reply.fault? sql = none ∧ Live v d t (P reply) c) ∨
      ∃ fault, reply.fault? sql = some fault ∧ Live v d t F c := by
  cases hfault : reply.fault? sql with
  | none => exact .inl ⟨rfl, h.mono fun x hx => by simpa only [Settled, hfault] using hx⟩
  | some fault => exact .inr ⟨fault, rfl, h.mono fun x hx => by simpa only [Settled, hfault] using hx⟩

theorem MakesTables.hasTable (hv : MakesTables v d home) (h : Live v d t (·.data = data) c) (name : String) :
    ∃ reply c', (hasTable name).on c = (.ok (decide ((home, name) ∈ data)), c') ∧
      c'.server.seen = c.server.seen ++ [⟨(Statement.tableCount name).compile d, reply⟩] ∧
      Live v d t (·.data = data) c' := by
  have hanswer (x : Snapshot Places) (hx : x.data = data) : Answers v d .fetch (.tableCount name) x
      (fun reply y => y.data = data ∧ (counted reply.rows? = true ↔ (home, name) ∈ data)) fun _ => False :=
    hx ▸ hv.count x name
  obtain ⟨reply, c', hon, hseen, hlive⟩ := h.replied hv.dial hanswer
  rcases live_settled hlive with ⟨hfault, hseen'⟩ | ⟨fault, -, hnever⟩
  · rw [received, hfault] at hon
    have hcounted : counted reply.rows? = decide ((home, name) ∈ data) := by
      rw [Bool.eq_iff_iff, hseen'.seen.2, decide_eq_true_iff]
    have hfetch : (fetch (.tableCount name)).on c =
        (.ok reply.rows?, c'.record ((Statement.tableCount name).compile d)) := by
      rw [fetch, on_bind_ok hon]
      rfl
    have hrecorded := hseen'.mono fun _ hy => hy.1
    refine ⟨reply, c'.record ((Statement.tableCount name).compile d), ?_, hseen, hrecorded.dialect,
      hrecorded.reachable, hrecorded.inTransaction, hrecorded.seen⟩
    rw [Schema.hasTable, on_bind_ok hfetch, ← hcounted]
    rfl
  · exact hnever.seen.elim

theorem MakesTables.ensure_there (hv : MakesTables v d home) (h : Live v d t (·.data = data) c)
    (hmem : (home, b.table) ∈ data) :
    ∃ reply c', b.ensure.on c = (.ok (), c') ∧
      c'.server.seen = c.server.seen ++ [⟨(Statement.tableCount b.table).compile d, reply⟩] ∧
      Live v d t (·.data = data) c' := by
  obtain ⟨reply, c', hon, hseen, hlive⟩ := hv.hasTable h b.table
  rw [decide_eq_true hmem] at hon
  exact ⟨reply, c', by rw [Blueprint.ensure, on_bind_ok hon]; rfl, hseen, hlive⟩

theorem MakesTables.ensure_absent (hv : MakesTables v d home) (h : Live v d t (·.data = data) c)
    (hmem : (home, b.table) ∉ data) :
    ∃ reply c', b.ensure.on c = (b.build .create).on c' ∧
      c'.server.seen = c.server.seen ++ [⟨(Statement.tableCount b.table).compile d, reply⟩] ∧
      Live v d t (·.data = data) c' := by
  obtain ⟨reply, c', hon, hseen, hlive⟩ := hv.hasTable h b.table
  rw [decide_eq_false hmem] at hon
  exact ⟨reply, c', by rw [Blueprint.ensure, on_bind_ok hon]; rfl, hseen, hlive⟩

/-- A table that is there is ensured any number of times with as many questions. -/
theorem MakesTables.ensures (hv : MakesTables v d home) {name : String} {bs : List Blueprint}
    (hbs : ∀ b ∈ bs, b.table = name) (h : Live v d t (·.data = data) c) (hmem : (home, name) ∈ data) :
    ∃ c', (bs.forM Blueprint.ensure).on c = (.ok (), c') ∧
      SentOnly (· = (Statement.tableCount name).compile d) c c' := by
  induction bs generalizing c with
  | nil => exact ⟨c, rfl, sentOnly_same rfl⟩
  | cons b bs ih =>
    obtain ⟨rfl, hrest⟩ := List.forall_mem_cons.1 hbs
    obtain ⟨reply, c₁, hon, hseen, hlive⟩ := hv.ensure_there h hmem
    obtain ⟨c₂, hmore, hsent⟩ := ih hrest hlive
    have hfirst : SentOnly (· = (Statement.tableCount b.table).compile d) c c₁ :=
      ⟨[_], hseen, by simp⟩
    exact ⟨c₂, (on_bind_ok hon _).trans hmore, hfirst.trans hsent⟩

/-! ## Creations -/

theorem subject_createText (htable : quoteChar d ∉ b.table.toList) (hkept : b.temporary = false) :
    subject? d (createText d b) = some (.created (pathOf b.table)) := by
  have hword : Clear ("CREATE " ++ "" ++ "TABLE ") [.keyword .create, .keyword .table] := by decide
  have hopening : Clear " (" [.opening] := by decide
  have hapart (s : String) : Apart (" (" ++ s) := apart_before (by decide) (by decide)
  obtain ⟨s, hs⟩ : ∃ s, createText d b = "CREATE " ++ "" ++ "TABLE " ++ quoteName d b.table ++ (" (" ++ s) :=
    ⟨_, by simp only [createText, hkept, Bool.false_eq_true, if_false, String.append_assoc]; rfl⟩
  have hpath := path_symbols (pathOf_ne_nil b.table) (.opening :: lead d s) (by simp)
  rw [subject?, hs, lead_append (symbols?_worded hword htable) (hapart s), lead_clear hopening]
  simp [Subject.of?, Subject.ofCreated?, hpath]

/-- The statements of a creation behind the first one only add to the table. -/
theorem subject_trailing (hb : Lasting d b) {s : String}
    (hs : s ∈ (trailingChanges d b).flatMap (changeStatements d b.table) ++ commentStatements d b) :
    ∃ path, subject? d s ∈ [some (.table path), some (.column path), some .index] := by
  rcases List.mem_append.1 hs with hs | hs
  · obtain ⟨x, hx, htext⟩ := List.mem_flatMap.1 hs
    have hall : x ∈ b.allChanges := List.mem_of_mem_filter hx
    have hkeeps : x.keepsTable = true := by
      rcases List.mem_append.1 hall with hx | hx
      · exact hb.changes x hx
      · obtain ⟨column, -, hflag⟩ := List.mem_flatMap.1 hx
        simp only [Blueprint.flagChanges, List.mem_append, List.mem_ite_nil_right, List.mem_singleton] at hflag
        obtain (⟨-, rfl⟩ | ⟨-, rfl⟩) | ⟨-, rfl⟩ := hflag
        all_goals rfl
    have hclear := not_mem_allChanges (quoteChar_mem_delimiters d) hb.names x hall
    have hsubject := subject_change hb.table hclear s htext
    refine ⟨pathOf b.table, ?_⟩
    rw [hsubject]
    cases x with
    | rename | drop | dropIfExists => cases hkeeps
    | dropUnique | dropIndex | renameIndex => cases d <;> simp [subjectOf]
    | _ => simp [subjectOf]
  · obtain ⟨-, column, hc, text, -, rfl⟩ := mem_commentStatements.1 hs
    have hcolumn : column.name ∈ b.names :=
      List.mem_append_left _ (List.mem_cons_of_mem _ (List.mem_flatMap.2 ⟨column, hc, by simp⟩))
    exact ⟨pathOf b.table ++ pathOf column.name, by rw [subject_comment hb.table (hb.names _ hcolumn)]; simp⟩

/-- What is seen once a table of this name was made. -/
def Made (home : String) (path : List String) (data : Places) (y : Snapshot Places) : Prop :=
  ∃ p, placeOf? home path = some p ∧ p ∉ data ∧ y.data = p :: data

theorem on_build (h : Live v d t (·.data = data) c) :
    (b.build .create).on c = (runAll (createStatements d b)).on c := by
  have hdialect := on_dialect (ε := DbError) c
  rw [h.dialect] at hdialect
  rw [Blueprint.build, on_bind_ok hdialect]
  rfl

theorem MakesTables.make (hv : MakesTables v d home) (h : Live v d t (·.data = data) c)
    (hb : Lasting d b) :
    (b.build .create).Ends c (fun _ => Live v d t (Made home (pathOf b.table) data)) fun _ _ => True := by
  have hrest : ∀ s ∈ (trailingChanges d b).flatMap (changeStatements d b.table) ++ commentStatements d b,
      ∀ c, Live v d t (Made home (pathOf b.table) data) c → (script (.raw s [])).Halts id c
        (fun _ => Live v d t (Made home (pathOf b.table) data)) fun _ _ => True := by
    intro s hs c hc
    obtain ⟨path, hsubject⟩ := subject_trailing hb hs
    refine (hc.script hv.dial (F := fun _ => True) fun x hx => ?_).mono (fun _ _ hs => hs) fun _ _ _ => trivial
    refine (hv.detail x s path hsubject).mono (fun _ y hy => ?_) fun _ _ => trivial
    rwa [Made, hy]
  have hfirst : (script (.raw (createText d b) [])).Halts id c
      (fun _ => Live v d t (Made home (pathOf b.table) data)) fun _ _ => True := by
    refine (h.script hv.dial (F := fun _ => True) fun x hx => ?_).mono (fun _ _ hs => hs) fun _ _ _ => trivial
    refine (hv.create x _ _ (subject_createText hb.table hb.kept)).mono (fun _ y hy => ?_) fun _ _ => trivial
    rwa [hx] at hy
  have hall : (runAll (createStatements d b)).Halts id c
      (fun _ => Live v d t (Made home (pathOf b.table) data)) fun _ _ => True :=
    hfirst.bind fun _ c₁ h₁ => halts_forM hrest h₁
  rw [Ends, on_build h]
  exact hall.ends.mono (fun _ _ hs => hs) fun _ _ _ => trivial

/-- A table is not made in a place that is taken, and the engine's refusal ends the attempt. -/
theorem MakesTables.make_taken (hv : MakesTables v d home) (h : Live v d t (·.data = data) c)
    (htable : quoteChar d ∉ b.table.toList) (hkept : b.temporary = false)
    (htaken : ∀ p, placeOf? home (pathOf b.table) = some p → p ∈ data) :
    ∃ reply fault c', (b.build .create).on c = (.error fault, c') ∧
      reply.fault? (createText d b) = some fault ∧
      c'.server.seen = c.server.seen ++ [⟨⟨createText d b, []⟩, reply⟩] ∧
      Live v d t (·.data = data) c' := by
  have hanswer (x : Snapshot Places) (hx : x.data = data) : Answers v d .script (.raw (createText d b) []) x
      (fun _ => Made home (pathOf b.table) data) (·.data = data) :=
    hx ▸ hv.create x _ _ (subject_createText htable hkept)
  obtain ⟨reply, c', hon, hseen, hlive⟩ := h.replied hv.dial hanswer
  rcases live_settled hlive with ⟨-, hmade⟩ | ⟨fault, hfault, hsame⟩
  · obtain ⟨p, hp, hfree, -⟩ := hmade.seen
    exact absurd (htaken p hp) hfree
  · rw [received, hfault] at hon
    have hscript : (script (.raw (createText d b) [])).on c = (.error fault, c') := by
      rw [script, on_bind_error hon]
    refine ⟨reply, fault, c', ?_, hfault, hseen, hsame⟩
    rw [on_build h, runAll, createStatements]
    exact on_bind_error hscript _

/-- An attempt to ensure a table that asked for it, was told that there is none, and sent its creation,
which was refused. -/
def Refused (d : Dialect) (b : Blueprint) (fault : DbError) (c c' : Connection (Watched σ)) : Prop :=
  ∃ count reply, reply.fault? (createText d b) = some fault ∧
    c'.server.seen = c.server.seen ++
      [⟨(Statement.tableCount b.table).compile d, count⟩, ⟨⟨createText d b, []⟩, reply⟩]

theorem MakesTables.ensure_refused (hv : MakesTables v d home) (h : Live v d t (·.data = data) c)
    (htable : quoteChar d ∉ b.table.toList) (hkept : b.temporary = false) (habsent : (home, b.table) ∉ data)
    (htaken : ∀ p, placeOf? home (pathOf b.table) = some p → p ∈ data) :
    ∃ fault c', b.ensure.on c = (.error fault, c') ∧ Refused d b fault c c' := by
  obtain ⟨count, c₁, hon, hasked, hlive⟩ := hv.ensure_absent h habsent
  obtain ⟨reply, fault, c₂, hbuild, hfault, hseen, -⟩ := hv.make_taken hlive htable hkept htaken
  exact ⟨fault, c₂, hon.trans hbuild, count, reply, hfault, by simp [hseen, hasked]⟩

/-! ## Tables that are found -/

omit [Engine σ] in
/-- The place of a table is the one in which it is looked for, unless its name has a point. -/
theorem place_iff {name : String} {p : String × String} (h : placeOf? home (pathOf name) = some p) :
    (home, name) = p ↔ '.' ∉ name.toList := by
  by_cases hpoint : '.' ∈ name.toList
  · have hparts : (pathOf name).dropLast ≠ [] := fun hnil => (dropLast_pathOf_iff name).1 hnil hpoint
    refine ⟨fun heq => ?_, fun hnot => absurd hpoint hnot⟩
    unfold placeOf? at h
    split at h
    · rename_i table hpath
      simp [hpath] at hparts
    · rename_i schema table hpath
      cases h
      obtain ⟨cs, hcs, htable⟩ : ∃ cs ∈ splitChars '.' name.toList, String.ofList cs = table :=
        List.mem_map.1 (hpath ▸ by simp : table ∈ pathOf name)
      have hname : name = table := congrArg Prod.snd heq
      rw [hname, ← htable, String.toList_ofList] at hpoint
      exact absurd hpoint (point_not_mem_part hcs)
    · cases h
  · have hpath : pathOf name = [name] := by simp [pathOf, splitChars_of_not_mem hpoint]
    rw [hpath] at h
    cases h
    simp [hpoint]

omit [Engine σ] in
theorem Made.found_iff {name : String} {y : Snapshot Places} (h : Made home (pathOf name) data y) :
    (home, name) ∈ y.data ↔ '.' ∉ name.toList ∨ (home, name) ∈ data := by
  obtain ⟨p, hp, -, hy⟩ := h
  rw [hy, List.mem_cons, place_iff hp]

omit [Engine σ] in
theorem Made.taken {path : List String} {y : Snapshot Places} (h : Made home path data y) :
    ∀ p, placeOf? home path = some p → p ∈ y.data := by
  obtain ⟨p, hp, -, hy⟩ := h
  intro q hq
  rw [hp] at hq
  simp [← Option.some.inj hq, hy]

theorem MakesTables.made (hv : MakesTables v d home) (htable : quoteChar d ∉ b.table.toList)
    (h : Live v d t (Made home (pathOf b.table) data) c) :
    ∃ found c', (Schema.hasTable b.table).on c = (.ok found, c') ∧
      (found = true ↔ '.' ∉ b.table.toList ∨ (home, b.table) ∈ data) ∧
      (found = true → ∀ bs : List Blueprint, (∀ x ∈ bs, x.table = b.table) →
        ∃ c', (bs.forM Blueprint.ensure).on c = (.ok (), c') ∧
          SentOnly (· = (Statement.tableCount b.table).compile d) c c') ∧
      (found = false → ∀ x : Blueprint, x.table = b.table → x.temporary = false →
        ∃ fault c', x.ensure.on c = (.error fault, c') ∧ Refused d x fault c c') := by
  have hplaces := live_places h
  obtain ⟨reply, c', hon, -, -⟩ := hv.hasTable hplaces b.table
  refine ⟨_, c', hon, by rw [decide_eq_true_iff, h.seen.found_iff], fun htrue bs hbs => ?_,
    fun hfalse x hx hkept => ?_⟩
  · exact hv.ensures hbs hplaces (decide_eq_true_iff.1 htrue)
  · exact hv.ensure_refused hplaces (hx ▸ htable) hkept (hx ▸ decide_eq_false_iff_not.1 hfalse)
      (hx ▸ h.seen.taken)

end

/-! ## A small engine with schemas -/

/-- The places of tables, in a database that uses the schema `home`. -/
structure Schemas (d : Dialect) (home : String) where
  places : Places := []

namespace Schemas

variable {d : Dialect} {home : String}

def accept (s : Schemas d home) : Reply × Schemas d home := (.done 0 none, s)

def make (s : Schemas d home) (path : List String) : Reply × Schemas d home :=
  match placeOf? home path with
  | some p => if p ∈ s.places then (.refused, s) else accept { s with places := p :: s.places }
  | none => (.refused, s)

/-- Tables are made and nothing is kept in them. -/
def effect (s : Schemas d home) : Statement → Reply × Schemas d home
  | .tableCount name =>
    (.rows [Row.ofList [("aggregate", .int (if decide ((home, name) ∈ s.places) then 1 else 0))]], s)
  | .raw sql _ =>
    match subject? d sql with
    | some (.created path) => s.make path
    | some (.table _) | some (.column _) | some .index => s.accept
    | _ => (.refused, s)
  | .select _ => (.rows [], s)
  | .insert .. | .begin | .commit => s.accept
  | _ => (.refused, s)

instance : Engine (Schemas d home) where
  dial := return true
  answer r := fun s => s.effect r.statement

def view (d : Dialect) (home : String) (s : Schemas d home) : Snapshot Places := ⟨s.places, none⟩

end Schemas

theorem schemas_makesTables (d : Dialect) (home : String) :
    MakesTables (Schemas.view d home) d home where
  dial _ := ⟨rfl, rfl⟩
  count x name := by
    rintro s rfl
    refine ⟨rfl, ?_⟩
    rw [show Reply.rows? _ = [_] from rfl, Migration.Catalogue.counted_aggregate, decide_eq_true_iff]
    rfl
  create x sql path h := by
    rintro s rfl
    have hmake : Engine.answer ⟨.raw sql [], .script, (Statement.raw sql []).compile d⟩ s = s.make path := by
      change s.effect (.raw sql []) = _
      rw [Schemas.effect, h]
    rw [hmake]
    unfold Schemas.make
    split
    · split
      · rfl
      · exact ⟨_, ‹_›, ‹_›, rfl⟩
    · rfl
  detail x sql path h := by
    rintro s rfl
    have haccept : Engine.answer ⟨.raw sql [], .script, (Statement.raw sql []).compile d⟩ s = s.accept := by
      change s.effect (.raw sql []) = _
      simp only [List.mem_cons, List.not_mem_nil, or_false] at h
      rcases h with h | h | h
      all_goals rw [Schemas.effect, h]
    rw [haccept]
    rfl
  select x q := by rintro s rfl; rfl
  insert x table rows := by rintro s rfl; rfl
  begin x := by rintro s rfl; rfl
  commit x := by rintro s rfl; rfl

end SqlKit.Schema

namespace SqlKit.Session

variable {σ ε α β : Type}

/-- Loops whose bodies do the same, as long as something holds that they keep. -/
theorem on_mapM_congr {f g : β → Session σ ε α} {I : Connection σ → Prop} {xs : List β}
    (hsame : ∀ x ∈ xs, ∀ c, I c → (f x).on c = (g x).on c)
    (hkept : ∀ x ∈ xs, ∀ c, I c → (f x).Ends c (fun _ => I) fun _ _ => True) {c : Connection σ} (h : I c) :
    (xs.mapM f).on c = (xs.mapM g).on c := by
  induction xs generalizing c with
  | nil => rfl
  | cons x xs ih =>
    rw [List.mapM_cons, List.mapM_cons, on_bind, on_bind, ← hsame x (by simp) c h]
    rcases hx : (f x).on c with ⟨e | y, c'⟩
    · rfl
    · have hc' : I c' := (ends_ok hx).1 (hkept x (by simp) c h)
      have hrest := ih (fun x hx => hsame x (by simp [hx])) (fun x hx => hkept x (by simp [hx])) hc'
      simp only [on_bind, hrest]

theorem Ends.transaction [Engine σ] {lift : DbError → ε} {body : Session σ ε α} {c : Connection σ}
    {J : Connection σ → Prop} {P Q : α → Connection σ → Prop}
    (hbegin : (begin : Session σ DbError Unit).Ends c (fun _ => J) fun _ _ => True)
    (hbody : ∀ c, J c → body.Ends c P fun _ _ => True)
    (hcommit : ∀ x c, P x c → (commit : Session σ DbError Unit).Ends c (fun _ => Q x) fun _ _ => True) :
    (transaction lift body).Ends c Q fun _ _ => True := by
  rw [Ends, on_transaction]
  rcases hb : (begin : Session σ DbError Unit).on c with ⟨e | ⟨⟩, c₁⟩
  · trivial
  · simp only
    rcases hx : body.on c₁ with ⟨e | x, c₂⟩
    · trivial
    · have hP : P x c₂ := (ends_ok hx).1 (hbody c₁ ((ends_ok hb).1 hbegin))
      have hdone := hcommit x c₂ hP
      simp only
      rcases hc : (commit : Session σ DbError Unit).on c₂ with ⟨e | ⟨⟩, c₃⟩
      · trivial
      · exact (ends_ok hc).1 hdone

end SqlKit.Session

namespace SqlKit.Migrator
open Session Schema Declarations
open Migration

variable {σ : Type} [Engine σ]

/-- The question that a ledger begins with, and nothing that is done about the answer. -/
def ask (l : Ledger) : Session σ DbError Unit := do
  let _ ← hasTable l.table

/-- Applying a migration unless the ledger has it. -/
def applyOnce (m : Migrator) (now : Calendar.DateTime) (name : String) (x : Migration) :
    Session σ MigrationError Outcome := do
  if ← onDatabase (m.ledger.isApplied name) then return .skipped name
  m.run now x .up
  return .applied name

/-- Applying a migration once something was prepared. -/
def upAfter (m : Migrator) (prepare : Session σ DbError Unit) (now : Calendar.DateTime) (name : String) :
    Session σ MigrationError Outcome := do
  let x ← ofExcept (m.find name)
  onDatabase prepare
  m.applyOnce now name x

theorem up_eq_upAfter (m : Migrator) (now : Calendar.DateTime) (name : String) :
    m.up (σ := σ) now name = m.upAfter m.ledger.ensureTable now name := rfl

variable {v : σ → Snapshot Places} {d : Dialect} {home : String} {t : Bool} {data : Places}
variable {c c₁ : Connection (Watched σ)} {m : Migrator} {names : List String} {name : String}
variable {now : Calendar.DateTime}

/-- The statements of the migrations leave the ledger in the catalogue. -/
def LeavesLedger (v : σ → Snapshot Places) (d : Dialect) (home : String) (m : Migrator) : Prop :=
  ∀ sql ∈ m.texts d, ∀ x, (home, m.ledger.table) ∈ x.data →
    Answers v d .script (.raw sql []) x (fun _ y => (home, m.ledger.table) ∈ y.data) fun _ => True

/-- A connection to an engine that would find the ledger. -/
abbrev Found (v : σ → Snapshot Places) (d : Dialect) (home : String) (t : Bool) (m : Migrator)
    (c : Connection (Watched σ)) : Prop :=
  Live v d t (fun y => (home, m.ledger.table) ∈ y.data) c

theorem Found.ensureTable (hv : MakesTables v d home) (h : Found v d home t m c) :
    ∃ c', m.ledger.ensureTable.on c = (.ok (), c') ∧ (ask m.ledger).on c = (.ok (), c') ∧
      Found v d home t m c' := by
  obtain ⟨reply, c', hon, -, hlive⟩ := hv.hasTable (live_places h) m.ledger.table
  rw [decide_eq_true h.seen] at hon
  have hblueprint : (hasTable m.ledger.blueprint.table).on c = (.ok true, c') := hon
  have hfound : Found v d home t m c' := hlive.mono fun y hy => hy ▸ h.seen
  exact ⟨c', by rw [Ledger.ensureTable, Blueprint.ensure, on_bind_ok hblueprint]; rfl,
    by rw [ask, on_bind_ok hon]; rfl, hfound⟩

theorem Found.run (hv : MakesTables v d home) (hm : LeavesLedger v d home m) {x : Migration}
    (hx : x ∈ m.migrations) (h : Found v d home t m c) :
    (m.run now x .up).Ends c (fun _ => Found v d home t m) fun _ _ => True := by
  have hexecute : ∀ {t c}, Found v d home t m c →
      (m.execute now x .up).Ends c (fun _ => Found v d home t m) fun _ _ => True := by
    intro t c h
    have hran : (m.execute now x .up).Halts .database c (fun _ => Found v d home t m)
        (Quiet v d t fun _ => True) := by
      refine h.execute hv.dial (fun sql hsql y hy => hm sql (mem_texts hx .up hsql) y hy) fun y hy => ?_
      exact (hv.insert y _ _).mono (fun _ z hz => by rwa [hz]) fun _ _ => trivial
    exact hran.ends.mono (fun _ _ hs => hs) fun _ _ _ => trivial
  by_cases hown : (x.transactional && c.dialect.transactionalDdl && !c.inTransaction) = true
  · obtain rfl : t = false := by
      rw [← h.inTransaction]
      simpa using (Bool.and_eq_true_iff.1 hown).2
    rw [Ends, on_run, if_pos hown]
    refine Ends.transaction (J := Found v d home true m) ?_ (fun c hc => hexecute hc) fun _ c hc => ?_
    · have hbegun := h.begin hv.dial (F := fun _ => True) (J := fun y => (home, m.ledger.table) ∈ y.data)
        fun y hy => (hv.begin y).mono (fun _ z hz => by rwa [hz]) fun _ _ => trivial
      exact hbegun.ends.mono (fun _ _ hs => hs) fun _ _ _ => trivial
    · have hcommitted := hc.commit hv.dial (F := fun _ => True) (J := fun y => (home, m.ledger.table) ∈ y.data)
        fun y hy => (hv.commit y).mono (fun _ z hz => by rwa [hz]) fun _ _ => trivial
      exact hcommitted.ends.mono (fun _ _ hs => hs) fun _ _ _ => trivial
  · rw [Ends, on_run, if_neg hown]
    exact hexecute h

theorem Found.up (hv : MakesTables v d home) (hm : LeavesLedger v d home m) (h : Found v d home t m c) :
    (m.up now name).on c = (m.upAfter (ask m.ledger) now name).on c ∧
      (m.up now name).Ends c (fun _ => Found v d home t m) fun _ _ => True := by
  cases hfind : m.find name with
  | error e =>
    have hstop (prepare : Session (Watched σ) DbError Unit) :
        (m.upAfter prepare now name).on c = (.error e, c) := by
      rw [upAfter, hfind]
      exact on_bind_error (on_ofExcept _ c) _
    rw [up_eq_upAfter]
    exact ⟨(hstop _).trans (hstop _).symm, (ends_error (hstop _)).2 trivial⟩
  | ok x =>
    obtain ⟨c', hensure, hask, hfound⟩ := h.ensureTable hv
    have hstart {prepare : Session (Watched σ) DbError Unit} (hprepare : prepare.on c = (.ok (), c')) :
        (m.upAfter prepare now name).on c = (m.applyOnce now name x).on c' := by
      have hdatabase : (onDatabase prepare).on c = (.ok (), c') := on_mapError_ok _ hprepare
      rw [upAfter, hfind, on_bind_ok (on_ofExcept _ c), on_bind_ok hdatabase]
    rw [up_eq_upAfter, Ends, hstart hensure, hstart hask]
    refine ⟨rfl, ?_⟩
    have happlied : (m.ledger.isApplied name).Halts id c' (fun _ => Found v d home t m)
        (Quiet v d t fun _ => True) :=
      hfound.isApplied (P := fun _ y => (home, m.ledger.table) ∈ y.data) hv.dial fun y hy =>
        (hv.select y _).mono (fun _ z hz => by rwa [hz]) fun _ _ => trivial
    have hasked : (onDatabase (m.ledger.isApplied name)).Ends c' (fun _ => Found v d home t m) fun _ _ => True :=
      (happlied.mapError MigrationError.database).ends.mono (fun _ _ hs => hs) fun _ _ _ => trivial
    refine hasked.bind fun applied c₂ h₂ => ?_
    cases applied with
    | true => exact ends_pure h₂
    | false => exact (h₂.run hv hm (mem_of_find hfind).1).bind fun _ _ h₃ => ends_pure h₃

/-! ## Runs of migrations -/

/-- What is seen once a table was ensured. -/
def Prepared (home name : String) (data : Places) (y : Snapshot Places) : Prop :=
  if (home, name) ∈ data then y.data = data else Made home (pathOf name) data y

theorem lasting_blueprint {l : Ledger} (h : quoteChar d ∉ l.table.toList) : Lasting d l.blueprint := by
  have hcolumns : ∀ n ∈ ["id", "migration", "executed_at"], quoteChar d ∉ n.toList := by
    cases d <;> decide
  exact ⟨List.forall_mem_cons.2 ⟨h, hcolumns⟩, rfl, by simp [Ledger.blueprint]⟩

theorem ensured (hv : MakesTables v d home) {l : Ledger} (hl : quoteChar d ∉ l.table.toList)
    (h : Live v d t (·.data = data) c) :
    l.ensureTable.Ends c (fun _ => Live v d t (Prepared home l.table data)) fun _ _ => True := by
  by_cases hmem : (home, l.table) ∈ data
  · obtain ⟨-, c', hon, -, hlive⟩ := hv.ensure_there (b := l.blueprint) h hmem
    exact (ends_ok hon).2 (hlive.mono fun y hy => by rwa [Prepared, if_pos hmem])
  · obtain ⟨-, c', hon, -, hlive⟩ := hv.ensure_absent (b := l.blueprint) h hmem
    rw [Ends, Ledger.ensureTable, hon]
    refine (hv.make hlive (lasting_blueprint hl)).mono (fun _ c₂ h₂ => ?_) fun _ _ _ => trivial
    exact h₂.mono fun y hy => by rwa [Prepared, if_neg hmem]

theorem pending_ensured (hv : MakesTables v d home) (hl : quoteChar d ∉ m.ledger.table.toList)
    (h : Live v d t (·.data = data) c) (hpending : m.pending.on c = (.ok names, c₁)) :
    Live v d t (Prepared home m.ledger.table data) c₁ ∧ ∀ n ∈ names, n ∈ m.names := by
  have hall : m.pending.Ends c
      (fun names c₁ => Live v d t (Prepared home m.ledger.table data) c₁ ∧ ∀ n ∈ names, n ∈ m.names)
      fun _ _ => True := by
    refine (Ends.mapError (ensured hv hl h)).bind fun _ c₂ h₂ => ?_
    have happlied : m.ledger.applied.Halts id c₂
        (fun _ => Live v d t (Prepared home m.ledger.table data)) (Quiet v d t fun _ => True) :=
      h₂.applied (P := fun _ => Prepared home m.ledger.table data) hv.dial fun y hy =>
        (hv.select y _).mono (fun _ z hz => by rwa [Prepared, Made, hz]) fun _ _ => trivial
    have hread := (happlied.mapError MigrationError.database).ends
    refine (hread.mono (fun _ _ hs => hs) fun _ _ _ => trivial).bind fun applied c₃ h₃ => ends_pure ⟨h₃, ?_⟩
    exact fun n hn => List.mem_of_mem_filter hn
  exact (ends_ok hpending).1 hall

/-- Once a ledger without a point in its name was ensured, a run does no more than to ask for it. -/
theorem migrate_asking (hv : MakesTables v d home) (hm : LeavesLedger v d home m)
    (h : Live v d t (Prepared home m.ledger.table data) c₁) (hpoint : '.' ∉ m.ledger.table.toList)
    (hpending : m.pending.on c = (.ok names, c₁)) :
    (m.migrate now).on c = (names.mapM (m.upAfter (ask m.ledger) now)).on c₁ := by
  have hfound : Found v d home t m c₁ := by
    refine h.mono fun y hy => ?_
    unfold Prepared at hy
    split at hy
    · rename_i hmem
      rwa [hy]
    · exact hy.found_iff.2 (.inl hpoint)
  rw [migrate, on_bind_ok hpending]
  exact on_mapM_congr (I := Found v d home t m) (fun n _ c hc => (hc.up hv hm).1)
    (fun n _ c hc => (hc.up hv hm).2) hfound

/-- A ledger that was made with a point in its name stops the run at its first migration. -/
theorem migrate_stopped (hv : MakesTables v d home) (hl : quoteChar d ∉ m.ledger.table.toList)
    (h : Live v d t (Made home (pathOf m.ledger.table) data) c₁) (hpoint : '.' ∈ m.ledger.table.toList)
    (habsent : (home, m.ledger.table) ∉ data) (hne : names ≠ []) (hnames : ∀ n ∈ names, n ∈ m.names)
    (hpending : m.pending.on c = (.ok names, c₁)) :
    ∃ fault c₂, (m.migrate now).on c = (.error (.database fault), c₂) ∧
      Refused d m.ledger.blueprint fault c₁ c₂ := by
  obtain ⟨n, rest, rfl⟩ := List.exists_cons_of_ne_nil hne
  obtain ⟨x, -, -, hfind⟩ := find_of_mem (hnames n (by simp))
  have hmissing : (home, m.ledger.table) ∉ (v c₁.server.server).data := fun hmem =>
    (h.seen.found_iff.1 hmem).elim (absurd hpoint) habsent
  obtain ⟨fault, c₂, hrefused, hseen⟩ :=
    hv.ensure_refused (b := m.ledger.blueprint) (live_places h) hl rfl hmissing h.seen.taken
  have hensure : (onDatabase m.ledger.ensureTable).on c₁ = (.error (.database fault), c₂) :=
    on_mapError_error _ hrefused
  have hup : (m.up now n).on c₁ = (.error (.database fault), c₂) := by
    rw [up_eq_upAfter, upAfter, hfind, on_bind_ok (on_ofExcept _ c₁), on_bind_error hensure]
  refine ⟨fault, c₂, ?_, hseen⟩
  rw [migrate, on_bind_ok hpending, List.mapM_cons, on_bind_error hup]

/-- A table that was made is found again exactly if its name has no point or it was there before. If it is
found, it is ensured any number of times with a question for each, and a migrator only asks for its ledger
at each migration; if it is not, the next attempt to ensure it is refused, and so is the first migration
that is pending. -/
theorem made_tables_found_without_point (hv : MakesTables v d home) :
    (∀ b t c c', Live v d t (fun _ => True) c → Lasting d b → (b.build .create).on c = (.ok (), c') →
      ∃ found c₁, (hasTable b.table).on c' = (.ok found, c₁) ∧
        (found = true ↔ '.' ∉ b.table.toList ∨ (home, b.table) ∈ (v c.server.server).data) ∧
        (found = true → ∀ bs : List Blueprint, (∀ x ∈ bs, x.table = b.table) →
          ∃ c₂, (bs.forM Blueprint.ensure).on c' = (.ok (), c₂) ∧
            SentOnly (· = (Statement.tableCount b.table).compile d) c' c₂) ∧
        (found = false → ∀ x : Blueprint, x.table = b.table → x.temporary = false →
          ∃ fault c₂, x.ensure.on c' = (.error fault, c₂) ∧ Refused d x fault c' c₂)) ∧
    ∀ m now t c names c₁, Live v d t (fun _ => True) c → quoteChar d ∉ m.ledger.table.toList →
      m.pending.on c = (.ok names, c₁) →
      ('.' ∉ m.ledger.table.toList → LeavesLedger v d home m →
        (m.migrate now).on c = (names.mapM (m.upAfter (ask m.ledger) now)).on c₁) ∧
      ('.' ∈ m.ledger.table.toList → (home, m.ledger.table) ∉ (v c.server.server).data → names ≠ [] →
        ∃ fault c₂, (m.migrate now).on c = (.error (.database fault), c₂) ∧
          Refused d m.ledger.blueprint fault c₁ c₂) := by
  refine ⟨fun b t c c' h hb hbuild => ?_, fun m now t c names c₁ h hl hpending => ?_⟩
  · exact hv.made hb.table ((ends_ok hbuild).1 (hv.make (live_places h) hb))
  · obtain ⟨hensured, hnames⟩ := pending_ensured hv hl (live_places h) hpending
    refine ⟨fun hpoint hm => migrate_asking hv hm hensured hpoint hpending, fun hpoint habsent hne => ?_⟩
    have hmade := hensured.mono fun y hy => by rwa [Prepared, if_neg habsent] at hy
    exact migrate_stopped hv hl hmade hpoint habsent hne hnames hpending

/-- A database without tables. -/
def emptySchemas : Connection (Watched (Schemas .sqlite "main")) :=
  { config := { dialect := .sqlite, database := Config.memory }, server := { server := {} } }

/-- One migration behind a ledger. -/
def oneBehind (l : Ledger) : Migrator :=
  { ledger := l, migrations := [{ name := "20240101000000_x", up := [], down := [] }] }

theorem made_tables_found_without_point_main :
    let l : Ledger := ⟨"runs"⟩
    let qualified : Ledger := ⟨"main.runs"⟩
    MakesTables (Schemas.view .sqlite "main") .sqlite "main" ∧
    (∃ c' c₁, (l.blueprint.build .create).on emptySchemas = (.ok (), c') ∧
      (hasTable l.table).on c' = (.ok true, c₁) ∧
      ∀ n, ∃ c₂, ((List.replicate n l.blueprint).forM Blueprint.ensure).on c' = (.ok (), c₂) ∧
        SentOnly (· = (Statement.tableCount l.table).compile .sqlite) c' c₂) ∧
    (∃ c' c₁ fault c₂, (qualified.blueprint.build .create).on emptySchemas = (.ok (), c') ∧
      (hasTable qualified.table).on c' = (.ok false, c₁) ∧
      qualified.ensureTable.on c' = (.error fault, c₂)) ∧
    (∃ c₁, (oneBehind l).pending.on emptySchemas = (.ok (oneBehind l).names, c₁) ∧
      ((oneBehind l).migrate default).on emptySchemas =
        ((oneBehind l).names.mapM ((oneBehind l).upAfter (ask l) default)).on c₁) ∧
    ∃ fault c₂, ((oneBehind qualified).migrate default).on emptySchemas = (.error (.database fault), c₂) := by
  intro l qualified
  have hv : MakesTables (Schemas.view .sqlite "main") .sqlite "main" := schemas_makesTables _ _
  have hlive : Live (Schemas.view .sqlite "main") .sqlite false (fun _ => True) emptySchemas :=
    ⟨rfl, .inr ⟨emptySchemas.config.fileUrl, rfl⟩, rfl, trivial⟩
  obtain ⟨hmade, hrun⟩ := made_tables_found_without_point hv
  refine ⟨hv, ?_, ?_, ?_, ?_⟩
  · obtain ⟨c', hbuild⟩ : ∃ c', (l.blueprint.build .create).on emptySchemas = (.ok (), c') :=
      on_ok_of_toOption (by decide +kernel)
    obtain ⟨found, c₁, hon, hfound, hthere, -⟩ :=
      hmade l.blueprint false emptySchemas c' hlive (lasting_blueprint (by decide)) hbuild
    obtain rfl : found = true := hfound.2 (.inl (by decide))
    exact ⟨c', c₁, hbuild, hon, fun n => hthere rfl _ fun x hx => by rw [List.eq_of_mem_replicate hx]⟩
  · obtain ⟨c', hbuild⟩ : ∃ c', (qualified.blueprint.build .create).on emptySchemas = (.ok (), c') :=
      on_ok_of_toOption (by decide +kernel)
    obtain ⟨found, c₁, hon, hfound, -, hmissing⟩ :=
      hmade qualified.blueprint false emptySchemas c' hlive (lasting_blueprint (by decide)) hbuild
    obtain rfl : found = false := Bool.eq_false_iff.2 (mt hfound.1 (by decide))
    obtain ⟨fault, c₂, hensure, -⟩ := hmissing rfl qualified.blueprint rfl rfl
    exact ⟨c', c₁, fault, c₂, hbuild, hon, hensure⟩
  · obtain ⟨c₁, hpending⟩ : ∃ c₁, (oneBehind l).pending.on emptySchemas = (.ok (oneBehind l).names, c₁) :=
      on_ok_of_toOption (by decide +kernel)
    have htexts : (oneBehind l).texts .sqlite = [] := by decide
    have hleaves : LeavesLedger (Schemas.view .sqlite "main") .sqlite "main" (oneBehind l) := by
      simp [LeavesLedger, htexts]
    exact ⟨c₁, hpending, (hrun _ default _ _ _ _ hlive (by decide) hpending).1 (by decide) hleaves⟩
  · obtain ⟨c₁, hpending⟩ :
        ∃ c₁, (oneBehind qualified).pending.on emptySchemas = (.ok (oneBehind qualified).names, c₁) :=
      on_ok_of_toOption (by decide +kernel)
    obtain ⟨fault, c₂, hmigrate, -⟩ :=
      (hrun _ default _ _ _ _ hlive (by decide) hpending).2 (by decide) (by decide) (by decide)
    exact ⟨fault, c₂, hmigrate⟩

/-- The ledger is made in the one schema there is, and is not found under the name that it was made by. -/
theorem qualified_ledger_made_twice :
    let l : Ledger := ⟨"main.migrations"⟩
    let c : Connection Store :=
      { config := { dialect := .sqlite, database := Config.memory }, server := {} }
    let made := (l.ensureTable.on c).2
    (l.ensureTable.on c).1 = .ok () ∧ ((hasTable "migrations").on made).1 = .ok true ∧
      ((hasTable l.table).on made).1 = .ok false ∧
      (l.ensureTable.on made).1 = .error (.execution (createText .sqlite l.blueprint)) := by
  decide +kernel

end SqlKit.Migrator
