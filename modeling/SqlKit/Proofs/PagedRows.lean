import SqlKit.Proofs.ConditionReading
import SqlKit.Proofs.SharedCondition
import SqlKit.Proofs.Succeeding
import SqlKit.Session.Record
import SqlKit.Store

/-!
# Pages

Limit and offset are written behind everything else of a select, so that a query and its pages differ in the
clause at the end alone. An engine is known here by what it makes of such clauses behind one statement: it cuts
them out of the rows that the statement has without a clause.
-/

namespace SqlKit

/-! ## What sets the limit and the offset -/

def Clause.limit? : Clause → Option Nat
  | .limit n => some n
  | .page _ size => some size
  | _ => none

def Clause.offset? : Clause → Option Nat
  | .offset n => some n
  | .page number size => some (Query.pageStart number size)
  | _ => none

theorem getLast?_filterMap_cons {α β : Type} (f : α → Option β) (x : α) (xs : List α) :
    ((x :: xs).filterMap f).getLast? = (xs.filterMap f).getLast?.or (f x) := by
  cases hx : f x with
  | none => rw [List.filterMap_cons_none hx, Option.or_none]
  | some y =>
    rw [List.filterMap_cons_some hx, List.getLast?_cons]
    cases (xs.filterMap f).getLast? <;> rfl

namespace Query

def unpaged (q : Query) : Query := { q with limit := none, offset := none }

theorem limit_apply (q : Query) (c : Clause) : (q.apply c).limit = c.limit?.or q.limit := by
  cases c <;> rfl

theorem offset_apply (q : Query) (c : Clause) : (q.apply c).offset = c.offset?.or q.offset := by
  cases c <;> rfl

/-- The last clause that sets something decides. -/
theorem set_applyAll {α : Type} {view : Query → Option α} {setting : Clause → Option α}
    (h : ∀ q c, view (q.apply c) = (setting c).or (view q)) (cs : List Clause) (q : Query) :
    view (q.applyAll cs) = (cs.filterMap setting).getLast?.or (view q) := by
  induction cs generalizing q with
  | nil => rfl
  | cons c cs ih => rw [applyAll_cons, ih, h, getLast?_filterMap_cons, Option.or_assoc]

theorem limit_applyAll (cs : List Clause) (q : Query) :
    (q.applyAll cs).limit = (cs.filterMap Clause.limit?).getLast?.or q.limit :=
  set_applyAll limit_apply cs q

theorem offset_applyAll (cs : List Clause) (q : Query) :
    (q.applyAll cs).offset = (cs.filterMap Clause.offset?).getLast?.or q.offset :=
  set_applyAll offset_apply cs q

end Query

/-! ## Paging clauses -/

/-- A limit and an offset as far as they are written. A limit may be below zero. -/
structure Paging where
  limit : Option Int
  offset : Option Nat
deriving DecidableEq, Repr

namespace Paging

/-- The number that a word is. One dialect takes limits below zero. -/
def limit? (d : Dialect) (word : String) : Option Int :=
  match d, word.toList with
  | .sqlite, '-' :: cs => (Number.readDigits? cs).map fun n => -(n : Int)
  | _, cs => (Number.readDigits? cs).map Int.ofNat

def offset? (word : String) : Option Nat := Number.readDigits? word.toList

/-- A clause by its words. One dialect takes an offset without a limit. -/
def ofWords? (d : Dialect) : List String → Option Paging
  | [""] => some ⟨none, none⟩
  | ["", "LIMIT", n] => (limit? d n).map fun n => ⟨some n, none⟩
  | ["", "LIMIT", n, "OFFSET", m] => (limit? d n).bind fun n => (offset? m).map fun m => ⟨some n, some m⟩
  | ["", "OFFSET", m] => if d = .postgres then (offset? m).map fun m => ⟨none, some m⟩ else none
  | _ => none

def words (clause : String) : List String := (clause.toList.splitOn ' ').map String.ofList

/-- What a clause at the end of a select says in a dialect, if the dialect accepts it. -/
def read? (d : Dialect) (clause : String) : Option Paging := ofWords? d (words clause)

/-- The clause that a query has. -/
def text (d : Dialect) (q : Query) : String := Statement.limitText d q ++ Statement.offsetText q

/-- What the clause of a query says. -/
def ofQuery (d : Dialect) (q : Query) : Paging where
  limit := match q.limit, q.offset with
    | some n, _ => some n
    | none, some _ => (Statement.noLimit d).bind (limit? d)
    | none, none => none
  offset := q.offset

theorem words_intercalate {ws : List String} (hws : ws ≠ []) (h : ∀ w ∈ ws, ' ' ∉ w.toList) :
    words (" ".intercalate ws) = ws := by
  have hparts : ∀ cs ∈ ws.map String.toList, ' ' ∉ cs := List.forall_mem_map.2 h
  have hsplit := List.splitOn_intercalate ' ' hparts (by simpa using hws)
  have hchars : (" ".intercalate ws).toList = [' '].intercalate (ws.map String.toList) := by
    rw [String.toList_intercalate]
    rfl
  rw [words, hchars, hsplit, List.map_map]
  simp [Function.comp_def]

theorem blank_not_mem_natText (n : Nat) : ' ' ∉ (Number.natText n).toList := by
  intro h
  rw [Number.natText, String.toList_ofList] at h
  exact Number.not_mem_digits (by decide) n h

theorem offset?_natText (n : Nat) : offset? (Number.natText n) = some n := by
  rw [offset?, Number.natText, String.toList_ofList, Number.readDigits?_digits]

theorem limit?_natText (d : Dialect) (n : Nat) : limit? d (Number.natText n) = some (n : Int) := by
  have hdash : ∀ cs, Number.digits n ≠ '-' :: cs := by
    intro cs hcs
    exact Number.not_mem_digits (c := '-') (by decide) n (by simp [hcs])
  unfold limit?
  rw [Number.natText, String.toList_ofList]
  split
  next cs hcs => exact absurd hcs (hdash cs)
  next => rw [Number.readDigits?_digits]; rfl

theorem read_empty (d : Dialect) : read? d "" = some ⟨none, none⟩ := by
  cases d <;> decide +kernel

theorem read_limit (d : Dialect) (n : Nat) :
    read? d (" LIMIT " ++ Number.natText n) = some ⟨some n, none⟩ := by
  have hclause : " LIMIT " ++ Number.natText n = " ".intercalate ["", "LIMIT", Number.natText n] := rfl
  have hwords : ∀ w ∈ ["", "LIMIT", Number.natText n], ' ' ∉ w.toList := by
    simp only [List.forall_mem_cons, List.not_mem_nil, false_implies, implies_true, and_true]
    exact ⟨by decide, by decide, blank_not_mem_natText n⟩
  rw [read?, hclause, words_intercalate (by simp) hwords, ofWords?, limit?_natText]
  rfl

theorem read_window {d : Dialect} {word : String} {n : Int} (hword : limit? d word = some n)
    (hblank : ' ' ∉ word.toList) (m : Nat) :
    read? d (" LIMIT " ++ word ++ (" OFFSET " ++ Number.natText m)) = some ⟨some n, some m⟩ := by
  have hclause : " LIMIT " ++ word ++ (" OFFSET " ++ Number.natText m) =
      " ".intercalate ["", "LIMIT", word, "OFFSET", Number.natText m] := by
    rw [← String.toList_inj, String.toList_intercalate]
    simp [List.intercalate]
  have hwords : ∀ w ∈ ["", "LIMIT", word, "OFFSET", Number.natText m], ' ' ∉ w.toList := by
    simp only [List.forall_mem_cons, List.not_mem_nil, false_implies, implies_true, and_true]
    exact ⟨by decide, by decide, hblank, by decide, blank_not_mem_natText m⟩
  rw [read?, hclause, words_intercalate (by simp) hwords, ofWords?, hword, offset?_natText]
  rfl

theorem read_offset (m : Nat) :
    read? .postgres (" OFFSET " ++ Number.natText m) = some ⟨none, some m⟩ := by
  have hclause : " OFFSET " ++ Number.natText m = " ".intercalate ["", "OFFSET", Number.natText m] := rfl
  have hwords : ∀ w ∈ ["", "OFFSET", Number.natText m], ' ' ∉ w.toList := by
    simp only [List.forall_mem_cons, List.not_mem_nil, false_implies, implies_true, and_true]
    exact ⟨by decide, by decide, blank_not_mem_natText m⟩
  rw [read?, hclause, words_intercalate (by simp) hwords, ofWords?, offset?_natText]
  rfl

theorem noLimit_cases (d : Dialect) : d = .postgres ∧ Statement.noLimit d = none ∨
    ∃ word n, Statement.noLimit d = some word ∧ limit? d word = some n ∧ ' ' ∉ word.toList := by
  cases d with
  | mysql => exact .inr ⟨_, 18446744073709551615, rfl, by decide +kernel, by decide⟩
  | sqlite => exact .inr ⟨_, -1, rfl, by decide +kernel, by decide⟩
  | postgres => exact .inl ⟨rfl, rfl⟩

/-- Every clause that is written is one that the dialect accepts. -/
theorem read_text (d : Dialect) (q : Query) : read? d (text d q) = some (ofQuery d q) := by
  unfold text ofQuery Statement.limitText Statement.offsetText
  cases hlimit : q.limit with
  | some n =>
    cases hoffset : q.offset with
    | none => simpa using read_limit d n
    | some m => simpa using read_window (limit?_natText d n) (blank_not_mem_natText n) m
  | none =>
    cases hoffset : q.offset with
    | none => simpa using read_empty d
    | some m =>
      rcases noLimit_cases d with ⟨rfl, hnone⟩ | ⟨word, n, hword, hread, hblank⟩
      · simpa [hnone] using read_offset m
      · simpa [hword, hread] using read_window hread hblank m

/-- What an engine makes of clauses behind a statement that has these rows, in this order, without a clause.
A limit and an offset cut a window out of them, and what is written for no limit is read as none. -/
structure Evaluates {α : Type} (d : Dialect) (rows : List α) (answer : Paging → List α) : Prop where
  whole : answer ⟨none, none⟩ = rows
  limited (n : Nat) : answer ⟨some n, none⟩ = rows.take n
  skipped (m : Nat) : answer ⟨none, some m⟩ = rows.drop m
  window (n m : Nat) : answer ⟨some n, some m⟩ = (rows.drop m).take n
  unlimited {word : String} {n : Int} (m : Nat) : Statement.noLimit d = some word →
    limit? d word = some n → answer ⟨some n, some m⟩ = rows.drop m

/-- The clause of a query is answered with the window that the query asks for. -/
theorem Evaluates.ofQuery {α : Type} {d : Dialect} {rows : List α} {answer : Paging → List α}
    (h : Evaluates d rows answer) (q : Query) :
    answer (ofQuery d q) = Store.Table.window q.limit q.offset rows := by
  unfold Paging.ofQuery
  cases hlimit : q.limit with
  | some n =>
    cases hoffset : q.offset with
    | none => exact h.limited n
    | some m => exact h.window n m
  | none =>
    cases hoffset : q.offset with
    | none => exact h.whole
    | some m =>
      rcases noLimit_cases d with ⟨-, hnone⟩ | ⟨word, n, hword, hread, -⟩
      · simp only [hnone, Option.bind_none]
        exact h.skipped m
      · simp only [hword, Option.bind_some, hread]
        exact h.unlimited m hword hread

/-- A query is its statement without limit and offset, and behind it the clause. -/
theorem compile_select (d : Dialect) (q : Query) : (Statement.select q).compile d =
    ⟨((Statement.select q.unpaged).compile d).sql ++ text d q,
      ((Statement.select q.unpaged).compile d).bindings⟩ := by
  have hsql : ((Statement.select q).compile d).sql =
      ((Statement.select q.unpaged).compile d).sql ++ text d q := by
    have hbare : Statement.orderText q.unpaged ++ Statement.limitText d q.unpaged
        ++ Statement.offsetText q.unpaged = Statement.orderText q := by
      show Statement.orderText q ++ "" ++ "" = Statement.orderText q
      rw [String.append_empty, String.append_empty]
    rw [Statement.sql_select, Statement.sql_select, hbare, text]
    simp only [String.append_assoc]
    rfl
  have hbindings : ((Statement.select q).compile d).bindings =
      ((Statement.select q.unpaged).compile d).bindings := by
    show (Statement.selectFragment d q).bindings = (Statement.selectFragment d q.unpaged).bindings
    rw [Statement.bindings_select, Statement.bindings_select]
    rfl
  rw [← hsql, ← hbindings]

theorem limit_of_offset {d : Dialect} {q : Query} (h : (ofQuery d q).offset.isSome = true) :
    (ofQuery d q).limit.isSome = true ∨ d = .postgres := by
  unfold ofQuery at h ⊢
  obtain ⟨m, hoffset⟩ := Option.isSome_iff_exists.1 h
  rcases noLimit_cases d with ⟨rfl, -⟩ | ⟨word, n, hword, hread, -⟩
  · exact .inr rfl
  · refine .inl ?_
    cases hlimit : q.limit with
    | some k => rfl
    | none =>
      have hoffset : q.offset = some m := hoffset
      simp only [hoffset, hword, Option.bind_some, hread]
      rfl

/-! ## Engines that page -/

variable {σ : Type} [Engine σ]

/-- As long as `I` holds of an engine, it answers a query, however it is paged, by the clause behind the
statement, and `I` holds of it on. -/
structure Serves (I : σ → Prop) (d : Dialect) (q : Query) (rows : List Row) (answer : Paging → List Row) :
    Prop where
  evaluates : Evaluates d rows answer
  dial (s : σ) : I s → (Engine.dial s).1 = true ∧ I (Engine.dial s).2
  reply (s : σ) {paged : Query} {clause : String} {p : Paging} : I s → paged.unpaged = q.unpaged →
    ((Statement.select paged).compile d).sql = ((Statement.select q.unpaged).compile d).sql ++ clause →
    read? d clause = some p →
    let a := Engine.answer ⟨.select paged, .fetch, (Statement.select paged).compile d⟩ s
    a.1 = .rows (answer p) ∧ I a.2

/-- A connection on which an engine can be asked, whether or not it has dialled. -/
structure Ready (I : σ → Prop) (d : Dialect) (c : Connection σ) : Prop where
  dialect : c.dialect = d
  reachable : Session.Reachable c
  holds : I c.server

variable {I : σ → Prop} {d : Dialect} {q paged : Query} {rows : List Row} {answer : Paging → List Row}
  {c : Connection σ}

theorem Serves.accepts (h : Serves I d q rows answer) (hp : paged.unpaged = q.unpaged) {s : σ} (hs : I s) :
    Session.Accepts d .fetch (.select paged) s fun reply s' =>
      reply.rows? = Store.Table.window paged.limit paged.offset rows ∧ I s' := by
  have hsql := congrArg Compiled.sql (compile_select d paged)
  rw [hp] at hsql
  have hreply := h.reply s hs hp hsql (read_text d paged)
  rcases hanswer : Engine.answer ⟨.select paged, .fetch, (Statement.select paged).compile d⟩ s
    with ⟨reply, s'⟩
  simp only [hanswer, h.evaluates.ofQuery] at hreply
  obtain ⟨rfl, hI⟩ := hreply
  exact ⟨.rows _, s', hanswer, fun _ => rfl, rfl, hI⟩

/-- A query that differs from the one served in its limit and offset alone is given its window. -/
theorem Serves.get (h : Serves I d q rows answer) (paged : Query) (hp : paged.unpaged = q.unpaged)
    (hc : Ready I d c) : paged.get.Gives c fun found c' =>
      found = Store.Table.window paged.limit paged.offset rows ∧ Ready I d c' := by
  obtain ⟨rfl, hreach, hI⟩ := hc
  obtain ⟨hdial, hdialled⟩ := h.dial c.server hI
  have hsend := Session.gives_send hreach hdial (h.accepts hp hI) (h.accepts hp hdialled)
  refine hsend.bind fun reply c' hreply => Session.gives_pure ?_
  obtain ⟨⟨hrows, hI'⟩, hfollows⟩ := hreply
  exact ⟨hrows, congrArg Config.dialect hfollows.config, .inl hfollows.dialled, hI'⟩

/-! ## An engine that pages -/

/-- What a limit and an offset leave of rows. A limit below zero leaves out none. -/
def cut {α : Type} (rows : List α) (p : Paging) : List α :=
  let later := rows.drop (p.offset.getD 0)
  match p.limit with
  | some (.ofNat n) => later.take n
  | _ => later

/-- A list with fewer rows than can be counted has them all under the largest limit. -/
theorem evaluates_cut {α : Type} (d : Dialect) {rows : List α} (h : rows.length < Query.countRange) :
    Evaluates d rows (cut rows) where
  whole := rfl
  limited _ := rfl
  skipped _ := rfl
  window _ _ := rfl
  unlimited {word n} m hword hn := by
    cases d with
    | mysql =>
      have hlargest : limit? .mysql "18446744073709551615" = some 18446744073709551615 := by decide +kernel
      obtain rfl : "18446744073709551615" = word := Option.some.inj hword
      obtain rfl : 18446744073709551615 = n := Option.some.inj (hlargest.symm.trans hn)
      refine List.take_of_length_le ?_
      rw [List.length_drop]
      exact Nat.le_trans (Nat.sub_le ..) (Nat.le_sub_one_of_lt h)
    | sqlite =>
      have hbelow : limit? .sqlite "-1" = some (-1) := by decide +kernel
      obtain rfl : "-1" = word := Option.some.inj hword
      obtain rfl : -1 = n := Option.some.inj (hbelow.symm.trans hn)
      rfl
    | postgres => exact nomatch hword

/-- An engine that has the rows of one statement, and cuts what stands behind the statement out of them. -/
structure Listing where
  dialect : Dialect
  statement : String
  rows : List Row

namespace Listing

def ofQuery (d : Dialect) (q : Query) (rows : List Row) : Listing :=
  ⟨d, ((Statement.select q.unpaged).compile d).sql, rows⟩

/-- What stands behind the statement. -/
def clause? (l : Listing) (sql : String) : Option String :=
  let clause := String.ofList (sql.toList.drop l.statement.length)
  if l.statement ++ clause = sql then some clause else none

def reply (l : Listing) (sql : String) : Reply :=
  match (l.clause? sql).bind (read? l.dialect) with
  | some p => .rows (cut l.rows p)
  | none => .refused

instance : Engine Listing where
  dial := return true
  answer r := fun l => (l.reply r.compiled.sql, l)

theorem clause?_append (l : Listing) (clause : String) : l.clause? (l.statement ++ clause) = some clause := by
  have hclause : String.ofList ((l.statement ++ clause).toList.drop l.statement.length) = clause := by
    rw [String.toList_append, ← String.length_toList, List.drop_left, String.ofList_toList]
  rw [clause?, hclause, if_pos rfl]

theorem serves (d : Dialect) (q : Query) {rows : List Row} (h : rows.length < Query.countRange) :
    Serves (· = ofQuery d q rows) d q rows (cut rows) where
  evaluates := evaluates_cut d h
  dial _ hl := ⟨rfl, hl⟩
  reply l paged clause p hl _ hsql hread := by
    subst hl
    refine ⟨?_, rfl⟩
    show (ofQuery d q rows).reply ((Statement.select paged).compile d).sql = .rows (cut rows p)
    have hclause : (ofQuery d q rows).clause? ((Statement.select paged).compile d).sql = some clause := by
      rw [hsql]
      exact clause?_append (ofQuery d q rows) clause
    rw [reply, hclause, Option.bind_some]
    simp only [show (ofQuery d q rows).dialect = d from rfl, hread]
    rfl

end Listing

/-! ## Pages one after the other -/

theorem flatten_pages {α : Type} (rows : List α) (size k : Nat) :
    ((List.range k).map fun i => (rows.drop (i * size)).take size).flatten = rows.take (k * size) := by
  induction k with
  | zero => simp
  | succ k ih =>
    rw [List.range_succ, List.map_append, List.flatten_append, ih, Nat.succ_mul, List.take_add]
    simp

theorem window_page {α : Type} (q : Query) (rows : List α) {number size : Nat}
    (h : number * size < Query.countRange) :
    Store.Table.window (q.apply (.page (number + 1) size)).limit (q.apply (.page (number + 1) size)).offset rows
      = (rows.drop (number * size)).take size := by
  have hstart : Query.pageStart (number + 1) size = number * size := Query.pageStart_eq h
  show (rows.drop (Query.pageStart (number + 1) size)).take size = _
  rw [hstart]

theorem Serves.pages (h : Serves I d q rows answer) (hc : Ready I d c) {size k : Nat}
    (hk : (k - 1) * size < Query.countRange) :
    ((List.range k).mapM fun i => (q.apply (.page (i + 1) size)).get).Gives c fun pages c' =>
      pages = (List.range k).map (fun i => (rows.drop (i * size)).take size) ∧ Ready I d c' := by
  refine Session.gives_mapM (fun i hi c hc => ?_) hc
  have hlast : i ≤ k - 1 := Nat.le_sub_one_of_lt (List.mem_range.1 hi)
  have hi : i * size < Query.countRange := Nat.lt_of_le_of_lt (Nat.mul_le_mul_right size hlast) hk
  have hget := h.get (q.apply (.page (i + 1) size)) rfl hc
  rwa [window_page q rows hi] at hget

/-- The clause behind a query is one that its dialect accepts, with a limit in front of the offset where the
dialect wants one. It asks for the rows from the offset that was set last up to the limit that was set last,
and pages one after the other are the rows from the first on. -/
theorem pages_tile_rows (d : Dialect) (table : String) (cs : List Clause) :
    let q := (Query.on table).applyAll cs
    let limit := (cs.filterMap Clause.limit?).getLast?
    let offset := (cs.filterMap Clause.offset?).getLast?
    (∃ clause p, (Statement.select q).compile d =
        ⟨((Statement.select q.unpaged).compile d).sql ++ clause,
          ((Statement.select q.unpaged).compile d).bindings⟩ ∧
      read? d clause = some p ∧ (p.offset.isSome = true → p.limit.isSome = true ∨ d = .postgres) ∧
      ∀ {α : Type} {rows : List α} {answer : Paging → List α}, Evaluates d rows answer →
        answer p = Store.Table.window limit offset rows) ∧
    (∀ size, q.apply (.page 0 size) = q.apply (.page 1 size)) ∧
    ∀ {σ : Type} [Engine σ] {I : σ → Prop} {rows : List Row} {answer : Paging → List Row},
      Serves I d q rows answer → ∀ c, Ready I d c →
      q.get.Gives c (fun found c' => found = Store.Table.window limit offset rows ∧ Ready I d c') ∧
      ∀ size k, (k - 1) * size < Query.countRange →
        ((List.range k).mapM fun i => (q.apply (.page (i + 1) size)).get).Gives c fun pages c' =>
          pages = (List.range k).map (fun i => (rows.drop (i * size)).take size) ∧
            pages.flatten = rows.take (k * size) ∧ Ready I d c' := by
  intro q limit offset
  have hlimit : q.limit = limit := (Query.limit_applyAll cs (.on table)).trans (Option.or_none ..)
  have hoffset : q.offset = offset := (Query.offset_applyAll cs (.on table)).trans (Option.or_none ..)
  refine ⟨⟨text d q, ofQuery d q, compile_select d q, read_text d q, limit_of_offset, ?_⟩, fun _ => rfl, ?_⟩
  · intro α rows answer h
    rw [h.ofQuery, hlimit, hoffset]
  · intro σ _ I rows answer h c hc
    have hget := h.get q rfl hc
    rw [hlimit, hoffset] at hget
    refine ⟨hget, fun size k hk => (h.pages hc hk).mono fun pages c' hpages => ?_⟩
    obtain ⟨rfl, hready⟩ := hpages
    exact ⟨rfl, flatten_pages rows size k, hready⟩

/-- Five rows without the first, and all of them on three pages of two, though a limit was set before. -/
theorem five_rows_tiled :
    let cs : List Clause := [.orderBy "id" .ascending, .limit 3, .page 2 7, .offset 1]
    let q := (Query.on "users").applyAll cs
    let rows := (List.range 5).map fun i => Row.ofList [("id", .int (Int64.ofNat i))]
    let c : Connection Listing :=
      { config := { dialect := .mysql, database := "app" }, server := .ofQuery .mysql q rows, dialled := true }
    (Serves (· = Listing.ofQuery .mysql q rows) .mysql q rows (cut rows) ∧
      Ready (· = Listing.ofQuery .mysql q rows) .mysql c ∧ (3 - 1) * 2 < Query.countRange) ∧
    ((Statement.select q).compile .mysql).sql = "SELECT * FROM users ORDER BY id ASC LIMIT 7 OFFSET 1" ∧
    q.get.Gives c (fun found _ => found = rows.drop 1) ∧
    ((List.range 3).mapM fun i => (q.apply (.page (i + 1) 2)).get).Gives c fun pages _ =>
      pages = [rows.take 2, (rows.drop 2).take 2, rows.drop 4] ∧ pages.flatten = rows := by
  intro cs q rows c
  have hrows : rows.length < Query.countRange := by decide
  have hserves := Listing.serves .mysql q hrows
  have hc : Ready (· = Listing.ofQuery .mysql q rows) .mysql c := ⟨rfl, .inl rfl, rfl⟩
  have hlast : (3 - 1) * 2 < Query.countRange := by decide
  obtain ⟨hget, hpages⟩ := (pages_tile_rows .mysql "users" cs).2.2 hserves c hc
  refine ⟨⟨hserves, hc, hlast⟩, by decide +kernel, hget.mono fun found _ h => ?_,
    (hpages 2 3 hlast).mono fun pages _ h => ?_⟩
  · rw [h.1]
    rfl
  · refine ⟨h.1, ?_⟩
    rw [h.2.1]
    rfl

/-! ## The first row -/

theorem head?_window {α : Type} (limit offset : Option Nat) (rows : List α) :
    (Store.Table.window limit offset rows).head? =
      if limit = some 0 then none else rows[offset.getD 0]? := by
  cases limit with
  | none =>
    rw [if_neg nofun, ← List.head?_drop]
    rfl
  | some n =>
    show ((rows.drop (offset.getD 0)).take n).head? = _
    rw [List.head?_take, List.head?_drop]
    simp

theorem Serves.first (h : Serves I d q rows answer) (hc : Ready I d c) :
    q.first?.Gives c fun found c' => found = rows[q.offset.getD 0]? ∧ Ready I d c' := by
  refine (Query.gives_first? (h.get (q.apply (.limit 1)) rfl hc)).mono fun found c' hfound => ?_
  obtain ⟨_, ⟨rfl, hready⟩, rfl⟩ := hfound
  exact ⟨head?_window (some 1) q.offset rows, hready⟩

theorem Serves.hasRows (h : Serves I d q rows answer) (hc : Ready I d c) :
    q.hasRows.Gives c fun found c' => found = rows[q.offset.getD 0]?.isSome ∧ Ready I d c' :=
  (h.first hc).bind fun _ _ hfound => Session.gives_pure ⟨congrArg Option.isSome hfound.1, hfound.2⟩

/-- The first row that is fetched alone is the row behind the offset, whatever the limit is. It is the first
of all rows that are fetched, and there is one exactly if there is a row among these, unless the limit is zero.
With that limit nothing is fetched, and the two agree only if there is no row behind the offset. -/
theorem first_row_of_get (h : Serves I d q rows answer) (hc : Ready I d c) :
    let found := Store.Table.window q.limit q.offset rows
    let next := rows[q.offset.getD 0]?
    (q.get.Gives c (fun x c' => x = found ∧ Ready I d c') ∧
      q.first?.Gives c (fun x c' => x = next ∧ Ready I d c') ∧
      q.hasRows.Gives c fun x c' => x = next.isSome ∧ Ready I d c') ∧
    ((Model.all q).Gives c (fun x c' => x = found.map Record.ofRow ∧ Ready I d c') ∧
      (Model.first? q).Gives c (fun x c' => x = next.map Record.ofRow ∧ Ready I d c') ∧
      (q.hasRows.mapError ModelError.database).Gives c fun x c' => x = next.isSome ∧ Ready I d c') ∧
    (q.limit ≠ some 0 → next = found.head? ∧ next.isSome = !found.isEmpty) ∧
    (q.limit = some 0 → found = [] ∧ (next = found.head? ↔ rows.length ≤ q.offset.getD 0)) := by
  intro found next
  have hget := h.get q rfl hc
  have hhead : found.head? = if q.limit = some 0 then none else next := head?_window q.limit q.offset rows
  refine ⟨⟨hget, h.first hc, h.hasRows hc⟩, ⟨?_, ?_, (h.hasRows hc).mapError _⟩, fun hlimit => ?_,
    fun hlimit => ?_⟩
  · refine (Model.gives_all hget).mono fun x c' hx => ?_
    obtain ⟨_, ⟨rfl, hready⟩, rfl⟩ := hx
    exact ⟨rfl, hready⟩
  · refine (Model.gives_first? (h.first hc)).mono fun x c' hx => ?_
    obtain ⟨_, ⟨rfl, hready⟩, rfl⟩ := hx
    exact ⟨rfl, hready⟩
  · rw [if_neg hlimit] at hhead
    refine ⟨hhead.symm, ?_⟩
    rw [← hhead]
    cases found <;> rfl
  · rw [if_pos hlimit] at hhead
    refine ⟨List.head?_eq_none_iff.1 hhead, ?_⟩
    rw [hhead, List.getElem?_eq_none_iff]

/-- Two rows behind the first of five are asked for; the second row is found alone too. -/
theorem second_row_of_get :
    let q := (Query.on "users").applyAll [.orderBy "id" .ascending, .limit 2, .offset 1]
    let rows := (List.range 5).map fun i => Row.ofList [("id", .int (Int64.ofNat i))]
    let c : Connection Listing :=
      { config := { dialect := .sqlite, database := "app" }, server := .ofQuery .sqlite q rows }
    let second := Row.ofList [("id", .int 1)]
    (Serves (· = Listing.ofQuery .sqlite q rows) .sqlite q rows (cut rows) ∧
      Ready (· = Listing.ofQuery .sqlite q rows) .sqlite c) ∧
    q.get.Gives c (fun x _ => x = [second, Row.ofList [("id", .int 2)]]) ∧
    q.first?.Gives c (fun x _ => x = some second) ∧
    (Model.first? q).Gives c fun x _ => x = some (Record.ofRow second) := by
  intro q rows c second
  have hrows : rows.length < Query.countRange := by decide
  have hserves := Listing.serves .sqlite q hrows
  have hurl : ∃ address, c.config.url = .ok address := ⟨_, rfl⟩
  have hc : Ready (· = Listing.ofQuery .sqlite q rows) .sqlite c := ⟨rfl, .inr hurl, rfl⟩
  obtain ⟨⟨hget, hfirst, -⟩, ⟨-, hrecord, -⟩, -⟩ := first_row_of_get hserves hc
  exact ⟨⟨hserves, hc⟩, hget.mono fun _ _ h => h.1, hfirst.mono fun _ _ h => h.1,
    hrecord.mono fun _ _ h => h.1⟩

/-- Of no rows at most the first is there when it is fetched alone. -/
theorem first_row_under_zero_limit :
    let q := (Query.on "users").applyAll [.orderBy "id" .ascending, .limit 0]
    let rows := (List.range 5).map fun i => Row.ofList [("id", .int (Int64.ofNat i))]
    let c : Connection Listing :=
      { config := { dialect := .sqlite, database := "app" }, server := .ofQuery .sqlite q rows }
    (Serves (· = Listing.ofQuery .sqlite q rows) .sqlite q rows (cut rows) ∧
      Ready (· = Listing.ofQuery .sqlite q rows) .sqlite c) ∧
    q.get.Gives c (fun x _ => x = []) ∧
    q.first?.Gives c (fun x _ => x = some (Row.ofList [("id", .int 0)])) ∧
    q.hasRows.Gives c fun x _ => x = true := by
  intro q rows c
  have hrows : rows.length < Query.countRange := by decide
  have hserves := Listing.serves .sqlite q hrows
  have hurl : ∃ address, c.config.url = .ok address := ⟨_, rfl⟩
  have hc : Ready (· = Listing.ofQuery .sqlite q rows) .sqlite c := ⟨rfl, .inr hurl, rfl⟩
  exact ⟨⟨hserves, hc⟩, (hserves.get q rfl hc).mono fun _ _ h => h.1, (hserves.first hc).mono fun _ _ h => h.1,
    (hserves.hasRows hc).mono fun _ _ h => h.1⟩

end Paging

end SqlKit
