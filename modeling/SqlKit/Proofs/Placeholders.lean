import SqlKit.Proofs.Bindings
import SqlKit.Proofs.Digits
import SqlKit.Proofs.Lists

/-!
# Placeholders and bindings

The placeholders of a statement can be read off its text alone. Where no name of a query has a mark of
its own, the text of every kind of statement holds as many placeholders as there are bindings, the
dialect's first, second and so on from left to right, and the bindings are the values that the clauses
and rows brought, in their order.
-/

namespace SqlKit.Placeholders

def isMark (c : Char) : Bool := c == '?' || c == '$'

/-- The placeholders in a text: each question mark, and each dollar sign with the digits behind it. -/
def scan : List Char → List String
  | [] => []
  | c :: cs =>
    if c = '?' then "?" :: scan cs
    else if c = '$' then String.ofList ('$' :: cs.takeWhile Char.isDigit) :: scan cs
    else scan cs

def Unmarked (s : String) : Prop := ∀ c ∈ s.toList, isMark c = false

instance (s : String) : Decidable (Unmarked s) :=
  List.decidableBAll (fun c => isMark c = false) s.toList

theorem scan_cons_of_unmarked {c : Char} (h : isMark c = false) (cs : List Char) :
    scan (c :: cs) = scan cs := by
  simp only [isMark, Bool.or_eq_false_iff, beq_eq_false_iff_ne] at h
  simp [scan, h]

theorem scan_append_of_unmarked {cs : List Char} (h : ∀ c ∈ cs, isMark c = false) (ds : List Char) :
    scan (cs ++ ds) = scan ds := by
  induction cs with
  | nil => rfl
  | cons c cs ih =>
    rw [List.cons_append, scan_cons_of_unmarked (h c (by simp)), ih fun x hx => h x (by simp [hx])]

/-! ## Texts without marks -/

theorem Unmarked.append {s t : String} (hs : Unmarked s) (ht : Unmarked t) : Unmarked (s ++ t) := by
  intro c hc
  rw [String.toList_append] at hc
  exact (List.mem_append.1 hc).elim (hs c) (ht c)

theorem unmarked_join {l : List String} (h : ∀ s ∈ l, Unmarked s) : Unmarked (String.join l) := by
  induction l with
  | nil => simp [Unmarked]
  | cons s l ih =>
    rw [String.join_cons]
    exact (h s (by simp)).append (ih fun x hx => h x (by simp [hx]))

theorem unmarked_list {l : List String} (h : ∀ s ∈ l, Unmarked s) : Unmarked (Statement.list l) := by
  unfold Statement.list
  induction l with
  | nil => simp [Unmarked]
  | cons s l ih =>
    have hs := h s (by simp)
    have hl := ih fun x hx => h x (by simp [hx])
    by_cases he : l = []
    · simpa [he] using hs
    · rw [String.intercalate_cons_of_ne_nil he]
      have hcomma : Unmarked ", " := by decide
      exact (hs.append hcomma).append hl

theorem isMark_of_isDigit {c : Char} (h : c.isDigit = true) : isMark c = false := by
  have hc := Char.isDigit_iff_toNat.1 h
  simp only [isMark, Bool.or_eq_false_iff, beq_eq_false_iff_ne]
  constructor <;> rintro rfl <;> revert hc <;> decide

theorem unmarked_natText (n : Nat) : Unmarked (Number.natText n) := by
  intro c hc
  rw [Number.natText, String.toList_ofList] at hc
  exact isMark_of_isDigit (Number.isDigit_of_mem_digits hc)

/-! ## Fragments without marks -/

/-- Whether the text of a fragment begins with something other than a digit. -/
def Clear : Fragment → Prop
  | [] => True
  | .text s :: rest =>
    match s.toList with
    | [] => Clear rest
    | c :: _ => c.isDigit = false
  | .slot _ :: _ => True

/-- Texts without marks, and no digit behind a slot that could be read as part of its number. -/
def Plain : Fragment → Prop
  | [] => True
  | .text s :: rest => Unmarked s ∧ Plain rest
  | .slot _ :: rest => Clear rest ∧ Plain rest

@[simp] theorem clear_nil : Clear [] := trivial
@[simp] theorem clear_slot (v : Value) (f : Fragment) : Clear (.slot v :: f) := trivial
@[simp] theorem plain_nil : Plain [] := trivial
@[simp] theorem plain_text {s : String} {f : Fragment} :
    Plain (.text s :: f) ↔ Unmarked s ∧ Plain f := Iff.rfl
@[simp] theorem plain_slot {v : Value} {f : Fragment} : Plain (.slot v :: f) ↔ Clear f ∧ Plain f :=
  Iff.rfl

theorem clear_text {s : String} {c : Char} {cs : List Char} (hs : s.toList = c :: cs)
    (hc : c.isDigit = false) (f : Fragment) : Clear (.text s :: f) := by
  simpa [Clear, hs] using hc

theorem clear_append {f g : Fragment} (hf : Clear f) (hg : Clear g) : Clear (f ++ g) := by
  induction f with
  | nil => exact hg
  | cons p f ih =>
    cases p with
    | slot v => trivial
    | text s =>
      cases hs : s.toList with
      | nil => simpa [Clear, hs] using ih (by simpa [Clear, hs] using hf)
      | cons c cs => simpa [Clear, hs] using hf

theorem plain_append {f g : Fragment} (hf : Plain f) (hg : Plain g) (hc : Clear g) :
    Plain (f ++ g) := by
  induction f with
  | nil => exact hg
  | cons p f ih =>
    cases p with
    | text s => exact ⟨hf.1, ih hf.2⟩
    | slot v => exact ⟨clear_append hf.1 hc, ih hf.2⟩

theorem plain_joined {fs : List Fragment} (h : ∀ f ∈ fs, Plain f) :
    Plain (Fragment.joined ", " fs) := by
  induction fs with
  | nil => trivial
  | cons f fs ih =>
    have hf := h f (by simp)
    have hfs := ih fun x hx => h x (by simp [hx])
    cases fs with
    | nil => exact hf
    | cons g fs =>
      have hc : Clear (.text ", " :: Fragment.joined ", " (g :: fs)) :=
        clear_text (c := ',') rfl (by decide) _
      exact plain_append hf ⟨by decide, hfs⟩ hc

/-! ## Reading a rendered fragment -/

/-- A placeholder in front of a text is read off whole. -/
theorem scan_placeholder (d : Dialect) (k : Nat) {cs : List Char}
    (hc : ∀ c ∈ cs.head?, c.isDigit = false) :
    scan ((d.placeholder k).toList ++ cs) = d.placeholder k :: scan cs := by
  cases d with
  | mysql => simp [Dialect.placeholder, scan]
  | sqlite => simp [Dialect.placeholder, scan]
  | postgres =>
    have hd : ∀ c ∈ Number.digits k, c.isDigit = true := fun c hc => Number.isDigit_of_mem_digits hc
    have hmark : ∀ c ∈ Number.digits k, isMark c = false := fun c hc => isMark_of_isDigit (hd c hc)
    have htext : ("$" ++ Number.natText k).toList = '$' :: Number.digits k := by
      simp [Number.natText]
    have hwhole : String.ofList ('$' :: Number.digits k) = "$" ++ Number.natText k := by
      rw [← htext, String.ofList_toList]
    simp only [Dialect.placeholder, htext, List.cons_append, scan, takeWhile_append_stop hd hc,
      scan_append_of_unmarked hmark, hwhole]
    rfl

theorem head_isDigit_of_clear (d : Dialect) {f : Fragment} (hf : Clear f) (k : Nat) :
    ∀ c ∈ (String.join (f.renderFrom d k)).toList.head?, c.isDigit = false := by
  induction f generalizing k with
  | nil => simp [Fragment.renderFrom]
  | cons p f ih =>
    cases p with
    | slot v =>
      rintro c hc
      cases d <;> simp [Fragment.renderFrom, Dialect.placeholder] at hc <;> subst hc <;> decide
    | text s =>
      cases hs : s.toList with
      | nil => simpa [Fragment.renderFrom, hs] using ih (by simpa [Clear, hs] using hf) k
      | cons c cs => simpa [Fragment.renderFrom, hs, Clear] using hf

/-- The placeholders of a plain fragment are those of its slots, numbered on from `k`. -/
theorem scan_renderFrom (d : Dialect) {f : Fragment} (hf : Plain f) (k : Nat) :
    scan (String.join (f.renderFrom d k)).toList =
      (List.range f.bindings.length).map fun i => d.placeholder (k + i + 1) := by
  induction f generalizing k with
  | nil => rfl
  | cons p f ih =>
    cases p with
    | text s =>
      have hrest := ih hf.2 k
      rw [Fragment.renderFrom, String.join_cons, String.toList_append, scan_append_of_unmarked hf.1]
      exact hrest
    | slot v =>
      have hrest := ih hf.2 (k + 1)
      rw [Fragment.renderFrom, String.join_cons, String.toList_append,
        scan_placeholder d _ (head_isDigit_of_clear d hf.1 _), hrest, Fragment.bindings_slot,
        List.length_cons, List.range_succ_eq_map]
      simp [Nat.add_assoc, Nat.add_comm 1]

/-! ## Names of queries -/

def joinNames : Join → List String
  | .on _ table first _ second => [table, first, second]
  | .cross table => [table]

def clauseNames : Clause → List String
  | .select cs | .addSelect cs | .groupBy cs => cs
  | .filter _ p => [p.column]
  | .join j => joinNames j
  | .having _ column _ _ | .orderBy column _ => [column]
  | .distinct | .limit _ | .offset _ | .page _ _ => []

def aggregateColumn : Aggregate → String
  | .count c | .countDistinct c | .sum c | .avg c | .max c | .min c => c

def queryNames (q : Query) : List String :=
  q.table :: q.columns ++ q.joins.flatMap joinNames ++ q.filters.map (·.predicate.column) ++ q.groups
    ++ q.groupFilters.map (·.predicate.column) ++ q.orders.map (·.1)

theorem mem_queryNames_apply {q : Query} {c : Clause} {s : String}
    (h : s ∈ queryNames (q.apply c)) : s ∈ queryNames q ∨ s ∈ clauseNames c := by
  cases c <;> simp [queryNames, Query.apply, clauseNames, Predicate.column] at h ⊢ <;> grind

theorem mem_queryNames_applyAll {q : Query} {cs : List Clause} {s : String}
    (h : s ∈ queryNames (q.applyAll cs)) : s ∈ queryNames q ∨ s ∈ cs.flatMap clauseNames := by
  induction cs generalizing q with
  | nil => exact Or.inl h
  | cons c cs ih =>
    rcases ih h with hq | hcs
    · rcases mem_queryNames_apply hq with hq | hc
      · exact Or.inl hq
      · exact Or.inr (by simp [hc])
    · exact Or.inr (by simp_all)

/-! ## The fragments of statements -/

theorem unmarked_keyword (op : Operator) : Unmarked op.keyword := by cases op <;> decide
theorem unmarked_connector (c : Connector) : Unmarked c.keyword := by cases c <;> decide
theorem unmarked_direction (d : Direction) : Unmarked d.keyword := by cases d <;> decide
theorem unmarked_joinKind (k : JoinKind) : Unmarked k.keyword := by cases k <;> decide
theorem unmarked_notWord (b : Bool) : Unmarked (Statement.notWord b) := by cases b <;> decide

theorem unmarked_joinText {j : Join} (h : ∀ s ∈ joinNames j, Unmarked s) :
    Unmarked (Statement.joinText j) := by
  have hblank : Unmarked " " := by decide
  cases j with
  | on kind table first op second =>
    have htable := h table (by simp [joinNames])
    have hfirst := h first (by simp [joinNames])
    have hsecond := h second (by simp [joinNames])
    have hon : Unmarked " ON " := by decide
    have hstart := (((hblank.append (unmarked_joinKind kind)).append hblank).append htable).append hon
    exact (((hstart.append hfirst).append hblank).append (unmarked_keyword op)).append hblank
      |>.append hsecond
  | cross table =>
    have hcross : Unmarked " CROSS JOIN " := by decide
    exact hcross.append (h table (by simp [joinNames]))

theorem plain_slots (vs : List Value) : ∀ f ∈ Statement.slots vs, Plain f := by
  intro f hf
  obtain ⟨v, -, rfl⟩ := List.mem_map.1 hf
  exact ⟨trivial, trivial⟩

theorem plain_enclosed (vs : List Value) :
    Plain (Fragment.joined ", " (Statement.slots vs) ++ ([Piece.text ")"] : Fragment)) := by
  have hend : Clear [.text ")"] := clear_text (c := ')') rfl (by decide) _
  have hplain : Plain [.text ")"] := plain_text.2 ⟨by decide, plain_nil⟩
  exact plain_append (plain_joined (plain_slots vs)) hplain hend

theorem plain_predicate (d : Dialect) {p : Predicate} (h : Unmarked p.column) :
    Plain (Statement.predicateFragment d p) := by
  have hblank : Unmarked " " := by decide
  cases p with
  | compare c op v =>
    have hc : Unmarked c := h
    have htext := ((hc.append hblank).append (unmarked_keyword op)).append hblank
    exact ⟨htext, clear_nil, plain_nil⟩
  | inList c vs negated =>
    have hc : Unmarked c := h
    cases vs with
    | nil => cases negated <;> exact ⟨by decide, plain_nil⟩
    | cons v vs =>
      have hin : Unmarked "IN (" := by decide
      have htext := ((hc.append hblank).append (unmarked_notWord negated)).append hin
      exact ⟨htext, plain_enclosed _⟩
  | isNull c negated =>
    have hc : Unmarked c := h
    have his : Unmarked " IS " := by decide
    have hnull : Unmarked "NULL" := by decide
    exact ⟨((hc.append his).append (unmarked_notWord negated)).append hnull, plain_nil⟩
  | between c low high negated =>
    have hc : Unmarked c := h
    have hbetween : Unmarked "BETWEEN " := by decide
    have htext := ((hc.append hblank).append (unmarked_notWord negated)).append hbetween
    have hand : Clear [.text " AND ", .slot (Statement.filterValue d high)] :=
      clear_text (c := ' ') rfl (by decide) _
    exact ⟨htext, hand, by decide, clear_nil, plain_nil⟩

/-- A fragment that may stand behind a slot. -/
structure Follows (f : Fragment) : Prop where
  clear : Clear f
  plain : Plain f

theorem follows_nil : Follows [] := ⟨trivial, trivial⟩

theorem follows_append {f g : Fragment} (hf : Follows f) (hg : Follows g) : Follows (f ++ g) :=
  ⟨clear_append hf.clear hg.clear, plain_append hf.plain hg.plain hg.clear⟩

/-- A text that begins with a blank keeps what is behind it off what is in front of it. -/
theorem follows_text {s t : String} {f : Fragment} (hs : s.toList = ' ' :: t.toList)
    (ht : Unmarked t) (hf : Plain f) : Follows (.text s :: f) := by
  refine ⟨clear_text hs (by decide) f, fun c hc => ?_, hf⟩
  rw [hs] at hc
  rcases List.mem_cons.1 hc with rfl | hc
  · decide
  · exact ht c hc

theorem follows_furtherFilters (d : Dialect) {fs : List Filter}
    (h : ∀ f ∈ fs, Unmarked f.predicate.column) : Follows (Statement.furtherFilters d fs) := by
  induction fs with
  | nil => exact follows_nil
  | cons f fs ih =>
    have hword : Unmarked (f.connector.keyword ++ " ") :=
      (unmarked_connector f.connector).append (by decide)
    have hf := follows_text (s := " " ++ f.connector.keyword ++ " ") (by simp) hword
      (plain_predicate d (h f (by simp)))
    exact follows_append hf (ih fun x hx => h x (by simp [hx]))

theorem follows_filters (d : Dialect) {keyword : String} (hk : Unmarked keyword) {fs : List Filter}
    (h : ∀ f ∈ fs, Unmarked f.predicate.column) :
    Follows (Statement.filtersFragment d keyword fs) := by
  cases fs with
  | nil => exact follows_nil
  | cons f fs =>
    have hword : Unmarked (keyword ++ " ") := hk.append (by decide)
    have hf := follows_text (s := " " ++ keyword ++ " ") (by simp) hword
      (plain_predicate d (h f (by simp)))
    exact follows_append hf (follows_furtherFilters d fun x hx => h x (by simp [hx]))

section Queries

variable (d : Dialect) {q : Query} (h : ∀ s ∈ queryNames q, Unmarked s)
include h

theorem unmarked_table : Unmarked q.table := h _ (by simp [queryNames])

theorem follows_where : Follows (Statement.whereFragment d q) := by
  refine follows_filters d (by decide) fun f hf => h _ ?_
  simp only [queryNames, List.mem_append, List.mem_map]
  exact Or.inl (Or.inl (Or.inl (Or.inr ⟨f, hf, rfl⟩)))

theorem plain_source : Plain (Statement.sourceFragment d q) := by
  have hjoins : Unmarked (String.join (q.joins.map Statement.joinText)) := by
    refine unmarked_join fun s hs => ?_
    obtain ⟨j, hj, rfl⟩ := List.mem_map.1 hs
    exact unmarked_joinText fun s hs => h s (by simp [queryNames]; grind)
  have hgroups : Follows (if q.groups = [] then []
      else [.text (" GROUP BY " ++ Statement.list q.groups)]) := by
    split
    · exact follows_nil
    · have hlist : Unmarked (Statement.list q.groups) :=
        unmarked_list fun c hc => h c (by simp [queryNames, hc])
      have hwords : Unmarked "GROUP BY " := by decide
      exact follows_text (t := "GROUP BY " ++ Statement.list q.groups) (by simp)
        (hwords.append hlist) plain_nil
  have hhaving : Follows (Statement.filtersFragment d "HAVING" q.groupFilters) := by
    refine follows_filters d (by decide) fun f hf => h _ ?_
    simp only [queryNames, List.mem_append, List.mem_map]
    exact Or.inl (Or.inr ⟨f, hf, rfl⟩)
  have hrest := follows_append (follows_append (follows_where d h) hgroups) hhaving
  simp only [Statement.sourceFragment, List.cons_append]
  exact ⟨(unmarked_table h).append hjoins, hrest.plain⟩

end Queries

/-- A text that is empty or begins with a blank. -/
def Spaced (s : String) : Prop := ∀ c ∈ s.toList.head?, c = ' '

theorem spaced_append {s t : String} (hs : Spaced s) (ht : Spaced t) : Spaced (s ++ t) := by
  unfold Spaced at *
  rw [String.toList_append, List.head?_append]
  cases h : s.toList.head? with
  | none => simpa using ht
  | some c => simpa [h] using hs

theorem follows_spaced {s : String} (hs : Spaced s) (hm : Unmarked s) : Follows [.text s] := by
  refine ⟨?_, hm, trivial⟩
  cases h : s.toList with
  | nil => simp [Clear, h]
  | cons c cs =>
    have hc : c = ' ' := hs c (by simp [h])
    exact clear_text h (by rw [hc]; decide) _

theorem follows_paging (d : Dialect) {q : Query} (h : ∀ s ∈ queryNames q, Unmarked s) :
    Follows [.text (Statement.orderText q ++ Statement.limitText d q ++ Statement.offsetText q)] := by
  have hempty : Spaced "" ∧ Unmarked "" := ⟨by simp [Spaced], by decide⟩
  have horder : Spaced (Statement.orderText q) ∧ Unmarked (Statement.orderText q) := by
    unfold Statement.orderText
    split
    · exact hempty
    · have hwords : Unmarked " ORDER BY " := by decide
      have hblank : Unmarked " " := by decide
      refine ⟨by simp [Spaced], hwords.append (unmarked_list fun s hs => ?_)⟩
      obtain ⟨o, ho, rfl⟩ := List.mem_map.1 hs
      have hcolumn : Unmarked o.1 := h _ (by simp [queryNames]; grind)
      exact (hcolumn.append hblank).append (unmarked_direction o.2)
  have hlimit : Spaced (Statement.limitText d q) ∧ Unmarked (Statement.limitText d q) := by
    have hword : Unmarked " LIMIT " := by decide
    unfold Statement.limitText
    split
    · exact ⟨by simp [Spaced], hword.append (unmarked_natText _)⟩
    · cases d <;> exact ⟨by simp [Spaced, Statement.noLimit], by decide⟩
    · exact hempty
  have hoffset : Spaced (Statement.offsetText q) ∧ Unmarked (Statement.offsetText q) := by
    have hword : Unmarked " OFFSET " := by decide
    unfold Statement.offsetText
    cases q.offset with
    | none => exact hempty
    | some n => exact ⟨by simp [Spaced], hword.append (unmarked_natText n)⟩
  exact follows_spaced (spaced_append (spaced_append horder.1 hlimit.1) hoffset.1)
    ((horder.2.append hlimit.2).append hoffset.2)

theorem plain_select (d : Dialect) {q : Query} (h : ∀ s ∈ queryNames q, Unmarked s) :
    Plain (Statement.selectFragment d q) := by
  have hpaging := follows_paging d h
  have hselect : Unmarked "SELECT " := by decide
  have hfrom : Unmarked " FROM " := by decide
  have hcolumns : Unmarked (if q.columns = [] then "*" else Statement.list q.columns) := by
    split
    · decide
    · exact unmarked_list fun s hs => h s (by simp [queryNames, hs])
  have hdistinct : Unmarked (if q.distinct then "DISTINCT " else "") := by split <;> decide
  have hrest := plain_append (plain_source d h) hpaging.plain hpaging.clear
  exact ⟨((hselect.append hdistinct).append hcolumns).append hfrom, hrest⟩

theorem plain_aggregate (d : Dialect) {q : Query} {a : Aggregate}
    (h : ∀ s ∈ queryNames q, Unmarked s) (ha : Unmarked (aggregateColumn a)) :
    Plain (Statement.aggregateFragment d q a) := by
  have hclose : Unmarked ")" := by decide
  have hexpression : Unmarked a.expression := by
    cases a <;> exact Unmarked.append (Unmarked.append (by decide) ha) hclose
  have hcast : Unmarked "CAST(" := by decide
  have htext : Unmarked (Statement.aggregateText d a) := by
    unfold Statement.aggregateText
    split
    · exact (hcast.append hexpression).append (by decide)
    · exact (hcast.append hexpression).append (by decide)
    · exact hexpression
  have hselect : Unmarked "SELECT " := by decide
  have hname : Unmarked Aggregate.resultName := by decide
  exact ⟨(((hselect.append htext).append (by decide)).append hname).append (by decide),
    plain_source d h⟩

theorem plain_update (d : Dialect) {q : Query} {row : Row} (h : ∀ s ∈ queryNames q, Unmarked s)
    (hrow : ∀ c ∈ row.keys, Unmarked c) : Plain (Statement.updateFragment d q row) := by
  have hset : ∀ f ∈ row.entries.map fun e => ([.text (e.1 ++ " = "), .slot e.2] : Fragment),
      Plain f := by
    intro f hf
    obtain ⟨e, he, rfl⟩ := List.mem_map.1 hf
    have hcolumn : Unmarked e.1 := hrow _ (List.mem_map_of_mem he)
    exact ⟨hcolumn.append (by decide), clear_nil, plain_nil⟩
  have hwhere := follows_where d h
  have hrest := plain_append (plain_joined hset) hwhere.plain hwhere.clear
  have hupdate : Unmarked "UPDATE " := by decide
  exact ⟨(hupdate.append (unmarked_table h)).append (by decide), hrest⟩

theorem plain_delete (d : Dialect) {q : Query} (h : ∀ s ∈ queryNames q, Unmarked s) :
    Plain (Statement.deleteFragment d q) := by
  have hdelete : Unmarked "DELETE FROM " := by decide
  exact ⟨hdelete.append (unmarked_table h), (follows_where d h).plain⟩

theorem mem_insertColumns {rows : List Row} {c : String} (h : c ∈ Statement.insertColumns rows) :
    ∃ r ∈ rows, c ∈ r.keys := by
  have hfold : ∀ (ks seen : List String),
      c ∈ ks.foldl (fun cs k => if k ∈ cs then cs else cs ++ [k]) seen → c ∈ seen ∨ c ∈ ks := by
    intro ks
    induction ks with
    | nil => exact fun seen hc => Or.inl hc
    | cons k ks ih =>
      intro seen hc
      rcases ih _ hc with hseen | hks
      · dsimp only at hseen
        split at hseen
        · exact Or.inl hseen
        · rcases List.mem_append.1 hseen with hseen | hk
          · exact Or.inl hseen
          · exact Or.inr (by simp_all)
      · exact Or.inr (by simp [hks])
  simpa using hfold _ [] h

theorem plain_insert (d : Dialect) {table : String} {rows : List Row} (ht : Unmarked table)
    (hrows : ∀ r ∈ rows, ∀ c ∈ r.keys, Unmarked c) :
    Plain (Statement.insertFragment d table rows) := by
  have hinto : Unmarked "INSERT INTO " := by decide
  by_cases hcolumns : Statement.insertColumns rows = []
  · have htext : Unmarked (Statement.emptyInsertText d) := by cases d <;> decide
    simp only [Statement.insertFragment, hcolumns, if_true]
    exact ⟨(hinto.append ht).append htext, plain_nil⟩
  · have hlist : Unmarked (Statement.list (Statement.insertColumns rows)) := by
      refine unmarked_list fun c hc => ?_
      obtain ⟨r, hr, hrc⟩ := mem_insertColumns hc
      exact hrows r hr c hrc
    have htuples : ∀ f ∈ rows.map fun r =>
        Statement.tupleFragment (Statement.cells (Statement.insertColumns rows) r), Plain f := by
      intro f hf
      obtain ⟨r, -, rfl⟩ := List.mem_map.1 hf
      exact plain_text.2 ⟨by decide, plain_enclosed _⟩
    have hopen : Unmarked " (" := by decide
    simp only [Statement.insertFragment, hcolumns, if_false]
    exact ⟨(((hinto.append ht).append hopen).append hlist).append (by decide), plain_joined htuples⟩

/-! ## Compiled statements -/

/-- The bindings are the given values, and the text has the dialect's first, second and further
placeholders from left to right, one for each of them. -/
structure Numbered (d : Dialect) (c : Compiled) (vs : List Value) : Prop where
  bindings : c.bindings = vs
  placeholders : scan c.sql.toList = (List.range vs.length).map fun k => d.placeholder (k + 1)

theorem numbered_compile (d : Dialect) {f : Fragment} (hf : Plain f) {vs : List Value}
    (hv : f.bindings = vs) : Numbered d (f.compile d) vs := by
  refine ⟨hv, ?_⟩
  have hscan := scan_renderFrom d hf 0
  simpa [Fragment.compile, Fragment.render, ← hv] using hscan

/-- Whatever clauses made a query, and whatever rows and aggregate go with it, each of its statements
numbers its placeholders as it orders its bindings: the values of the row or rows first, then those of
the conditions on rows, then those of the conditions on groups, each kind as it was called. -/
theorem compile_numbered (d : Dialect) (table : String) (cs : List Clause) (a : Aggregate)
    (rows : List Row) (row : Row)
    (hnames : ∀ s ∈ table :: cs.flatMap clauseNames, Unmarked s)
    (ha : Unmarked (aggregateColumn a))
    (hrows : ∀ r ∈ row :: rows, ∀ c ∈ r.keys, Unmarked c) :
    let q := (Query.on table).applyAll cs
    let wheres := Statement.boundValues d (cs.flatMap Clause.filters)
    let havings := Statement.boundValues d (cs.flatMap Clause.groupFilters)
    Numbered d ((Statement.select q).compile d) (wheres ++ havings) ∧
      Numbered d ((Statement.aggregate q a).compile d) (wheres ++ havings) ∧
      Numbered d ((Statement.insert q.table rows none).compile d)
        (rows.flatMap (Statement.cells (Statement.insertColumns rows))) ∧
      Numbered d ((Statement.update q row).compile d) (row.values ++ wheres) ∧
      Numbered d ((Statement.delete q).compile d) wheres := by
  intro q wheres havings
  have hq : ∀ s ∈ queryNames q, Unmarked s := by
    intro s hs
    rcases mem_queryNames_applyAll hs with htable | hclause
    · exact hnames s (by simpa [queryNames, Query.on] using Or.inl htable)
    · exact hnames s (by simp [hclause])
  have hfilters : q.filters = cs.flatMap Clause.filters := Query.filters_applyAll _ cs
  have hgroupFilters : q.groupFilters = cs.flatMap Clause.groupFilters :=
    Query.groupFilters_applyAll _ cs
  have hreturning : Follows [.text (Statement.returningText d none)] := by
    cases d <;> exact follows_spaced (by simp [Spaced, Statement.returningText]) (by decide)
  have hinsert : Plain (Statement.insertFragment d q.table rows) :=
    plain_insert d (unmarked_table hq) fun r hr => hrows r (by simp [hr])
  refine ⟨?_, ?_, ?_, ?_, ?_⟩
  · exact numbered_compile d (plain_select d hq) (by
      rw [Statement.bindings_select, hfilters, hgroupFilters])
  · exact numbered_compile d (plain_aggregate d hq ha) (by
      rw [Statement.bindings_aggregate, hfilters, hgroupFilters])
  · exact numbered_compile d (plain_append hinsert hreturning.plain hreturning.clear) (by
      simp [Statement.bindings_insert])
  · exact numbered_compile d (plain_update d hq (hrows row (by simp))) (by
      rw [Statement.bindings_update, hfilters])
  · exact numbered_compile d (plain_delete d hq) (by
      rw [Statement.bindings_delete, hfilters])

/-- A list without members binds nothing, and a boolean is bound as a number. -/
theorem compile_numbered_orders :
    let cs : List Clause := [.join (.on .left "users" "users.id" .eq "orders.user_id"),
      .filter .and (.compare "total" .gt (.int 100)), .having .and "COUNT(*)" .ge (.int 2),
      .filter .or (.inList "status" [] false), .filter .and (.inList "kind" [.int 7, .null] true),
      .groupBy ["users.id"], .filter .or (.between "placed" (.bool true) (.text "$1?") false),
      .page 3 10]
    let rows := [Row.ofList [("a", .int 1)], Row.ofList [("b", .text "x"), ("a", .int 2)]]
    let row := Row.ofList [("name", .text "?"), ("age", .bool false)]
    let q := (Query.on "orders").applyAll cs
    let wheres : List Value := [.int 100, .int 7, .null, .int 1, .text "$1?"]
    (∀ s ∈ "orders" :: cs.flatMap clauseNames, Unmarked s) ∧
      Unmarked (aggregateColumn (.sum "total")) ∧ (∀ r ∈ row :: rows, ∀ c ∈ r.keys, Unmarked c) ∧
      Numbered .sqlite ((Statement.select q).compile .sqlite) (wheres ++ [.int 2]) ∧
      Numbered .sqlite ((Statement.aggregate q (.sum "total")).compile .sqlite)
        (wheres ++ [.int 2]) ∧
      Numbered .sqlite ((Statement.insert "orders" rows none).compile .sqlite)
        [.int 1, .null, .int 2, .text "x"] ∧
      Numbered .sqlite ((Statement.update q row).compile .sqlite)
        ([.text "?", .bool false] ++ wheres) ∧
      Numbered .sqlite ((Statement.delete q).compile .sqlite) wheres := by
  intro cs rows row q wheres
  have hnames : ∀ s ∈ "orders" :: cs.flatMap clauseNames, Unmarked s := by decide
  have hcolumn : Unmarked (aggregateColumn (.sum "total")) := by decide
  have hrows : ∀ r ∈ row :: rows, ∀ c ∈ r.keys, Unmarked c := by decide
  exact ⟨hnames, hcolumn, hrows,
    compile_numbered .sqlite "orders" cs (.sum "total") rows row hnames hcolumn hrows⟩

end SqlKit.Placeholders
