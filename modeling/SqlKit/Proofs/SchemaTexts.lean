import SqlKit.Proofs.Placeholders
import SqlKit.Proofs.QuotedText
import SqlKit.Schema.Ddl

/-!
# Schema statements read back

Where names stand between double quotes, no text in a schema can break its statements: if no name has a
quote of its own, every statement is read to its end, the defaults and comments in it are read as they
were given, and the parentheses of a creation hold the columns and changes, divided by commas. Defaults
that are expressions are written as they stand, so they are left out.
-/

namespace SqlKit.Schema
open Quoting

/-! ## Names -/

def Change.names : Change → List String
  | .primary ix | .unique ix | .index ix => ix.name :: ix.columns
  | .foreign k => k.name :: k.table :: k.columns ++ k.references
  | .dropColumns columns => columns
  | .dropPrimary name | .dropUnique name | .dropIndex name | .dropForeign name => [name]
  | .renameColumn old new | .renameIndex old new => [old, new]
  | .rename table => [table]
  | .drop | .dropIfExists => []

/-- The names that a blueprint was given. -/
def Blueprint.names (b : Blueprint) : List String :=
  b.table :: b.columns.flatMap (fun c => c.name :: c.collation.toList) ++ b.changes.flatMap Change.names

def Unquoted (name : String) : Prop := '"' ∉ name.toList

instance (name : String) : Decidable (Unquoted name) := inferInstanceAs (Decidable ('"' ∉ name.toList))

/-- The quotes of names, and the point that divides names into parts. -/
def delimiters : List Char := ['"', '`', '.']

/-- Lower case makes no delimiter, as it makes nothing below the small letters. -/
theorem lowerChar_ne {q c : Char} (hq : q ∈ delimiters) (h : c ≠ q) : Text.lowerChar c ≠ q := by
  have hruns : ∀ r ∈ Text.lowerRuns, (96 : Int) < r.first + r.shift := by decide +kernel
  have hcode : 0 < q.toNat ∧ q.toNat ≤ 96 := by
    have hall : ∀ x ∈ delimiters, 0 < x.toNat ∧ x.toNat ≤ 96 := by simp [delimiters]
    exact hall q hq
  unfold Text.lowerChar
  split
  · rename_i r hfound
    have hr := hruns r (List.mem_of_find?_eq_some hfound)
    have hcovers := List.find?_some hfound
    simp only [Text.CaseRun.covers, Bool.and_eq_true, decide_eq_true_eq] at hcovers
    intro hlower
    have hnat := congrArg Char.toNat hlower
    have hbig : 96 < (c.toNat + r.shift).toNat := by omega
    rw [Char.ofNat] at hnat
    by_cases hvalid : (c.toNat + r.shift).toNat.isValidChar
    · rw [dif_pos hvalid] at hnat
      have hval : (c.toNat + r.shift).toNat = q.toNat := hnat
      omega
    · rw [dif_neg hvalid] at hnat
      have hval : 0 = q.toNat := hnat
      omega
  · exact h

theorem not_mem_lowerFrom {q : Char} (hq : q ∈ delimiters) {before cs : List Char} (h : q ∉ cs) :
    q ∉ Text.lowerFrom before cs := by
  have hspecial : ∀ x ∈ ['σ', 'ς', 'i', '\u0307'], q ≠ x := by
    have hall : ∀ y ∈ delimiters, ∀ x ∈ ['σ', 'ς', 'i', '\u0307'], y ≠ x := by simp [delimiters]
    exact hall q hq
  induction cs generalizing before with
  | nil => simp [Text.lowerFrom]
  | cons c cs ih =>
    rw [List.mem_cons, not_or] at h
    have hfirst := lowerChar_ne hq (Ne.symm h.1)
    rw [Text.lowerFrom, List.mem_append, not_or]
    refine ⟨?_, ih h.2⟩
    split
    · split
      · simpa using hspecial 'ς' (by simp)
      · simpa using hspecial 'σ' (by simp)
    · split
      · simpa using ⟨hspecial 'i' (by simp), hspecial '\u0307' (by simp)⟩
      · simpa using hfirst.symm

section
variable {q : Char}

theorem not_mem_indexName (hq : q ∈ delimiters) {table kind : String} {columns : List String}
    (htable : q ∉ table.toList) (hkind : q ∉ kind.toList) (hcolumns : ∀ c ∈ columns, q ∉ c.toList) :
    q ∉ (indexName table kind columns).toList := by
  have hdash : q ∉ "_".toList := by
    have hall : ∀ x ∈ delimiters, x ∉ "_".toList := by simp [delimiters]
    exact hall q hq
  have hname : q ∉ (table ++ "_" ++ "_".intercalate columns ++ "_" ++ kind).toList :=
    not_mem_append (not_mem_append (not_mem_append (not_mem_append htable hdash)
      (not_mem_intercalate hdash hcolumns)) hdash) hkind
  have hlower : q ∉ Text.lowerFrom [] _ := not_mem_lowerFrom hq hname
  intro hmem
  simp only [indexName, String.toList_ofList, List.mem_map, Text.lowercase] at hmem
  obtain ⟨c, hc, hchar⟩ := hmem
  split at hchar
  · exact hdash (by simp [← hchar])
  · rw [hchar] at hc
    exact hlower hc

/-- The names that are made up for flagged columns have no delimiters that others have not. -/
theorem not_mem_allChanges (hq : q ∈ delimiters) {b : Blueprint} (h : ∀ n ∈ b.names, q ∉ n.toList) :
    ∀ c ∈ b.allChanges, ∀ n ∈ c.names, q ∉ n.toList := by
  intro c hc n hn
  rw [Blueprint.allChanges, List.mem_append] at hc
  obtain hc | hc := hc
  · exact h n (List.mem_append_right _ (List.mem_flatMap.2 ⟨c, hc, hn⟩))
  · obtain ⟨column, hcolumn, hflag⟩ := List.mem_flatMap.1 hc
    have htable : q ∉ b.table.toList := h _ (by simp [Blueprint.names])
    have hname : q ∉ column.name.toList := by
      refine h _ (List.mem_append_left _ (List.mem_cons_of_mem _ ?_))
      exact List.mem_flatMap.2 ⟨column, hcolumn, List.mem_cons_self⟩
    have hkinds : ∀ kind ∈ ["primary", "unique", "index"], q ∉ kind.toList := by
      have hall : ∀ x ∈ delimiters, ∀ kind ∈ ["primary", "unique", "index"], x ∉ kind.toList := by
        simp [delimiters]
      exact hall q hq
    have hindex : ∀ kind ∈ ["primary", "unique", "index"],
        ∀ n ∈ [indexName b.table kind [column.name], column.name], q ∉ n.toList := by
      intro kind hkind n hn
      obtain rfl | rfl := by simpa using hn
      · exact not_mem_indexName hq htable (hkinds kind hkind) (by simpa using hname)
      · exact hname
    simp only [Blueprint.flagChanges, List.mem_append, List.mem_ite_nil_right, List.mem_singleton] at hflag
    obtain (⟨-, rfl⟩ | ⟨-, rfl⟩) | ⟨-, rfl⟩ := hflag
    · exact hindex "primary" (by simp) n hn
    · exact hindex "unique" (by simp) n hn
    · exact hindex "index" (by simp) n hn

end

theorem unquoted_allChanges {b : Blueprint} (h : ∀ n ∈ b.names, Unquoted n) :
    ∀ c ∈ b.allChanges, ∀ n ∈ c.names, Unquoted n :=
  not_mem_allChanges (by simp [delimiters]) h

section
variable {d : Dialect} {k : Nat}

theorem quoteName_tokens (hd : d ≠ .mysql) {name : String} (h : Unquoted name) :
    ∃ ts, (quoteName d name).toList = spell ts ∧ Sound 0 ts ∧ values ts = [] ∧
      ∀ x ∈ ts, x ≠ .mark '(' := by
  have hquote : quoteChar d = '"' := by cases d <;> first | rfl | exact absurd rfl hd
  let es : List (List Token) := (splitChars '.' name.toList).map fun part => [.name part]
  have hsound : ∀ e ∈ es, Sound 0 e := by
    intro e he
    obtain ⟨part, -, rfl⟩ := List.mem_map.1 he
    exact ⟨List.isChain_singleton _, by simp, fun n _ => by simp [levelAfter_cons, Token.level?]; rfl⟩
  have hspell : ((splitChars '.' name.toList).map (quotedPart d)).map String.toList = es.map spell := by
    rw [List.map_map, List.map_map]
    refine List.map_congr_left fun part hpart => ?_
    have hplain : '"' ∉ part := fun hmem => h (mem_of_mem_splitChars hpart _ hmem)
    simp [quotedPart, hquote, Token.spell, enclosed, doubled_of_not_mem hplain]
  have hpoint : Sound 0 ([Token.mark '.']) := sound_mark rfl (by decide) fun _ _ => by
    simp [Token.level?]
  refine ⟨[Token.mark '.'].intercalate es, ?_, ?_, ?_, ?_⟩
  · rw [quoteName, String.toList_intercalate, hspell, spell_intercalate]
    rfl
  · exact sound_intercalate (by simp : ['.'] ≠ []) hpoint hsound
  · have hvalues : es.flatMap values = [] := by
      simp [es, List.flatMap_map, values, Token.value?, List.filterMap_cons]
    exact (values_intercalate ['.'] es).trans hvalues
  · refine forall_mem_intercalate (by simp) fun e he x hx => ?_
    obtain ⟨part, -, rfl⟩ := List.mem_map.1 he
    obtain rfl := List.mem_singleton.1 hx
    simp

theorem spells_quoteName (hd : d ≠ .mysql) {name : String} (h : Unquoted name) :
    Spells k (quoteName d name) [] := by
  obtain ⟨ts, hts, hsound, hvalues, -⟩ := quoteName_tokens hd h
  exact ⟨ts, hts, hsound.mono (Nat.zero_le k), hvalues⟩

theorem follows_inParens (hd : d ≠ .mysql) {names : List String} (h : ∀ n ∈ names, Unquoted n) :
    Follows 0 (inParens d names) [] := by
  have hlist : Spells 1 (quoteNames d names) [] := by
    refine spells_list (by decide) fun x hx => ?_
    obtain ⟨n, hn, rfl⟩ := List.mem_map.1 hx
    exact spells_quoteName hd (h n hn)
  exact hlist.parens

/-! ## Numbers -/

def Plain (c : Char) : Prop := c.isAlphanum = true ∨ c = '-' ∨ c = '.'

instance (c : Char) : Decidable (Plain c) := inferInstanceAs (Decidable (_ ∨ _))

theorem word_of_plain {w : String} (h : ∀ c ∈ w.toList, Plain c) : Word k w := by
  intro c hc
  have hspecial : ∀ x ∈ "\'\";(),".toList, ¬Plain x := by simp [Plain]
  have hne : ∀ x ∈ "\'\";(),".toList, c ≠ x := by
    intro x hx heq
    exact hspecial x hx (heq ▸ h c hc)
  have hquote : isQuote c = false := by
    simp [isQuote, hne '\'' (by decide), hne '"' (by decide)]
  exact ⟨hquote, hne ';' (by decide), hne '(' (by decide), hne ')' (by decide),
    fun _ => hne ',' (by decide)⟩

section
variable {P : Char → Prop}

theorem forall_digits (hdigit : ∀ c, c.isDigit = true → P c) {n : Nat} : ∀ c ∈ Number.digits n, P c :=
  fun c hc => hdigit c (Number.isDigit_of_mem_digits hc)

theorem forall_intText (hdigit : ∀ c, c.isDigit = true → P c) (hminus : P '-') (i : Int) :
    ∀ c ∈ (Number.intText i).toList, P c := by
  intro c hc
  rw [Number.intText, String.toList_ofList, Number.intChars] at hc
  split at hc
  · obtain rfl | hc := List.mem_cons.1 hc
    · exact hminus
    · exact forall_digits hdigit c hc
  · exact forall_digits hdigit c hc

theorem forall_positionalChars {s : Number.Style} (hpoint : s.wholePoint = false) (hzero : P '0')
    (hdot : P '.') {ds : List Char} (h : ∀ c ∈ ds, P c) (p : Int) : ∀ c ∈ s.positionalChars ds p, P c := by
  have hzeros : ∀ n, ∀ c ∈ List.replicate n '0', P c := by
    intro n c hc
    rw [List.eq_of_mem_replicate hc]
    exact hzero
  intro c hc
  unfold Number.Style.positionalChars at hc
  split at hc
  · obtain (hc | hc) | hc := by simpa only [List.mem_append] using hc
    · obtain rfl | rfl := by simpa using hc
      · exact hzero
      · exact hdot
    · exact hzeros _ c hc
    · exact h c hc
  · have hleft : ∀ n m, ∀ c ∈ ds.take n ++ List.replicate m '0', P c := by
      intro n m c hc
      obtain hc | hc := List.mem_append.1 hc
      · exact h c (List.mem_of_mem_take hc)
      · exact hzeros _ c hc
    simp only [hpoint] at hc
    split at hc
    · exact hleft _ _ c (by simpa using hc)
    · obtain hc | hc := List.mem_append.1 hc
      · exact hleft _ _ c hc
      · obtain rfl | hc := List.mem_cons.1 hc
        · exact hdot
        · exact h c (List.mem_of_mem_drop hc)

/-- A number that is written out has digits, a sign and a point, or it is no number or not finite. -/
theorem forall_plainText (hdigit : ∀ c, c.isDigit = true → P c)
    (hother : ∀ c ∈ ['-', '.', 'N', 'a', 'i', 'n', 'f'], P c) (x : Number.Binary64) :
    ∀ c ∈ (Number.Style.plain.text x).toList, P c := by
  have hdot : P '.' := hother '.' (by simp)
  have hzero : P '0' := hdigit '0' rfl
  have hpositional : ∀ {ds : List Char}, (∀ c ∈ ds, P c) → ∀ p, ∀ c ∈ Number.Style.plain.positionalChars ds p,
      P c := forall_positionalChars rfl hzero hdot
  intro c hc
  rw [Number.Style.text, String.toList_ofList, Number.Style.chars] at hc
  split at hc
  · exact hother c ((by simp : ∀ c ∈ ['N', 'a', 'N'], c ∈ _) c hc)
  · obtain hc | hc := List.mem_append.1 hc
    · split at hc
      · obtain rfl := List.mem_singleton.1 hc
        exact hother '-' (by simp)
      · cases hc
    · split at hc
      · exact hother c ((by simp : ∀ c ∈ ['i', 'n', 'f'], c ∈ _) c hc)
      · unfold Number.Style.magnitudeChars at hc
        split at hc
        · exact hpositional (by simpa using hzero) 0 c hc
        · exact hpositional (forall_digits hdigit) _ c hc

end

theorem plain_of_isDigit (c : Char) (h : c.isDigit = true) : Plain c :=
  Or.inl (by simp [Char.isAlphanum, h])

theorem word_natText (n : Nat) : Word k (Number.natText n) :=
  word_of_plain (by simpa [Number.natText] using forall_digits plain_of_isDigit)

theorem word_intText (i : Int) : Word k (Number.intText i) :=
  word_of_plain (forall_intText plain_of_isDigit (by decide) i)

theorem word_plainText (x : Number.Binary64) : Word k (Number.Style.plain.text x) :=
  word_of_plain (forall_plainText plain_of_isDigit (by simp [Plain]) x)

/-! ## Columns -/

/-- The texts that a default is written with as a literal. -/
def Default.literals : Default → List String
  | .literal (.text s) => [s]
  | .literal (.json j) => [j.compact]
  | .literal (.dateTime t) => [t.stored]
  | .literal (.blob bytes) => [String.ofList ((Text.hexBytes bytes).map Char.toUpper)]
  | _ => []

def Column.literals (c : Column) : List String := (c.default.map Default.literals).getD []

theorem hexUpper_ne_quote (b : UInt8) : ∀ c ∈ (Text.hexByte b).map Char.toUpper, c ≠ '\'' := by
  have hdigit : ∀ n, n < 16 → (Text.hexDigit n).toUpper ≠ '\'' := by decide
  intro c hc
  simp only [Text.hexByte, List.map_cons, List.map_nil, List.mem_cons, List.not_mem_nil, or_false] at hc
  obtain rfl | rfl := hc
  · exact hdigit _ (by have := b.toNat_lt; omega)
  · exact hdigit _ (by omega)

theorem inline_blob (bytes : List UInt8) : (Value.blob bytes).inline =
    "X" ++ Value.quote (String.ofList ((Text.hexBytes bytes).map Char.toUpper)) := by
  have hplain : '\'' ∉ (Text.hexBytes bytes).map Char.toUpper := by
    intro hmem
    rw [Text.hexBytes, List.map_flatMap] at hmem
    obtain ⟨b, -, hb⟩ := List.mem_flatMap.1 hmem
    exact hexUpper_ne_quote b _ hb rfl
  have hdoubled := doubled_of_not_mem hplain
  simp only [doubled] at hdoubled
  rw [Value.inline, ← String.toList_inj]
  simp [Value.quote, Value.quoteChars, hdoubled]

theorem spells_blob (bytes : List UInt8) :
    Spells 0 (Value.blob bytes).inline [String.ofList ((Text.hexBytes bytes).map Char.toUpper)] := by
  rw [inline_blob]
  exact (Divider.before (by decide) (spells_quote _)).spells

theorem spells_default {v : Default} (h : ∀ sql, v ≠ .expression sql) :
    Spells 0 (v.text d) v.literals := by
  cases v with
  | expression sql => exact absurd rfl (h sql)
  | literal v =>
    cases v with
    | null =>
      have hnull : Word 0 "NULL" := by decide
      exact hnull.follows.spells
    | bool b => exact (Word.follows (by cases d <;> cases b <;> decide)).spells
    | int n => exact (word_intText _).follows.spells
    | float x => exact (word_plainText x).follows.spells
    | text s => exact spells_quote s
    | blob bytes => exact spells_blob bytes
    | json j => exact spells_quote _
    | dateTime t => exact spells_quote _

theorem follows_option {word : String} {write : String → String} {o : Option String}
    (hword : Divider 0 word) (h : ∀ a ∈ o, Spells 0 (write a) []) :
    Follows 0 (option word write o) [] := by
  cases o with
  | none => exact follows_empty
  | some a => exact hword.before (h a rfl)

theorem spells_sized {word : String} (h : Word 0 word) (n : Nat) : Spells 0 (sized word n) [] := by
  rw [sized, String.append_assoc, String.append_assoc]
  exact h.follows.spells.append (word_natText n).follows.spells.parens

theorem spells_decimal (p s : Nat) : Spells 0 (decimalText p s) [] := by
  have hparts : Spells 1 (Number.natText p ++ (", " ++ Number.natText s)) [] :=
    (word_natText p).follows.spells.append
      (Divider.before (by decide) (word_natText s).follows.spells)
  have htext : decimalText p s =
      "DECIMAL" ++ ("(" ++ (Number.natText p ++ (", " ++ Number.natText s)) ++ ")") := by
    rw [← String.toList_inj]
    simp [decimalText]
  rw [htext]
  exact (Word.follows (by decide)).spells.append hparts.parens

theorem spells_postgresType (t : ColumnType) : Spells 0 (postgresType t) [] := by
  have hvarchar : Word 0 "VARCHAR" := by decide
  cases t with
  | char n => exact spells_sized (by decide) n
  | varchar n => exact spells_sized hvarchar n
  | decimal p s => exact spells_decimal p s
  | oneOf members => exact spells_sized hvarchar 255
  | _ => exact (Word.follows (by decide)).spells

theorem spells_postgresCountedType (t : ColumnType) : Spells 0 (postgresCountedType t) [] := by
  cases t with
  | tinyInt | smallInt | int | bigInt => exact (Word.follows (by decide)).spells
  | _ => exact spells_postgresType _

theorem spells_sqliteType (t : ColumnType) : Spells 0 (sqliteType t) [] := by
  have hvarchar : Word 0 "VARCHAR" := by decide
  have hnumeric : Word 0 "NUMERIC" := by decide
  cases t with
  | char _ | varchar _ | oneOf _ => exact hvarchar.follows.spells
  | decimal _ _ => exact hnumeric.follows.spells
  | _ => exact (Word.follows (by decide)).spells

theorem spells_typeText (hd : d ≠ .mysql) (c : Column) : Spells 0 (typeText d c) [] := by
  unfold typeText
  split
  · exact absurd rfl hd
  · split
    · exact spells_postgresCountedType c.type
    · exact spells_postgresType c.type
  · exact spells_sqliteType c.type

/-- A column without an expression for its default, whose names have no quotes. -/
structure Column.Writable (c : Column) : Prop where
  name : Unquoted c.name
  collation : ∀ n ∈ c.collation, Unquoted n
  default : ∀ sql, c.default ≠ some (.expression sql)

theorem follows_modifiers (hd : d ≠ .mysql) {c : Column} (h : c.Writable) :
    Follows 0 (modifiersText d c) c.literals := by
  have hleading : Follows 0 (leadingText d c) [] := by
    cases d with
    | mysql => exact absurd rfl hd
    | postgres =>
      exact follows_option (by decide) fun n hn => spells_quoteName hd (h.collation n hn)
    | sqlite => exact follows_empty
  have hnull : Follows 0 (nullText c) [] := by
    unfold nullText
    split <;> exact Word.follows (by decide)
  have hdefault : Follows 0 (defaultText d c) c.literals := by
    unfold defaultText Column.literals
    cases hc : c.default with
    | none => exact follows_empty
    | some v =>
      exact Divider.before (by decide) (spells_default fun sql he => h.default sql (he ▸ hc))
  have hcounter : Follows 0 (counterText d c) [] := by
    unfold counterText
    split
    · cases d <;> exact Word.follows (by decide)
    · exact follows_empty
  have htrailing : Follows 0 (trailingText d c) [] := by
    cases d with
    | mysql => exact absurd rfl hd
    | postgres => exact follows_empty
    | sqlite => exact follows_empty
  have hall := (((hleading.append hnull).append hdefault).append hcounter).append htrailing
  simpa [modifiersText] using hall

theorem spells_definition (hd : d ≠ .mysql) {c : Column} (h : c.Writable) :
    Spells 0 (definitionText d c) c.literals := by
  rw [definitionText, String.append_assoc, String.append_assoc]
  have hrest := (spells_typeText hd c).append (follows_modifiers hd h)
  exact (spells_quoteName hd h.name).append (Divider.before (by decide) hrest)

/-! ## Changes -/

theorem spells_keyword (a : ReferenceAction) : Spells 0 a.keyword [] := by
  cases a <;> exact (Word.follows (by decide)).spells

theorem follows_action {word : String} (hword : Divider 0 word) (a : Option ReferenceAction) :
    Follows 0 (option word id (a.map (·.keyword))) [] := by
  refine follows_option hword fun text htext => ?_
  obtain ⟨action, -, rfl⟩ := Option.map_eq_some_iff.1 htext
  exact spells_keyword action

theorem follows_foreignKey (hd : d ≠ .mysql) {key : ForeignKey}
    (h : ∀ n ∈ (Change.foreign key).names, Unquoted n) : Follows 0 (key.text d) [] := by
  have hcolumns : Follows 0 (inParens d key.columns) [] :=
    follows_inParens hd fun n hn => h n (by simp [Change.names, hn])
  have htable : Spells 0 (quoteName d key.table) [] := spells_quoteName hd (h _ (by simp [Change.names]))
  have hreferences : Follows 0 (inParens d key.references) [] :=
    follows_inParens hd fun n hn => h n (by simp [Change.names, hn])
  have hkeyword : Follows 0 "FOREIGN KEY " [] := Word.follows (by decide)
  have hwhere : Divider 0 " REFERENCES " := by decide
  have hblank : Divider 0 " " := by decide
  have hdelete : Divider 0 " ON DELETE " := by decide
  have hupdate : Divider 0 " ON UPDATE " := by decide
  have hkey := ((hkeyword.append hcolumns).further hwhere htable).further hblank hreferences.spells
  have hdeleted := hkey.append (follows_action hdelete key.onDelete)
  exact hdeleted.append (follows_action hupdate key.onUpdate)

theorem spells_named (hd : d ≠ .mysql) {word name : String} (hword : Divider k word)
    (h : Unquoted name) : Spells k (word ++ quoteName d name) [] :=
  (hword.before (spells_quoteName hd h)).spells

theorem spells_keyed (hd : d ≠ .mysql) {word name between : String} {columns : List String}
    (hword : Divider 0 word) (hbetween : Divider 0 between) (h : Unquoted name)
    (hcolumns : ∀ c ∈ columns, Unquoted c) :
    Spells 0 (word ++ quoteName d name ++ between ++ inParens d columns) [] := by
  have hall := (spells_named hd hword h).further hbetween (follows_inParens hd hcolumns).spells
  exact hall

theorem spells_inline (hd : d ≠ .mysql) {c : Change} (h : ∀ n ∈ c.names, Unquoted n) {s : String}
    (hs : inlineText? d c = some s) : Spells 0 s [] := by
  cases c with
  | primary ix =>
    obtain rfl := Option.some.inj hs
    have hword : Divider 0 "PRIMARY KEY " := by decide
    exact (hword.before (follows_inParens hd fun n hn => h n (List.mem_cons_of_mem _ hn)).spells).spells
  | unique ix =>
    cases d with
    | mysql => exact absurd rfl hd
    | postgres =>
      obtain rfl := Option.some.inj hs
      exact spells_keyed hd (by decide) (by decide) (h _ List.mem_cons_self)
        fun n hn => h n (List.mem_cons_of_mem _ hn)
    | sqlite => cases hs
  | index ix =>
    cases d with
    | mysql => exact absurd rfl hd
    | postgres => cases hs
    | sqlite => cases hs
  | foreign key =>
    have hkey := follows_foreignKey hd h
    cases d with
    | mysql => exact absurd rfl hd
    | postgres =>
      obtain rfl := Option.some.inj hs
      have hword : Divider 0 "CONSTRAINT " := by decide
      have hblank : Divider 0 " " := by decide
      have hall := (spells_named hd hword (h key.name List.mem_cons_self)).further hblank hkey.spells
      exact hall
    | sqlite =>
      obtain rfl := Option.some.inj hs
      exact hkey.spells
  | _ => cases hs

/-! ## Statements -/

theorem spells_alterText (hd : d ≠ .mysql) {table clause : String} {vs : List String}
    (htable : Unquoted table) (h : Spells 1 clause vs) : Spells 1 (alterText d table clause) vs := by
  have hword : Divider 1 "ALTER TABLE " := by decide
  have hblank : Divider 1 " " := by decide
  have hall := (spells_named hd hword htable).further hblank h
  exact hall

theorem spells_createIndexText (hd : d ≠ .mysql) {word table : String} {ix : Index}
    (hword : Follows 0 word []) (htable : Unquoted table)
    (h : ∀ n ∈ ix.name :: ix.columns, Unquoted n) : Spells 1 (createIndexText d word table ix) [] := by
  have hcreate : Follows 0 "CREATE " [] := Word.follows (by decide)
  have hblank : Divider 0 " " := by decide
  have hon : Divider 0 " ON " := by decide
  have hcolumns := (follows_inParens hd fun n hn => h n (List.mem_cons_of_mem _ hn)).spells
  have hname : Spells 0 (quoteName d ix.name) [] := spells_quoteName hd (h _ List.mem_cons_self)
  have hall := (((hcreate.append hword).further hblank hname).further hon
    (spells_quoteName hd htable)).further hblank hcolumns
  exact hall.spells.mono (Nat.zero_le 1)

theorem spells_change (hd : d ≠ .mysql) {table : String} {c : Change} (htable : Unquoted table)
    (h : ∀ n ∈ c.names, Unquoted n) : ∀ s ∈ changeStatements d table c, Spells 1 s [] := by
  have hone : ∀ {text s : String}, Spells 1 text [] → s ∈ [text] → Spells 1 s [] := by
    intro text s htext hs
    exact List.mem_singleton.1 hs ▸ htext
  have hclause : ∀ {clause s : String}, Spells 1 clause [] → s ∈ [alterText d table clause] →
      Spells 1 s [] := fun h => hone (spells_alterText hd htable h)
  intro s hs
  -- Names between backticks are not among these tokens, so MySQL is left out of every case.
  cases c with
  | primary ix =>
    have hcolumns := follows_inParens hd fun n hn => h n (List.mem_cons_of_mem _ hn)
    have hword : Divider 0 "ADD PRIMARY KEY " := by decide
    cases d with
    | mysql => exact absurd rfl hd
    | postgres => exact hclause ((hword.before hcolumns.spells).spells.mono (Nat.zero_le 1)) hs
    | sqlite => cases hs
  | unique ix =>
    cases d with
    | mysql => exact absurd rfl hd
    | postgres =>
      have hadded := spells_keyed hd (by decide : Divider 0 "ADD CONSTRAINT ")
        (by decide : Divider 0 " UNIQUE ") (h _ List.mem_cons_self)
        fun n hn => h n (List.mem_cons_of_mem _ hn)
      exact hclause (hadded.mono (Nat.zero_le 1)) hs
    | sqlite => exact hone (spells_createIndexText hd (Word.follows (by decide)) htable h) hs
  | index ix =>
    cases d with
    | mysql => exact absurd rfl hd
    | _ => exact hone (spells_createIndexText hd (Word.follows (by decide)) htable h) hs
  | foreign key =>
    cases d with
    | mysql => exact absurd rfl hd
    | postgres =>
      have hblank : Divider 0 " " := by decide
      have hname := spells_named hd (by decide : Divider 0 "ADD CONSTRAINT ") (h key.name List.mem_cons_self)
      have hadded := hname.further hblank (follows_foreignKey hd h).spells
      exact hclause (hadded.mono (Nat.zero_le 1)) hs
    | sqlite => cases hs
  | dropColumns columns =>
    have hdropped : ∀ x ∈ columns.map (dropColumnText d), Spells 1 x [] := by
      intro x hx
      obtain ⟨column, hcolumn, rfl⟩ := List.mem_map.1 hx
      exact spells_named hd (by decide) (h column hcolumn)
    cases d with
    | mysql => exact absurd rfl hd
    | postgres => exact hclause (spells_list (by decide) hdropped) hs
    | sqlite =>
      obtain ⟨column, hcolumn, rfl⟩ := List.mem_map.1 hs
      exact spells_alterText hd htable (hdropped _ (List.mem_map_of_mem hcolumn))
  | dropPrimary name | dropForeign name =>
    cases d with
    | mysql => exact absurd rfl hd
    | postgres => exact hclause (spells_named hd (by decide) (h name List.mem_cons_self)) hs
    | sqlite => cases hs
  | dropUnique name =>
    cases d with
    | mysql => exact absurd rfl hd
    | postgres => exact hclause (spells_named hd (by decide) (h name List.mem_cons_self)) hs
    | sqlite => exact hone (spells_named hd (by decide) (h name List.mem_cons_self)) hs
  | dropIndex name =>
    cases d with
    | mysql => exact absurd rfl hd
    | _ => exact hone (spells_named hd (by decide) (h name List.mem_cons_self)) hs
  | renameColumn old new =>
    have hnew : Unquoted new := h new (by simp [Change.names])
    have hrenamed := (spells_named hd (by decide : Divider 1 "RENAME COLUMN ")
      (h old List.mem_cons_self)).further (by decide : Divider 1 " TO ") (spells_quoteName hd hnew)
    exact hclause hrenamed hs
  | renameIndex old new =>
    have hnew : Unquoted new := h new (by simp [Change.names])
    have hrenamed := (spells_named hd (by decide : Divider 1 "ALTER INDEX ")
      (h old List.mem_cons_self)).further (by decide : Divider 1 " RENAME TO ") (spells_quoteName hd hnew)
    cases d with
    | mysql => exact absurd rfl hd
    | postgres => exact hone hrenamed hs
    | sqlite => cases hs
  | rename new =>
    cases d with
    | mysql => exact absurd rfl hd
    | _ => exact hclause (spells_named hd (by decide) (h new List.mem_cons_self)) hs
  | drop | dropIfExists => exact hone (spells_named hd (by decide) htable) hs

theorem spells_commentText (hd : d ≠ .mysql) {table column : String} (htable : Unquoted table)
    (hcolumn : Unquoted column) (comment : String) :
    Spells 1 (commentText d table column comment) [comment] := by
  have hpoint : Divider 1 "." := by decide
  have his : Divider 1 " IS " := by decide
  have hnamed := (spells_named hd (by decide : Divider 1 "COMMENT ON COLUMN ") htable).further hpoint
    (spells_quoteName hd hcolumn)
  have hall := hnamed.further his (spells_quote comment)
  exact hall

theorem spells_commentTexts (hd : d ≠ .mysql) {table : String} (htable : Unquoted table)
    {columns : List Column} (h : ∀ c ∈ columns, Unquoted c.name) :
    List.Forall₂ (Spells 1) (columns.filterMap fun c => c.comment.map (commentText d table c.name))
      (columns.filterMap fun c => c.comment.map ([·])) := by
  induction columns with
  | nil => exact .nil
  | cons c columns ih =>
    have hrest := ih fun x hx => h x (List.mem_cons_of_mem c hx)
    cases hcomment : c.comment with
    | none => simpa [List.filterMap_cons, hcomment] using hrest
    | some comment =>
      have hfirst := spells_commentText hd htable (h c List.mem_cons_self) comment
      simpa [List.filterMap_cons, hcomment] using ⟨hfirst, hrest⟩

theorem append_ne_empty {s t : String} (h : s ≠ "") : s ++ t ≠ "" := by simp [h]

theorem foreignKey_ne_empty (key : ForeignKey) : key.text d ≠ "" := by
  unfold ForeignKey.text
  repeat apply append_ne_empty
  decide

theorem inlineText_ne_empty (hd : d ≠ .mysql) {c : Change} {s : String} (h : inlineText? d c = some s) :
    s ≠ "" := by
  cases c with
  | primary ix =>
    obtain rfl := Option.some.inj h
    exact append_ne_empty (by decide)
  | unique ix =>
    cases d with
    | mysql => exact absurd rfl hd
    | postgres =>
      obtain rfl := Option.some.inj h
      repeat apply append_ne_empty
      decide
    | sqlite => cases h
  | index ix =>
    cases d with
    | mysql => exact absurd rfl hd
    | postgres | sqlite => cases h
  | foreign key =>
    cases d with
    | mysql => exact absurd rfl hd
    | postgres =>
      obtain rfl := Option.some.inj h
      repeat apply append_ne_empty
      decide
    | sqlite =>
      obtain rfl := Option.some.inj h
      exact foreignKey_ne_empty key
  | _ => cases h

theorem empty_not_mem_tableElements (hd : d ≠ .mysql) {b : Blueprint} : "" ∉ tableElements d b := by
  intro hmem
  obtain hcolumn | hchange := List.mem_append.1 hmem
  · obtain ⟨c, -, htext⟩ := List.mem_map.1 hcolumn
    simp [definitionText] at htext
  · obtain ⟨c, -, htext⟩ := List.mem_filterMap.1 hchange
    exact inlineText_ne_empty hd htext rfl

/-! ## Blueprints -/

def commentLiterals (d : Dialect) (b : Blueprint) : List (List String) :=
  match d with
  | .postgres => b.columns.filterMap fun c => c.comment.map ([·])
  | _ => []

def changeLiterals (d : Dialect) (table : String) (c : Change) : List (List String) :=
  (changeStatements d table c).map fun _ => []

/-- The literals in each statement. A creation has all the defaults in its first one, an alteration has one
statement for each column, and the comments come last. -/
def Blueprint.literals (d : Dialect) (b : Blueprint) : Purpose → List (List String)
  | .create =>
    b.columns.flatMap Column.literals :: (trailingChanges d b).flatMap (changeLiterals d b.table)
      ++ commentLiterals d b
  | .alter =>
    b.columns.map Column.literals ++ b.allChanges.flatMap (changeLiterals d b.table) ++ commentLiterals d b

/-- A blueprint whose names have no quotes and whose defaults are no expressions. -/
structure Blueprint.Writable (b : Blueprint) : Prop where
  names : ∀ n ∈ b.names, Unquoted n
  defaults : ∀ c ∈ b.columns, ∀ sql, c.default ≠ some (.expression sql)

namespace Blueprint.Writable
variable {b : Blueprint}

theorem table (h : b.Writable) : Unquoted b.table := h.names _ (by simp [Blueprint.names])

theorem column (h : b.Writable) {c : Column} (hc : c ∈ b.columns) : c.Writable := by
  have hnames : ∀ n ∈ c.name :: c.collation.toList, Unquoted n := by
    intro n hn
    refine h.names n (List.mem_append_left _ (List.mem_cons_of_mem _ ?_))
    exact List.mem_flatMap.2 ⟨c, hc, hn⟩
  refine ⟨hnames _ List.mem_cons_self, fun n hn => hnames n (List.mem_cons_of_mem _ ?_), h.defaults c hc⟩
  exact Option.mem_toList.2 hn

theorem spells_changes (hd : d ≠ .mysql) (h : b.Writable) {changes : List Change}
    (hchanges : ∀ c ∈ changes, c ∈ b.allChanges) :
    List.Forall₂ (Spells 1) (changes.flatMap (changeStatements d b.table))
      (changes.flatMap (changeLiterals d b.table)) := by
  induction changes with
  | nil => exact .nil
  | cons c changes ih =>
    have hnames := unquoted_allChanges h.names c (hchanges c List.mem_cons_self)
    have hfirst : List.Forall₂ (Spells 1) (changeStatements d b.table c) (changeLiterals d b.table c) :=
      List.forall₂_map_right_iff.2 (List.forall₂_same.2 (spells_change hd h.table hnames))
    have hrest := ih fun x hx => hchanges x (List.mem_cons_of_mem c hx)
    exact List.rel_append hfirst hrest

theorem spells_comments (hd : d ≠ .mysql) (h : b.Writable) :
    List.Forall₂ (Spells 1) (commentStatements d b) (commentLiterals d b) := by
  cases d with
  | mysql => exact absurd rfl hd
  | sqlite => exact .nil
  | postgres => exact spells_commentTexts hd h.table fun c hc => (h.column hc).name

theorem spells_elements (hd : d ≠ .mysql) (h : b.Writable) :
    List.Forall₂ (Spells 0) (tableElements d b)
      (b.columns.map Column.literals ++ (b.allChanges.filterMap (inlineText? d)).map fun _ => []) := by
  refine List.rel_append ?_ ?_
  · rw [List.forall₂_map_left_iff, List.forall₂_map_right_iff, List.forall₂_same]
    intro c hc
    exact spells_definition hd (h.column hc)
  · refine List.forall₂_map_right_iff.2 (List.forall₂_same.2 fun s hs => ?_)
    obtain ⟨c, hc, htext⟩ := List.mem_filterMap.1 hs
    exact spells_inline hd (unquoted_allChanges h.names c hc) htext

def createWord (temporary : Bool) : String :=
  "CREATE " ++ (if temporary then "TEMPORARY " else "") ++ "TABLE "

theorem word_createWord : ∀ temporary, Word 0 (createWord temporary) := by decide

theorem heading_tokens (hd : d ≠ .mysql) (temporary : Bool) {table : String} (h : Unquoted table) :
    ∃ ts, (createWord temporary ++ quoteName d table ++ " ").toList = spell ts ∧ Sound 0 ts ∧
      values ts = [] ∧ (∀ t ∈ ts, t ≠ .mark '(') ∧ ∀ t ∈ ts.getLast?, t.IsMark := by
  obtain ⟨name, hname, hsound, hvalues, hparens⟩ := quoteName_tokens hd h
  have hword := word_createWord temporary
  have hblank : Sound 0 [Token.mark ' '] := sound_mark rfl (by decide) fun n _ => by simp [Token.level?]
  have hnamed := (sound_marks hword).append hsound (Or.inl fun x hx =>
    isMark_map _ x (List.mem_of_getLast? hx))
  have hall := hnamed.append hblank (Or.inr fun x hx => ⟨' ', by simpa using hx.symm⟩)
  refine ⟨_, ?_, hall, ?_, fun t ht => ?_, fun t ht => ⟨' ', by simpa using ht.symm⟩⟩
  · simp [hname, spell_marks, Token.spell]
  · rw [values_append, values_append, values_marks, hvalues]
    rfl
  · obtain (ht | ht) | ht := by simpa only [List.mem_append] using ht
    · obtain ⟨c, hc, rfl⟩ := List.mem_map.1 ht
      simpa using (hword c hc).2.2.1
    · exact hparens t ht
    · obtain rfl := List.mem_singleton.1 ht
      decide

theorem elements_tokens (hd : d ≠ .mysql) (h : b.Writable) :
    ∃ es : List (List Token), (tableElements d b).map String.toList = es.map spell ∧
      (∀ e ∈ es, Sound 0 e) ∧ es.flatMap values = b.columns.flatMap Column.literals ∧ es ≠ [[]] := by
  obtain ⟨es, hes, hsound, hvalues⟩ := exists_tokens (spells_elements hd h)
  refine ⟨es, hes, hsound, ?_, fun hempty => ?_⟩
  · rw [List.flatMap_def, hvalues]
    simp [List.flatMap_def]
  · have hnil : [] ∈ (tableElements d b).map String.toList := by
      rw [hes, hempty]
      exact List.mem_singleton_self _
    obtain ⟨s, hs, hsnil⟩ := List.mem_map.1 hnil
    obtain rfl := String.toList_eq_nil_iff.1 hsnil
    exact empty_not_mem_tableElements hd hs

/-- The tokens of a creation: a heading, and the elements of the table in parentheses. -/
theorem create_tokens (hd : d ≠ .mysql) (h : b.Writable) :
    ∃ ts, (createText d b).toList = spell ts ∧ Sound 0 ts ∧
      values ts = b.columns.flatMap Column.literals ∧
      (members ts).map (fun e => String.ofList (spell e)) = tableElements d b := by
  obtain ⟨heading, hheading, hsound, hnone, hparens, hlast⟩ := heading_tokens hd b.temporary h.table
  obtain ⟨es, hes, helements, hvalues, hne⟩ := elements_tokens hd h
  have hcomma : Sound 1 ([',', ' '].map Token.mark) := sound_marks (by simp [isQuote])
  have hinner := sound_intercalate (by simp) hcomma fun e he => (helements e he).mono (Nat.zero_le 1)
  have htext : createText d b = createWord b.temporary ++ quoteName d b.table ++ " " ++
      ("(" ++ ", ".intercalate (tableElements d b) ++ ")") := by
    have hoptions : tableOptions d b = "" := by
      cases d with
      | mysql => exact absurd rfl hd
      | postgres | sqlite => rfl
    rw [createText, hoptions, ← String.toList_inj]
    simp [createWord]
  have hbody : (", ".intercalate (tableElements d b)).toList =
      spell (([',', ' '].map Token.mark).intercalate es) := by
    rw [String.toList_intercalate, hes, spell_intercalate, spell_marks]
    rfl
  refine ⟨_, ?_, hsound.append hinner.parens (Or.inl hlast), ?_, ?_⟩
  · rw [htext, String.toList_append, hheading, spell_append, String.toList_append, String.toList_append,
      hbody, spell_append]
    rfl
  · rw [values_append, hnone, List.nil_append, ← hvalues, ← values_intercalate [',', ' '], values_append]
    simp [values, Token.value?, List.filterMap_cons]
  · have hmembers : members (heading ++ (.mark '(' :: _ ++ [.mark ')'])) = es :=
      members_joined hparens hne fun e he => (helements e he).level 0 le_rfl
    calc (members _).map (fun e => String.ofList (spell e))
        = es.map fun e => String.ofList (spell e) := congrArg _ hmembers
      _ = ((tableElements d b).map String.toList).map String.ofList := by rw [hes, List.map_map]; rfl
      _ = tableElements d b := by simp [Function.comp_def]

theorem spells_statements (hd : d ≠ .mysql) (h : b.Writable) (p : Purpose) :
    List.Forall₂ (Spells 1) (b.statements d p) (b.literals d p) := by
  have hcomments := h.spells_comments hd
  cases p with
  | create =>
    obtain ⟨ts, hts, hsound, hvalues, -⟩ := h.create_tokens hd
    have hcreate : Spells 1 (createText d b) (b.columns.flatMap Column.literals) :=
      ⟨ts, hts, hsound.mono (Nat.zero_le 1), hvalues⟩
    have htrailing : ∀ c ∈ trailingChanges d b, c ∈ b.allChanges := fun c hc => List.mem_of_mem_filter hc
    have hchanges := h.spells_changes hd htrailing
    exact List.rel_append (.cons hcreate hchanges) hcomments
  | alter =>
    have hcolumns : List.Forall₂ (Spells 1) (b.columns.map (addColumnText d b.table))
        (b.columns.map Column.literals) := by
      rw [List.forall₂_map_left_iff, List.forall₂_map_right_iff, List.forall₂_same]
      intro c hc
      have hword : Divider 1 "ADD COLUMN " := by decide
      have hdefinition := (spells_definition hd (h.column hc)).mono (Nat.zero_le 1)
      exact spells_alterText hd h.table (hword.before hdefinition).spells
    exact List.rel_append (List.rel_append hcolumns (h.spells_changes hd fun c hc => hc)) hcomments

end Blueprint.Writable

end

/-- Every statement is read to its end without a semicolon outside of quotes, its literals are the texts
that were given, and the members of a creation are the columns and then the changes. -/
theorem texts_read_back {d : Dialect} {b : Blueprint} (hd : d ≠ .mysql) (hb : b.Writable) :
    (∀ p, ∃ tokens : List (List Token), (b.statements d p).map tokens? = tokens.map some ∧
      (∀ ts ∈ tokens, .mark ';' ∉ ts) ∧ tokens.map values = b.literals d p) ∧
    ∃ creation ts, (b.statements d .create).head? = some creation ∧ tokens? creation = some ts ∧
      (members ts).map (fun e => String.ofList (spell e)) =
        b.columns.map (definitionText d) ++ b.allChanges.filterMap (inlineText? d) := by
  refine ⟨fun p => tokens_all (hb.spells_statements hd p), ?_⟩
  obtain ⟨ts, hts, hsound, -, hmembers⟩ := hb.create_tokens hd
  refine ⟨createText d b, ts, rfl, ?_, hmembers⟩
  rw [tokens?, hts]
  exact read_spell hsound.apart fun c hc => (hsound.marks c hc).1

def pages : Blueprint where
  table := "pages"
  columns :=
    [{ Column.id with collation := some "C" },
     { name := "title", type := .varchar 50, unique := true,
       default := some (.literal (.text "it's; (a, b")), comment := some "what's \"shown\"" }]

theorem texts_read_back_pages : pages.Writable ∧
    (∃ tokens : List (List Token), (pages.statements .postgres .create).map tokens? = tokens.map some ∧
      (∀ ts ∈ tokens, .mark ';' ∉ ts) ∧
      tokens.map values = [["it's; (a, b"], ["what's \"shown\""]]) ∧
    ∃ ts, tokens? (createText .postgres pages) = some ts ∧
      (members ts).map (fun e => String.ofList (spell e)) =
        pages.columns.map (definitionText .postgres) ++
          ["CONSTRAINT \"pages_title_unique\" UNIQUE (\"title\")"] := by
  have hpages : pages.Writable := ⟨by decide +kernel, by simp [pages, Column.id, Column.key]⟩
  have hdialect : Dialect.postgres ≠ .mysql := by decide
  have hread := texts_read_back hdialect hpages
  obtain ⟨tokens, htokens, hmarks, hvalues⟩ := hread.1 .create
  obtain ⟨creation, ts, hfirst, hts, hmembers⟩ := hread.2
  obtain rfl : createText .postgres pages = creation := Option.some.inj hfirst
  have hinline : pages.allChanges.filterMap (inlineText? .postgres) =
      ["CONSTRAINT \"pages_title_unique\" UNIQUE (\"title\")"] := by decide +kernel
  rw [hinline] at hmembers
  exact ⟨hpages, ⟨tokens, htokens, hmarks, hvalues⟩, ts, hts, hmembers⟩

end SqlKit.Schema
