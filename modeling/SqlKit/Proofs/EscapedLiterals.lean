import Mathlib.Algebra.Group.Nat.Even
import Mathlib.Data.List.DropRight
import SqlKit.Proofs.DeclarationReading

/-!
# Literals with escapes

MySQL reads a backslash in a literal together with the character behind it. Literals are written with their
quotes doubled and nothing else changed, so a text is read back as it was given exactly if all of its
backslashes stand where MySQL keeps them, before a percent sign or an underscore. If a quote or the end of
the text stands behind an odd number of backslashes, not even the end of the literal is found. Both hold for
the type, the collation, the default and the comment of a column, behind which no quote ever follows.
-/

namespace SqlKit.Quoting

/-! ## Reading -/

/-- What a backslash and the character behind it stand for. -/
def unescaped : Char → List Char
  | '0' => [Char.ofNat 0]
  | 'b' => [Char.ofNat 8]
  | 't' => [Char.ofNat 9]
  | 'n' => [Char.ofNat 10]
  | 'r' => [Char.ofNat 13]
  | 'Z' => [Char.ofNat 26]
  | '%' => ['\\', '%']
  | '_' => ['\\', '_']
  | c => [c]

/-- The text of a literal whose first quote was read, and what follows its last one. -/
def body? : List Char → Option (List Char × List Char)
  | [] | ['\\'] => none
  | '\\' :: c :: cs => (body? cs).map (Prod.map (unescaped c ++ ·) id)
  | '\'' :: '\'' :: cs => (body? cs).map (Prod.map ('\'' :: ·) id)
  | '\'' :: cs => some ([], cs)
  | c :: cs => (body? cs).map (Prod.map (c :: ·) id)

/-- The text of the literal that comes first, and what follows it. -/
def literal? : List Char → Option (List Char × List Char)
  | '\'' :: cs => body? cs
  | _ => none

/-- What is read of a text between quotes, if its last quote is found. -/
def reread? : List Char → Option (List Char)
  | [] => some []
  | ['\\'] => none
  | '\\' :: '\'' :: _ => none
  | '\\' :: c :: cs => (reread? cs).map (unescaped c ++ ·)
  | c :: cs => (reread? cs).map (c :: ·)

section
variable {c : Char} {cs s text rest : List Char}

theorem body_escape : body? ('\\' :: c :: cs) = (body? cs).map (Prod.map (unescaped c ++ ·) id) := rfl

theorem body_quotes : body? ('\'' :: '\'' :: cs) = (body? cs).map (Prod.map ('\'' :: ·) id) := rfl

theorem body_quote (h : cs.head? ≠ some '\'') : body? ('\'' :: cs) = some ([], cs) := by
  cases cs with
  | nil => rfl
  | cons c cs =>
    have hc : c ≠ '\'' := fun he => h (congrArg some he)
    simp [body?, hc]

theorem body_other (hslash : c ≠ '\\') (hquote : c ≠ '\'') :
    body? (c :: cs) = (body? cs).map (Prod.map (c :: ·) id) := by
  rw [body?]
  all_goals simp_all

theorem map_read_iff {f : List Char → List Char} {o : Option (List Char × List Char)} :
    o.map (Prod.map f id) = some (text, rest) ↔ ∃ t, o = some (t, rest) ∧ f t = text := by
  simp [Option.map_eq_some_iff, Prod.ext_iff]

theorem map_read_congr {f : List Char → List Char} {o : Option (List Char × List Char)}
    {u : Option (List Char)} {p : Prop} (h : ∀ {t}, o = some (t, rest) ↔ u = some t ∧ p) :
    o.map (Prod.map f id) = some (text, rest) ↔ u.map f = some text ∧ p := by
  rw [map_read_iff, Option.map_eq_some_iff, ← exists_and_right]
  exact exists_congr fun t => by rw [h, and_right_comm]

theorem length_body (h : body? cs = some (text, rest)) : rest.length < cs.length := by
  fun_induction body? cs generalizing text with
  | case1 => cases h
  | case2 => cases h
  | case3 c cs ih | case4 cs ih | case6 c cs _ _ _ _ ih =>
    obtain ⟨t, hbody, -⟩ := map_read_iff.1 h
    have hshorter := ih hbody
    simp only [List.length_cons]
    omega
  | case5 cs =>
    cases h
    simp

/-- A character that begins no escape, as the cases of the reader leave it. -/
theorem ne_backslash (hend : c = '\\' → s = [] → False) (hnext : ∀ e t, c = '\\' → s = e :: t → False) :
    c ≠ '\\' := by
  rintro rfl
  cases s with
  | nil => exact hend rfl rfl
  | cons e t => exact hnext e t rfl rfl

theorem doubled_quote : doubled '\'' ('\'' :: s) = '\'' :: '\'' :: doubled '\'' s := by
  simp [doubled]

theorem doubled_other (h : c ≠ '\'') : doubled '\'' (c :: s) = c :: doubled '\'' s := by
  simp [doubled, h]

/-- Behind a quote that is not taken for the first of two, the end is not found where it was meant to be. -/
theorem body_behind_quote (s text rest : List Char) :
    body? ('\'' :: (doubled '\'' s ++ '\'' :: rest)) ≠ some (text, rest) := by
  induction s generalizing text with
  | nil =>
    intro h
    rw [doubled, List.flatMap_nil, List.nil_append, body_quotes] at h
    obtain ⟨t, hbody, -⟩ := map_read_iff.1 h
    exact absurd (length_body hbody) (lt_irrefl _)
  | cons c s ih =>
    intro h
    by_cases hc : c = '\''
    · subst hc
      rw [doubled_quote, List.cons_append, body_quotes] at h
      obtain ⟨t, hbody, -⟩ := map_read_iff.1 h
      exact ih t hbody
    · rw [doubled_other hc, List.cons_append, body_quote (by simpa using hc)] at h
      have hlength := congrArg (List.length ∘ Prod.snd) (Option.some.inj h)
      simp at hlength
      omega

theorem body_end : body? ('\'' :: rest) = some (text, rest) ↔ [] = text ∧ rest.head? ≠ some '\'' := by
  by_cases hrest : rest.head? = some '\''
  · obtain ⟨cs, rfl⟩ : ∃ cs, rest = '\'' :: cs := List.head?_eq_some_iff.1 hrest
    have hnever : body? ('\'' :: '\'' :: cs) ≠ some (text, '\'' :: cs) := by
      rw [body_quotes]
      intro h
      obtain ⟨t, hbody, -⟩ := map_read_iff.1 h
      exact absurd (length_body hbody) (by simp)
    simp [hnever]
  · simp [body_quote hrest, hrest]

/-- The end is found where it was meant to be if the text is read to its end and no quote follows. -/
theorem body_doubled : body? (doubled '\'' s ++ '\'' :: rest) = some (text, rest) ↔
    reread? s = some text ∧ rest.head? ≠ some '\'' := by
  fun_induction reread? s generalizing text with
  | case1 => simp [doubled, body_end]
  | case2 =>
    -- The last quote is escaped, and what follows is read as well.
    have hread : body? (doubled '\'' ['\\'] ++ '\'' :: rest) = (body? rest).map (Prod.map ('\'' :: ·) id) :=
      body_escape
    rw [hread, map_read_iff]
    simp only [reduceCtorEq, false_and, iff_false, not_exists, not_and]
    exact fun t hbody => absurd (length_body hbody) (lt_irrefl _)
  | case3 s =>
    -- The first of two quotes is escaped, and the second one is out of step.
    have hread : body? (doubled '\'' ('\\' :: '\'' :: s) ++ '\'' :: rest) =
        (body? ('\'' :: (doubled '\'' s ++ '\'' :: rest))).map (Prod.map ('\'' :: ·) id) := by
      rw [doubled_other (by decide), doubled_quote]
      exact body_escape
    rw [hread, map_read_iff]
    simp only [reduceCtorEq, false_and, iff_false, not_exists, not_and]
    exact fun t hbody => absurd hbody (body_behind_quote s t rest)
  | case4 c s hc ih =>
    rw [doubled_other (by decide), doubled_other hc, List.cons_append, List.cons_append, body_escape]
    exact map_read_congr ih
  | case5 c s hend _ hnext ih =>
    by_cases hc : c = '\''
    · rw [hc, doubled_quote, List.cons_append, List.cons_append, body_quotes]
      exact map_read_congr ih
    · rw [doubled_other hc, List.cons_append, body_other (ne_backslash hend hnext) hc]
      exact map_read_congr ih

theorem literal_enclosed : literal? (enclosed '\'' s ++ rest) = some (text, rest) ↔
    reread? s = some text ∧ rest.head? ≠ some '\'' := by
  rw [← body_doubled]
  simp [enclosed, literal?]

/-! ## Texts that are read as they were given -/

/-- Every backslash stands before a percent sign or an underscore. -/
def Faithful (s : List Char) : Prop :=
  ∀ after, '\\' :: after <:+ s → after.head? = some '%' ∨ after.head? = some '_'

theorem faithful_cons : Faithful (c :: s) ↔
    (c = '\\' → s.head? = some '%' ∨ s.head? = some '_') ∧ Faithful s := by
  simp only [Faithful, List.suffix_cons_iff, List.cons.injEq]
  constructor
  · exact fun h => ⟨fun hc => h s (.inl ⟨hc.symm, rfl⟩), fun after hafter => h after (.inr hafter)⟩
  · rintro ⟨hfirst, hrest⟩ after (⟨rfl, rfl⟩ | hafter)
    · exact hfirst rfl
    · exact hrest after hafter

theorem faithful_other (h : c ≠ '\\') : Faithful (c :: s) ↔ Faithful s := by
  simp [faithful_cons, h]

/-- Only two escapes are kept as they are; all others get shorter. -/
theorem unescaped_cases (c : Char) :
    unescaped c = ['\\', c] ∧ (c = '%' ∨ c = '_') ∨ (unescaped c).length = 1 ∧ c ≠ '%' ∧ c ≠ '_' := by
  unfold unescaped
  split
  all_goals simp_all

theorem length_reread (h : reread? s = some text) : text.length ≤ s.length := by
  fun_induction reread? s generalizing text with
  | case1 =>
    cases h
    simp
  | case2 => cases h
  | case3 => cases h
  | case4 c s _ ih =>
    obtain ⟨t, hread, rfl⟩ := Option.map_eq_some_iff.1 h
    have hshort := ih hread
    have hescape : (unescaped c).length ≤ 2 := by
      rcases unescaped_cases c with ⟨hkept, -⟩ | ⟨hone, -⟩
      · simp [hkept]
      · omega
    simp only [List.length_append, List.length_cons]
    omega
  | case5 c s _ _ _ ih =>
    obtain ⟨t, hread, rfl⟩ := Option.map_eq_some_iff.1 h
    simpa using ih hread

theorem reread_eq_self_iff : reread? s = some s ↔ Faithful s := by
  fun_induction reread? s with
  | case1 => simp [Faithful]
  | case2 => simp [faithful_cons]
  | case3 s => simp [faithful_cons]
  | case4 c s hc ih =>
    rw [faithful_cons, Option.map_eq_some_iff]
    rcases unescaped_cases c with ⟨hkept, hmark⟩ | ⟨hone, hpercent, hlow⟩
    · have hslash : c ≠ '\\' := by
        rcases hmark with rfl | rfl <;> decide
      rw [faithful_other hslash, ← ih]
      simp [hkept, hmark]
    · simp only [List.head?_cons, Option.some.injEq, hpercent, hlow, or_self, imp_false, not_true_eq_false,
        false_and, iff_false, not_exists, not_and]
      intro t hread htext
      have hshort := length_reread hread
      have hlength := congrArg List.length htext
      simp only [List.length_append, List.length_cons] at hlength
      omega
  | case5 c s hend _ hnext ih =>
    rw [faithful_other (ne_backslash hend hnext), ← ih]
    simp

/-! ## Texts whose end is found -/

/-- No quote in the text and not its end stands behind an odd number of backslashes. -/
def Closes (s : List Char) : Prop :=
  ∀ before after, s = before ++ after → (∀ c ∈ after.head?, c = '\'') →
    Even (before.rtakeWhile (· = '\\')).length

/-- Whether a text escapes the character behind it. -/
def escapes (s : List Char) : Bool := s.foldl (fun escaped c => c == '\\' && !escaped) false

theorem even_slashes_iff (s : List Char) : Even (s.rtakeWhile (· = '\\')).length ↔ escapes s = false := by
  induction s using List.reverseRecOn with
  | nil => simp [escapes]
  | append_singleton s c ih =>
    have hstep : escapes (s ++ [c]) = (c == '\\' && !escapes s) := by simp [escapes]
    rw [hstep, List.rtakeWhile_concat]
    by_cases hc : c = '\\'
    · simp [hc, Nat.even_add_one, ih]
    · simp [hc]

theorem escapes_other (h : c ≠ '\\') : escapes (c :: s) = escapes s := by
  have hc : (c == '\\') = false := beq_false_of_ne h
  simp [escapes, hc]

theorem escapes_escape : escapes ('\\' :: c :: s) = escapes s := by simp [escapes]

theorem closes_iff : Closes s ↔
    ∀ before after, s = before ++ after → (∀ c ∈ after.head?, c = '\'') → escapes before = false := by
  simp only [Closes, even_slashes_iff]

theorem closes_other (h : c ≠ '\\') : Closes (c :: s) ↔ Closes s := by
  rw [closes_iff, closes_iff]
  constructor
  · rintro hall before after rfl hafter
    rw [← escapes_other h]
    exact hall (c :: before) after rfl hafter
  · intro hall before after hs hafter
    cases before with
    | nil => rfl
    | cons x before =>
      obtain ⟨rfl, rfl⟩ := List.cons.inj hs
      rw [escapes_other h]
      exact hall before after rfl hafter

theorem closes_escape (h : c ≠ '\'') : Closes ('\\' :: c :: s) ↔ Closes s := by
  rw [closes_iff, closes_iff]
  constructor
  · rintro hall before after rfl hafter
    rw [← escapes_escape (c := c)]
    exact hall ('\\' :: c :: before) after rfl hafter
  · intro hall before after hs hafter
    match before with
    | [] => rfl
    | [x] =>
      obtain ⟨rfl, rfl⟩ := List.cons.inj hs
      exact absurd (hafter c rfl) h
    | x :: y :: before =>
      obtain ⟨rfl, hrest⟩ := List.cons.inj hs
      obtain ⟨rfl, rfl⟩ := List.cons.inj hrest
      rw [escapes_escape]
      exact hall before after rfl hafter

theorem not_closes_escaped (h : ∀ c ∈ s.head?, c = '\'') : ¬ Closes ('\\' :: s) := fun hall =>
  absurd (closes_iff.1 hall ['\\'] s rfl h) (by decide)

theorem reread_isSome_iff : (reread? s).isSome = true ↔ Closes s := by
  fun_induction reread? s with
  | case1 =>
    refine iff_of_true rfl fun before after hnil _ => ?_
    obtain ⟨rfl, -⟩ := List.append_eq_nil_iff.1 hnil.symm
    simp
  | case2 => exact iff_of_false (by simp) (not_closes_escaped (by simp))
  | case3 s => exact iff_of_false (by simp) (not_closes_escaped (by simp))
  | case4 c s hc ih => rw [Option.isSome_map, ih, closes_escape hc]
  | case5 c s hend _ hnext ih =>
    rw [Option.isSome_map, ih, closes_other (ne_backslash hend hnext)]

end
end SqlKit.Quoting

namespace SqlKit.Schema
open Quoting Declarations

/-! ## Statements in pieces -/

/-- A stretch of a statement: one that stands as it is, or a text that is quoted. -/
inductive Piece where
  | plain (text : String)
  | literal (text : String)

namespace Piece

def spelled : Piece → String
  | .plain text => text
  | .literal text => Value.quote text

def literal? : Piece → Option String
  | .plain _ => none
  | .literal text => some text

end Piece

def spell : List Piece → String
  | [] => ""
  | p :: ps => p.spelled ++ spell ps

def literals (ps : List Piece) : List String := ps.filterMap Piece.literal?

/-- Elements with commas between them. -/
def listed : List (List Piece) → List Piece
  | [] => []
  | [ps] => ps
  | ps :: more => ps ++ .plain ", " :: listed more

def optional (word : String) (text : Option String) : List Piece :=
  (text.map fun s => [.plain word, .literal s]).getD []

def Default.quoted? : Default → Option String
  | .literal (.text s) => some s
  | .literal (.json j) => some j.compact
  | .literal (.dateTime t) => some t.stored
  | _ => none

def ColumnType.members : ColumnType → List String
  | .oneOf members => members
  | _ => []

/-- The texts that a column is declared with, in the order in which they are written. -/
def Column.quotedTexts (c : Column) : List String :=
  c.type.members ++ c.collation.toList ++ (c.default.bind Default.quoted?).toList ++ c.comment.toList

def typePieces : ColumnType → List Piece
  | .oneOf members => .plain "ENUM(" :: listed (members.map fun s => [.literal s]) ++ [.plain ")"]
  | t => [.plain (mysqlType t)]

def defaultPieces (c : Column) : List Piece :=
  match c.default.bind Default.quoted? with
  | some s => [.plain " DEFAULT ", .literal s]
  | none => [.plain (defaultText .mysql c)]

def modifierPieces (c : Column) : List (List Piece) :=
  [[.plain (leadingText .mysql { c with collation := none })], optional " COLLATE " c.collation,
    [.plain (nullText c)], defaultPieces c, [.plain (counterText .mysql c)], optional " COMMENT " c.comment,
    [.plain (trailingText .mysql { c with comment := none })]]

def definitionPieces (c : Column) : List Piece :=
  .plain (quoteName .mysql c.name ++ " ") :: typePieces c.type ++ (modifierPieces c).flatten

def createPieces (b : Blueprint) : List Piece :=
  .plain ("CREATE " ++ (if b.temporary then "TEMPORARY " else "") ++ "TABLE " ++ quoteName .mysql b.table ++ " (")
    :: listed (b.columns.map definitionPieces ++ (b.allChanges.filterMap (inlineText? .mysql)).map ([.plain ·]))
    ++ [.plain (")" ++ tableOptions .mysql b)]

/-- The pieces of each statement of a blueprint. Only columns are written with literals. -/
def statementPieces (b : Blueprint) : Purpose → List (List Piece)
  | .create =>
    createPieces b :: ((trailingChanges .mysql b).flatMap (changeStatements .mysql b.table)).map ([.plain ·])
  | .alter =>
    b.columns.map (fun c => .plain (alterText .mysql b.table "ADD COLUMN ") :: definitionPieces c)
      ++ (b.allChanges.flatMap (changeStatements .mysql b.table)).map ([.plain ·])

/-! ## Spelling -/

section
variable {ps qs : List Piece} {pss : List (List Piece)} {c : Column} {b : Blueprint} {p : Purpose} {s t : String}

@[simp] theorem spell_nil : spell [] = "" := rfl
@[simp] theorem spell_plain : spell (.plain t :: ps) = t ++ spell ps := rfl
@[simp] theorem spell_literal : spell (.literal s :: ps) = Value.quote s ++ spell ps := rfl

@[simp] theorem spell_append : spell (ps ++ qs) = spell ps ++ spell qs := by
  induction ps with
  | nil => simp
  | cons p ps ih => simp [spell, ih, String.append_assoc]

theorem spell_listed : spell (listed pss) = ", ".intercalate (pss.map spell) := by
  fun_induction listed pss with
  | case1 => rfl
  | case2 ps => simp
  | case3 ps more h ih =>
    rw [List.map_cons, String.intercalate_cons_of_ne_nil (by simpa using h)]
    simp [ih, String.append_assoc]

theorem spell_optional (word : String) (text : Option String) :
    spell (optional word text) = option word Value.quote text := by
  cases text <;> simp [optional, option]

theorem spell_type (t : ColumnType) : spell (typePieces t) = mysqlType t := by
  cases t with
  | oneOf members =>
    have hmembers : (spell ∘ fun s => [Piece.literal s]) = Value.quote := by
      funext s
      simp
    simp [typePieces, mysqlType, spell_listed, hmembers, String.append_assoc]
  | _ => simp [typePieces]

theorem spell_default (c : Column) : spell (defaultPieces c) = defaultText .mysql c := by
  unfold defaultPieces
  split
  · rename_i s hs
    obtain ⟨v, hv, hquoted⟩ := Option.bind_eq_some_iff.1 hs
    unfold Default.quoted? at hquoted
    split at hquoted
    all_goals simp_all [defaultText, Default.text, Value.inline]
  · simp

theorem spell_definition (c : Column) : spell (definitionPieces c) = definitionText .mysql c := by
  simp [definitionPieces, modifierPieces, definitionText, typeText, modifiersText, leadingText, trailingText,
    spell_type, spell_optional, spell_default, option, String.append_assoc]

theorem map_spell_plain (ts : List String) : (ts.map ([Piece.plain ·])).map spell = ts := by
  simp [Function.comp_def]

theorem spell_create (b : Blueprint) : spell (createPieces b) = createText .mysql b := by
  have helements : (b.columns.map definitionPieces ++
      (b.allChanges.filterMap (inlineText? .mysql)).map ([Piece.plain ·])).map spell =
      tableElements .mysql b := by
    rw [List.map_append, map_spell_plain, List.map_map]
    simp [tableElements, Function.comp_def, spell_definition]
  simp only [createPieces, List.cons_append, spell_plain, spell_append, spell_listed, helements, createText]
  simp [String.append_assoc]

theorem spell_statements (b : Blueprint) (p : Purpose) :
    (statementPieces b p).map spell = b.statements .mysql p := by
  cases p with
  | create =>
    rw [statementPieces, List.map_cons, map_spell_plain, spell_create]
    simp [Blueprint.statements, createStatements, commentStatements]
  | alter =>
    have hcolumns : (spell ∘ fun c => .plain (alterText .mysql b.table "ADD COLUMN ") :: definitionPieces c) =
        addColumnText .mysql b.table := by
      funext c
      simp only [Function.comp_apply, spell_plain, spell_definition, addColumnText, alterText, String.append_assoc]
    rw [statementPieces, List.map_append, map_spell_plain, List.map_map, hcolumns]
    simp [Blueprint.statements, alterStatements, commentStatements]

/-! ## The literals of a statement -/

@[simp] theorem literals_nil : literals [] = [] := rfl
@[simp] theorem literals_plain : literals (.plain t :: ps) = literals ps := rfl
@[simp] theorem literals_literal : literals (.literal s :: ps) = s :: literals ps := rfl
@[simp] theorem literals_append : literals (ps ++ qs) = literals ps ++ literals qs := List.filterMap_append

theorem literals_listed : literals (listed pss) = pss.flatMap literals := by
  fun_induction listed pss with
  | case1 => rfl
  | case2 ps => simp
  | case3 ps more h ih => simp [ih]

theorem literals_optional (word : String) (text : Option String) :
    literals (optional word text) = text.toList := by
  cases text <;> rfl

theorem literals_type (t : ColumnType) : literals (typePieces t) = t.members := by
  cases t with
  | oneOf members => simp [typePieces, ColumnType.members, literals_listed, List.flatMap_map]
  | _ => rfl

theorem literals_default (c : Column) : literals (defaultPieces c) = (c.default.bind Default.quoted?).toList := by
  unfold defaultPieces
  split
  all_goals simp_all

theorem literals_definition (c : Column) : literals (definitionPieces c) = c.quotedTexts := by
  simp [definitionPieces, modifierPieces, Column.quotedTexts, literals_type, literals_optional, literals_default]

theorem flatMap_literals_plain (ts : List String) : (ts.map ([Piece.plain ·])).flatMap literals = [] := by
  simp [List.flatMap_map]

theorem literals_statements (b : Blueprint) (p : Purpose) :
    (statementPieces b p).flatMap literals = b.columns.flatMap Column.quotedTexts := by
  cases p with
  | create =>
    rw [statementPieces, List.flatMap_cons, flatMap_literals_plain, createPieces, literals_append]
    simp [literals_listed, List.flatMap_map, literals_definition]
  | alter =>
    rw [statementPieces, List.flatMap_append, flatMap_literals_plain, List.flatMap_map]
    simp [literals_definition]

/-! ## What follows a literal -/

/-- Behind a literal stands neither a quote nor a word. -/
def Spaced (ps : List Piece) : Prop := ∀ before s after, ps = before ++ .literal s :: after → Apart (spell after)

theorem spaced_plain : Spaced [.plain t] := by
  intro before s after h
  have hmem : Piece.literal s ∈ [Piece.plain t] := by simp [h]
  simp at hmem

theorem spaced_literal : Spaced [.literal t] := by
  intro before s after h
  have hlength := congrArg List.length h
  simp only [List.length_append, List.length_cons, List.length_nil] at hlength
  obtain rfl : after = [] := List.length_eq_zero_iff.1 (by omega)
  decide

theorem Spaced.cons (h : Spaced ps) (t : String) : Spaced (.plain t :: ps) := by
  intro before s after heq
  cases before with
  | nil => cases heq
  | cons x before => exact h before s after (List.cons.inj heq).2

theorem Spaced.append (hps : Spaced ps) (hqs : Spaced qs) (hapart : Apart (spell qs)) : Spaced (ps ++ qs) := by
  intro before s after h
  rcases List.append_eq_append_iff.1 h with ⟨middle, -, hmiddle⟩ | ⟨middle, hbefore, hmiddle⟩
  · exact hqs middle s after hmiddle
  · cases middle with
    | nil => exact hqs [] s after hmiddle.symm
    | cons x middle =>
      obtain ⟨rfl, hafter⟩ := List.cons.inj hmiddle
      rw [hafter, List.append_eq, spell_append]
      exact apart_append (hps before s middle hbefore) hapart

theorem apart_plain (h : Apart t) : Apart (spell [.plain t]) := by
  rwa [spell_plain, spell_nil, String.append_empty]

theorem Spaced.append_flatten (hps : Spaced ps) (h : ∀ qs ∈ pss, Spaced qs ∧ Apart (spell qs)) :
    Spaced (ps ++ pss.flatten) := by
  induction pss generalizing ps with
  | nil => simpa using hps
  | cons qs pss ih =>
    obtain ⟨⟨hqs, hapart⟩, hrest⟩ := List.forall_mem_cons.1 h
    rw [List.flatten_cons, ← List.append_assoc]
    exact ih (hps.append hqs hapart) hrest

theorem spaced_listed (h : ∀ ps ∈ pss, Spaced ps) : Spaced (listed pss) := by
  fun_induction listed pss with
  | case1 => simp [Spaced]
  | case2 ps => exact h ps (by simp)
  | case3 ps more _ ih =>
    have hcomma : Apart (spell (.plain ", " :: listed more)) := apart_before (by decide) (by decide)
    exact (h ps (by simp)).append ((ih fun qs hqs => h qs (by simp [hqs])).cons ", ") hcomma

theorem spaced_optional (word : String) (text : Option String) : Spaced (optional word text) := by
  cases text with
  | none => simp [optional, Spaced]
  | some s => exact spaced_literal.cons word

theorem apart_option {word : String} (h : Apart word) (hne : word ≠ "") (write : String → String)
    (text : Option String) : Apart (option word write text) := by
  cases text with
  | none => exact (by decide : Apart "")
  | some s => exact apart_before h hne

theorem apart_optional {word : String} (h : Apart word) (hne : word ≠ "") (text : Option String) :
    Apart (spell (optional word text)) := by
  rw [spell_optional]
  exact apart_option h hne _ text

theorem spaced_type (t : ColumnType) : Spaced (typePieces t) := by
  cases t with
  | oneOf members =>
    have hmembers : Spaced (listed (members.map fun s => [.literal s])) := spaced_listed fun ps hps => by
      obtain ⟨s, -, rfl⟩ := List.mem_map.1 hps
      exact spaced_literal
    exact (hmembers.cons "ENUM(").append spaced_plain (by decide)
  | _ => exact spaced_plain

theorem spaced_default (c : Column) : Spaced (defaultPieces c) := by
  unfold defaultPieces
  split
  · exact spaced_literal.cons " DEFAULT "
  · exact spaced_plain

theorem apart_default (c : Column) : Apart (spell (defaultPieces c)) := by
  rw [spell_default, defaultText]
  cases c.default with
  | none => exact (by decide : Apart "")
  | some v => exact apart_before (w := " DEFAULT ") (by decide) (by decide)

theorem apart_leading (c : Column) : Apart (leadingText .mysql { c with collation := none }) := by
  have hunsigned : Apart (if c.unsigned && (c.type.isInteger || c.counted) then " UNSIGNED" else "") := by
    split <;> decide
  have hcharset : Apart (option " CHARACTER SET " id c.charset) := apart_option (by decide) (by decide) _ _
  exact apart_append (apart_append hunsigned hcharset) (by decide : Apart "")

theorem apart_trailing (c : Column) : Apart (trailingText .mysql { c with comment := none }) := by
  have hbehind : Apart (option " AFTER " (quoteName .mysql) c.behind) := apart_option (by decide) (by decide) _ _
  have hfront : Apart (if c.atFront then " FIRST" else "") := by
    split <;> decide
  exact apart_append (apart_append (by decide : Apart "") hbehind) hfront

theorem spaced_modifiers (c : Column) : ∀ ps ∈ modifierPieces c, Spaced ps ∧ Apart (spell ps) := by
  have hnull : Apart (nullText c) := by
    unfold nullText
    split <;> decide
  have hcounter : Apart (counterText .mysql c) := by
    unfold counterText
    split <;> decide
  simp only [modifierPieces, List.forall_mem_cons, List.not_mem_nil, false_imp_iff, implies_true, and_true]
  exact ⟨⟨spaced_plain, apart_plain (apart_leading c)⟩,
    ⟨spaced_optional _ _, apart_optional (by decide) (by decide) _⟩, ⟨spaced_plain, apart_plain hnull⟩,
    ⟨spaced_default c, apart_default c⟩, ⟨spaced_plain, apart_plain hcounter⟩,
    ⟨spaced_optional _ _, apart_optional (by decide) (by decide) _⟩, spaced_plain, apart_plain (apart_trailing c)⟩

theorem spaced_definition (c : Column) : Spaced (definitionPieces c) :=
  ((spaced_type c.type).cons _).append_flatten (spaced_modifiers c)

theorem spaced_statements (b : Blueprint) (p : Purpose) : ∀ ps ∈ statementPieces b p, Spaced ps := by
  have hplains (ts : List String) : ∀ ps ∈ ts.map ([Piece.plain ·]), Spaced ps := by
    intro ps hps
    obtain ⟨t, -, rfl⟩ := List.mem_map.1 hps
    exact spaced_plain
  have hcolumns : ∀ ps ∈ b.columns.map definitionPieces, Spaced ps := by
    intro ps hps
    obtain ⟨c, -, rfl⟩ := List.mem_map.1 hps
    exact spaced_definition c
  cases p with
  | create =>
    have hclosing : Apart (spell [.plain (")" ++ tableOptions .mysql b)]) :=
      apart_plain (apart_before (by decide) (by decide))
    have hchanges := hplains (b.allChanges.filterMap (inlineText? .mysql))
    have helements := spaced_listed (List.forall_mem_append.2 ⟨hcolumns, hchanges⟩)
    exact List.forall_mem_cons.2 ⟨(helements.cons _).append spaced_plain hclosing, hplains _⟩
  | alter =>
    refine List.forall_mem_append.2 ⟨fun ps hps => ?_, hplains _⟩
    obtain ⟨c, -, rfl⟩ := List.mem_map.1 hps
    exact (spaced_definition c).cons _

end

/-- The statements for MySQL are made of plain stretches and of the literals of their columns, and no quote
follows a literal in them. Whatever is added behind, the literal is read as the text that it was made of
exactly if every backslash in it stands before a percent sign or an underscore, and it is read up to its own
last quote exactly if no quote in the text and not its end stands behind an odd number of backslashes, unless
what is added begins with a quote at once. -/
theorem literals_read_with_escapes (b : Blueprint) (p : Purpose) :
    (statementPieces b p).map spell = b.statements .mysql p ∧
    (statementPieces b p).flatMap literals = b.columns.flatMap Column.quotedTexts ∧
    ∀ ps ∈ statementPieces b p, ∀ before s after, ps = before ++ .literal s :: after →
      (spell after).toList.head? ≠ some '\'' ∧
      ∀ more : List Char,
        let sql := (spell (.literal s :: after)).toList ++ more
        let rest := (spell after).toList ++ more
        (literal? sql = some (s.toList, rest) ↔ Faithful s.toList ∧ rest.head? ≠ some '\'') ∧
        ((∃ text, literal? sql = some (text, rest)) ↔ Closes s.toList ∧ rest.head? ≠ some '\'') := by
  refine ⟨spell_statements b p, literals_statements b p, fun ps hps before s after hsplit => ⟨?_, fun more => ?_⟩⟩
  · have hapart := spaced_statements b p ps hps before s after hsplit
    exact fun hquote => absurd (apart_iff.1 hapart '\'' hquote).1 (by decide)
  · intro sql rest
    have hsql : sql = enclosed '\'' s.toList ++ rest := by
      simp [sql, rest, toList_quote]
    have hread (text : List Char) : literal? sql = some (text, rest) ↔
        reread? s.toList = some text ∧ rest.head? ≠ some '\'' := by
      rw [hsql, literal_enclosed]
    refine ⟨by rw [hread, reread_eq_self_iff], ?_⟩
    simp only [hread, exists_and_right, ← Option.isSome_iff_exists, reread_isSome_iff]

/-- A default that is a backslash goes on into the comment. -/
theorem backslash_escapes_quote :
    let c : Column :=
      { name := "name", type := .varchar 20, default := some (.literal (.text "\\")), comment := some "\\" }
    definitionText .mysql c = "`name` VARCHAR(20) NOT NULL DEFAULT " ++ "'\\' COMMENT '\\'" ∧
      literal? "'\\' COMMENT '\\'".toList = some ("' COMMENT ".toList, "\\'".toList) := by
  decide +kernel

end SqlKit.Schema
