import SqlKit.Proofs.ConditionGrammar
import SqlKit.Proofs.Placeholders

/-!
# Reading conditions back

The text of a query's conditions, read by the grammar with its placeholders paired with the bindings,
gives the conditions back one by one, each with its column, its operator or negation, its values and its
connector. What is lost is the connector of the first condition and the column of a list without members,
and where booleans are bound as numbers, that they were booleans.
-/

namespace SqlKit.Grammar
open Statement (boundValue)

/-! ## Conditions as tokens -/

def connective : Connector → Keyword
  | .and => .and
  | .or => .or

def notTokens (negated : Bool) : List Token := if negated then [.keyword .not] else []

def operatorTokens : Operator → List Token
  | .like => [.keyword .like]
  | .notLike => [.keyword .not, .keyword .like]
  | op => [.sign op]

def furtherValueTokens (vs : List Value) : List Token := vs.flatMap fun v => [.comma, .value v]

def Condition.tokens : Condition → List Token
  | .compare c op v => .name c :: operatorTokens op ++ [.value v]
  | .member c v vs negated =>
    .name c :: notTokens negated ++ .keyword .isIn :: .opening :: .value v :: furtherValueTokens vs
      ++ [.closing]
  | .null c negated => .name c :: .keyword .is :: notTokens negated ++ [.keyword .null]
  | .between c low high negated =>
    .name c :: notTokens negated
      ++ [.keyword .between, .value low, .keyword .and, .value high]
  | .equal left right => [.name left, .sign .eq, .name right]

def furtherTokens (ps : List (Connector × Condition)) : List Token :=
  ps.flatMap fun p => .keyword (connective p.1) :: p.2.tokens

def conditionsTokens (k : Keyword) : Conditions → List Token
  | none => []
  | some (p, ps) => .keyword k :: p.tokens ++ furtherTokens ps

theorem values_tokens (v : Value) (vs : List Value) (ts : List Token) :
    values? (.value v :: furtherValueTokens vs ++ .closing :: ts) = some (v, vs, ts) := by
  induction vs generalizing v with
  | nil => rfl
  | cons w ws ih =>
    have hrest := ih w
    simp only [furtherValueTokens, List.flatMap_cons, List.cons_append, List.nil_append, values?] at *
    rw [hrest]
    rfl

theorem condition_tokens (p : Condition) (ts : List Token) :
    condition? (p.tokens ++ ts) = some (p, ts) := by
  cases p with
  | compare c op v => cases op <;> rfl
  | member c v vs negated =>
    have hvalues := values_tokens v vs ts
    cases negated <;>
      simp_all [Condition.tokens, notTokens, condition?, predicate?]
  | null c negated => cases negated <;> rfl
  | between c low high negated => cases negated <;> rfl
  | equal left right => rfl

/-- What may stand behind a list of conditions: nothing that connects. -/
def Closed (ts : List Token) : Prop := ∀ t ∈ ts.head?, t.connector? = none

theorem further_tokens (ps : List (Connector × Condition)) {ts : List Token} (h : Closed ts) :
    further? (furtherTokens ps ++ ts) = some (ps, ts) := by
  induction ps with
  | nil =>
    cases ts with
    | nil => rw [furtherTokens, List.flatMap_nil, List.append_nil, further?]
    | cons t ts =>
      have ht : t.connector? = none := h t rfl
      rw [furtherTokens, List.flatMap_nil, List.nil_append, further?, ht]
  | cons p ps ih =>
    obtain ⟨c, p⟩ := p
    have hconnector : (Token.keyword (connective c)).connector? = some c := by cases c <;> rfl
    have hfirst := condition_tokens p (furtherTokens ps ++ ts)
    have hcons : furtherTokens ((c, p) :: ps) ++ ts =
        .keyword (connective c) :: (p.tokens ++ (furtherTokens ps ++ ts)) := by
      simp [furtherTokens]
    rw [hcons, further?, hconnector]
    simp only
    split
    · simp_all
    · simp_all

theorem conditions_tokens {k : Keyword} (ps : Conditions) {ts : List Token} (h : Closed ts)
    (hk : ∀ t ∈ ts.head?, ∀ j, t = .keyword j → j ≠ k) :
    conditions? k (conditionsTokens k ps ++ ts) = some (ps, ts) := by
  cases ps with
  | none =>
    cases ts with
    | nil => rfl
    | cons t ts =>
      cases t with
      | keyword j => simp [conditionsTokens, conditions?, hk (.keyword j) rfl j rfl]
      | _ => rfl
  | some ps =>
    obtain ⟨p, ps⟩ := ps
    have hfirst := condition_tokens p (furtherTokens ps ++ ts)
    simp [conditionsTokens, conditions?, hfirst, further_tokens ps h]

/-! ## Texts as tokens -/

/-- A name of letters, digits, underscores and dots that is none of the keywords. -/
def PlainName (s : String) : Prop :=
  s.toList ≠ [] ∧ s.toList.all isNameChar = true ∧ ∀ k ∈ Keyword.all, k.text ≠ Text.asciiUpper s

instance (s : String) : Decidable (PlainName s) :=
  inferInstanceAs (Decidable (s.toList ≠ [] ∧ s.toList.all isNameChar = true ∧
    ∀ k ∈ Keyword.all, k.text ≠ Text.asciiUpper s))

/-- A rest of a text that does not go on with a word. -/
def Breaks (cs : List Char) : Prop := ∀ c ∈ cs.head?, isNameChar c = false

theorem breaks_nil : Breaks [] := by simp [Breaks]

theorem breaks_cons {c : Char} {cs : List Char} (h : isNameChar c = false) : Breaks (c :: cs) := by
  simpa [Breaks] using h

theorem isNameChar_of_isDigit {c : Char} (h : c.isDigit = true) : isNameChar c = true := by
  simp [isNameChar, Store.isWordChar, Char.isAlphanum, h]

section
variable {vs : List Value} {k : Nat} {cs : List Char}

theorem tokens_blank : tokens? vs k (' ' :: cs) = tokens? vs k cs := by
  rw [tokens?, if_neg (by decide), if_neg (by decide), if_neg (by decide), if_neg (by decide),
    if_pos rfl]

theorem tokens_mark {c : Char} {t : Token} (h : markToken? c = some t) :
    tokens? vs k (c :: cs) = (tokens? vs k cs).map (t :: ·) := by
  have hc : c = '(' ∨ c = ')' ∨ c = ',' := by
    unfold markToken? at h
    split at h <;> simp_all
  rcases hc with rfl | rfl | rfl <;>
    rw [tokens?, if_neg (by decide), if_neg (by decide), if_neg (by decide), if_neg (by decide),
      if_neg (by decide), h] <;> rfl

theorem tokens_word {w : List Char} (hne : w ≠ []) (hw : ∀ c ∈ w, isNameChar c = true)
    (h : Breaks cs) : tokens? vs k (w ++ cs) = (tokens? vs k cs).map (wordToken w :: ·) := by
  cases w with
  | nil => exact absurd rfl hne
  | cons c w =>
    have hrest : ∀ x ∈ w, isNameChar x = true := fun x hx => hw x (by simp [hx])
    rw [List.cons_append, tokens?, if_pos (hw c (by simp)), takeWhile_append_stop hrest h,
      dropWhile_append_stop hrest h]

theorem tokens_name {s : String} (hs : PlainName s) (h : Breaks cs) :
    tokens? vs k (s.toList ++ cs) = (tokens? vs k cs).map (.name s :: ·) := by
  obtain ⟨hne, hchars, hkeyword⟩ := hs
  have hword : wordToken s.toList = .name s := by
    have hnone : Keyword.all.find? (fun j => j.text == Text.asciiUpper s) = none := by
      simpa [List.find?_eq_none] using hkeyword
    simp [wordToken, hnone]
  rw [tokens_word hne (List.all_eq_true.1 hchars) h, hword]

theorem wordToken_keyword (j : Keyword) : wordToken j.text.toList = .keyword j := by
  have hfind : Keyword.all.find? (fun k => k.text == Text.asciiUpper j.text) = some j := by
    cases j <;> decide
  simp [wordToken, hfind]

theorem tokens_keyword (j : Keyword) (h : Breaks cs) :
    tokens? vs k (j.text.toList ++ cs) = (tokens? vs k cs).map (.keyword j :: ·) := by
  have hchars : j.text.toList.all isNameChar = true := by cases j <;> decide
  have hne : j.text.toList ≠ [] := by cases j <;> decide
  rw [tokens_word hne (List.all_eq_true.1 hchars) h, wordToken_keyword]

theorem tokens_spaced (j : Keyword) :
    tokens? vs k (j.text.toList ++ ' ' :: cs) = (tokens? vs k cs).map (.keyword j :: ·) := by
  rw [tokens_keyword j (breaks_cons (by decide)), tokens_blank]

theorem keyword_signChars : ∀ op ∈ signs, op.keyword.toList ≠ [] ∧
    op.keyword.toList.all (fun c => isSignChar c && !isNameChar c) = true := by decide

theorem signToken_keyword {op : Operator} (h : op ∈ signs) :
    signToken? op.keyword.toList = some (.sign op) := by
  have hfind : ∀ op ∈ signs, signs.find? (fun o => o.keyword.toList == op.keyword.toList) = some op := by
    decide
  simp [signToken?, hfind op h]

theorem tokens_sign {op : Operator} (h : op ∈ signs) :
    tokens? vs k (op.keyword.toList ++ ' ' :: cs) = (tokens? vs k cs).map (.sign op :: ·) := by
  obtain ⟨hne, hchars⟩ := keyword_signChars op h
  have hsign := signToken_keyword h
  have hblank : ∀ c ∈ (' ' :: cs).head?, isSignChar c = false := by simp; decide
  cases hw : op.keyword.toList with
  | nil => exact absurd hw hne
  | cons c w =>
    rw [hw] at hsign hchars
    simp only [List.all_cons, Bool.and_eq_true, List.all_eq_true, Bool.not_eq_true'] at hchars
    obtain ⟨⟨hfirst, hnoName⟩, hothers⟩ := hchars
    have hrest : ∀ x ∈ w, isSignChar x = true := fun x hx => (hothers x hx).1
    rw [List.cons_append, tokens?, hnoName, if_neg (by decide), if_pos hfirst,
      takeWhile_append_stop hrest hblank, dropWhile_append_stop hrest hblank, hsign, tokens_blank]
    rfl

end

/-! ## Placeholders -/

/-- How many question marks stand for so many values. -/
def questionMarks : Dialect → Nat → Nat
  | .postgres, _ => 0
  | _, k => k

theorem tokens_placeholder (d : Dialect) {vs : List Value} {k : Nat} {v : Value} {cs : List Char}
    (hv : vs[k]? = some v) (h : Breaks cs) :
    tokens? vs (questionMarks d k) ((d.placeholder (k + 1)).toList ++ cs) =
      (tokens? vs (questionMarks d (k + 1)) cs).map (.value v :: ·) := by
  have hquestion : tokens? vs k ('?' :: cs) = (tokens? vs (k + 1) cs).map (.value v :: ·) := by
    rw [tokens?, if_neg (by decide), if_neg (by decide), if_neg (by decide), if_pos rfl, hv]
    rfl
  cases d with
  | mysql => simpa [Dialect.placeholder, questionMarks] using hquestion
  | sqlite => simpa [Dialect.placeholder, questionMarks] using hquestion
  | postgres =>
    have hdigits : ∀ c ∈ Number.digits (k + 1), c.isDigit = true :=
      fun c hc => Number.isDigit_of_mem_digits hc
    -- A digit behind the number would be read as part of it, but no word goes on there.
    have hstop : ∀ c ∈ cs.head?, c.isDigit = false := by
      intro c hc
      cases hdigit : c.isDigit with
      | false => rfl
      | true => simpa [isNameChar_of_isDigit hdigit] using h c hc
    have htext : ("$" ++ Number.natText (k + 1)).toList = '$' :: Number.digits (k + 1) := by
      simp [Number.natText]
    simp only [Dialect.placeholder, htext, List.cons_append, questionMarks]
    rw [tokens?, if_neg (by decide), if_neg (by decide), if_pos rfl,
      takeWhile_append_stop hdigits hstop, dropWhile_append_stop hdigits hstop, Number.readDigits?_digits]
    simp [numbered?, hv]

/-! ## Conditions as text -/

/-- The characters of a fragment that stands behind `k` slots. -/
def letters (d : Dialect) (k : Nat) (f : Fragment) : List Char := (String.join (f.renderFrom d k)).toList

theorem toList_render (d : Dialect) (f : Fragment) : (f.render d).toList = letters d 0 f := rfl

section
variable {d : Dialect} {k : Nat}

@[simp] theorem letters_nil : letters d k [] = [] := rfl

@[simp] theorem letters_text {s : String} {f : Fragment} :
    letters d k (.text s :: f) = s.toList ++ letters d k f := by
  simp [letters, Fragment.renderFrom]

@[simp] theorem letters_slot {v : Value} {f : Fragment} :
    letters d k (.slot v :: f) = (d.placeholder (k + 1)).toList ++ letters d (k + 1) f := by
  simp [letters, Fragment.renderFrom]

theorem letters_append {f g : Fragment} :
    letters d k (f ++ g) = letters d k f ++ letters d (k + f.bindings.length) g := by
  rw [letters, Fragment.renderFrom_append, String.join_append, String.toList_append]
  rfl

end

/-- What the text of a condition and its bindings tell of it. -/
def reading (d : Dialect) : Predicate → Condition
  | .compare c op v => .compare c op (boundValue d v)
  | .inList _ [] negated => .equal (if negated then "1" else "0") "1"
  | .inList c (v :: vs) negated => .member c (boundValue d v) (vs.map (boundValue d)) negated
  | .isNull c negated => .null c negated
  | .between c low high negated => .between c (boundValue d low) (boundValue d high) negated

/-- The first condition is told without its connector. -/
def readings (d : Dialect) : List Filter → Conditions
  | [] => none
  | f :: fs => some (reading d f.predicate, fs.map fun f => (f.connector, reading d f.predicate))

theorem value_of_drop {vs ws : List Value} {k : Nat} {v : Value} (h : vs.drop k = v :: ws) :
    vs[k]? = some v ∧ vs.drop (k + 1) = ws := by
  constructor
  · have hhead := congrArg List.head? h
    simpa using hhead
  · have htail := congrArg List.tail h
    simpa using htail

section
variable {d : Dialect} {vs after : List Value} {k : Nat} {cs : List Char}

theorem tokens_operator (op : Operator) :
    tokens? vs k (op.keyword.toList ++ ' ' :: cs) = (tokens? vs k cs).map (operatorTokens op ++ ·) := by
  cases op with
  | like =>
    exact tokens_spaced .like
  | notLike =>
    have htext : Operator.notLike.keyword.toList ++ ' ' :: cs =
        Keyword.not.text.toList ++ ' ' :: (Keyword.like.text.toList ++ ' ' :: cs) := rfl
    rw [htext, tokens_spaced, tokens_spaced, Option.map_map]
    rfl
  | _ => exact tokens_sign (by decide)

theorem tokens_notWord (negated : Bool) :
    tokens? vs k ((Statement.notWord negated).toList ++ cs) =
      (tokens? vs k cs).map (notTokens negated ++ ·) := by
  cases negated with
  | false => simp [Statement.notWord, notTokens]
  | true => exact tokens_spaced .not

theorem tokens_column {c : String} (hc : PlainName c) :
    tokens? vs k (c.toList ++ ' ' :: cs) = (tokens? vs k cs).map (.name c :: ·) := by
  rw [tokens_name hc (breaks_cons (by decide)), tokens_blank]

theorem tokens_members {v : Value} {ws : List Value} (h : vs.drop k = v :: (ws ++ after)) :
    tokens? vs (questionMarks d k)
        (letters d k (Fragment.joined ", " (Statement.slots (v :: ws))) ++ ')' :: cs) =
      (tokens? vs (questionMarks d (k + ws.length + 1)) cs).map
        (.value v :: furtherValueTokens ws ++ .closing :: ·) := by
  obtain ⟨hv, hrest⟩ := value_of_drop h
  have hclosing : ∀ j, tokens? vs j (')' :: cs) = (tokens? vs j cs).map (.closing :: ·) :=
    fun j => tokens_mark rfl
  -- Every member moves the number of the next placeholder on, so `k` varies with the first of the rest.
  induction ws generalizing v k with
  | nil =>
    simp only [Statement.slots, List.map_cons, List.map_nil, Fragment.joined, letters_slot, letters_nil,
      List.append_nil]
    rw [tokens_placeholder d hv (breaks_cons (by decide)), hclosing]
    simp [furtherValueTokens, Function.comp_def]
  | cons w ws ih =>
    obtain ⟨hw, hws⟩ := value_of_drop hrest
    have hothers := ih hrest hw hws
    have hcomma : ∀ j ds, tokens? vs j (',' :: ' ' :: ds) = (tokens? vs j ds).map (.comma :: ·) := by
      intro j ds
      rw [tokens_mark (t := .comma) rfl, tokens_blank]
    have hjoined : letters d k (Fragment.joined ", " (Statement.slots (v :: w :: ws))) ++ ')' :: cs =
        (d.placeholder (k + 1)).toList ++ ',' :: ' ' ::
          (letters d (k + 1) (Fragment.joined ", " (Statement.slots (w :: ws))) ++ ')' :: cs) := by
      simp [Statement.slots, Fragment.joined]
    rw [hjoined, tokens_placeholder d hv (breaks_cons (by decide)), hcomma, hothers]
    simp [furtherValueTokens, Function.comp_def, Nat.add_assoc, Nat.add_comm 1]

theorem tokens_equal {left right : String} (hleft : PlainName left) (hright : PlainName right)
    (hcs : Breaks cs) :
    tokens? vs k ((left ++ " = " ++ right).toList ++ cs) =
      (tokens? vs k cs).map ((Condition.equal left right).tokens ++ ·) := by
  have htext : (left ++ " = " ++ right).toList ++ cs =
      left.toList ++ ' ' :: (Operator.eq.keyword.toList ++ ' ' :: (right.toList ++ cs)) := by
    simp [Operator.keyword]
  rw [htext, tokens_column hleft, tokens_sign (by decide), tokens_name hright hcs]
  simp [Condition.tokens, Function.comp_def]

theorem tokens_predicate {p : Predicate} (hp : PlainName p.column)
    (h : vs.drop k = p.values.map (boundValue d) ++ after) (hcs : Breaks cs) :
    tokens? vs (questionMarks d k) (letters d k (Statement.predicateFragment d p) ++ cs) =
      (tokens? vs (questionMarks d (k + p.values.length)) cs).map ((reading d p).tokens ++ ·) := by
  cases p with
  | compare c op v =>
    obtain ⟨hv, -⟩ := value_of_drop h
    have hc : PlainName c := hp
    have htext : letters d k (Statement.predicateFragment d (.compare c op v)) ++ cs =
        c.toList ++ ' ' :: (op.keyword.toList ++ ' ' :: ((d.placeholder (k + 1)).toList ++ cs)) := by
      simp [Statement.predicateFragment]
    rw [htext, tokens_column hc, tokens_operator, tokens_placeholder d hv hcs]
    simp [reading, Condition.tokens, Function.comp_def, Predicate.values]
  | inList c ws negated =>
    have hc : PlainName c := hp
    cases ws with
    | nil =>
      -- A list without members is written as a comparison of two numbers.
      have hone : PlainName "1" := by decide
      have hzero : PlainName "0" := by decide
      cases negated with
      | false =>
        simpa [Statement.predicateFragment, Predicate.values, reading] using tokens_equal hzero hone hcs
      | true =>
        simpa [Statement.predicateFragment, Predicate.values, reading] using tokens_equal hone hone hcs
    | cons w ws =>
      have htext : letters d k (Statement.predicateFragment d (.inList c (w :: ws) negated)) ++ cs =
          c.toList ++ ' ' :: ((Statement.notWord negated).toList ++ (Keyword.isIn.text.toList ++ ' ' ::
            '(' :: (letters d k (Fragment.joined ", "
              (Statement.slots (boundValue d w :: ws.map (boundValue d)))) ++ ')' :: cs))) := by
        simp [Statement.predicateFragment, letters_append, Keyword.text,
          funext (Statement.filterValue_eq d)]
      rw [htext, tokens_column hc, tokens_notWord, tokens_spaced, tokens_mark (t := .opening) rfl,
        tokens_members (h.trans List.cons_append)]
      simp [reading, Condition.tokens, Function.comp_def, Predicate.values, Nat.add_assoc]
  | isNull c negated =>
    have hc : PlainName c := hp
    have htext : letters d k (Statement.predicateFragment d (.isNull c negated)) ++ cs =
        c.toList ++ ' ' :: (Keyword.is.text.toList ++ ' ' :: ((Statement.notWord negated).toList ++
          (Keyword.null.text.toList ++ cs))) := by
      simp [Statement.predicateFragment, Keyword.text]
    rw [htext, tokens_column hc, tokens_spaced, tokens_notWord, tokens_keyword _ hcs]
    simp [reading, Condition.tokens, Function.comp_def, Predicate.values]
  | between c low high negated =>
    have hc : PlainName c := hp
    obtain ⟨hlow, hrest⟩ := value_of_drop h
    obtain ⟨hhigh, -⟩ := value_of_drop hrest
    have htext : letters d k (Statement.predicateFragment d (.between c low high negated)) ++ cs =
        c.toList ++ ' ' :: ((Statement.notWord negated).toList ++ (Keyword.between.text.toList ++ ' ' ::
          ((d.placeholder (k + 1)).toList ++ ' ' :: (Keyword.and.text.toList ++ ' ' ::
            ((d.placeholder (k + 2)).toList ++ cs))))) := by
      simp [Statement.predicateFragment, Keyword.text]
    rw [htext, tokens_column hc, tokens_notWord, tokens_spaced,
      tokens_placeholder d hlow (breaks_cons (by decide)), tokens_blank, tokens_spaced,
      tokens_placeholder d hhigh hcs]
    simp [reading, Condition.tokens, Function.comp_def, Predicate.values]

/-- A condition behind its connector or its clause's keyword, and what follows both. -/
theorem tokens_introduced (j : Keyword) {p : Predicate} {g : Fragment} (hp : PlainName p.column)
    (h : vs.drop k = p.values.map (boundValue d) ++ after)
    (hg : Breaks (letters d (k + p.values.length) g ++ cs)) :
    tokens? vs (questionMarks d k)
        (letters d k (.text (" " ++ j.text ++ " ") :: Statement.predicateFragment d p ++ g) ++ cs) =
      (tokens? vs (questionMarks d (k + p.values.length)) (letters d (k + p.values.length) g ++ cs)).map
        (.keyword j :: (reading d p).tokens ++ ·) := by
  have htext : letters d k (.text (" " ++ j.text ++ " ") :: Statement.predicateFragment d p ++ g) ++ cs =
      ' ' :: (j.text.toList ++ ' ' :: (letters d k (Statement.predicateFragment d p)
        ++ (letters d (k + p.values.length) g ++ cs))) := by
    simp [letters_append, Statement.bindings_predicate]
  rw [htext, tokens_blank, tokens_spaced, tokens_predicate hp h hg]
  simp [Function.comp_def]

theorem breaks_furtherFilters {fs : List Filter} (hcs : Breaks cs) :
    Breaks (letters d k (Statement.furtherFilters d fs) ++ cs) := by
  cases fs with
  | nil => simpa [Statement.furtherFilters] using hcs
  | cons f fs => simpa [Statement.furtherFilters] using breaks_cons (by decide)

theorem drop_boundValues {f : Filter} {fs : List Filter}
    (h : vs.drop k = Statement.boundValues d (f :: fs) ++ after) :
    vs.drop k = f.predicate.values.map (boundValue d) ++ (Statement.boundValues d fs ++ after) ∧
      vs.drop (k + f.predicate.values.length) = Statement.boundValues d fs ++ after := by
  rw [Statement.boundValues_cons, List.append_assoc] at h
  exact ⟨h, by rw [← List.drop_drop, h, List.drop_left' (by simp)]⟩

theorem tokens_furtherFilters {fs : List Filter} (hfs : ∀ f ∈ fs, PlainName f.predicate.column)
    (h : vs.drop k = Statement.boundValues d fs ++ after) (hcs : Breaks cs) :
    tokens? vs (questionMarks d k) (letters d k (Statement.furtherFilters d fs) ++ cs) =
      (tokens? vs (questionMarks d (k + (filterValues fs).length)) cs).map
        (furtherTokens (fs.map fun f => (f.connector, reading d f.predicate)) ++ ·) := by
  induction fs generalizing k with
  | nil => simp [Statement.furtherFilters, furtherTokens, filterValues]
  | cons f fs ih =>
    obtain ⟨hfirst, hrest⟩ := drop_boundValues h
    have hothers := ih (fun g hg => hfs g (by simp [hg])) hrest
    have hcons : Statement.furtherFilters d (f :: fs) =
        .text (" " ++ (connective f.connector).text ++ " ") ::
          Statement.predicateFragment d f.predicate ++ Statement.furtherFilters d fs := by
      cases hc : f.connector <;> simp [Statement.furtherFilters, hc] <;> rfl
    rw [hcons, tokens_introduced _ (hfs f (by simp)) hfirst (breaks_furtherFilters hcs), hothers]
    simp [furtherTokens, filterValues, Function.comp_def, Nat.add_assoc]

theorem tokens_filters (j : Keyword) {fs : List Filter} (hfs : ∀ f ∈ fs, PlainName f.predicate.column)
    (h : vs.drop k = Statement.boundValues d fs ++ after) (hcs : Breaks cs) :
    tokens? vs (questionMarks d k) (letters d k (Statement.filtersFragment d j.text fs) ++ cs) =
      (tokens? vs (questionMarks d (k + (filterValues fs).length)) cs).map
        (conditionsTokens j (readings d fs) ++ ·) := by
  cases fs with
  | nil => simp [Statement.filtersFragment, readings, conditionsTokens, filterValues]
  | cons f fs =>
    obtain ⟨hfirst, hrest⟩ := drop_boundValues h
    have hothers := tokens_furtherFilters (fun g hg => hfs g (by simp [hg])) hrest hcs
    rw [Statement.filtersFragment, tokens_introduced j (hfs f (by simp)) hfirst
      (breaks_furtherFilters hcs), hothers]
    simp [readings, conditionsTokens, filterValues, Function.comp_def, Nat.add_assoc]

end

/-! ## Queries of conditions alone -/

/-- The condition that a clause adds, on rows or on groups. -/
def addedBy : Clause → Option Predicate
  | .filter _ p => some p
  | .having _ column op v => some (.compare column op v)
  | _ => none

theorem applyAll_conditions {cs : List Clause} (h : ∀ c ∈ cs, addedBy c ≠ none) (q : Query) :
    q.applyAll cs = { q with
      filters := q.filters ++ cs.flatMap Clause.filters
      groupFilters := q.groupFilters ++ cs.flatMap Clause.groupFilters } := by
  induction cs generalizing q with
  | nil => simp [Query.applyAll]
  | cons c cs ih =>
    rw [Query.applyAll_cons, ih fun x hx => h x (by simp [hx])]
    have hc := h c (by simp)
    cases c <;> simp_all [Query.apply, addedBy, Clause.filters, Clause.groupFilters]

def conditionsFragment (d : Dialect) (rows groups : List Filter) : Fragment :=
  Statement.filtersFragment d Keyword.onRows.text rows
    ++ Statement.filtersFragment d Keyword.onGroups.text groups

theorem compile_conditions (d : Dialect) (table : String) {cs : List Clause}
    (h : ∀ c ∈ cs, addedBy c ≠ none) :
    let rows := cs.flatMap Clause.filters
    let groups := cs.flatMap Clause.groupFilters
    (Statement.select ((Query.on table).applyAll cs)).compile d =
      ⟨"SELECT * FROM " ++ table ++ (conditionsFragment d rows groups).render d,
        Statement.boundValues d rows ++ Statement.boundValues d groups⟩ := by
  intro rows groups
  rw [applyAll_conditions h]
  simp only [Statement.compile, Fragment.compile, Statement.bindings_select, Query.on, List.nil_append]
  congr 1
  apply String.toList_injective
  simp [toList_render, Statement.selectFragment, Statement.sourceFragment, Statement.whereFragment,
    conditionsFragment, letters_append, Statement.orderText, Statement.limitText, Statement.offsetText,
    String.toList_append, Keyword.text, rows, groups]

theorem breaks_filters {d : Dialect} {k : Nat} {cs : List Char} (j : Keyword) (fs : List Filter)
    (hcs : Breaks cs) : Breaks (letters d k (Statement.filtersFragment d j.text fs) ++ cs) := by
  cases fs with
  | nil => simpa [Statement.filtersFragment] using hcs
  | cons f fs => simpa [Statement.filtersFragment] using breaks_cons (by decide)

theorem tokens_conditions (d : Dialect) {rows groups : List Filter} {vs : List Value}
    (hrows : ∀ f ∈ rows, PlainName f.predicate.column)
    (hgroups : ∀ f ∈ groups, PlainName f.predicate.column)
    (hvs : vs = Statement.boundValues d rows ++ Statement.boundValues d groups) :
    tokens? vs 0 ((conditionsFragment d rows groups).render d).toList =
      some (conditionsTokens .onRows (readings d rows)
        ++ conditionsTokens .onGroups (readings d groups)) := by
  have hlength : (Statement.boundValues d rows).length = (filterValues rows).length := by
    simp [Statement.boundValues]
  have hlater : vs.drop (filterValues rows).length = Statement.boundValues d groups ++ [] := by
    simp [hvs, ← hlength]
  have hfirst : vs.drop 0 = Statement.boundValues d rows ++ Statement.boundValues d groups := hvs
  have hzero : questionMarks d 0 = 0 := by cases d <;> rfl
  have htext : ((conditionsFragment d rows groups).render d).toList =
      letters d 0 (Statement.filtersFragment d Keyword.onRows.text rows)
        ++ (letters d (0 + (filterValues rows).length)
          (Statement.filtersFragment d Keyword.onGroups.text groups) ++ []) := by
    rw [toList_render, conditionsFragment, letters_append, Statement.bindings_filters, hlength,
      List.append_nil]
  have hend : ∀ j, tokens? vs j [] = some [] := fun j => by rw [tokens?]
  have hgroup := tokens_filters .onGroups hgroups hlater breaks_nil
  have hbreaks : Breaks (letters d (0 + (filterValues rows).length)
      (Statement.filtersFragment d Keyword.onGroups.text groups) ++ []) :=
    breaks_filters .onGroups groups breaks_nil
  have hon := tokens_filters .onRows hrows hfirst hbreaks
  rw [hzero] at hon
  rw [htext, hon, Nat.zero_add, hgroup, hend]
  simp

/-- The conditions of a query are read back from their text and the query's bindings. -/
theorem read_render (d : Dialect) {rows groups : List Filter}
    (hrows : ∀ f ∈ rows, PlainName f.predicate.column)
    (hgroups : ∀ f ∈ groups, PlainName f.predicate.column) :
    read? ((conditionsFragment d rows groups).render d)
        (Statement.boundValues d rows ++ Statement.boundValues d groups) =
      some (readings d rows, readings d groups) := by
  have htokens := tokens_conditions d hrows hgroups rfl
  have hclosed : Closed (conditionsTokens .onGroups (readings d groups)) := by
    cases groups <;> simp [Closed, readings, conditionsTokens, Token.connector?]
  have hnext : ∀ t ∈ (conditionsTokens .onGroups (readings d groups)).head?,
      ∀ j, t = .keyword j → j ≠ .onRows := by
    cases groups <;> simp [readings, conditionsTokens]
  have hfirst := conditions_tokens (k := .onRows) (readings d rows) hclosed hnext
  have hclosed_nil : Closed [] := by simp [Closed]
  have hsecond := conditions_tokens (k := .onGroups) (readings d groups) hclosed_nil (by simp)
  rw [List.append_nil] at hsecond
  simp [read?, htokens, hfirst, hsecond]

theorem plain_filters {cs : List Clause}
    (h : ∀ c ∈ cs, ∃ p, addedBy c = some p ∧ PlainName p.column) :
    (∀ f ∈ cs.flatMap Clause.filters, PlainName f.predicate.column) ∧
      ∀ f ∈ cs.flatMap Clause.groupFilters, PlainName f.predicate.column := by
  constructor <;> intro f hf
  all_goals
    obtain ⟨c, hc, hfc⟩ := List.mem_flatMap.1 hf
    obtain ⟨p, hp, hplain⟩ := h c hc
    cases c <;> simp_all [addedBy, Clause.filters, Clause.groupFilters]

/-- Whatever conditions a query was given, in whatever order, its text behind the table and its bindings
give them back. -/
theorem conditions_read_back (d : Dialect) (table : String) {cs : List Clause}
    (h : ∀ c ∈ cs, ∃ p, addedBy c = some p ∧ PlainName p.column) :
    let compiled := (Statement.select ((Query.on table).applyAll cs)).compile d
    ∃ text, compiled.sql = "SELECT * FROM " ++ table ++ text ∧
      read? text compiled.bindings =
        some (readings d (cs.flatMap Clause.filters), readings d (cs.flatMap Clause.groupFilters)) := by
  intro compiled
  have hadded : ∀ c ∈ cs, addedBy c ≠ none := fun c hc => by
    obtain ⟨p, hp, -⟩ := h c hc
    simp [hp]
  obtain ⟨hrows, hgroups⟩ := plain_filters h
  refine ⟨(conditionsFragment d (cs.flatMap Clause.filters) (cs.flatMap Clause.groupFilters)).render d,
    ?_, ?_⟩
  · simp only [compiled, compile_conditions d table hadded]
  · simp only [compiled, compile_conditions d table hadded, read_render d hrows hgroups]

/-- All kinds of conditions, the calls for rows and for groups in turns. -/
theorem conditions_read_back_orders :
    let cs : List Clause :=
      [.filter .or (.between "placed" (.int 1) (.int 9) true),
        .having .and "total" .notLike (.text "9%"),
        .filter .and (.inList "state" [.text "new", .bool true] true),
        .filter .or (.isNull "o.name" true), .filter .and (.inList "gone" [] false),
        .having .or "n" .ge .null]
    let compiled := (Statement.select ((Query.on "orders").applyAll cs)).compile .mysql
    (∀ c ∈ cs, ∃ p, addedBy c = some p ∧ PlainName p.column) ∧
    ∃ text, compiled.sql = "SELECT * FROM " ++ "orders" ++ text ∧
      read? text compiled.bindings = some
        (some (.between "placed" (.int 1) (.int 9) true,
          [(.and, .member "state" (.text "new") [.int 1] true), (.or, .null "o.name" true),
            (.and, .equal "0" "1")]),
        some (.compare "total" .notLike (.text "9%"), [(.or, .compare "n" .ge .null)])) := by
  intro cs compiled
  have hplain : ∀ c ∈ cs, ∃ p, addedBy c = some p ∧ PlainName p.column := by
    simp only [cs, List.forall_mem_cons]
    refine ⟨⟨_, rfl, by decide +kernel⟩, ⟨_, rfl, by decide +kernel⟩, ⟨_, rfl, by decide +kernel⟩,
      ⟨_, rfl, by decide +kernel⟩, ⟨_, rfl, by decide +kernel⟩, ⟨_, rfl, by decide +kernel⟩, by simp⟩
  exact ⟨hplain, conditions_read_back .mysql "orders" hplain⟩

/-- Where a boolean is bound as a number, no reader tells the two apart. -/
theorem booleans_not_read_back :
    ¬ ∃ reader : Compiled → List Filter, ∀ v : Value,
      reader ((Statement.select ((Query.on "users").applyAll
        [.filter .and (.compare "active" .eq v)])).compile .sqlite) =
          [⟨.and, .compare "active" .eq v⟩] := by
  rintro ⟨reader, hreader⟩
  have hbool := hreader (.bool true)
  have hint := hreader (.int 1)
  have hsame : reader ((Statement.select ((Query.on "users").applyAll
      [.filter .and (.compare "active" .eq (.bool true))])).compile .sqlite) =
      reader ((Statement.select ((Query.on "users").applyAll
        [.filter .and (.compare "active" .eq (.int 1))])).compile .sqlite) := rfl
  rw [hbool, hint] at hsame
  simp at hsame

end SqlKit.Grammar
