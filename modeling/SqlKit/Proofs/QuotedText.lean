import Mathlib.Data.List.Chain
import SqlKit.Proofs.Lists
import SqlKit.Value

/-!
# Quoted text

Engines read names between double quotes and literals between single ones, in which the quote is written
twice; every other character stands for itself. The reader here goes through a text with one state and
fails if a quote is left open at the end. A list of tokens in which no two of one quoted kind touch is
what is read from its spelling. Commas outside of quotes and parentheses divide a list of elements.
-/

namespace SqlKit.Quoting

inductive Token where
  | mark (c : Char)
  | name (text : List Char)
  | literal (text : List Char)
deriving DecidableEq, Repr

inductive State where
  | outside
  | inside (quote : Char) (text : List Char)
  /-- Behind a quote that ends the text, unless the next character is one as well. -/
  | closing (quote : Char) (text : List Char)

def isQuote (c : Char) : Bool := c == '\'' || c == '"'

def quoted (quote : Char) (text : List Char) : Token :=
  if quote = '"' then .name text else .literal text

namespace State

def enter (c : Char) : List Token × State :=
  if isQuote c then ([], .inside c []) else ([.mark c], .outside)

def step : State → Char → List Token × State
  | .outside, c => enter c
  | .inside quote text, c => ([], if c = quote then .closing quote text else .inside quote (text ++ [c]))
  | .closing quote text, c =>
    if c = quote then ([], .inside quote (text ++ [c]))
    else (quoted quote text :: (enter c).1, (enter c).2)

def finish : State → Option (List Token)
  | .outside => some []
  | .inside _ _ => none
  | .closing quote text => some [quoted quote text]

def read : State → List Char → Option (List Token)
  | s, [] => s.finish
  | s, c :: cs => ((s.step c).2.read cs).map ((s.step c).1 ++ ·)

end State

/-- The tokens of a text in which every quote is closed. -/
def tokens? (s : String) : Option (List Token) := State.outside.read s.toList

/-! ## Spelling -/

def doubled (quote : Char) (text : List Char) : List Char :=
  text.flatMap fun c => if c = quote then [quote, quote] else [c]

def enclosed (quote : Char) (text : List Char) : List Char := quote :: doubled quote text ++ [quote]

def Token.spell : Token → List Char
  | .mark c => [c]
  | .name text => enclosed '"' text
  | .literal text => enclosed '\'' text

def spell (ts : List Token) : List Char := ts.flatMap Token.spell

@[simp] theorem spell_nil : spell [] = [] := rfl
@[simp] theorem spell_cons (t : Token) (ts : List Token) : spell (t :: ts) = t.spell ++ spell ts := rfl
@[simp] theorem spell_append (ts us : List Token) : spell (ts ++ us) = spell ts ++ spell us :=
  List.flatMap_append

theorem spell_marks (cs : List Char) : spell (cs.map Token.mark) = cs := by
  induction cs with
  | nil => rfl
  | cons c cs ih =>
    rw [List.map_cons, spell_cons, ih]
    rfl

theorem doubled_of_not_mem {quote : Char} {text : List Char} (h : quote ∉ text) :
    doubled quote text = text := by
  induction text with
  | nil => rfl
  | cons c text ih =>
    rw [List.mem_cons, not_or] at h
    have hc : doubled quote (c :: text) = c :: doubled quote text := by
      simp [doubled, Ne.symm h.1]
    rw [hc, ih h.2]

/-- Two tokens that can stand next to each other: not two names and not two literals. -/
def Token.Apart : Token → Token → Prop
  | .name _, .name _ => False
  | .literal _, .literal _ => False
  | _, _ => True

theorem read_inside (quote : Char) (before text rest : List Char) :
    (State.inside quote before).read (doubled quote text ++ rest) =
      (State.inside quote (before ++ text)).read rest := by
  induction text generalizing before with
  | nil => simp [doubled]
  | cons c text ih =>
    have happend : before ++ c :: text = (before ++ [c]) ++ text := by simp
    rw [happend, ← ih (before ++ [c])]
    by_cases hc : c = quote
    · subst hc
      simp [doubled, State.read, State.step]
    · simp [doubled, State.read, State.step, hc]

theorem read_enclosed {quote : Char} (hquote : isQuote quote = true) (text rest : List Char) :
    State.outside.read (enclosed quote text ++ rest) = (State.closing quote text).read rest := by
  have hinside := read_inside quote [] text (quote :: rest)
  have henter : State.outside.read (enclosed quote text ++ rest) =
      (State.inside quote []).read (doubled quote text ++ quote :: rest) := by
    simp [enclosed, State.read, State.step, State.enter, hquote]
  rw [henter, hinside]
  simp [State.read, State.step]

/-- Behind a quoted text anything is read as from outside, if it does not go on with the quote. -/
theorem read_closing {quote : Char} {text rest : List Char} (h : ∀ c ∈ rest.head?, c ≠ quote) :
    (State.closing quote text).read rest = (State.outside.read rest).map (quoted quote text :: ·) := by
  cases rest with
  | nil => rfl
  | cons c rest =>
    have hc : c ≠ quote := h c rfl
    simp only [State.read, State.step, if_neg hc, Option.map_map]
    rfl

def Token.first : Token → Char
  | .mark c => c
  | .name _ => '"'
  | .literal _ => '\''

theorem head_spell (t : Token) (ts : List Token) : (spell (t :: ts)).head? = some t.first := by
  cases t <;> rfl

theorem read_quoted {quote : Char} {text : List Char} {ts : List Token} (hquote : isQuote quote = true)
    (hfirst : ∀ t ∈ ts.head?, t.first ≠ quote) (h : State.outside.read (spell ts) = some ts) :
    State.outside.read (enclosed quote text ++ spell ts) = some (quoted quote text :: ts) := by
  rw [read_enclosed hquote, read_closing, h, Option.map_some]
  cases ts with
  | nil => simp
  | cons t ts =>
    intro c hc
    rw [head_spell] at hc
    obtain rfl := Option.some.inj hc
    exact hfirst t rfl

theorem first_of_apart {t u : Token} (h : t.Apart u) (hu : ∀ c, u = .mark c → isQuote c = false)
    (ht : ∀ c, t ≠ .mark c) : u.first ≠ t.first := by
  cases t with
  | mark c => exact absurd rfl (ht c)
  | name text =>
    cases u with
    | mark c =>
      intro hc
      have hplain := hu c rfl
      rw [show c = '"' from hc] at hplain
      cases hplain
    | name _ => exact h.elim
    | literal _ => simp [Token.first]
  | literal text =>
    cases u with
    | mark c =>
      intro hc
      have hplain := hu c rfl
      rw [show c = '\'' from hc] at hplain
      cases hplain
    | name _ => simp [Token.first]
    | literal _ => exact h.elim

/-- The spelling of tokens is read back as these tokens. -/
theorem read_spell {ts : List Token} (hapart : ts.IsChain Token.Apart)
    (hmarks : ∀ c, Token.mark c ∈ ts → isQuote c = false) :
    State.outside.read (spell ts) = some ts := by
  induction ts with
  | nil => rfl
  | cons t ts ih =>
    obtain ⟨hhead, htail⟩ := List.isChain_cons.1 hapart
    have hrest := ih htail fun c hc => hmarks c (List.mem_cons_of_mem t hc)
    have hfirst : (∀ c, t ≠ .mark c) → ∀ u ∈ ts.head?, u.first ≠ t.first := by
      intro ht u hu
      refine first_of_apart (hhead u hu) (fun c hc => hmarks c ?_) ht
      rw [← hc]
      exact List.mem_cons_of_mem t (List.mem_of_mem_head? hu)
    cases t with
    | mark c =>
      have hc : isQuote c = false := hmarks c List.mem_cons_self
      simp [Token.spell, State.read, State.step, State.enter, hc, hrest]
    | name text =>
      have hname : isQuote '"' = true := rfl
      exact read_quoted hname (hfirst (by simp)) hrest
    | literal text =>
      have hliteral : isQuote '\'' = true := rfl
      exact read_quoted hliteral (hfirst (by simp)) hrest

/-! ## Elements -/

/-- The number of open parentheses after a token. Outside of all of them there is none for a comma, which
divides elements, and for a closing parenthesis, which ends them. -/
def Token.level? (n : Nat) (t : Token) : Option Nat :=
  if t = .mark '(' then some (n + 1)
  else if n = 0 ∧ (t = .mark ')' ∨ t = .mark ',') then none
  else if t = .mark ')' then some (n - 1)
  else some n

def levelAfter? (ts : List Token) (n : Nat) : Option Nat := ts.foldlM Token.level? n

theorem levelAfter_cons (t : Token) (ts : List Token) (n : Nat) :
    levelAfter? (t :: ts) n = (t.level? n).bind (levelAfter? ts) := rfl

theorem levelAfter_append (ts us : List Token) (n : Nat) :
    levelAfter? (ts ++ us) n = (levelAfter? ts n).bind (levelAfter? us) := List.foldlM_append

def prepend (ts : List Token) : List (List Token) → List (List Token)
  | [] => [ts]
  | e :: es => (ts ++ e) :: es

/-- Elements without the blank that the first of them begins with. -/
def withoutBlank : List (List Token) → List (List Token)
  | (.mark ' ' :: e) :: es => e :: es
  | es => es

def elements : Nat → List Token → List (List Token)
  | _, [] => [[]]
  | n, t :: ts =>
    match t.level? n with
    | some k => prepend [t] (elements k ts)
    | none => if t = .mark ',' then [] :: withoutBlank (elements n ts) else [[]]

/-- What stands behind the first opening parenthesis, divided at its commas. Each comma may be followed
by a blank. -/
def members (ts : List Token) : List (List Token) :=
  match elements 0 (ts.dropWhile (· ≠ .mark '(')).tail with
  | [[]] => []
  | es => es

theorem elements_ne_nil (n : Nat) (ts : List Token) : elements n ts ≠ [] := by
  cases ts with
  | nil => simp [elements]
  | cons t ts =>
    unfold elements
    split
    · cases elements _ ts <;> simp [prepend]
    · split <;> simp

theorem prepend_prepend (ts us : List Token) (es : List (List Token)) :
    prepend ts (prepend us es) = prepend (ts ++ us) es := by
  cases es <;> simp [prepend]

theorem elements_append {ts us : List Token} {n k : Nat} (h : levelAfter? ts n = some k) :
    elements n (ts ++ us) = prepend ts (elements k us) := by
  induction ts generalizing n with
  | nil =>
    obtain rfl : n = k := by simpa [levelAfter?] using h
    obtain ⟨e, es, hes⟩ := List.exists_cons_of_ne_nil (elements_ne_nil n us)
    simp [hes, prepend]
  | cons t ts ih =>
    rw [levelAfter_cons] at h
    cases hlevel : t.level? n with
    | none => simp [hlevel] at h
    | some j =>
      have hrest : levelAfter? ts j = some k := by simpa [hlevel] using h
      simp only [List.cons_append, elements, hlevel, ih hrest, prepend_prepend]
      rfl

theorem elements_last {ts us : List Token} (h : levelAfter? ts 0 = some 0) :
    elements 0 (ts ++ .mark ')' :: us) = [ts] := by
  rw [elements_append h]
  simp [elements, Token.level?, prepend]

theorem elements_comma (ts : List Token) :
    elements 0 (.mark ',' :: ts) = [] :: withoutBlank (elements 0 ts) := by
  simp [elements, Token.level?]

theorem elements_blank (ts : List Token) :
    withoutBlank (elements 0 (.mark ' ' :: ts)) = elements 0 ts := by
  obtain ⟨e, es, hes⟩ := List.exists_cons_of_ne_nil (elements_ne_nil 0 ts)
  simp [elements, Token.level?, hes, prepend, withoutBlank]

theorem elements_next {ts us : List Token} (h : levelAfter? ts 0 = some 0) :
    elements 0 (ts ++ .mark ',' :: .mark ' ' :: us) = ts :: elements 0 us := by
  rw [elements_append h, elements_comma, elements_blank]
  simp [prepend]

/-- Elements that are joined by commas and enclosed in parentheses are found again. -/
theorem elements_joined {es : List (List Token)} {us : List Token} (hes : es ≠ [])
    (h : ∀ e ∈ es, levelAfter? e 0 = some 0) :
    elements 0 ([Token.mark ',', .mark ' '].intercalate es ++ .mark ')' :: us) = es := by
  induction es with
  | nil => exact absurd rfl hes
  | cons e es ih =>
    have he := h e List.mem_cons_self
    cases es with
    | nil =>
      rw [List.intercalate_singleton]
      exact elements_last he
    | cons e' es =>
      have hrest := ih (by simp) fun x hx => h x (List.mem_cons_of_mem e hx)
      rw [List.intercalate_cons_of_ne_nil (by simp)]
      simp only [List.append_assoc, List.cons_append, List.nil_append]
      rw [elements_next he, hrest]

theorem members_joined {heading : List Token} {es : List (List Token)} {us : List Token}
    (hheading : ∀ t ∈ heading, t ≠ .mark '(') (hes : es ≠ [[]])
    (h : ∀ e ∈ es, levelAfter? e 0 = some 0) :
    members (heading ++ .mark '(' :: ([Token.mark ',', .mark ' '].intercalate es ++ .mark ')' :: us)) =
      es := by
  have hdrop : ∀ rest,
      ((heading ++ Token.mark '(' :: rest).dropWhile (· ≠ Token.mark '(')).tail = rest := by
    intro rest
    rw [List.dropWhile_append_of_pos (by simpa using hheading)]
    simp
  rw [members, hdrop]
  by_cases hnil : es = []
  · subst hnil
    rfl
  · rw [elements_joined hnil h]
    split
    · exact absurd rfl hes
    · rfl

/-! ## Texts by their tokens -/

def Token.value? : Token → Option String
  | .literal text => some (String.ofList text)
  | _ => none

def values (ts : List Token) : List String := ts.filterMap Token.value?

def Token.IsMark (t : Token) : Prop := ∃ c, t = .mark c

/-- Tokens that are read back, have no semicolon, and leave the number of open parentheses as it was
where `k` of them are open. -/
structure Sound (k : Nat) (ts : List Token) : Prop where
  apart : ts.IsChain Token.Apart
  marks : ∀ c, Token.mark c ∈ ts → isQuote c = false ∧ c ≠ ';'
  level : ∀ n, k ≤ n → levelAfter? ts n = some n

/-- The text is spelled by sound tokens, whose literals have these values. -/
def Spells (k : Nat) (s : String) (vs : List String) : Prop :=
  ∃ ts, s.toList = spell ts ∧ Sound k ts ∧ values ts = vs

/-- The same for a text that does not begin with a quote, and so can stand behind any other. -/
def Follows (k : Nat) (s : String) (vs : List String) : Prop :=
  ∃ ts, s.toList = spell ts ∧ Sound k ts ∧ values ts = vs ∧ ∀ t ∈ ts.head?, t.IsMark

/-- A text of nothing but marks. A comma in it is inside parentheses. -/
def Word (k : Nat) (w : String) : Prop :=
  ∀ c ∈ w.toList, isQuote c = false ∧ c ≠ ';' ∧ c ≠ '(' ∧ c ≠ ')' ∧ (k = 0 → c ≠ ',')

instance (k : Nat) (w : String) : Decidable (Word k w) :=
  List.decidableBAll _ w.toList

/-- A word that keeps the quotes before it and behind it apart. -/
def Divider (k : Nat) (w : String) : Prop := Word k w ∧ w ≠ ""

instance (k : Nat) (w : String) : Decidable (Divider k w) := inferInstanceAs (Decidable (_ ∧ _))

section
variable {k : Nat} {s t w : String} {vs us : List String} {ts rest : List Token}

theorem apart_of_mark {x y : Token} (h : x.IsMark ∨ y.IsMark) : x.Apart y := by
  obtain ⟨c, rfl⟩ | ⟨c, rfl⟩ := h
  · trivial
  · cases x <;> trivial

theorem Sound.append (h : Sound k ts) (h' : Sound k rest)
    (hmark : (∀ x ∈ ts.getLast?, x.IsMark) ∨ ∀ y ∈ rest.head?, y.IsMark) : Sound k (ts ++ rest) where
  apart := by
    refine List.isChain_append.2 ⟨h.apart, h'.apart, fun x hx y hy => apart_of_mark ?_⟩
    exact hmark.imp (fun hlast => hlast x hx) fun hhead => hhead y hy
  marks c hc := (List.mem_append.1 hc).elim (h.marks c) (h'.marks c)
  level n hn := by
    rw [levelAfter_append, h.level n hn]
    exact h'.level n hn

theorem Sound.mono {j : Nat} (h : Sound k ts) (hk : k ≤ j) : Sound j ts :=
  ⟨h.apart, h.marks, fun n hn => h.level n (hk.trans hn)⟩

theorem sound_nil : Sound k [] := ⟨List.isChain_nil, by simp, fun _ _ => rfl⟩

theorem sound_mark {c : Char} (hquote : isQuote c = false) (hc : c ≠ ';')
    (hlevel : ∀ n, k ≤ n → (Token.mark c).level? n = some n) : Sound k [.mark c] where
  apart := List.isChain_singleton _
  marks d hd := by
    obtain rfl : d = c := by simpa using hd
    exact ⟨hquote, hc⟩
  level n hn := by rw [levelAfter_cons, hlevel n hn]; rfl

theorem isMark_map (cs : List Char) : ∀ x ∈ cs.map Token.mark, x.IsMark := by
  intro x hx
  obtain ⟨c, -, rfl⟩ := List.mem_map.1 hx
  exact ⟨c, rfl⟩

theorem sound_marks {cs : List Char} (h : ∀ c ∈ cs, isQuote c = false ∧ c ≠ ';' ∧ c ≠ '(' ∧ c ≠ ')' ∧
    (k = 0 → c ≠ ',')) : Sound k (cs.map Token.mark) := by
  induction cs with
  | nil => exact sound_nil
  | cons c cs ih =>
    obtain ⟨hquote, hc, hopen, hclose, hcomma⟩ := h c List.mem_cons_self
    have hfirst : Sound k [.mark c] := by
      refine sound_mark hquote hc fun n hn => ?_
      by_cases hn' : n = 0
      · have hc' := hcomma (by omega)
        simp [Token.level?, hopen, hclose, hc']
      · simp [Token.level?, hopen, hclose, hn']
    refine hfirst.append (ih fun d hd => h d (List.mem_cons_of_mem c hd)) (Or.inr fun x hx => ?_)
    exact isMark_map cs x (List.mem_of_mem_head? hx)

theorem values_append : values (ts ++ rest) = values ts ++ values rest := List.filterMap_append

theorem values_marks (cs : List Char) : values (cs.map Token.mark) = [] := by
  induction cs with
  | nil => rfl
  | cons c cs ih => exact ih

theorem Follows.spells (h : Follows k s vs) : Spells k s vs := by
  obtain ⟨ts, hs, hsound, hvs, -⟩ := h
  exact ⟨ts, hs, hsound, hvs⟩

theorem Spells.mono {j : Nat} (h : Spells k s vs) (hk : k ≤ j) : Spells j s vs := by
  obtain ⟨ts, hs, hsound, hvs⟩ := h
  exact ⟨ts, hs, hsound.mono hk, hvs⟩

theorem Spells.append (h : Spells k s vs) (h' : Follows k t us) : Spells k (s ++ t) (vs ++ us) := by
  obtain ⟨ts, hs, hsound, rfl⟩ := h
  obtain ⟨rest, ht, hsound', rfl, hhead⟩ := h'
  exact ⟨ts ++ rest, by rw [String.toList_append, spell_append, hs, ht],
    hsound.append hsound' (Or.inr hhead), values_append⟩

theorem Follows.append (h : Follows k s vs) (h' : Follows k t us) : Follows k (s ++ t) (vs ++ us) := by
  obtain ⟨ts, hs, hsound, rfl, hfirst⟩ := h
  obtain ⟨rest, ht, hsound', rfl, hhead⟩ := h'
  refine ⟨ts ++ rest, by rw [String.toList_append, spell_append, hs, ht],
    hsound.append hsound' (Or.inr hhead), values_append, fun x hx => ?_⟩
  cases ts with
  | nil => exact hhead x hx
  | cons y ts => exact hfirst x hx

theorem follows_empty : Follows k "" [] := ⟨[], rfl, sound_nil, rfl, by simp⟩

theorem Word.follows (h : Word k w) : Follows k w [] :=
  ⟨w.toList.map Token.mark, (spell_marks _).symm, sound_marks h, values_marks _,
    fun x hx => isMark_map _ x (List.mem_of_mem_head? hx)⟩

theorem Divider.toList_ne_nil (h : Divider k w) : w.toList ≠ [] :=
  fun he => h.2 (String.toList_eq_nil_iff.1 he)

theorem Divider.before (h : Divider k w) (h' : Spells k t us) : Follows k (w ++ t) us := by
  obtain ⟨rest, ht, hsound, rfl⟩ := h'
  refine ⟨w.toList.map Token.mark ++ rest, ?_, (sound_marks h.1).append hsound (Or.inl fun x hx => ?_), ?_,
    fun x hx => ?_⟩
  · rw [String.toList_append, spell_append, spell_marks, ht]
  · exact isMark_map _ x (List.mem_of_getLast? hx)
  · rw [values_append, values_marks, List.nil_append]
  · obtain ⟨c, cs, hcs⟩ := List.exists_cons_of_ne_nil h.toList_ne_nil
    rw [hcs] at hx
    exact ⟨c, by simpa using hx.symm⟩

theorem Spells.further (h : Spells k s vs) (hw : Divider k w) (h' : Spells k t us) :
    Spells k (s ++ w ++ t) (vs ++ us) := by
  rw [String.append_assoc]
  exact h.append (hw.before h')

theorem Follows.further (h : Follows k s vs) (hw : Divider k w) (h' : Spells k t us) :
    Follows k (s ++ w ++ t) (vs ++ us) := by
  rw [String.append_assoc]
  exact h.append (hw.before h')

theorem Sound.parens (h : Sound 1 ts) : Sound 0 (.mark '(' :: ts ++ [.mark ')']) where
  apart := by
    refine List.isChain_append.2 ⟨List.isChain_cons.2 ⟨fun y _ => ?_, h.apart⟩,
      List.isChain_singleton _, fun x _ y hy => ?_⟩
    · exact apart_of_mark (Or.inl ⟨_, rfl⟩)
    · obtain rfl : .mark ')' = y := by simpa using hy
      exact apart_of_mark (Or.inr ⟨_, rfl⟩)
  marks c hc := by
    simp only [List.cons_append, List.mem_cons, List.mem_append, List.not_mem_nil, or_false,
      Token.mark.injEq] at hc
    obtain rfl | hc | rfl := hc
    · decide
    · exact h.marks c hc
    · decide
  level n _ := by
    have hinner := h.level (n + 1) (by omega)
    have hopen : (Token.mark '(').level? n = some (n + 1) := rfl
    have hclose : (Token.mark ')').level? (n + 1) = some n := by simp [Token.level?]
    rw [List.cons_append, levelAfter_cons, hopen, Option.bind_some, levelAfter_append, hinner,
      Option.bind_some, levelAfter_cons, hclose]
    rfl

theorem Spells.parens (h : Spells 1 s vs) : Follows 0 ("(" ++ s ++ ")") vs := by
  obtain ⟨ts, hs, hsound, rfl⟩ := h
  refine ⟨.mark '(' :: ts ++ [.mark ')'], ?_, hsound.parens, ?_, fun x hx => ?_⟩
  · simp [hs, Token.spell]
  · simp [values, Token.value?, List.filterMap_cons]
  · obtain rfl : .mark '(' = x := by simpa using hx
    exact ⟨_, rfl⟩

theorem spells_quote (text : String) : Spells k (Value.quote text) [text] := by
  refine ⟨[.literal text.toList], ?_, ⟨List.isChain_singleton _, by simp, ?_⟩, ?_⟩
  · simp [Value.quote, Token.spell, enclosed, doubled, Value.quoteChars]
  · intro n _
    simp [levelAfter_cons, Token.level?]
    rfl
  · simp [values, Token.value?]

theorem spell_intercalate (sep : List Token) (es : List (List Token)) :
    spell (sep.intercalate es) = (spell sep).intercalate (es.map spell) :=
  map_intercalate rfl spell_append sep es

theorem sound_intercalate {cs : List Char} {es : List (List Token)} (hne : cs ≠ [])
    (hsep : Sound k (cs.map Token.mark)) (h : ∀ e ∈ es, Sound k e) :
    Sound k ((cs.map Token.mark).intercalate es) := by
  refine intercalate_induction (fun _ => sound_nil) (fun ts us hts hus => ?_) h
  rw [List.append_assoc]
  have hrest := hsep.append hus (Or.inl fun x hx => isMark_map cs x (List.mem_of_getLast? hx))
  refine hts.append hrest (Or.inr fun x hx => ?_)
  obtain ⟨c, cs, rfl⟩ := List.exists_cons_of_ne_nil hne
  exact ⟨c, by simpa using hx.symm⟩

theorem values_intercalate (cs : List Char) (es : List (List Token)) :
    values ((cs.map Token.mark).intercalate es) = es.flatMap values := by
  induction es with
  | nil => rfl
  | cons e es ih =>
    by_cases hnil : es = []
    · simp [hnil]
    · rw [List.intercalate_cons_of_ne_nil hnil, values_append, values_append, values_marks, ih,
        List.flatMap_cons, List.append_nil]

theorem exists_tokens {l : List String} {vss : List (List String)} (h : List.Forall₂ (Spells k) l vss) :
    ∃ es : List (List Token), l.map String.toList = es.map spell ∧ (∀ e ∈ es, Sound k e) ∧
      es.map values = vss := by
  induction h with
  | nil => exact ⟨[], rfl, by simp, rfl⟩
  | cons hx _ ih =>
    obtain ⟨e, hx, hsound, hvs⟩ := hx
    obtain ⟨es, hl, hes, hvalues⟩ := ih
    exact ⟨e :: es, by simp [hx, hl], by simpa using ⟨hsound, hes⟩, by simp [hvs, hvalues]⟩

/-- Texts with a word between each two of them. -/
theorem spells_intercalate {l : List String} {vss : List (List String)} (hw : Divider k w)
    (h : List.Forall₂ (Spells k) l vss) : Spells k (w.intercalate l) vss.flatten := by
  obtain ⟨es, hl, hes, rfl⟩ := exists_tokens h
  have hsound := sound_intercalate hw.toList_ne_nil (sound_marks hw.1) hes
  refine ⟨(w.toList.map Token.mark).intercalate es, ?_, hsound, ?_⟩
  · rw [String.toList_intercalate, spell_intercalate, spell_marks, hl]
  · rw [values_intercalate, List.flatMap_def]

theorem spells_list {l : List String} (hw : Divider k w) (h : ∀ x ∈ l, Spells k x []) :
    Spells k (w.intercalate l) [] := by
  have hall : List.Forall₂ (Spells k) l (l.map fun _ => []) :=
    List.forall₂_map_right_iff.2 (List.forall₂_same.2 h)
  have hflat : (l.map fun _ => ([] : List String)).flatten = [] := by simp
  rw [← hflat]
  exact spells_intercalate hw hall

end

/-- A text that is spelled is read without leaving a quote open, and has no semicolon outside quotes. -/
theorem Spells.tokens {k : Nat} {s : String} {vs : List String} (h : Spells k s vs) :
    ∃ ts, tokens? s = some ts ∧ Token.mark ';' ∉ ts ∧ values ts = vs := by
  obtain ⟨ts, hs, hsound, hvs⟩ := h
  refine ⟨ts, ?_, fun hmem => (hsound.marks _ hmem).2 rfl, hvs⟩
  rw [tokens?, hs]
  exact read_spell hsound.apart fun c hc => (hsound.marks c hc).1

theorem tokens_all {k : Nat} {l : List String} {vss : List (List String)}
    (h : List.Forall₂ (Spells k) l vss) :
    ∃ tokens : List (List Token), l.map tokens? = tokens.map some ∧
      (∀ ts ∈ tokens, .mark ';' ∉ ts) ∧ tokens.map values = vss := by
  induction h with
  | nil => exact ⟨[], rfl, by simp, rfl⟩
  | cons hfirst _ ih =>
    obtain ⟨ts, hts, hmark, hvs⟩ := hfirst.tokens
    obtain ⟨tokens, htokens, hmarks, hvss⟩ := ih
    exact ⟨ts :: tokens, by simp [hts, htokens], by simpa using ⟨hmark, hmarks⟩, by simp [hvs, hvss]⟩

end SqlKit.Quoting
