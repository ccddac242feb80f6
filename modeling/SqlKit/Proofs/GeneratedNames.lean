import Mathlib
import SqlKit.Proofs.MigrationNames
import SqlKit.Proofs.StoredTimes

/-!
# Generated names

The slug of a description is its runs of ASCII letters and digits in small letters, joined by underscores,
so a generated name is valid and its slug is a description of itself.
-/

namespace SqlKit.Migration

/-- The maximal runs of letters and digits of a text, in order, with gaps of other characters around. -/
inductive Runs : List Char → List (List Char) → Prop
  | gap {cs : List Char} : (∀ c ∈ cs, c.isAlphanum = false) → Runs cs []
  | run {cs word rest : List Char} {ws : List (List Char)} : (∀ c ∈ cs, c.isAlphanum = false) →
      word ≠ [] → (∀ c ∈ word, c.isAlphanum = true) → (∀ c ∈ rest.head?, c.isAlphanum = false) →
      Runs rest ws → Runs (cs ++ (word ++ rest)) (word :: ws)

variable {cs word rest : List Char} {ws : List (List Char)}

/-! ## Words are runs -/

theorem words_cons_other {c : Char} (h : c.isAlphanum = false) (cs : List Char) :
    words (c :: cs) = words cs := by
  simp [words, h]

theorem words_cons_last {c : Char} (h : c.isAlphanum = true) (hcs : ∀ d ∈ cs.head?, d.isAlphanum = false) :
    words (c :: cs) = [c] :: words cs := by
  cases cs with
  | nil => simp [words, h]
  | cons d cs =>
    have hd : d.isAlphanum = false := hcs d rfl
    rw [words.eq_def]
    simp only [h, if_true]
    cases words (d :: cs) with
    | nil => rfl
    | cons w ws => simp [hd]

theorem words_cons_run {c d : Char} (hc : c.isAlphanum = true) (hd : d.isAlphanum = true)
    (h : words (d :: cs) = word :: ws) : words (c :: d :: cs) = (c :: word) :: ws := by
  rw [words.eq_def]
  simp only [hc, hd, h, if_true]

theorem words_gap {gap : List Char} (h : ∀ c ∈ gap, c.isAlphanum = false) (cs : List Char) :
    words (gap ++ cs) = words cs := by
  induction gap with
  | nil => rfl
  | cons c gap ih =>
    obtain ⟨hc, hgap⟩ := List.forall_mem_cons.1 h
    rw [List.cons_append, words_cons_other hc, ih hgap]

theorem words_run (hne : word ≠ []) (hword : ∀ c ∈ word, c.isAlphanum = true)
    (hrest : ∀ c ∈ rest.head?, c.isAlphanum = false) : words (word ++ rest) = word :: words rest := by
  induction word with
  | nil => exact absurd rfl hne
  | cons c word ih =>
    obtain ⟨hc, htail⟩ := List.forall_mem_cons.1 hword
    cases word with
    | nil => exact words_cons_last hc hrest
    | cons d word => exact words_cons_run hc (htail d List.mem_cons_self) (ih (List.cons_ne_nil d word) htail)

theorem Runs.words_eq (h : Runs cs ws) : words cs = ws := by
  induction h with
  | @gap cs hgap =>
    have hwords := words_gap hgap []
    rwa [List.append_nil] at hwords
  | run hgap hne hword hend _ ih => rw [words_gap hgap, words_run hne hword hend, ih]

theorem Runs.behind_gap {c : Char} (hc : c.isAlphanum = false) (h : Runs cs ws) : Runs (c :: cs) ws := by
  cases h with
  | gap hgap => exact .gap (List.forall_mem_cons.2 ⟨hc, hgap⟩)
  | run hgap hne hword hend hrest => exact .run (List.forall_mem_cons.2 ⟨hc, hgap⟩) hne hword hend hrest

theorem Runs.longer {c d : Char} (hc : c.isAlphanum = true) (hd : d.isAlphanum = true)
    (h : Runs (d :: cs) ws) : ∃ w vs, ws = w :: vs ∧ Runs (c :: d :: cs) ((c :: w) :: vs) := by
  generalize htext : d :: cs = text at h
  cases h with
  | gap hgap =>
    subst htext
    exact absurd (hgap d List.mem_cons_self) (by simp [hd])
  | @run gap w rest vs hgap hne hword hend hrest =>
    -- The first run starts at once, so there is no gap before it.
    have hnone : gap = [] := by
      cases gap with
      | nil => rfl
      | cons e gap =>
        obtain rfl := (List.cons.inj htext).1
        exact absurd (hgap d List.mem_cons_self) (by simp [hd])
    subst hnone
    refine ⟨w, vs, rfl, ?_⟩
    have hruns : Runs ([] ++ ((c :: w) ++ rest)) ((c :: w) :: vs) :=
      .run (by simp) (List.cons_ne_nil c w) (List.forall_mem_cons.2 ⟨hc, hword⟩) hend hrest
    exact hruns

theorem runs_words (cs : List Char) : Runs cs (words cs) := by
  induction cs with
  | nil => exact .gap (by simp)
  | cons c cs ih =>
    cases hc : c.isAlphanum with
    | false =>
      rw [words_cons_other hc]
      exact ih.behind_gap hc
    | true =>
      have hone : ∀ e ∈ [c], e.isAlphanum = true := by simp [hc]
      by_cases hnext : ∃ d ∈ cs.head?, d.isAlphanum = true
      · obtain ⟨d, hhead, hd⟩ := hnext
        cases cs with
        | nil => cases hhead
        | cons e cs =>
          obtain rfl : e = d := Option.some.inj hhead
          obtain ⟨w, vs, hwords, hruns⟩ := ih.longer hc hd
          rwa [words_cons_run hc hd hwords]
      · have hend : ∀ d ∈ cs.head?, d.isAlphanum = false := by simpa using hnext
        rw [words_cons_last hc hend]
        exact .run (List.forall_mem_nil _) (List.cons_ne_nil c []) hone hend ih

theorem Runs.spec (h : Runs cs ws) : ∀ w ∈ ws, w ≠ [] ∧ ∀ c ∈ w, c.isAlphanum = true := by
  induction h with
  | gap _ => simp
  | run _ hne hword _ _ ih => exact List.forall_mem_cons.2 ⟨⟨hne, hword⟩, ih⟩

theorem Runs.eq_nil_iff (h : Runs cs ws) : ws = [] ↔ ∀ c ∈ cs, c.isAlphanum = false := by
  cases h with
  | gap hgap => exact iff_of_true rfl hgap
  | @run _ word _ _ _ hne hword _ _ =>
    refine iff_of_false (List.cons_ne_nil _ _) fun hnone => ?_
    obtain ⟨c, hc⟩ := List.exists_mem_of_ne_nil word hne
    have hother := hnone c (List.mem_append_right _ (List.mem_append_left _ hc))
    rw [hword c hc] at hother
    cases hother

/-! ## Small letters -/

theorem isAlphanum_toLower (c : Char) : c.toLower.isAlphanum = c.isAlphanum := by
  by_cases hc : c.isUpper = true
  · have hletter : c.isAlpha = true := by simp [Char.isAlpha, hc]
    have hlower : c.toLower.isAlpha = true := by
      rw [Char.isAlpha, Char.isLower_toLower_eq_isAlpha, hletter, Bool.or_true]
    rw [Char.isAlphanum, Char.isAlphanum, hletter, hlower, Bool.true_or, Bool.true_or]
  · rw [Char.toLower_eq_of_not_isUpper hc]

theorem forall_mem_toLower {P : Bool → Prop} (h : ∀ c ∈ cs, P c.isAlphanum) :
    ∀ c ∈ cs.map Char.toLower, P c.isAlphanum := by
  rintro c hc
  obtain ⟨e, he, rfl⟩ := List.mem_map.1 hc
  rw [isAlphanum_toLower]
  exact h e he

theorem Runs.toLower (h : Runs cs ws) : Runs (cs.map Char.toLower) (ws.map (·.map Char.toLower)) := by
  induction h with
  | gap hgap => exact .gap (forall_mem_toLower (P := (· = false)) hgap)
  | @run gap word rest ws hgap hne hword hend _ ih =>
    have hend' : ∀ c ∈ (rest.map Char.toLower).head?, c.isAlphanum = false := by
      rw [List.head?_map]
      rintro c hc
      obtain ⟨e, he, rfl⟩ := Option.map_eq_some_iff.1 hc
      rw [isAlphanum_toLower]
      exact hend e he
    rw [List.map_append, List.map_append]
    exact .run (forall_mem_toLower (P := (· = false)) hgap) (by simpa using hne)
      (forall_mem_toLower (P := (· = true)) hword) hend' ih

/-! ## Slugs -/

/-- The runs in small letters, joined by underscores, or a word for a text without any. -/
def joined (ws : List (List Char)) : List Char :=
  if ws = [] then "migration".toList else ['_'].intercalate (ws.map (·.map Char.toLower))

theorem slug_of_runs {description : String} (h : Runs description.toList ws) :
    (slug description).toList = joined ws := by
  rw [slug, h.toLower.words_eq, joined]
  cases ws with
  | nil => rfl
  | cons w ws => simp

theorem runs_intercalate (h : ∀ w ∈ ws, w ≠ [] ∧ ∀ c ∈ w, c.isAlphanum = true) :
    Runs (['_'].intercalate ws) ws := by
  induction ws with
  | nil => exact .gap (List.forall_mem_nil _)
  | cons w ws ih =>
    obtain ⟨⟨hne, hword⟩, hrest⟩ := List.forall_mem_cons.1 h
    cases ws with
    | nil =>
      have hlast : Runs ([] ++ (w ++ [])) [w] :=
        .run (List.forall_mem_nil _) hne hword (by simp) (.gap (List.forall_mem_nil _))
      simpa using hlast
    | cons v ws =>
      have hlater : Runs ('_' :: ['_'].intercalate (v :: ws)) (v :: ws) := (ih hrest).behind_gap (by decide)
      have hruns : Runs ([] ++ (w ++ '_' :: ['_'].intercalate (v :: ws))) (w :: v :: ws) :=
        .run (List.forall_mem_nil _) hne hword (by simp) hlater
      simpa [List.intercalate_cons_cons] using hruns

/-- A text that neither begins nor ends with an underscore and has no two of them in a row. -/
structure Tidy (cs : List Char) : Prop where
  nonempty : cs ≠ []
  first : cs.head? ≠ some '_'
  last : cs.getLast? ≠ some '_'
  inner : cs.IsChain fun c e => c = '_' → e ≠ '_'

theorem tidy_of_not_mem (hne : cs ≠ []) (h : '_' ∉ cs) : Tidy cs where
  nonempty := hne
  first := fun hfirst => h (List.mem_of_mem_head? hfirst)
  last := fun hlast => h (List.mem_of_getLast? hlast)
  inner := by
    have hother : ∀ c ∈ cs, ∀ e ∈ cs, c = '_' → e ≠ '_' := fun c hc _ _ hmark => absurd (hmark ▸ hc) h
    exact (List.pairwise_of_forall_mem_list hother).isChain

theorem Tidy.joined {ds : List Char} (hcs : Tidy cs) (hds : Tidy ds) : Tidy (cs ++ '_' :: ds) where
  nonempty := by simp
  first := by rw [List.head?_append_of_ne_nil _ hcs.nonempty]; exact hcs.first
  last := by
    rw [List.getLast?_append_of_ne_nil _ (List.cons_ne_nil _ _), List.getLast?_cons_of_ne_nil hds.nonempty]
    exact hds.last
  inner := by
    refine List.isChain_append.2 ⟨hcs.inner, List.isChain_cons.2 ⟨fun e he _ heq => ?_, hds.inner⟩, ?_⟩
    · exact hds.first (heq ▸ he)
    · rintro c hc e - heq -
      exact hcs.last (heq ▸ hc)

theorem Tidy.not_doubled (h : Tidy cs) : ¬['_', '_'] <:+: cs := by
  intro hinfix
  have hchain := h.inner.infix hinfix
  simp at hchain

theorem tidy_intercalate (hne : ws ≠ []) (h : ∀ w ∈ ws, w ≠ [] ∧ '_' ∉ w) :
    Tidy (['_'].intercalate ws) := by
  refine intercalate_induction (fun hnil => absurd hnil hne) (fun cs ds hcs hds => ?_)
    fun w hw => tidy_of_not_mem (h w hw).1 (h w hw).2
  rw [List.append_assoc]
  exact hcs.joined hds

theorem letters_toLower {w : List Char} (h : ∀ c ∈ w, c.isAlphanum = true) :
    ∀ c ∈ w.map Char.toLower, c.isLower = true ∨ c.isDigit = true := by
  intro c hc
  obtain ⟨e, he, rfl⟩ := List.mem_map.1 hc
  have halnum := h e he
  rw [Char.isAlphanum, Bool.or_eq_true] at halnum
  rcases halnum with hletter | hdigit
  · exact Or.inl ((Char.isLower_toLower_eq_isAlpha e).trans hletter)
  · have hcase : ¬e.isUpper = true := by
      rw [Char.isDigit_iff_toNat] at hdigit
      simp only [Char.isUpper, decide_eq_true_eq, UInt32.le_iff_toNat_le]
      intro hupper
      have hhigh : e.toNat ≤ 57 := hdigit.2
      have hlow : 65 ≤ e.toNat := hupper.1
      omega
    rw [Char.toLower_eq_of_not_isUpper hcase]
    exact Or.inr hdigit

theorem underscore_not_mem {w : List Char} (h : ∀ c ∈ w, c.isLower = true ∨ c.isDigit = true) : '_' ∉ w :=
  fun hmem => absurd (h '_' hmem) (by decide)

theorem joined_tidy (h : Runs cs ws) : Tidy (joined ws) := by
  unfold joined
  split_ifs with hnone
  · exact tidy_of_not_mem (by decide) (by decide)
  · refine tidy_intercalate (by simpa using hnone) ?_
    rintro v hv
    obtain ⟨w, hw, rfl⟩ := List.mem_map.1 hv
    obtain ⟨hne, halnum⟩ := h.spec w hw
    exact ⟨by simpa using hne, underscore_not_mem (letters_toLower halnum)⟩

theorem joined_letters (h : Runs cs ws) :
    ∀ c ∈ joined ws, c.isLower = true ∨ c.isDigit = true ∨ c = '_' := by
  unfold joined
  split_ifs with hnone
  · have hword : "migration".toList.all isSlugChar = true := by decide
    exact fun c hc => isSlugChar_iff.1 (List.all_eq_true.1 hword c hc)
  · intro c hc
    rcases mem_intercalate hc with hmark | ⟨v, hv, hcv⟩
    · exact Or.inr (Or.inr (List.mem_singleton.1 hmark))
    · obtain ⟨w, hw, rfl⟩ := List.mem_map.1 hv
      exact (letters_toLower (h.spec w hw).2 c hcv).imp_right Or.inl

/-- The slug of a slug is itself. -/
theorem joined_again (h : Runs cs ws) : ∃ vs, Runs (joined ws) vs ∧ joined vs = joined ws := by
  unfold joined
  split_ifs with hnone
  · exact ⟨_, runs_words _, by decide⟩
  · have hspec : ∀ v ∈ ws.map (·.map Char.toLower), v ≠ [] ∧ ∀ c ∈ v, c.isAlphanum = true := by
      rintro v hv
      obtain ⟨w, hw, rfl⟩ := List.mem_map.1 hv
      obtain ⟨hne, halnum⟩ := h.spec w hw
      exact ⟨by simpa using hne, forall_mem_toLower (P := (· = true)) halnum⟩
    refine ⟨_, runs_intercalate hspec, ?_⟩
    rw [if_neg (by simpa using hnone), List.map_map]
    congr 1
    refine List.map_congr_left fun w _ => ?_
    simp [Char.toLower_toLower_eq_toLower]

/-! ## Stamps -/

open Number (padded) in
theorem compact_toList (now : Calendar.DateTime) : now.compact.toList =
    Calendar.yearChars now.date.year ++ padded 2 now.date.month ++ padded 2 now.date.day
      ++ padded 2 now.time.hour ++ padded 2 now.time.minute ++ padded 2 now.time.second :=
  String.toList_ofList

theorem yearChars_of_unsigned {y : Int} (h : 0 ≤ y ∧ y ≤ 9999) :
    Calendar.yearChars y = Number.padded 4 y.natAbs := by
  rw [Calendar.yearChars, if_neg (by omega), if_neg (by omega)]

variable {now : Calendar.DateTime}

theorem length_compact (hnow : now.isValid = true) (hyear : 0 ≤ now.date.year ∧ now.date.year ≤ 9999) :
    now.compact.toList.length = 14 := by
  obtain ⟨hdate, htime⟩ := (Calendar.DateTime.isValid_iff now).1 hnow
  obtain ⟨-, hmonth, hday⟩ := (Calendar.Date.isValid_iff now.date).1 hdate
  obtain ⟨hhour, hminute, hsecond, -⟩ := (Calendar.Time.isValid_iff now.time).1 htime
  have hlast := Calendar.daysInMonth_le now.date.year now.date.month
  have htwo : ∀ n : Nat, n < 100 → (Number.padded 2 n).length = 2 :=
    fun n hn => Number.length_padded (by decide) hn
  have hfour : (Number.padded 4 now.date.year.natAbs).length = 4 :=
    Number.length_padded (by decide) (by omega)
  rw [compact_toList, yearChars_of_unsigned hyear]
  simp only [List.length_append, hfour]
  rw [htwo _ (by omega), htwo _ (by omega), htwo _ (by omega), htwo _ (by omega), htwo _ (by omega)]

theorem isDigit_of_mem_compact (hyear : 0 ≤ now.date.year ∧ now.date.year ≤ 9999) {c : Char}
    (hc : c ∈ now.compact.toList) : c.isDigit = true := by
  rw [compact_toList, yearChars_of_unsigned hyear] at hc
  simp only [List.mem_append, or_assoc] at hc
  rcases hc with h | h | h | h | h | h <;> exact Number.isDigit_of_mem_padded h

/-! ## Names -/

theorem timestampedName_toList (description : String) (now : Calendar.DateTime) :
    (timestampedName description now).toList = now.compact.toList ++ '_' :: (slug description).toList := by
  simp [timestampedName]

theorem named_of_runs {description : String} (h : Runs description.toList ws) (hnow : now.isValid = true)
    (hyear : 0 ≤ now.date.year ∧ now.date.year ≤ 9999) :
    Named Char.isDigit (timestampedName description now) now.compact.toList (joined ws) where
  text := by rw [timestampedName_toList, slug_of_runs h]
  length := length_compact hnow hyear
  digits := fun _ hc => isDigit_of_mem_compact hyear hc
  nonempty := (joined_tidy h).nonempty
  letters := joined_letters h

theorem Named.drop_stamp {digit : Char → Bool} {name : String} {stamp slug : List Char}
    (h : Named digit name stamp slug) : name.toList.drop 15 = slug := by
  have hlength : (stamp ++ ['_']).length = 15 := by rw [List.length_append, h.length, List.length_singleton]
  rw [h.text, List.append_cons, List.drop_left' hlength]

/-- A generated name is valid, its part behind the stamp is the runs of letters and digits of the
description in small letters, joined by single underscores, and that part describes the name itself. -/
theorem generated_names (description : String) (now : Calendar.DateTime) (hnow : now.isValid = true)
    (hyear : 0 ≤ now.date.year ∧ now.date.year ≤ 9999) :
    let name := timestampedName description now
    let part := name.toList.drop 15
    isValidName name = true ∧ Named Char.isDigit name now.compact.toList part ∧
      (∃! ws, Runs description.toList ws ∧
        (ws = [] ↔ ∀ c ∈ description.toList, c.isAlphanum = false) ∧
        part = if ws = [] then "migration".toList else ['_'].intercalate (ws.map (·.map Char.toLower))) ∧
      part.head? ≠ some '_' ∧ part.getLast? ≠ some '_' ∧ ¬['_', '_'] <:+: part ∧
      timestampedName (String.ofList part) now = name := by
  intro name part
  have hruns := runs_words description.toList
  have hnamed := named_of_runs hruns hnow hyear
  have hpart : part = joined (words description.toList) := hnamed.drop_stamp
  have htidy : Tidy part := hpart ▸ joined_tidy hruns
  have hagain : timestampedName (String.ofList part) now = name := by
    obtain ⟨vs, hvs, hsame⟩ := joined_again hruns
    rw [← hpart] at hvs
    have htext : Runs (String.ofList part).toList vs := by rwa [String.toList_ofList]
    refine String.toList_injective ?_
    rw [timestampedName_toList, slug_of_runs htext, hsame, hnamed.text]
  -- Runs are told by the words, so there is only one list of them.
  refine ⟨?_, hpart ▸ hnamed, ⟨_, ⟨hruns, hruns.eq_nil_iff, hpart⟩, ?_⟩, htidy.first, htidy.last,
    htidy.not_doubled, hagain⟩
  · exact (named_ascii_iff.1 ⟨_, _, hnamed⟩).1
  · rintro vs ⟨hvs, -, -⟩
    exact hvs.words_eq.symm

theorem generated_names_add_index :
    let now : Calendar.DateTime := ⟨⟨2024, 3, 9⟩, ⟨14, 5, 7, 0⟩⟩
    now.isValid = true ∧ timestampedName "  Add--ïndex!" now = "20240309140507_add_ndex" ∧
      isValidName (timestampedName "  Add--ïndex!" now) = true := by
  intro now
  have hnow : now.isValid = true := by decide
  exact ⟨hnow, by decide, (generated_names "  Add--ïndex!" now hnow (by decide)).1⟩

end SqlKit.Migration
