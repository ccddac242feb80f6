import SqlKit.Migration.Directory
import SqlKit.Proofs.Digits
import SqlKit.Proofs.LedgerSet
import SqlKit.Proofs.Lists

/-!
# The grammar of migration names

A name has a stamp of fourteen digits, an underscore, and a slug of small letters, digits and underscores.
Names are checked with the decimal digits of every script, so of those that are let in only the ones with
ASCII digits stand in the order of the times that their stamps say.
-/

namespace SqlKit.Migration
open Number (foldDigits foldDigits_lt_iff)

/-- The parts of a name, for a class of digits. -/
structure Named (digit : Char → Bool) (name : String) (stamp slug : List Char) : Prop where
  text : name.toList = stamp ++ '_' :: slug
  length : stamp.length = 14
  digits : ∀ c ∈ stamp, digit c = true
  nonempty : slug ≠ []
  letters : ∀ c ∈ slug, c.isLower = true ∨ c.isDigit = true ∨ c = '_'

variable {digit : Char → Bool} {name : String} {stamp slug : List Char}

theorem isSlugChar_iff {c : Char} :
    isSlugChar c = true ↔ c.isLower = true ∨ c.isDigit = true ∨ c = '_' := by
  simp [isSlugChar, or_assoc]

theorem isValidSlug_iff {cs : List Char} : isValidSlug cs = true ↔
    ∃ slug, cs = '_' :: slug ∧ slug ≠ [] ∧ ∀ c ∈ slug, c.isLower = true ∨ c.isDigit = true ∨ c = '_' := by
  constructor
  · intro h
    unfold isValidSlug at h
    split at h
    · next c cs =>
      exact ⟨c :: cs, rfl, List.cons_ne_nil c cs, fun e he => isSlugChar_iff.1 (List.all_eq_true.1 h e he)⟩
    · cases h
  · rintro ⟨slug, rfl, hne, hletters⟩
    cases slug with
    | nil => exact absurd rfl hne
    | cons c cs => exact List.all_eq_true.2 fun e he => isSlugChar_iff.2 (hletters e he)

theorem Named.stamp_eq (h : Named digit name stamp slug) : name.toList.take 14 = stamp := by
  rw [h.text, List.take_left' h.length]

theorem Named.mono {digit' : Char → Bool} (h : Named digit name stamp slug)
    (hdigit : ∀ c ∈ stamp, digit' c = true) : Named digit' name stamp slug :=
  { h with digits := hdigit }

theorem isValidName_iff : isValidName name = true ↔ ∃ stamp slug, Named Text.isDecimalDigit name stamp slug := by
  have hsplit := List.take_append_drop timestampLength name.toList
  simp only [isValidName, Bool.and_eq_true, beq_iff_eq, List.all_eq_true, isValidSlug_iff]
  constructor
  · rintro ⟨⟨hlength, hdigits⟩, slug, hslug, hne, hletters⟩
    exact ⟨_, slug, by rw [← hslug, hsplit], hlength, hdigits, hne, hletters⟩
  · rintro ⟨stamp, slug, h⟩
    have hdrop : name.toList.drop timestampLength = '_' :: slug := by
      rw [h.text]
      exact List.drop_left' h.length
    have htake : name.toList.take timestampLength = stamp := h.stamp_eq
    rw [htake, hdrop]
    exact ⟨⟨h.length, h.digits⟩, slug, rfl, h.nonempty, h.letters⟩

/-- The names with ASCII digits are the valid ones whose stamp has these only. -/
theorem named_ascii_iff : (∃ stamp slug, Named Char.isDigit name stamp slug) ↔
    isValidName name = true ∧ ∀ c ∈ name.toList.take 14, c.isDigit = true := by
  rw [isValidName_iff]
  constructor
  · rintro ⟨stamp, slug, h⟩
    have hany : ∀ c ∈ stamp, Text.isDecimalDigit c = true :=
      fun c hc => Text.isDecimalDigit_of_isDigit (h.digits c hc)
    exact ⟨⟨stamp, slug, h.mono hany⟩, by rw [h.stamp_eq]; exact h.digits⟩
  · rintro ⟨⟨stamp, slug, h⟩, hascii⟩
    rw [h.stamp_eq] at hascii
    exact ⟨stamp, slug, h.mono hascii⟩

/-! ## Where names are checked -/

theorem register_of_invalid {m : Migrator} {x : Migration} (h : isValidName x.name = false) :
    m.register x = .error (.invalidName x.name) := by
  simp [Migrator.register, checkName, h, bind, Except.bind]

theorem register_of_valid {m : Migrator} {x : Migration} (h : isValidName x.name = true) :
    m.register x = if x.name ∈ m.names then .error (.duplicate x.name)
      else .ok { m with migrations := Migrator.insertSorted x m.migrations } := by
  by_cases hmem : x.name ∈ m.names <;>
    simp [Migrator.register, checkName, h, hmem, bind, Except.bind, pure, Except.pure, throw, throwThe,
      MonadExceptOf.throw]

theorem take_stem {file : String} {stem : List Char} (h : file.toList = stem ++ extension.toList) :
    file.toList.take (file.length - extension.length) = stem := by
  have hlength : file.length - extension.length = stem.length := by
    rw [← String.length_toList, ← String.length_toList, h, List.length_append]
    omega
  rw [hlength, h, List.take_left]

theorem nameOfFile?_eq_some_iff {file : String} :
    nameOfFile? file = some name ↔ file = fileName name ∧ isValidName name = true := by
  have hends : file.endsWith extension = true ↔ extension.toList <:+ file.toList := by
    rw [String.endsWith, String.Slice.endsWith_string_iff, String.copy_toSlice]
  unfold nameOfFile?
  constructor
  · intro h
    split at h
    · next hsuffix =>
      obtain ⟨stem, hstem⟩ := hends.1 hsuffix
      simp only [take_stem hstem.symm, Option.ite_none_right_eq_some, Option.some.injEq] at h
      obtain ⟨hvalid, rfl⟩ := h
      refine ⟨String.toList_injective ?_, hvalid⟩
      rw [fileName, String.toList_append, String.toList_ofList, hstem]
    · cases h
  · rintro ⟨rfl, hvalid⟩
    have htext : (fileName name).toList = name.toList ++ extension.toList := String.toList_append
    have hsuffix : (fileName name).endsWith extension = true := hends.2 ⟨name.toList, htext.symm⟩
    simp only [hsuffix, if_true, take_stem htext, String.ofList_toList, hvalid]

theorem name_parse (name text : String) : (Script.parse name text).name = name := by
  simp only [Script.parse]
  split <;> rfl

theorem readScript?_ok_iff {file : String × Entry} {s : Script} : readScript? file = some (.ok s) ↔
    ∃ text, file = (fileName s.name, .text text) ∧ isValidName s.name = true ∧ s = .parse s.name text := by
  obtain ⟨path, entry⟩ := file
  constructor
  · intro h
    cases hname : nameOfFile? path with
    | none => simp [readScript?, hname] at h
    | some name =>
      obtain ⟨rfl, hvalid⟩ := nameOfFile?_eq_some_iff.1 hname
      cases entry with
      | text text =>
        have hs : Script.parse name text = s := by simpa [readScript?, hname] using h
        subst hs
        rw [name_parse]
        exact ⟨text, rfl, hvalid, rfl⟩
      | folder => simp [readScript?, hname] at h
      | binary => simp [readScript?, hname] at h
  · rintro ⟨text, hfile, hvalid, hs⟩
    obtain ⟨rfl, rfl⟩ := Prod.mk.inj hfile
    have hname : nameOfFile? (fileName s.name) = some s.name := nameOfFile?_eq_some_iff.2 ⟨rfl, hvalid⟩
    simp only [readScript?, hname]
    rw [← hs]

theorem readScript?_error_iff {file : String × Entry} : (∃ e, readScript? file = some (.error e)) ↔
    ∃ name, file = (fileName name, .binary) ∧ isValidName name = true := by
  obtain ⟨path, entry⟩ := file
  constructor
  · rintro ⟨e, h⟩
    cases hname : nameOfFile? path with
    | none => simp [readScript?, hname] at h
    | some name =>
      obtain ⟨rfl, hvalid⟩ := nameOfFile?_eq_some_iff.1 hname
      cases entry with
      | binary => exact ⟨name, rfl, hvalid⟩
      | folder => simp [readScript?, hname] at h
      | text text => simp [readScript?, hname] at h
  · rintro ⟨name, hfile, hvalid⟩
    obtain ⟨rfl, rfl⟩ := Prod.mk.inj hfile
    have hname : nameOfFile? (fileName name) = some name := nameOfFile?_eq_some_iff.2 ⟨rfl, hvalid⟩
    exact ⟨.file (fileName name), by simp only [readScript?, hname]⟩

theorem discover_eq_ok_iff {t : FileTree} {path : String} {scripts : List Script} :
    discover t path = .ok scripts ↔ t.isFolder path = true ∧
      ((t.inFolder path).mergeSort fun a b => a.1 ≤ b.1).filterMap readScript? = scripts.map .ok := by
  unfold discover
  split
  · next hfolder => rw [mapM_id_eq_ok_iff, and_iff_right hfolder]
  · next hfolder => simp [hfolder]

/-- The scripts found are the texts in the folder that are named for a migration. -/
theorem mem_discover {t : FileTree} {path : String} {scripts : List Script}
    (h : discover t path = .ok scripts) (s : Script) : s ∈ scripts ↔
      ∃ text, (fileName s.name, .text text) ∈ t.inFolder path ∧ isValidName s.name = true ∧
        s = .parse s.name text := by
  have hmem : s ∈ scripts ↔ Except.ok s ∈ scripts.map (Except.ok (ε := MigrationError)) :=
    (List.mem_map_of_injective fun _ _ => Except.ok.inj).symm
  rw [hmem, ← (discover_eq_ok_iff.1 h).2, List.mem_filterMap]
  simp only [List.mem_mergeSort, readScript?_ok_iff]
  constructor
  · rintro ⟨file, hfile, text, rfl, hvalid, hs⟩
    exact ⟨text, hfile, hvalid, hs⟩
  · rintro ⟨text, hfile, hvalid, hs⟩
    exact ⟨_, hfile, text, rfl, hvalid, hs⟩

theorem discover_ok_iff {t : FileTree} {path : String} : (∃ scripts, discover t path = .ok scripts) ↔
    t.isFolder path = true ∧ ∀ name, isValidName name = true → (fileName name, .binary) ∉ t.inFolder path := by
  have hall : ∀ xs : List (Except MigrationError Script),
      (∃ ys : List Script, xs = ys.map .ok) ↔ ∀ e, .error e ∉ xs := by
    intro xs
    constructor
    · rintro ⟨ys, rfl⟩ e he
      simp at he
    · intro h
      have hrange : xs ∈ Set.range (List.map Except.ok) := by
        rw [Set.range_list_map]
        intro x hx
        cases x with
        | ok s => exact ⟨s, rfl⟩
        | error e => exact absurd hx (h e)
      obtain ⟨ys, rfl⟩ := hrange
      exact ⟨ys, rfl⟩
  simp only [discover_eq_ok_iff, exists_and_left, hall]
  refine and_congr_right fun _ => ?_
  simp only [List.mem_filterMap, List.mem_mergeSort]
  constructor
  · intro h name hvalid hfile
    obtain ⟨e, he⟩ := readScript?_error_iff.2 ⟨name, rfl, hvalid⟩
    exact h e ⟨_, hfile, he⟩
  · rintro h e ⟨file, hfile, he⟩
    obtain ⟨name, rfl, hvalid⟩ := readScript?_error_iff.1 ⟨e, he⟩
    exact h name hvalid hfile

/-! ## The order of names -/

theorem append_lt_append_iff {xs ys us vs : List Char} (h : xs.length = ys.length) :
    xs ++ us < ys ++ vs ↔ xs < ys ∨ xs = ys ∧ us < vs := by
  induction xs generalizing ys with
  | nil =>
    obtain rfl := List.eq_nil_of_length_eq_zero h.symm
    simp
  | cons x xs ih =>
    cases ys with
    | nil => cases h
    | cons y ys =>
      rw [List.cons_append, List.cons_append, List.cons_lt_cons_iff, List.cons_lt_cons_iff,
        ih (Nat.succ.inj h), List.cons_eq_cons]
      tauto

/-- Names stand in the order of their stamps, and with one stamp in the order of their slugs. -/
theorem Named.lt_iff {other : String} {stamp' slug' : List Char} {digit' : Char → Bool}
    (h : Named digit name stamp slug) (h' : Named digit' other stamp' slug') :
    name < other ↔ stamp < stamp' ∨ stamp = stamp' ∧ slug < slug' := by
  have hlength : stamp.length = stamp'.length := h.length.trans h'.length.symm
  rw [String.lt_iff_toList_lt, h.text, h'.text, append_lt_append_iff hlength, List.cons_lt_cons_iff]
  simp

theorem Named.lt_iff_number {other : String} {stamp' slug' : List Char}
    (h : Named Char.isDigit name stamp slug) (h' : Named Char.isDigit other stamp' slug') :
    name < other ↔ foldDigits stamp 0 < foldDigits stamp' 0 ∨
      foldDigits stamp 0 = foldDigits stamp' 0 ∧ slug < slug' := by
  have hlength : stamp.length = stamp'.length := h.length.trans h'.length.symm
  have hless := foldDigits_lt_iff hlength h.digits h'.digits 0
  have hmore := foldDigits_lt_iff hlength.symm h'.digits h.digits 0
  have hsame : foldDigits stamp 0 = foldDigits stamp' 0 ↔ stamp = stamp' := by
    constructor
    · intro heq
      rcases lt_trichotomy stamp stamp' with hlt | heq' | hgt
      · exact absurd (hless.2 hlt) (by omega)
      · exact heq'
      · exact absurd (hmore.2 hgt) (by omega)
    · rintro rfl
      rfl
  rw [h.lt_iff h', hless, hsame]

/-- What is checked is the grammar with the decimal digits of any script; a name of the one with ASCII digits
is a valid name whose stamp has no others. Exactly the names that pass are registered, each once, and exactly
the texts named by them are found in a folder. Names stand in the order of their stamps as texts, which for
ASCII digits is the order of the numbers. -/
theorem names_by_grammar (name : String) :
    (isValidName name = true ↔ ∃ stamp slug, Named Text.isDecimalDigit name stamp slug) ∧
    ((∃ stamp slug, Named Char.isDigit name stamp slug) ↔
      isValidName name = true ∧ ∀ c ∈ name.toList.take 14, c.isDigit = true) ∧
    (∀ (m : Migrator) (x : Migration), x.name = name →
      ((∃ m', m.register x = .ok m') ↔ isValidName name = true ∧ name ∉ m.names) ∧
      (m.register x = .error (.invalidName name) ↔ isValidName name = false)) ∧
    (∀ t path, (∃ scripts, discover t path = .ok scripts) ↔ t.isFolder path = true ∧
      ∀ other, isValidName other = true → (fileName other, .binary) ∉ t.inFolder path) ∧
    (∀ t path scripts, discover t path = .ok scripts → ∀ s : Script, s.name = name →
      (s ∈ scripts ↔ ∃ text, (fileName name, .text text) ∈ t.inFolder path ∧ isValidName name = true ∧
        s = .parse name text)) ∧
    ∀ other stamp stamp' slug slug',
      (Named Text.isDecimalDigit name stamp slug → Named Text.isDecimalDigit other stamp' slug' →
        (name < other ↔ stamp < stamp' ∨ stamp = stamp' ∧ slug < slug')) ∧
      (Named Char.isDigit name stamp slug → Named Char.isDigit other stamp' slug' →
        (name < other ↔ foldDigits stamp 0 < foldDigits stamp' 0 ∨
          foldDigits stamp 0 = foldDigits stamp' 0 ∧ slug < slug')) := by
  refine ⟨isValidName_iff, named_ascii_iff, ?_, fun _ _ => discover_ok_iff, ?_,
    fun _ _ _ _ _ => ⟨fun h h' => h.lt_iff h', fun h h' => h.lt_iff_number h'⟩⟩
  · rintro m x rfl
    cases hvalid : isValidName x.name with
    | false => simp [register_of_invalid hvalid]
    | true =>
      rw [register_of_valid hvalid]
      by_cases hmem : x.name ∈ m.names <;> simp [hmem]
  · rintro t path scripts h s rfl
    exact mem_discover h s

/-- A stamp for the year 2024 in Arabic digits passes, and stands behind one for 2025 in ASCII digits. -/
theorem foreign_digits_pass :
    let arabic := "٢٠٢٤٠١٠١٠٠٠٠٠٠_posts"
    isValidName arabic = true ∧ (¬∃ stamp slug, Named Char.isDigit arabic stamp slug) ∧
      "20250101000000_posts" < arabic := by
  intro arabic
  have hfirst : '٢' ∈ arabic.toList.take 14 := by decide
  refine ⟨by decide, fun h => ?_, by decide⟩
  have hdigit := (named_ascii_iff.1 h).2 '٢' hfirst
  exact absurd hdigit (by decide)

end SqlKit.Migration
