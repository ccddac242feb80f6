import Mathlib.Data.Bool.Basic
import Mathlib.Data.List.Flatten
import Mathlib.Data.List.TakeWhile
import SqlKit.Proofs.Lists
import SqlKit.Text.Hex
import SqlKit.Text.Utf8
import SqlKit.Url.Percent

/-!
# What percent-encoded texts stand for

The reader's side of an address: texts cut at a mark, escapes taken back to bytes, forms taken back to
pairs. An encoder that leaves the percent sign alone is invisible to this reader: what it writes is read
as the text itself would be, escapes included. A form is read back as it was written.
-/

namespace SqlKit

namespace Url
open Text (hexValue?)

/-! ### The reader -/

/-- The text before the first mark, and the text behind it where there is one. -/
def cutAt (mark : Char) (cs : List Char) : List Char × Option (List Char) :=
  (cs.takeWhile (· != mark), (cs.dropWhile (· != mark)).tail?)

def bytes (cs : List Char) : List UInt8 := cs.flatMap String.utf8EncodeChar

/-- A percent sign and two hexadecimal digits are the byte they write. Everything else stands for
itself. -/
def percentDecode : List Char → List UInt8
  | [] => []
  | '%' :: a :: b :: cs =>
    match hexValue? a, hexValue? b with
    | some x, some y => UInt8.ofNat (16 * x + y) :: percentDecode cs
    | _, _ => String.utf8EncodeChar '%' ++ percentDecode (a :: b :: cs)
  | c :: cs => String.utf8EncodeChar c ++ percentDecode cs

def decode? (cs : List Char) : Option String := Text.utf8? (percentDecode cs)

/-- In a form a plus is a blank. -/
def plusAsBlank (c : Char) : Char := if c = '+' then ' ' else c

def formText? (cs : List Char) : Option String := decode? (cs.map plusAsBlank)

def formPair? (piece : List Char) : Option (String × String) := do
  let (key, value) := cutAt '=' piece
  return (← formText? key, ← formText? (value.getD []))

/-- The pairs of a form: its pieces between ampersands, empty ones left out. -/
def formPairs? (query : List Char) : Option (List (String × String)) :=
  ((query.splitOn '&').filter (· ≠ [])).mapM formPair?

/-! ### Escapes in a text -/

def isHex (c : Char) : Bool := (hexValue? c).isSome

/-- Two hexadecimal digits stand in front. -/
def hexPair : List Char → Bool
  | a :: b :: _ => isHex a && isHex b
  | _ => false

/-- Somewhere a percent sign has two hexadecimal digits behind it. -/
def holdsEscape : List Char → Bool
  | [] => false
  | c :: cs => c == '%' && hexPair cs || holdsEscape cs

@[simp] theorem percentDecode_nil : percentDecode [] = [] := rfl

theorem percentDecode_cons {c : Char} {cs : List Char} (h : c = '%' → hexPair cs = false) :
    percentDecode (c :: cs) = String.utf8EncodeChar c ++ percentDecode cs := by
  by_cases hc : c = '%'
  · subst hc
    match cs, h rfl with
    | [], _ => rfl
    | [a], _ => rfl
    | a :: b :: cs, hpair =>
      rw [percentDecode]
      split
      · next hx hy => simp [hexPair, isHex, hx, hy] at hpair
      · rfl
  · rw [percentDecode]
    exact fun a b rest heq _ => hc heq

theorem percentDecode_escape {a b : Char} {x y : Nat} (ha : hexValue? a = some x)
    (hb : hexValue? b = some y) (cs : List Char) :
    percentDecode ('%' :: a :: b :: cs) = UInt8.ofNat (16 * x + y) :: percentDecode cs := by
  rw [percentDecode, ha, hb]

/-- A text is read from the left: an escape at once, or a character that begins none. -/
@[elab_as_elim]
theorem reading_induction {P : List Char → Prop} (nil : P [])
    (escape : ∀ a b x y cs, hexValue? a = some x → hexValue? b = some y → P cs → P ('%' :: a :: b :: cs))
    (plain : ∀ c cs, (c = '%' → hexPair cs = false) → P cs → P (c :: cs)) (cs : List Char) : P cs := by
  fun_induction percentDecode cs with
  | case1 => exact nil
  | case2 a b cs x y hb ha ih => exact escape a b x y cs ha hb ih
  | case3 a b cs hne ih =>
    refine plain _ _ (fun _ => ?_) ih
    cases ha : hexValue? a with
    | none => simp [hexPair, isHex, ha]
    | some x =>
      cases hb : hexValue? b with
      | none => simp [hexPair, isHex, hb]
      | some y => exact absurd hb (hne x y ha)
  | case4 c cs hne ih =>
    refine plain _ _ (fun hc => ?_) ih
    match cs with
    | [] => rfl
    | [a] => rfl
    | a :: b :: cs => exact absurd rfl (hne a b cs hc)

/-! ### Encoded characters -/

theorem toNat_lt (c : Char) : c.toNat < 0x110000 := by
  have hvalid := c.valid
  simp only [UInt32.isValidChar, Nat.isValidChar] at hvalid
  simp only [Char.toNat]
  omega

theorem utf8_map_ofNat (c : Char) : (utf8 c).map UInt8.ofNat = String.utf8EncodeChar c := by
  have hmax := toNat_lt c
  unfold utf8 String.utf8EncodeChar
  simp only [Char.toNat] at hmax ⊢
  generalize c.val.toNat = n at hmax ⊢
  -- the two definitions make the same four cases and differ in how they take a number apart
  split_ifs <;> try omega
  all_goals simp only [List.map_cons, List.map_nil, List.cons.injEq, and_true]
  · exact ⟨congrArg _ (by omega), congrArg _ (by omega)⟩
  · exact ⟨congrArg _ (by omega), congrArg _ (by omega), congrArg _ (by omega)⟩
  · exact ⟨congrArg _ (by omega), congrArg _ (by omega), congrArg _ (by omega), congrArg _ (by omega)⟩

theorem lt_of_mem_utf8 {c : Char} {b : Nat} (h : b ∈ utf8 c) : b < 256 := by
  have hmax := toNat_lt c
  simp only [utf8] at h
  split_ifs at h <;> simp only [List.mem_cons, List.not_mem_nil, or_false] at h <;> omega

theorem hexValue?_upper {n : Nat} (h : n < 16) :
    hexValue? (Text.hexDigit n).toUpper = some n := by
  have hall : ∀ n : Fin 16, hexValue? (Text.hexDigit n).toUpper = some n.1 := by decide
  exact hall ⟨n, h⟩

theorem percentDecode_percentByte {b : Nat} (h : b < 256) (cs : List Char) :
    percentDecode (percentByte b ++ cs) = UInt8.ofNat b :: percentDecode cs := by
  have hsum : 16 * (b / 16) + b % 16 = b := by omega
  rw [percentByte, List.cons_append, List.cons_append, List.cons_append, List.nil_append,
    percentDecode_escape (hexValue?_upper (by omega)) (hexValue?_upper (by omega)), hsum]

theorem percentDecode_percentChar (c : Char) (cs : List Char) :
    percentDecode (percentChar c ++ cs) = String.utf8EncodeChar c ++ percentDecode cs := by
  rw [percentChar, ← utf8_map_ofNat]
  have hbytes : ∀ b ∈ utf8 c, b < 256 := fun b => lt_of_mem_utf8
  generalize utf8 c = bs at hbytes ⊢
  induction bs with
  | nil => rfl
  | cons b bs ih =>
    rw [List.flatMap_cons, List.append_assoc, percentDecode_percentByte (hbytes b List.mem_cons_self),
      ih fun b hb => hbytes b (List.mem_cons_of_mem _ hb)]
    rfl

theorem utf8_ne_nil (c : Char) : utf8 c ≠ [] := by
  simp only [utf8]
  split_ifs <;> exact List.cons_ne_nil _ _

theorem percentChar_eq_cons (c : Char) : ∃ rest, percentChar c = '%' :: rest := by
  obtain ⟨b, bs, hbs⟩ := List.exists_cons_of_ne_nil (utf8_ne_nil c)
  exact ⟨_, by rw [percentChar, hbs, List.flatMap_cons]; rfl⟩

/-! ### Encoders that leave the percent sign alone -/

/-- Characters that stand as they are, the percent sign and all digits of escapes among them. -/
structure KeepsEscapes (keep : Char → Bool) : Prop where
  percent : keep '%' = true
  digit : ∀ c, isHex c = true → keep c = true

section
variable {keep : Char → Bool}

theorem encodeWith_cons (keep : Char → Bool) (c : Char) (cs : List Char) :
    encodeWith keep (c :: cs) = (if keep c then [c] else percentChar c) ++ encodeWith keep cs :=
  List.flatMap_cons

theorem encodeWith_append (keep : Char → Bool) (cs ds : List Char) :
    encodeWith keep (cs ++ ds) = encodeWith keep cs ++ encodeWith keep ds :=
  List.flatMap_append

theorem head_encodeWith (keep : Char → Bool) {c : Char} (hc : isHex c = false) (cs : List Char) :
    ∃ d ds, encodeWith keep (c :: cs) = d :: ds ∧ isHex d = false := by
  rw [encodeWith_cons]
  split
  · exact ⟨c, _, rfl, hc⟩
  · obtain ⟨rest, hrest⟩ := percentChar_eq_cons c
    exact ⟨'%', _, by rw [hrest]; rfl, rfl⟩

theorem hexPair_encodeWith (h : KeepsEscapes keep) (cs : List Char) :
    hexPair (encodeWith keep cs) = hexPair cs := by
  have hkept : ∀ {a}, isHex a = true → ∀ cs, encodeWith keep (a :: cs) = a :: encodeWith keep cs := by
    intro a ha cs
    rw [encodeWith_cons, if_pos (h.digit a ha)]
    rfl
  match cs with
  | [] => rfl
  | a :: cs =>
    cases ha : isHex a with
    | false =>
      obtain ⟨d, ds, hds, hd⟩ := head_encodeWith keep ha cs
      rw [hds]
      cases ds <;> cases cs <;> simp [hexPair, ha, hd]
    | true =>
      rw [hkept ha]
      match cs with
      | [] => rfl
      | b :: cs =>
        cases hb : isHex b with
        | false =>
          obtain ⟨d, ds, hds, hd⟩ := head_encodeWith keep hb cs
          simp [hds, hexPair, hb, hd]
        | true =>
          rw [hkept hb]
          rfl

/-- A reader does not see what such an encoder did. -/
theorem percentDecode_encodeWith (h : KeepsEscapes keep) (cs : List Char) :
    percentDecode (encodeWith keep cs) = percentDecode cs := by
  induction cs using reading_induction with
  | nil => rfl
  | escape a b x y cs hx hy ih =>
    have hkept : encodeWith keep ('%' :: a :: b :: cs) = '%' :: a :: b :: encodeWith keep cs := by
      rw [encodeWith_cons, encodeWith_cons, encodeWith_cons, if_pos h.percent,
        if_pos (h.digit a (by simp [isHex, hx])), if_pos (h.digit b (by simp [isHex, hy]))]
      rfl
    rw [hkept, percentDecode_escape hx hy, percentDecode_escape hx hy, ih]
  | plain c cs hc ih =>
    have hencoded : c = '%' → hexPair (encodeWith keep cs) = false := fun heq => by
      rw [hexPair_encodeWith h, hc heq]
    rw [encodeWith_cons, percentDecode_cons hc, ← ih]
    split
    · exact percentDecode_cons hencoded
    · exact percentDecode_percentChar _ _
end

/-! ### Texts that stand for themselves -/

theorem bytes_cons (c : Char) (cs : List Char) : bytes (c :: cs) = String.utf8EncodeChar c ++ bytes cs :=
  List.flatMap_cons

theorem bytes_append (cs ds : List Char) : bytes (cs ++ ds) = bytes cs ++ bytes ds :=
  List.flatMap_append

theorem length_utf8EncodeChar_pos (c : Char) : 0 < (String.utf8EncodeChar c).length := by
  rw [String.length_utf8EncodeChar]
  exact Char.utf8Size_pos c

theorem percentDecode_of_plain {cs : List Char} (h : holdsEscape cs = false) :
    percentDecode cs = bytes cs := by
  induction cs using reading_induction with
  | nil => rfl
  | escape a b x y cs ha hb ih => simp [holdsEscape, hexPair, isHex, ha, hb] at h
  | plain c cs hc ih =>
    have hrest : holdsEscape cs = false := (Bool.or_eq_false_iff.1 h).2
    rw [percentDecode_cons hc, bytes_cons, ih hrest]

theorem hexPair_append_of_hexPair {cs : List Char} (h : hexPair cs = true) (ds : List Char) :
    hexPair (cs ++ ds) = true := by
  match cs with
  | [] | [_] => cases h
  | a :: b :: cs => exact h

theorem holdsEscape_infix {cs ds : List Char} (hsub : cs <:+: ds) (h : holdsEscape cs = true) :
    holdsEscape ds = true := by
  obtain ⟨before, after, rfl⟩ := hsub
  have hfront : holdsEscape (cs ++ after) = true := by
    induction cs with
    | nil => cases h
    | cons c cs ih =>
      rw [holdsEscape, Bool.or_eq_true, Bool.and_eq_true] at h
      rw [List.cons_append, holdsEscape, Bool.or_eq_true, Bool.and_eq_true]
      exact h.imp (fun hhere => ⟨hhere.1, hexPair_append_of_hexPair hhere.2 _⟩) ih
  rw [List.append_assoc]
  induction before with
  | nil => exact hfront
  | cons c before ih =>
    rw [List.cons_append, holdsEscape, ih, Bool.or_true]

theorem length_percentDecode_le (cs : List Char) : (percentDecode cs).length ≤ (bytes cs).length := by
  induction cs using reading_induction with
  | nil => exact Nat.le_refl _
  | escape a b x y cs ha hb ih =>
    have hpos := length_utf8EncodeChar_pos '%'
    simp only [percentDecode_escape ha hb, bytes_cons, List.length_cons, List.length_append]
    omega
  | plain c cs hc ih =>
    simp only [percentDecode_cons hc, bytes_cons, List.length_append]
    omega

/-- An escape is three characters for one byte. -/
theorem length_percentDecode_lt {cs : List Char} (h : holdsEscape cs = true) :
    (percentDecode cs).length < (bytes cs).length := by
  induction cs using reading_induction with
  | nil => simp [holdsEscape] at h
  | escape a b x y cs ha hb ih =>
    have hle := length_percentDecode_le cs
    have hpercent := length_utf8EncodeChar_pos '%'
    have hdigit := length_utf8EncodeChar_pos a
    simp only [percentDecode_escape ha hb, bytes_cons, List.length_cons, List.length_append]
    omega
  | plain c cs hc ih =>
    have hrest : holdsEscape cs = true := by
      rcases Bool.or_eq_true_iff.1 h with hhere | hlater
      · simp only [Bool.and_eq_true, beq_iff_eq] at hhere
        simp [hc hhere.1] at hhere
      · exact hlater
    have hlt := ih hrest
    simp only [percentDecode_cons hc, bytes_cons, List.length_append]
    omega

theorem percentDecode_eq_bytes_iff (cs : List Char) :
    percentDecode cs = bytes cs ↔ holdsEscape cs = false := by
  refine ⟨fun h => ?_, percentDecode_of_plain⟩
  by_contra hne
  have hlt := length_percentDecode_lt (Bool.eq_true_of_not_eq_false hne)
  exact absurd (congrArg List.length h) (Nat.ne_of_lt hlt)

/-! ### Texts from bytes -/

theorem data_toByteArray (s : String) : s.toByteArray.data.toList = bytes s.toList := by
  rw [← String.utf8Encode_toList]
  exact List.toList_data_toByteArray

theorem toByteArray_eq_iff (bs : List UInt8) (s : String) :
    s.toByteArray = ⟨bs.toArray⟩ ↔ bs = bytes s.toList := by
  rw [← data_toByteArray]
  constructor
  · intro h
    rw [h]
  · rintro rfl
    rfl

theorem utf8?_eq_some_iff (bs : List UInt8) (s : String) :
    Text.utf8? bs = some s ↔ bs = bytes s.toList := by
  rw [← toByteArray_eq_iff, Text.utf8?, String.fromUTF8?]
  constructor
  · intro h
    split at h
    · obtain rfl := Option.some.inj h
      rfl
    · cases h
  · intro h
    rw [← h, dif_pos s.isValidUTF8]
    rfl

theorem bytes_injective {cs ds : List Char} (h : bytes cs = bytes ds) : cs = ds := by
  have hcs := (utf8?_eq_some_iff (bytes cs) (String.ofList cs)).2 (by rw [String.toList_ofList])
  have hds := (utf8?_eq_some_iff (bytes cs) (String.ofList ds)).2 (by rw [String.toList_ofList, h])
  exact String.ofList_injective (Option.some.inj (hcs.symm.trans hds))

theorem decode?_eq_some_iff (cs : List Char) (s : String) :
    decode? cs = some s ↔ percentDecode cs = bytes s.toList :=
  utf8?_eq_some_iff _ _

theorem decode?_encodeWith_iff {keep : Char → Bool} (h : KeepsEscapes keep) (s : String) :
    decode? (encodeWith keep s.toList) = some s ↔ holdsEscape s.toList = false := by
  rw [decode?_eq_some_iff, percentDecode_encodeWith h, percentDecode_eq_bytes_iff]

/-! ### Forms -/

theorem mem_percentChar {c d : Char} (h : d ∈ percentChar c) : d = '%' ∨ d ∈ "0123456789ABCDEF".toList := by
  have hdigit : ∀ n, n < 16 → (Text.hexDigit n).toUpper ∈ "0123456789ABCDEF".toList := by decide
  obtain ⟨b, hb, hd⟩ := List.mem_flatMap.1 h
  have hlt := lt_of_mem_utf8 hb
  simp only [percentByte, List.mem_cons, List.not_mem_nil, or_false] at hd
  rcases hd with rfl | rfl | rfl
  · exact .inl rfl
  · exact .inr (hdigit _ (by omega))
  · exact .inr (hdigit _ (by omega))

theorem map_plusAsBlank {cs : List Char} (h : '+' ∉ cs) : cs.map plusAsBlank = cs := by
  refine (List.map_congr_left fun c hc => ?_).trans (List.map_id cs)
  refine if_neg ?_
  rintro rfl
  exact h hc

theorem percentDecode_encodeForm (cs : List Char) :
    percentDecode ((encodeForm cs).map plusAsBlank) = bytes cs := by
  induction cs with
  | nil => rfl
  | cons c cs ih =>
    rw [encodeForm, List.flatMap_cons, List.map_append, bytes_cons, ← ih]
    by_cases hblank : c = ' '
    · subst hblank
      exact percentDecode_cons fun h => absurd h (by decide)
    rw [if_neg hblank]
    by_cases hkeep : keepForm c = true
    · have hplus : plusAsBlank c = c := if_neg fun heq => absurd (heq ▸ hkeep) (by decide)
      rw [if_pos hkeep, List.map_singleton, hplus]
      exact percentDecode_cons fun heq => absurd (heq ▸ hkeep) (by decide)
    · have hplus : '+' ∉ percentChar c := fun hmem => absurd (mem_percentChar hmem) (by decide)
      rw [if_neg hkeep, map_plusAsBlank hplus]
      exact percentDecode_percentChar _ _

theorem formText?_encodeForm (s : String) : formText? (encodeForm s.toList) = some s :=
  (decode?_eq_some_iff _ _).2 (percentDecode_encodeForm _)

theorem length_bytes_map_plusAsBlank (cs : List Char) :
    (bytes (cs.map plusAsBlank)).length = (bytes cs).length := by
  induction cs with
  | nil => rfl
  | cons c cs ih =>
    have hsame : (String.utf8EncodeChar (plusAsBlank c)).length = (String.utf8EncodeChar c).length := by
      unfold plusAsBlank
      split
      · next heq => subst heq; rfl
      · rfl
    simp only [List.map_cons, bytes_cons, List.length_append, hsame, ih]

theorem formText?_self_iff (s : String) :
    formText? s.toList = some s ↔ '+' ∉ s.toList ∧ holdsEscape s.toList = false := by
  rw [formText?, decode?_eq_some_iff]
  generalize s.toList = cs
  constructor
  · intro h
    have hplain : holdsEscape (cs.map plusAsBlank) = false := by
      by_contra hne
      have hlt := length_percentDecode_lt (Bool.eq_true_of_not_eq_false hne)
      rw [h, length_bytes_map_plusAsBlank] at hlt
      exact Nat.lt_irrefl _ hlt
    rw [percentDecode_of_plain hplain] at h
    have hsame := bytes_injective h
    have hplus : '+' ∉ cs := by
      intro hmem
      rw [← hsame] at hmem
      obtain ⟨c, -, hc⟩ := List.mem_map.1 hmem
      unfold plusAsBlank at hc
      split at hc <;> simp_all
    rw [hsame] at hplain
    exact ⟨hplus, hplain⟩
  · rintro ⟨hplus, hplain⟩
    rw [map_plusAsBlank hplus, percentDecode_of_plain hplain]

/-! ### Texts cut at a mark -/

theorem bne_of_not_mem {mark : Char} {cs : List Char} (h : mark ∉ cs) :
    ∀ c ∈ cs, (c != mark) = true := by
  intro c hc
  refine bne_iff_ne.2 ?_
  rintro rfl
  exact h hc

theorem cutAt_append {mark : Char} {cs : List Char} (h : mark ∉ cs) (ds : List Char) :
    cutAt mark (cs ++ mark :: ds) = (cs, some ds) := by
  rw [cutAt, List.takeWhile_append_of_pos (bne_of_not_mem h),
    List.dropWhile_append_of_pos (bne_of_not_mem h)]
  simp

theorem cutAt_of_not_mem {mark : Char} {cs : List Char} (h : mark ∉ cs) : cutAt mark cs = (cs, none) := by
  rw [cutAt, List.takeWhile_eq_self_iff.2 (bne_of_not_mem h),
    List.dropWhile_eq_nil_iff.2 (bne_of_not_mem h)]
  rfl

theorem length_bytes_sublist {cs ds : List Char} (h : cs.Sublist ds) :
    (bytes cs).length ≤ (bytes ds).length :=
  (h.flatMap _).length_le

/-- A text that lacks a character of another and is else part of it has fewer bytes. -/
theorem length_bytes_lt {cs ds : List Char} {mark : Char} (h : cs.Sublist (ds.filter (· != mark)))
    (hmem : mark ∈ ds) : (bytes cs).length < (bytes ds).length := by
  have hle := length_bytes_sublist h
  have hlt : (bytes (ds.filter (· != mark))).length < (bytes ds).length := by
    obtain ⟨before, after, rfl⟩ := List.append_of_mem hmem
    have hbefore := length_bytes_sublist (List.filter_sublist (p := (· != mark)) (l := before))
    have hafter := length_bytes_sublist (List.filter_sublist (p := (· != mark)) (l := after))
    have hpos := length_utf8EncodeChar_pos mark
    simp only [List.filter_append, List.filter_cons, bne_self_eq_false, Bool.false_eq_true, if_false,
      bytes_append, bytes_cons, List.length_append]
    omega
  exact Nat.lt_of_le_of_lt hle hlt

end Url
end SqlKit
