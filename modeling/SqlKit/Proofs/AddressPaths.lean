import SqlKit.Proofs.PercentDecoding
import SqlKit.Url.Path

/-!
# What a path in an address stands for

A path written for a text is read as this text exactly when no escape, no tab or line end and no segment
of one or two points is in it. Whatever the writer drops makes the path shorter, and no reading makes up
for it.
-/

namespace SqlKit.Url

theorem isPrintable_of_isHex {c : Char} (h : isHex c = true) : isPrintable c = true := by
  have hrange : 48 ≤ c.val ∧ c.val ≤ 102 := by
    unfold isHex Text.hexValue? at h
    split_ifs at h with hdigit hsmall hlarge
    · simp only [Char.isDigit, Bool.and_eq_true, decide_eq_true_eq] at hdigit
      exact ⟨hdigit.1, UInt32.le_trans hdigit.2 (by decide)⟩
    · exact ⟨UInt32.le_trans (by decide) hsmall.1, hsmall.2⟩
    · exact ⟨UInt32.le_trans (by decide) hlarge.1, UInt32.le_trans hlarge.2 (by decide)⟩
    · cases h
  have hlow : 48 ≤ c.toNat := UInt32.le_iff_toNat_le.1 hrange.1
  have hhigh : c.toNat ≤ 102 := UInt32.le_iff_toNat_le.1 hrange.2
  simp only [isPrintable, Bool.and_eq_true, decide_eq_true_eq]
  omega

/-- No digit of an escape is among the characters that one writer or the other encodes. -/
theorem not_contains_of_isHex (l : List Char) (hl : l.all (fun c => !isHex c) = true) {c : Char}
    (h : isHex c = true) : l.contains c = false := by
  rw [List.contains_eq_mem, decide_eq_false_iff_not]
  intro hmem
  simpa [h] using List.all_eq_true.1 hl c hmem

theorem keepPath_keepsEscapes : KeepsEscapes keepPath where
  percent := by decide
  digit c hc := by
    rw [keepPath, isPrintable_of_isHex hc, not_contains_of_isHex _ (by decide) hc]
    rfl

theorem keepUserInfo_keepsEscapes : KeepsEscapes keepUserInfo where
  percent := by decide
  digit c hc := by
    rw [keepUserInfo, keepPath_keepsEscapes.digit c hc, not_contains_of_isHex _ (by decide) hc]
    rfl

/-! ### Segments -/

theorem hexPair_append {mark : Char} (hmark : isHex mark = false) (cs ds : List Char) :
    hexPair (cs ++ mark :: ds) = hexPair cs := by
  match cs with
  | [] => cases ds <;> simp [hexPair, hmark]
  | [a] => simp [hexPair, hmark]
  | a :: b :: cs => rfl

theorem percentDecode_append {mark : Char} (hmark : isHex mark = false) (cs ds : List Char) :
    percentDecode (cs ++ mark :: ds) = percentDecode cs ++ percentDecode (mark :: ds) := by
  induction cs using reading_induction with
  | nil => rfl
  | escape a b x y cs ha hb ih =>
    simp only [List.cons_append, percentDecode_escape ha hb, ih]
  | plain c cs hc ih =>
    have hrest : c = '%' → hexPair (cs ++ mark :: ds) = false := fun heq => by
      rw [hexPair_append hmark, hc heq]
    rw [List.cons_append, percentDecode_cons hrest, percentDecode_cons hc, ih, List.append_assoc]

/-- The bytes of the segments of a path, each with the slash in front of it. -/
def weight (segments : List (List Char)) : Nat :=
  (segments.map fun s => (percentDecode s).length + 1).sum

@[simp] theorem weight_nil : weight [] = 0 := rfl

@[simp] theorem weight_cons (s : List Char) (segments : List (List Char)) :
    weight (s :: segments) = (percentDecode s).length + 1 + weight segments := rfl

@[simp] theorem weight_append (a b : List (List Char)) : weight (a ++ b) = weight a + weight b := by
  simp [weight]

@[simp] theorem weight_reverse (segments : List (List Char)) :
    weight segments.reverse = weight segments := by
  simp [weight, List.sum_reverse]

theorem length_percentDecode_path {segments : List (List Char)} (h : segments ≠ []) :
    (percentDecode (['/'].intercalate segments)).length + 1 = weight segments := by
  induction segments with
  | nil => exact absurd rfl h
  | cons s segments ih =>
    cases segments with
    | nil => simp
    | cons t segments =>
      have hslash : percentDecode ('/' :: ['/'].intercalate (t :: segments))
          = String.utf8EncodeChar '/' ++ percentDecode (['/'].intercalate (t :: segments)) :=
        percentDecode_cons fun heq => absurd heq (by decide)
      have hone : (String.utf8EncodeChar '/').length = 1 := by decide
      have hrest := ih (List.cons_ne_nil _ _)
      rw [List.intercalate_cons_cons, List.append_assoc, List.singleton_append,
        percentDecode_append (by decide), hslash, weight_cons]
      simp only [List.length_append, hone]
      omega

theorem intercalate_encodeWith {keep : Char → Bool} {mark : Char} (h : keep mark = true)
    (segments : List (List Char)) :
    [mark].intercalate (segments.map (encodeWith keep)) = encodeWith keep ([mark].intercalate segments) := by
  have hmark : encodeWith keep [mark] = [mark] := by simp [encodeWith, h]
  rw [map_intercalate rfl (encodeWith_append keep), hmark]

/-! ### Segments of points -/

def isPoints (s : List Char) : Bool := isAbove s || isHere s

theorem percentDecode_dropPoint {s rest : List Char} (h : dropPoint s = some rest) :
    percentDecode s = bytes ['.'] ++ percentDecode rest := by
  unfold dropPoint at h
  split at h <;> cases h
  · exact percentDecode_cons fun heq => absurd heq (by decide)
  · exact percentDecode_escape (x := 2) (y := 14) (by decide) (by decide) _
  · exact percentDecode_escape (x := 2) (y := 14) (by decide) (by decide) _

theorem percentDecode_isHere {s : List Char} (h : isHere s = true) : percentDecode s = bytes ['.'] := by
  rw [percentDecode_dropPoint (beq_iff_eq.1 h)]
  rfl

theorem percentDecode_isAbove {s : List Char} (h : isAbove s = true) :
    percentDecode s = bytes ['.', '.'] := by
  obtain ⟨rest, hs, hrest⟩ := Option.bind_eq_some_iff.1 (beq_iff_eq.1 h)
  rw [percentDecode_dropPoint hs, percentDecode_dropPoint hrest]
  rfl

theorem length_percentDecode_isPoints {s : List Char} (h : isPoints s = true) :
    0 < (percentDecode s).length := by
  rcases Bool.or_eq_true_iff.1 h with habove | hhere
  · rw [percentDecode_isAbove habove]
    decide
  · rw [percentDecode_isHere hhere]
    decide

theorem weight_leave_le (before : List (List Char)) : weight (leave before) ≤ weight before := by
  cases before with
  | nil => exact Nat.le_refl _
  | cons s before =>
    rw [leave]
    split
    · exact Nat.le_refl _
    · rw [weight_cons]
      omega

theorem walk_of_plain {before segments : List (List Char)} (h : ∀ s ∈ segments, isPoints s = false) :
    walk before segments = before.reverse ++ segments := by
  fun_induction walk before segments <;> simp_all [isPoints]

theorem isPoints_of_isAbove {s : List Char} (h : isAbove s = true) : isPoints s = true := by
  simp [isPoints, h]

theorem isPoints_of_isHere {s : List Char} (h : isHere s = true) : isPoints s = true := by
  simp [isPoints, h]

theorem weight_walk_le (before segments : List (List Char)) :
    weight (walk before segments) ≤ weight before + weight segments := by
  fun_induction walk before segments with
  | case1 before => simp
  | case2 before s habove =>
    have hleave := weight_leave_le before
    simp only [weight_cons, weight_append, weight_reverse, weight_nil, percentDecode_nil,
      List.length_nil]
    omega
  | case3 before s habove hhere => simp
  | case4 before s habove hhere => simp
  | case5 before s rest hne habove ih =>
    have hleave := weight_leave_le before
    rw [weight_cons]
    omega
  | case6 before s rest hne habove hhere ih =>
    rw [weight_cons]
    omega
  | case7 before s rest hne habove hhere ih =>
    rw [weight_cons] at ih ⊢
    omega

/-- Leaving out a segment of points makes the path lighter. -/
theorem weight_walk_lt {before segments : List (List Char)} {s : List Char} (hs : s ∈ segments)
    (hpoints : isPoints s = true) : weight (walk before segments) < weight before + weight segments := by
  fun_induction walk before segments with
  | case1 before => simp at hs
  | case2 before t habove =>
    have hleave := weight_leave_le before
    have hpos := length_percentDecode_isPoints (isPoints_of_isAbove habove)
    simp only [weight_cons, weight_append, weight_reverse, weight_nil, percentDecode_nil,
      List.length_nil]
    omega
  | case3 before t habove hhere =>
    have hpos := length_percentDecode_isPoints (isPoints_of_isHere hhere)
    simp only [weight_cons, weight_append, weight_reverse, weight_nil, percentDecode_nil,
      List.length_nil]
    omega
  | case4 before t habove hhere =>
    obtain rfl := List.mem_singleton.1 hs
    simp [isPoints, habove, hhere] at hpoints
  | case5 before t rest hne habove ih =>
    have hleave := weight_leave_le before
    have hrest := weight_walk_le (leave before) rest
    rw [weight_cons]
    omega
  | case6 before t rest hne habove hhere ih =>
    have hrest := weight_walk_le before rest
    rw [weight_cons]
    omega
  | case7 before t rest hne habove hhere ih =>
    have hlater : s ∈ rest := by
      rcases List.mem_cons.1 hs with rfl | hlater
      · simp [isPoints, habove, hhere] at hpoints
      · exact hlater
    have hrest := ih hlater
    rw [weight_cons] at hrest ⊢
    omega

theorem walk_ne_nil {before segments : List (List Char)} (h : segments ≠ []) :
    walk before segments ≠ [] := by
  fun_induction walk before segments <;> simp_all

theorem leave_sublist (before : List (List Char)) : (leave before).Sublist before := by
  cases before with
  | nil => exact List.Sublist.refl _
  | cons s before =>
    rw [leave]
    split
    · exact List.Sublist.refl _
    · exact List.sublist_cons_self _ _

theorem forall_walk {P : List Char → Prop} (hnil : P []) {before segments : List (List Char)}
    (hbefore : ∀ s ∈ before, P s) (hsegments : ∀ s ∈ segments, P s) :
    ∀ s ∈ walk before segments, P s := by
  have hleave : ∀ {before}, (∀ s ∈ before, P s) → ∀ s ∈ leave before, P s :=
    fun h s hs => h s ((leave_sublist _).subset hs)
  fun_induction walk before segments with
  | case1 before => simpa using hbefore
  | case2 before s habove => simpa [or_imp, forall_and, hnil] using hleave hbefore
  | case3 before s habove hhere => simpa [or_imp, forall_and, hnil] using hbefore
  | case4 before s habove hhere =>
    simpa [or_imp, forall_and] using ⟨hbefore, hsegments s List.mem_cons_self⟩
  | case5 before s rest hne habove ih =>
    exact ih (hleave hbefore) fun t ht => hsegments t (List.mem_cons_of_mem _ ht)
  | case6 before s rest hne habove hhere ih =>
    exact ih hbefore fun t ht => hsegments t (List.mem_cons_of_mem _ ht)
  | case7 before s rest hne habove hhere ih =>
    refine ih ?_ fun t ht => hsegments t (List.mem_cons_of_mem _ ht)
    simpa [or_imp, forall_and] using ⟨hsegments s List.mem_cons_self, hbefore⟩

/-! ### The whole path -/

/-- A place whose path is read as the place itself. -/
structure PlainPlace (place : List Char) : Prop where
  escape : holdsEscape place = false
  line : ∀ c ∈ place, isLineMark c = false
  points : ∀ s ∈ place.splitOn '/', s ≠ ['.'] ∧ s ≠ ['.', '.']

/-- The path of a place behind its first slash. -/
def pathTail (place : List Char) : List Char :=
  ['/'].intercalate (walk [] (((place.filter fun c => !isLineMark c).splitOn '/').map (encodeWith keepPath)))

theorem pathChars_eq (place : List Char) : pathChars place = '/' :: pathTail place := by
  rw [pathChars, pathTail, Schema.splitChars_eq_splitOn]

theorem intercalate_segments (place : List Char) :
    ['/'].intercalate ((place.splitOn '/').map (encodeWith keepPath)) = encodeWith keepPath place := by
  rw [intercalate_encodeWith (by decide), List.intercalate_splitOn]

theorem weight_segments (place : List Char) :
    weight ((place.splitOn '/').map (encodeWith keepPath)) = (percentDecode place).length + 1 := by
  rw [← length_percentDecode_path (by simp [List.splitOn_ne_nil]), intercalate_segments,
    percentDecode_encodeWith keepPath_keepsEscapes]

theorem points_of_isPoints {s : List Char} (hescape : holdsEscape s = false)
    (h : isPoints (encodeWith keepPath s) = true) : s = ['.'] ∨ s = ['.', '.'] := by
  have hs : percentDecode (encodeWith keepPath s) = bytes s := by
    rw [percentDecode_encodeWith keepPath_keepsEscapes, percentDecode_of_plain hescape]
  rcases Bool.or_eq_true_iff.1 h with habove | hhere
  · exact .inr (bytes_injective (hs.symm.trans (percentDecode_isAbove habove)))
  · exact .inl (bytes_injective (hs.symm.trans (percentDecode_isHere hhere)))

theorem percentDecode_pathTail {place : List Char} (h : PlainPlace place) :
    percentDecode (pathTail place) = bytes place := by
  have hfilter : place.filter (fun c => !isLineMark c) = place :=
    List.filter_eq_self.2 fun c hc => by simp [h.line c hc]
  have hpart : ∀ s ∈ place.splitOn '/', holdsEscape s = false := by
    intro s hs
    by_contra hne
    have hwhole := holdsEscape_infix (infix_of_mem_splitOn hs) (Bool.eq_true_of_not_eq_false hne)
    rw [h.escape] at hwhole
    cases hwhole
  have hwalk : walk [] ((place.splitOn '/').map (encodeWith keepPath))
      = (place.splitOn '/').map (encodeWith keepPath) := by
    refine walk_of_plain fun t ht => ?_
    obtain ⟨s, hs, rfl⟩ := List.mem_map.1 ht
    by_contra hpoints
    rcases points_of_isPoints (hpart s hs) (Bool.eq_true_of_not_eq_false hpoints) with heq | heq
    · exact (h.points s hs).1 heq
    · exact (h.points s hs).2 heq
  rw [pathTail, hfilter, hwalk, intercalate_segments, percentDecode_encodeWith keepPath_keepsEscapes,
    percentDecode_of_plain h.escape]

/-- A path is read as its place only if the writer left everything in its place. -/
theorem plainPlace_of_percentDecode {place : List Char} (h : percentDecode (pathTail place) = bytes place) :
    PlainPlace place := by
  let kept := place.filter fun c => !isLineMark c
  let encoded := (kept.splitOn '/').map (encodeWith keepPath)
  have hne : encoded ≠ [] := by simp [encoded, List.splitOn_ne_nil]
  have hlength : (bytes place).length + 1 = weight (walk [] encoded) := by
    rw [← length_percentDecode_path (walk_ne_nil hne), ← h]
    rfl
  have hweight : weight encoded = (percentDecode kept).length + 1 := weight_segments kept
  have hwalk := weight_walk_le [] encoded
  have hdecode := length_percentDecode_le kept
  have hsub : kept.Sublist place := List.filter_sublist
  have hbytes := length_bytes_sublist hsub
  rw [weight_nil] at hwalk
  -- No step of the writer adds bytes, so as many come back only if none took any away.
  have hkept : kept = place :=
    bytes_injective ((hsub.flatMap String.utf8EncodeChar).eq_of_length_le (by
      have hle : (bytes place).length ≤ (bytes kept).length := by omega
      exact hle))
  refine ⟨?_, ?_, ?_⟩
  · by_contra hescape
    have hlt := length_percentDecode_lt (Bool.eq_true_of_not_eq_false hescape)
    rw [hkept] at hweight
    omega
  · intro c hc
    rw [← hkept] at hc
    simpa using (List.mem_filter.1 hc).2
  · intro s hs
    have hpoints : isPoints (encodeWith keepPath s) = false := by
      by_contra hpoints
      rw [← hkept] at hs
      have hlt : weight (walk [] encoded) < weight [] + weight encoded :=
        weight_walk_lt (List.mem_map_of_mem hs) (Bool.eq_true_of_not_eq_false hpoints)
      rw [weight_nil] at hlt
      omega
    constructor
    · rintro rfl
      exact absurd hpoints (by decide)
    · rintro rfl
      exact absurd hpoints (by decide)

end SqlKit.Url
