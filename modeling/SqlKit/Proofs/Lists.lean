import Mathlib.Algebra.GroupWithZero.Nat
import Mathlib.Data.List.Forall2
import SqlKit.Schema.Identifier

/-!
# Lists joined and taken apart

Texts are joined with something between their parts, cut where a character stands, and read up to the first
character of another kind. What is known of the parts is known of the whole, and what a step makes of each
member of a list is what it makes of the list.
-/

namespace SqlKit

variable {α β ε : Type}

/-! ## Joining -/

section
variable {sep : List α} {l : List (List α)}

/-- What holds of the parts, and of two of them joined, holds of all of them joined. -/
theorem intercalate_induction {P : List α → Prop} (hnil : l = [] → P [])
    (hjoin : ∀ xs ys, P xs → P ys → P (xs ++ sep ++ ys)) (h : ∀ xs ∈ l, P xs) :
    P (sep.intercalate l) := by
  induction l with
  | nil => exact hnil rfl
  | cons xs l ih =>
    obtain ⟨hxs, hrest⟩ := List.forall_mem_cons.1 h
    by_cases hl : l = []
    · simpa [hl] using hxs
    · rw [List.intercalate_cons_of_ne_nil hl]
      exact hjoin xs _ hxs (ih (fun hnil => absurd hnil hl) hrest)

theorem forall_mem_intercalate {P : α → Prop} (hsep : ∀ x ∈ sep, P x) (h : ∀ xs ∈ l, ∀ x ∈ xs, P x) :
    ∀ x ∈ sep.intercalate l, P x := by
  refine intercalate_induction (P := fun xs => ∀ x ∈ xs, P x) (fun _ => List.forall_mem_nil P) ?_ h
  intro xs ys hxs hys
  exact List.forall_mem_append.2 ⟨List.forall_mem_append.2 ⟨hxs, hsep⟩, hys⟩

theorem mem_intercalate {x : α} (h : x ∈ sep.intercalate l) : x ∈ sep ∨ ∃ xs ∈ l, x ∈ xs :=
  forall_mem_intercalate (P := fun x => x ∈ sep ∨ ∃ xs ∈ l, x ∈ xs) (fun _ => Or.inl)
    (fun xs hxs _ hx => Or.inr ⟨xs, hxs, hx⟩) x h

theorem infix_intercalate {xs : List α} (h : xs ∈ l) : xs <:+: sep.intercalate l := by
  induction l with
  | nil => cases h
  | cons ys l ih =>
    by_cases hl : l = []
    · subst hl
      obtain rfl := List.mem_singleton.1 h
      simp
    · rw [List.intercalate_cons_of_ne_nil hl]
      rcases List.mem_cons.1 h with rfl | hlater
      · rw [List.append_assoc]
        exact (List.prefix_append _ _).isInfix
      · exact (ih hlater).trans (List.suffix_append _ _).isInfix

/-- A map that can be made part by part. -/
theorem map_intercalate {f : List α → List β} (hnil : f [] = [])
    (happend : ∀ xs ys, f (xs ++ ys) = f xs ++ f ys) (sep : List α) (l : List (List α)) :
    f (sep.intercalate l) = (f sep).intercalate (l.map f) := by
  induction l with
  | nil => exact hnil
  | cons xs l ih =>
    by_cases hl : l = []
    · simp [hl]
    · rw [List.map_cons, List.intercalate_cons_of_ne_nil hl,
        List.intercalate_cons_of_ne_nil (by simpa using hl), happend, happend, ih]

/-- A number that is counted part by part, where what stands between the parts does not count. -/
theorem sum_intercalate {f : List α → Nat} (hnil : f [] = 0) (happend : ∀ xs ys, f (xs ++ ys) = f xs + f ys)
    (hsep : f sep = 0) (l : List (List α)) : f (sep.intercalate l) = (l.map f).sum := by
  induction l with
  | nil => exact hnil
  | cons xs l ih =>
    by_cases hl : l = []
    · simp [hl]
    · rw [List.intercalate_cons_of_ne_nil hl, happend, happend, hsep, ih, Nat.add_zero, List.map_cons,
        List.sum_cons]

end

theorem not_mem_append {c : Char} {s t : String} (hs : c ∉ s.toList) (ht : c ∉ t.toList) :
    c ∉ (s ++ t).toList := by
  rw [String.toList_append, List.mem_append, not_or]
  exact ⟨hs, ht⟩

theorem not_mem_intercalate {c : Char} {sep : String} {l : List String} (hsep : c ∉ sep.toList)
    (h : ∀ s ∈ l, c ∉ s.toList) : c ∉ (sep.intercalate l).toList := by
  rw [String.toList_intercalate]
  intro hmem
  rcases mem_intercalate hmem with hc | ⟨xs, hxs, hc⟩
  · exact hsep hc
  · obtain ⟨s, hs, rfl⟩ := List.mem_map.1 hxs
    exact h s hs hc

/-! ## Cutting -/

section
variable {mark : Char} {cs part : List Char}

theorem infix_of_mem_splitOn (h : part ∈ cs.splitOn mark) : part <:+: cs := by
  have hin : part <:+: [mark].intercalate (cs.splitOn mark) := infix_intercalate h
  rwa [List.intercalate_splitOn] at hin

theorem flatten_splitOn (mark : Char) (cs : List Char) :
    (cs.splitOn mark).flatten = cs.filter (· != mark) := by
  induction cs with
  | nil => rfl
  | cons c cs ih =>
    rw [List.splitOn_cons_eq_if_modifyHead, List.filter_cons, ← ih]
    by_cases hc : c = mark
    · simp [hc]
    · obtain ⟨part, parts, hs⟩ := List.exists_cons_of_ne_nil (List.splitOn_ne_nil mark cs)
      simp [hc, hs]

theorem not_mem_of_mem_splitOn (h : part ∈ cs.splitOn mark) : mark ∉ part := by
  intro hmem
  have hflat : mark ∈ (cs.splitOn mark).flatten := List.mem_flatten.2 ⟨part, h, hmem⟩
  rw [flatten_splitOn] at hflat
  simp at hflat

namespace Schema

theorem splitChars_eq_splitOn (mark : Char) (cs : List Char) : splitChars mark cs = cs.splitOn mark := by
  induction cs with
  | nil => rfl
  | cons c cs ih =>
    rw [List.splitOn_cons_eq_if_modifyHead, splitChars, ih]
    by_cases hc : c = mark
    · simp [hc]
    · obtain ⟨part, parts, hs⟩ := List.exists_cons_of_ne_nil (List.splitOn_ne_nil mark cs)
      simp [hc, hs]

theorem splitChars_of_not_mem (h : mark ∉ cs) : splitChars mark cs = [cs] := by
  rw [splitChars_eq_splitOn, List.splitOn_eq_singleton h]

theorem mem_of_mem_splitChars (h : part ∈ splitChars mark cs) : ∀ c ∈ part, c ∈ cs := by
  rw [splitChars_eq_splitOn] at h
  exact fun c hc => (infix_of_mem_splitOn h).subset hc

end Schema

end

theorem split_concat {xs before after : List α} {x y : α} (h : xs ++ [x] = before ++ y :: after) :
    (after = [] ∧ before = xs ∧ y = x) ∨ ∃ rest, after = rest ++ [x] ∧ xs = before ++ y :: rest := by
  rcases List.eq_nil_or_concat after with rfl | ⟨rest, z, rfl⟩
  · obtain ⟨hxs, hx⟩ := List.append_inj' h rfl
    exact Or.inl ⟨rfl, hxs.symm, by simpa using hx.symm⟩
  · have hlast : xs ++ [x] = (before ++ y :: rest) ++ [z] := by simpa using h
    obtain ⟨hxs, hx⟩ := List.append_inj' hlast rfl
    exact Or.inr ⟨rest, by simpa using hx.symm, hxs⟩

/-! ## Reading up to a stop -/

section
variable {p : α → Bool} {xs ys : List α}

theorem takeWhile_append_stop (hxs : ∀ x ∈ xs, p x = true) (hys : ∀ y ∈ ys.head?, p y = false) :
    (xs ++ ys).takeWhile p = xs := by
  rw [List.takeWhile_append_of_pos hxs]
  cases ys with
  | nil => simp
  | cons y ys => simp [hys y rfl]

theorem dropWhile_append_stop (hxs : ∀ x ∈ xs, p x = true) (hys : ∀ y ∈ ys.head?, p y = false) :
    (xs ++ ys).dropWhile p = ys := by
  rw [List.dropWhile_append_of_pos hxs]
  cases ys with
  | nil => simp
  | cons y ys => simp [hys y rfl]

end

/-! ## Steps that may fail -/

theorem mapM_eq_ok_iff {f : α → Except ε β} {l : List α} {out : List β} :
    l.mapM f = .ok out ↔ List.Forall₂ (fun x y => f x = .ok y) l out := by
  induction l generalizing out with
  | nil => simp [pure, Except.pure, eq_comm]
  | cons x l ih =>
    rw [List.mapM_cons, List.forall₂_cons_left_iff]
    cases hx : f x with
    | error e => simp [bind, Except.bind]
    | ok y =>
      cases hl : l.mapM f with
      | error e => simp [bind, Except.bind, ← ih, hl]
      | ok ys => simp [bind, Except.bind, pure, Except.pure, ← ih, hl, eq_comm]

theorem mapM_id_eq_ok_iff {xs : List (Except ε α)} {ys : List α} :
    xs.mapM id = .ok ys ↔ xs = ys.map .ok := by
  rw [mapM_eq_ok_iff, ← List.forall₂_eq_eq_eq, List.forall₂_map_right_iff]
  rfl

/-- The failure of a list of steps is that of the first which fails. -/
theorem mapM_eq_error_iff {f : α → Except ε β} {l : List α} {e : ε} :
    l.mapM f = .error e ↔
      ∃ before x after, l = before ++ x :: after ∧ (∀ y ∈ before, ∃ v, f y = .ok v) ∧ f x = .error e := by
  induction l with
  | nil => simp [pure, Except.pure]
  | cons x l ih =>
    rw [List.mapM_cons]
    constructor
    · intro h
      cases hx : f x with
      | error e' =>
        rw [hx] at h
        cases h
        exact ⟨[], x, l, rfl, by simp, hx⟩
      | ok y =>
        cases hl : l.mapM f with
        | ok ys =>
          rw [hx, hl] at h
          cases h
        | error e' =>
          rw [hx, hl] at h
          cases h
          obtain ⟨before, z, after, hsplit, hbefore, hz⟩ := ih.1 hl
          refine ⟨x :: before, z, after, by rw [hsplit, List.cons_append], ?_, hz⟩
          exact List.forall_mem_cons.2 ⟨⟨y, hx⟩, hbefore⟩
    · intro h
      obtain ⟨before, z, after, hsplit, hbefore, hz⟩ := h
      cases before with
      | nil =>
        obtain ⟨rfl, rfl⟩ := List.cons.inj hsplit
        rw [hz]
        rfl
      | cons x' before =>
        obtain ⟨rfl, rfl⟩ := List.cons.inj hsplit
        obtain ⟨⟨v, hv⟩, hothers⟩ := List.forall_mem_cons.1 hbefore
        rw [hv, ih.2 ⟨before, z, after, rfl, hothers, hz⟩]
        rfl

end SqlKit
