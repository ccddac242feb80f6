import SqlKit.Proofs.Bindings

/-!
# One condition in all statements

A text with placeholders is a list of texts with a placeholder between each two of them, and a number
from which the placeholders count on. Select, aggregate, delete and update write the condition on rows
from one such list. Only the number differs, and only where values stand before the condition.
-/

namespace SqlKit

/-- Texts with a placeholder between each two of them, numbered on from `k`. -/
def Dialect.filled (d : Dialect) : Nat → List String → String
  | _, [] => ""
  | _, [s] => s
  | k, s :: t :: ts => s ++ d.placeholder (k + 1) ++ d.filled (k + 1) (t :: ts)

namespace Fragment

def prependText (s : String) : List String → List String
  | [] => [s]
  | t :: ts => (s ++ t) :: ts

/-- The texts of a fragment, cut at its slots. -/
def parts : Fragment → List String
  | [] => [""]
  | .text s :: f => prependText s (parts f)
  | .slot _ :: f => "" :: parts f

theorem parts_ne_nil (f : Fragment) : parts f ≠ [] := by
  cases f with
  | nil => simp [parts]
  | cons p f =>
    cases p with
    | text s => cases h : parts f <;> simp [parts, prependText, h]
    | slot v => simp [parts]

/-- The text of a fragment is made of its parts, wherever its placeholders count from. -/
theorem join_renderFrom (d : Dialect) (k : Nat) (f : Fragment) :
    String.join (renderFrom d k f) = d.filled k f.parts := by
  induction f generalizing k with
  | nil => rfl
  | cons p f ih =>
    obtain ⟨t, ts, hts⟩ := List.exists_cons_of_ne_nil (parts_ne_nil f)
    cases p with
    | text s =>
      rw [renderFrom, String.join_cons, ih, parts, hts]
      cases ts with
      | nil => rfl
      | cons u ts => simp [prependText, Dialect.filled, String.append_assoc]
    | slot v =>
      rw [renderFrom, String.join_cons, ih, parts, hts]
      simp [Dialect.filled]

theorem render_append (d : Dialect) (f g : Fragment) :
    (f ++ g : Fragment).render d = f.render d ++ d.filled f.bindings.length g.parts := by
  rw [render, renderFrom_append, String.join_append, join_renderFrom d _ g, Nat.zero_add]
  rfl

theorem render_text (d : Dialect) (s : String) (f : Fragment) :
    render d (.text s :: f) = s ++ f.render d := by
  rw [render, renderFrom, String.join_cons]
  rfl

end Fragment

namespace Statement

def selectHeading (q : Query) : String :=
  "SELECT " ++ (if q.distinct then "DISTINCT " else "")
    ++ (if q.columns = [] then "*" else list q.columns) ++ " FROM "

/-- The tables that a query reads. -/
def tablesText (q : Query) : String := q.table ++ String.join (q.joins.map joinText)

/-- Groups, and conditions on groups behind `k` values. -/
def groupsText (d : Dialect) (k : Nat) (q : Query) : String :=
  (if q.groups = [] then "" else " GROUP BY " ++ list q.groups)
    ++ d.filled k (filtersFragment d "HAVING" q.groupFilters).parts

theorem render_where (d : Dialect) (q : Query) :
    (whereFragment d q).render d = d.filled 0 (whereFragment d q).parts :=
  Fragment.join_renderFrom d 0 _

/-- What select and aggregate have in common: the tables, the condition, and the groups behind it. -/
theorem render_source (d : Dialect) (q : Query) :
    (sourceFragment d q).render d = tablesText q ++ d.filled 0 (whereFragment d q).parts
      ++ groupsText d (whereFragment d q).bindings.length q := by
  have hgroups : ∀ k, d.filled k ((if q.groups = [] then [] else [.text (" GROUP BY " ++ list q.groups)])
      ++ filtersFragment d "HAVING" q.groupFilters : Fragment).parts = groupsText d k q := by
    intro k
    rw [← Fragment.join_renderFrom, Fragment.renderFrom_append, String.join_append,
      Fragment.join_renderFrom d _ (filtersFragment d "HAVING" q.groupFilters), groupsText]
    split <;> simp [Fragment.renderFrom]
  rw [sourceFragment, List.append_assoc, List.cons_append, Fragment.render_text,
    Fragment.render_append, render_where, hgroups, tablesText]
  simp only [String.append_assoc]

theorem sql_select (d : Dialect) (q : Query) : ((select q).compile d).sql =
    selectHeading q ++ (sourceFragment d q).render d
      ++ (orderText q ++ limitText d q ++ offsetText q) := by
  have hending : ∀ k s, d.filled k (Fragment.parts [.text s]) = s := by
    simp [Fragment.parts, Fragment.prependText, Dialect.filled]
  calc ((select q).compile d).sql = (selectFragment d q).render d := rfl
    _ = _ := by
      rw [selectFragment, List.cons_append, Fragment.render_text, Fragment.render_append, hending,
        selectHeading]
      simp only [String.append_assoc]

end Statement

end SqlKit
