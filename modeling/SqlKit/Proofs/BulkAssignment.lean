import SqlKit.Model.Catalogue
import SqlKit.Proofs.Rows

/-!
# Assignment in bulk

A bulk assignment goes through what it is given entry by entry and skips what may not be assigned. It
comes to the same as assigning what is left without a guard, so that what is skipped neither reaches the
record nor stops the call, whatever it holds and whatever its cast would say of it.
-/

namespace SqlKit

variable {α β : Type}

/-! ## Steps on a record -/

namespace Edit

def runOn (s : Edit α) (r : Record) : Except ModelError α × Record := s.run r

variable {r r' : Record}

theorem runOn_bind_ok {s : Edit α} {x : α} (h : s.runOn r = (.ok x, r')) (f : α → Edit β) :
    (s >>= f).runOn r = (f x).runOn r' := by
  change (match s.runOn r with
    | (y, r') => (ExceptT.bindCont f y : StateM Record _) r') = _
  rw [h]
  rfl

theorem runOn_bind_error {s : Edit α} {e : ModelError} (h : s.runOn r = (.error e, r'))
    (f : α → Edit β) : (s >>= f).runOn r = (.error e, r') := by
  change (match s.runOn r with
    | (y, r') => (ExceptT.bindCont f y : StateM Record _) r') = _
  rw [h]
  rfl

/-- Steps on one record, each taken whatever became of those before it: what they gave, and the record
after them. -/
def runAll : List (Edit Unit) → Record → List (Except ModelError Unit) × Record
  | [], r => ([], r)
  | s :: steps, r =>
    let rest := runAll steps (s.runOn r).2
    ((s.runOn r).1 :: rest.1, rest.2)

/-- A relation that orders records and holds over every step holds over all of them. -/
theorem runAll_keeps {R : Record → Record → Prop} (hrefl : ∀ r, R r r)
    (htrans : ∀ {r s t}, R r s → R s t → R r t) {steps : List (Edit Unit)}
    (h : ∀ s ∈ steps, ∀ r, R r (s.runOn r).2) (r : Record) : R r (runAll steps r).2 := by
  induction steps generalizing r with
  | nil => exact hrefl r
  | cons s steps ih =>
    have hrest := ih (fun t ht => h t (List.mem_cons_of_mem s ht)) (s.runOn r).2
    exact htrans (h s List.mem_cons_self r) hrest

/-- The same for the members of a list, where the first failure ends the call. -/
theorem forM_keeps {R : Record → Record → Prop} (hrefl : ∀ r, R r r)
    (htrans : ∀ {r s t}, R r s → R s t → R r t) {f : α → Edit Unit} {l : List α}
    (h : ∀ x ∈ l, ∀ r, R r ((f x).runOn r).2) (r : Record) : R r ((l.forM f).runOn r).2 := by
  induction l generalizing r with
  | nil => exact hrefl r
  | cons x l ih =>
    have hcons : (x :: l).forM f = f x >>= fun _ => l.forM f := rfl
    have hx := h x List.mem_cons_self r
    rw [hcons]
    generalize hrun : (f x).runOn r = done at hx
    obtain ⟨answer, s⟩ := done
    cases answer with
    | error e =>
      rw [runOn_bind_error hrun]
      exact hx
    | ok u =>
      rw [runOn_bind_ok hrun]
      exact htrans hx (ih (fun y hy => h y (List.mem_cons_of_mem x hy)) s)

/-- To skip members on the way is to go through the others. -/
theorem forM_filter (p : α → Bool) (f : α → Edit Unit) (l : List α) :
    (l.forM fun x => if p x then f x else pure ()) = (l.filter p).forM f := by
  induction l with
  | nil => rfl
  | cons x l ih =>
    have hcons (g : α → Edit Unit) (l : List α) : (x :: l).forM g = g x >>= fun _ => l.forM g := rfl
    rw [hcons, ih]
    cases hx : p x with
    | false => rw [List.filter_cons_of_neg (by simp [hx]), if_neg (by simp), pure_bind]
    | true => rw [List.filter_cons_of_pos hx, if_pos rfl, hcons]

end Edit

namespace Model

/-! ## Setting one attribute -/

/-- What setting an attribute stores, where it has no step of its own. -/
def written (m : Model) (name : String) (v : Value) : Except ModelError Value :=
  (m.castFor? name).elim (.ok v) fun c => c.write name v

section
variable {m : Model} {name : String} {v : Value}

theorem runOn_set_ok (hm : m.mutators.lookup name = none) {w : Value} (hw : m.written name v = .ok w)
    (r : Record) : (m.set name v).runOn r = (.ok (), r.putRaw name w) := by
  unfold written at hw
  rw [set, hm]
  cases hcast : m.castFor? name with
  | none =>
    rw [hcast] at hw
    cases hw
    rfl
  | some c =>
    rw [hcast, Option.elim_some] at hw
    show (ofExcept (c.write name v) >>= Edit.putRaw name : Edit Unit).runOn r = _
    rw [hw]
    rfl

theorem runOn_set_error (hm : m.mutators.lookup name = none) {e : ModelError}
    (hw : m.written name v = .error e) (r : Record) : (m.set name v).runOn r = (.error e, r) := by
  unfold written at hw
  rw [set, hm]
  cases hcast : m.castFor? name with
  | none =>
    rw [hcast] at hw
    cases hw
  | some c =>
    rw [hcast, Option.elim_some] at hw
    show (ofExcept (c.write name v) >>= Edit.putRaw name : Edit Unit).runOn r = _
    rw [hw]
    rfl

end

/-! ## What may be assigned -/

/-- The attributes that are listed, where some are; otherwise those that are not guarded, and none where
all are. -/
def Assignable (m : Model) (name : String) : Prop :=
  if m.fillable = [] then "*" ∉ m.guarded ∧ name ∉ m.guarded else name ∈ m.fillable

instance (m : Model) : DecidablePred m.Assignable := fun name =>
  inferInstanceAs (Decidable (if m.fillable = [] then "*" ∉ m.guarded ∧ name ∉ m.guarded else
    name ∈ m.fillable))

theorem isFillable_eq (m : Model) (name : String) : m.isFillable name = decide (m.Assignable name) := by
  rw [Bool.eq_iff_iff, decide_eq_true_iff]
  unfold isFillable Assignable
  cases hfillable : m.fillable with
  | nil =>
    have hguarded : (m.guarded.any fun guard => guard == "*" || guard == name) = false ↔
        ∀ guard ∈ m.guarded, guard ≠ "*" ∧ guard ≠ name := by simp
    simp only [List.contains_nil, Bool.false_eq_true, if_false, List.isEmpty_nil, Bool.not_true,
      Bool.not_eq_true', hguarded, if_true]
    constructor
    · exact fun h => ⟨fun hstar => (h _ hstar).1 rfl, fun hname => (h _ hname).2 rfl⟩
    · exact fun h guard hguard => ⟨fun heq => h.1 (heq ▸ hguard), fun heq => h.2 (heq ▸ hguard)⟩
  | cons n ns => simp

/-- What of some attributes may be assigned, in their order. -/
def assignable (m : Model) (given : Row) : Row := given.filter fun name _ => m.Assignable name

theorem fill_eq (m : Model) (given : Row) : m.fill given = m.forceFill (m.assignable given) := by
  unfold fill forceFill
  simp only [isFillable_eq]
  exact Edit.forM_filter (fun e => decide (m.Assignable e.1)) (fun e => m.set e.1 e.2) given.entries

/-- A record in which only what may be assigned is other than before. -/
structure Spared (m : Model) (r r' : Record) : Prop where
  attributes : r'.attributes.filter (fun name _ => !decide (m.Assignable name)) =
    r.attributes.filter fun name _ => !decide (m.Assignable name)
  original : r'.original = r.original
  stored : r'.stored = r.stored

variable {m : Model} {r r' : Record}

theorem Spared.refl (m : Model) (r : Record) : Spared m r r := ⟨rfl, rfl, rfl⟩

theorem Spared.trans {r'' : Record} (h : Spared m r r') (h' : Spared m r' r'') : Spared m r r'' :=
  ⟨h'.attributes.trans h.attributes, h'.original.trans h.original, h'.stored.trans h.stored⟩

theorem Spared.get? (h : Spared m r r') {name : String} (hname : ¬m.Assignable name) :
    r'.attributes.get? name = r.attributes.get? name := by
  have hrow (row : Row) :
      (row.filter fun name _ => !decide (m.Assignable name)).get? name = row.get? name := by
    rw [Row.get?_filter]
    cases row.get? name <;> simp [hname]
  rw [← hrow, h.attributes, hrow]

theorem spared_set {name : String} (hm : m.mutators.lookup name = none) (hname : m.Assignable name)
    (v : Value) (r : Record) : Spared m r ((m.set name v).runOn r).2 := by
  cases hw : m.written name v with
  | error e =>
    rw [runOn_set_error hm hw]
    exact Spared.refl m r
  | ok w =>
    rw [runOn_set_ok hm hw]
    refine ⟨?_, rfl, rfl⟩
    exact Row.filter_put (p := fun name => !decide (m.Assignable name)) (by simp [hname]) r.attributes w

theorem spared_fill (hm : m.mutators = []) (given : Row) (r : Record) :
    Spared m r ((m.fill given).runOn r).2 := by
  rw [fill_eq]
  refine Edit.forM_keeps (Spared.refl m) Spared.trans (fun e he r => ?_) r
  have hname : m.Assignable e.1 := by simpa using (List.mem_filter.1 he).2
  exact spared_set (by simp [hm]) hname e.2 r

/-- An assignment in bulk is the assignment of what may be assigned, in its order and with the same outcome.
Where no attribute has a step of its own, none is added or changed that may not be assigned, whatever bulk
assignments are made; and what they are given beside the others makes no difference to any of them. -/
theorem fill_guarded (m : Model) :
    (∀ given, m.fill given = m.forceFill (m.assignable given)) ∧
    (m.mutators = [] → ∀ (calls : List Row) (r : Record),
      let after := (Edit.runAll (calls.map m.fill) r).2
      Spared m r after ∧
      ∀ name, ¬m.Assignable name → after.attributes.get? name = r.attributes.get? name) ∧
    ∀ calls calls' : List Row, calls.map m.assignable = calls'.map m.assignable →
      ∀ r, Edit.runAll (calls.map m.fill) r = Edit.runAll (calls'.map m.fill) r := by
  refine ⟨m.fill_eq, fun hm calls r => ?_, fun calls calls' h r => ?_⟩
  · have hspared : Spared m r (Edit.runAll (calls.map m.fill) r).2 :=
      Edit.runAll_keeps (Spared.refl m) Spared.trans
        (List.forall_mem_map.2 fun given _ => spared_fill hm given) r
    exact ⟨hspared, fun name => hspared.get?⟩
  · have hfills (calls : List Row) : calls.map m.fill = (calls.map m.assignable).map m.forceFill := by
      rw [List.map_map]
      exact List.map_congr_left fun given _ => m.fill_eq given
    rw [hfills, hfills, h]

/-- A title is assigned. The key and a time that is none are left out, and do not stop the call. -/
theorem fill_guarded_article :
    let m := Catalogue.article
    let calls := [Row.ofList [("id", .int 9), ("created_at", .text "never"), ("title", .text "a")]]
    let calls' := [Row.ofList [("title", .text "a")]]
    let after := (Edit.runAll (calls.map m.fill) Record.new).2
    m.mutators = [] ∧ calls.map m.assignable = calls'.map m.assignable ∧ ¬m.Assignable "created_at" ∧
    Spared m Record.new after ∧ after.attributes.get? "created_at" = none ∧
    Edit.runAll (calls.map m.fill) Record.new = Edit.runAll (calls'.map m.fill) Record.new ∧
    Edit.runAll (calls'.map m.fill) Record.new =
      ([.ok ()], Record.new.putRaw "title" (.text "a")) := by
  intro m calls calls' after
  have hm : m.mutators = [] := rfl
  have hcalls : calls.map m.assignable = calls'.map m.assignable := by rfl
  have hname : ¬m.Assignable "created_at" := by decide
  obtain ⟨-, hspared, hsame⟩ := fill_guarded m
  exact ⟨hm, hcalls, hname, (hspared hm calls Record.new).1, (hspared hm calls Record.new).2 _ hname,
    hsame calls calls' hcalls Record.new, by rfl⟩

end Model

end SqlKit
