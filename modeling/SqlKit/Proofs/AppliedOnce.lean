import SqlKit.Proofs.MigrationStages

/-!
# Migrations applied once

Two migrators that apply migrations to one database, each on its own connection, can be interleaved in
any way. Nothing keeps them apart: whether a migration is missing is asked by one statement and its entry
made by another, and the ledger takes a name twice. If their runs of a migration do not overlap, then its
plan takes effect at most once and the ledger has its name at most once, whatever is refused.
-/

namespace SqlKit.Migration
open Session
open Calendar (DateTime)

variable {δ : Type} {S : Shared δ} {g : Setting} {k : Job} {i j : Side} {db db' : δ} {p : Progress}

def Shared.entries (S : Shared δ) (name : String) (db : δ) : Nat := (S.committed db).count name

def Stage.IsFailed : Stage → Prop
  | .failed _ => True
  | _ => False

/-- What is known of a database where a migrator has come so far with a migration. -/
structure Stands (S : Shared δ) (k : Job) (i : Side) (db : δ) (p : Progress) : Prop where
  within : k.placement = .within → p.opened = false ∧ (¬p.stage.IsFailed → (S.pending db i).isSome)
  closed : k.placement ≠ .within → p.opened = false → ¬p.stage.IsFailed → S.pending db i = none
  opened : k.placement ≠ .within → p.opened = true → ¬p.stage.IsFailed →
    ∃ names, S.pending db i = some names ∧ names.count k.name = if p.stage = .entered then 1 else 0
  entered : p.stage = .entered → k.placement = .own
  missing : k.Busy p → S.entries k.name db = 0

/-- Whether the plan has taken effect outside of transactions, and its entry is still to be made. -/
def Job.ahead (k : Job) (p : Progress) : Nat :=
  if k.placement = .outside ∧ (p.stage = .running [] ∨ p.stage = .failed true) then 1 else 0

/-- One step of a migrator, as it shows in the database. -/
structure Stepped (S : Shared δ) (k : Job) (i : Side) (db : δ) (p : Progress) (db' : δ) (p' : Progress) :
    Prop where
  stands : Stands S k i db' p'
  balance : S.entries k.name db' + k.ahead p' + p.carried = S.entries k.name db + k.ahead p + p'.carried
  entries : S.entries k.name db' = S.entries k.name db ∨
    k.Busy p ∧ S.entries k.name db' = S.entries k.name db + 1

theorem entries_of_committed (name : String) (h : S.committed db' = S.committed db) :
    S.entries name db' = S.entries name db := congrArg (List.count name) h

theorem carriesOut_failed (k : Job) (s : Stage) (carried : Bool) :
    k.carriesOut s (.failed carried) = false := by
  unfold Job.carriesOut
  split <;> simp

/-- A statement that is refused changes nothing, and the migrator stops. -/
theorem Stands.refused {x : Exchanged} (h : Stands S k i db p) (hx : x.2.accepted = false)
    (hsame : S.committed db' = S.committed db) : Stepped S k i db p db' (k.advance p x) := by
  obtain ⟨hopened, hstage⟩ := k.advance_refused (p := p) hx
  obtain ⟨carried, hfailed⟩ := k.refuse_failed p.stage
  rw [hfailed] at hstage
  have hentries := entries_of_committed k.name hsame
  have hover : (k.advance p x).stage.IsFailed := by
    rw [hstage]
    trivial
  have hcarried : (k.advance p x).carried = p.carried := by
    have hnext : k.next p.stage x.1.statement x.2 = .failed carried := hstage
    simp [Job.advance, hnext, carriesOut_failed]
  have hahead : k.ahead (k.advance p x) = k.ahead p := by
    unfold Job.ahead
    rw [hstage, ← hfailed]
    cases p.stage <;> simp [Job.refuse]
  have hbusy : k.Busy (k.advance p x) → k.Busy p := by
    intro hb
    refine ⟨hb.1, ?_⟩
    have hstill := hb.2
    rw [hstage, ← hfailed] at hstill
    cases hs : p.stage <;> simp_all [Job.refuse]
  refine ⟨⟨?hwithin, ?hclosed, ?hopened, ?hentered, ?hmissing⟩, ?hbalance, Or.inl hentries⟩
  case hwithin => exact fun hw => ⟨hopened.trans (h.within hw).1, fun hn => absurd hover hn⟩
  case hclosed => exact fun _ _ hn => absurd hover hn
  case hopened => exact fun _ _ hn => absurd hover hn
  case hentered =>
    intro he
    rw [hstage] at he
    cases he
  case hmissing => exact fun hb => hentries.trans (h.missing (hbusy hb))
  case hbalance => rw [hentries, hcarried, hahead]

/-- A statement that leaves the entries alone, between two stages in which none is made. -/
theorem Stands.kept {x : Exchanged} {s' : Stage} (h : Stands S k i db p) (hx : x.2.accepted = true)
    (hkeep : S.Keeps i db db') (hopens : Job.opens p.opened x.1.statement = p.opened)
    (hfrom : p.stage = .idle ∨ ∃ sql left, p.stage = .running (sql :: left))
    (hnext : k.accept p.stage x.1.statement x.2 = s') (hto : s' = .idle ∨ ∃ left, s' = .running left)
    (hmissing : k.placement ≠ .within → s' ≠ .idle → S.entries k.name db = 0) :
    Stepped S k i db p db' (k.advance p x) := by
  obtain ⟨hopened, hstage, hcarried⟩ := k.advance_accepted (p := p) hx
  rw [hopens] at hopened
  rw [hnext] at hstage hcarried
  have hentries := entries_of_committed k.name hkeep.committed
  have hgoing : ¬p.stage.IsFailed ∧ p.stage ≠ .entered := by
    obtain hs | ⟨sql, left, hs⟩ := hfrom <;> simp [hs, Stage.IsFailed]
  have hgoing' : s' ≠ .entered := by
    obtain hs | ⟨left, hs⟩ := hto <;> simp [hs]
  -- With the last text of its plan a run outside of transactions gets ahead of its entry.
  have hnone : k.ahead p = 0 := by
    obtain hs | ⟨sql, left, hs⟩ := hfrom <;> simp [Job.ahead, hs]
  have hsome : k.ahead (k.advance p x) = if k.carriesOut p.stage s' then 1 else 0 := by
    unfold Job.ahead Job.carriesOut
    rw [hstage]
    obtain hs | ⟨left, hs⟩ := hto <;> cases hk : k.placement <;> simp [hs, hgoing.2]
  refine ⟨⟨?hwithin, ?hclosed, ?hopened, ?hentered, ?hmissing⟩, ?hbalance, Or.inl hentries⟩
  case hwithin =>
    intro hw
    obtain ⟨hclosed, hsome⟩ := h.within hw
    rw [hkeep.pending]
    exact ⟨hopened.trans hclosed, fun _ => hsome hgoing.1⟩
  case hclosed =>
    intro hw ho _
    exact hkeep.pending.trans (h.closed hw (hopened.symm.trans ho) hgoing.1)
  case hopened =>
    intro hw ho _
    have hnames := h.opened hw (hopened.symm.trans ho) hgoing.1
    rw [if_neg hgoing.2] at hnames
    rwa [hkeep.pending, hstage, if_neg hgoing']
  case hentered => exact fun he => absurd (hstage.symm.trans he) hgoing'
  case hmissing =>
    intro hb
    refine hentries.trans (hmissing hb.1 fun hidle => ?_)
    exact k.not_busy_of_idle (hstage.trans hidle) hb
  case hbalance =>
    rw [hentries, hsome, hnone, hcarried]
    omega

/-- The entry of another migration. -/
theorem Stands.other {x : Exchanged} {l : Ledger} {now : DateTime} {name : String}
    (h : Stands S k i db p) (hx : x.2.accepted = true) (hst : x.1.statement = ledgerEntry l now name .up)
    (hidle : p.stage = .idle) (hname : name ≠ k.name) (henters : S.Enters i name db db') :
    Stepped S k i db p db' (k.advance p x) := by
  obtain ⟨hopened, hstage, hcarried⟩ := k.advance_accepted (p := p) hx
  have hopens : Job.opens p.opened x.1.statement = p.opened := by
    rw [hst]
    rfl
  have hnext : k.accept p.stage x.1.statement x.2 = .idle := by
    rw [hst, hidle]
    rfl
  have hgoing : ¬p.stage.IsFailed := by simp [hidle, Stage.IsFailed]
  have hnone : k.carriesOut p.stage .idle = false := by
    unfold Job.carriesOut
    split <;> simp [hidle]
  rw [hopens] at hopened
  rw [hnext] at hstage hcarried
  -- The entry is made for another name, in the ledger or in what is pending.
  have hentries : S.entries k.name db' = S.entries k.name db := by
    cases hp : S.pending db i <;> simp_all [Shared.Enters, Shared.entries, List.count_append]
  refine ⟨⟨?hwithin, ?hclosed, ?hopened, ?hentered, ?hmissing⟩, ?hbalance, Or.inl hentries⟩
  case hwithin =>
    intro hw
    obtain ⟨hclosed, hsome⟩ := h.within hw
    obtain ⟨names, hnames⟩ := Option.isSome_iff_exists.1 (hsome hgoing)
    simp only [Shared.Enters, hnames] at henters
    refine ⟨hopened.trans hclosed, fun _ => ?_⟩
    rw [henters.2]
    rfl
  case hclosed =>
    intro hw ho _
    have hclosed := h.closed hw (hopened.symm.trans ho) hgoing
    simp only [Shared.Enters, hclosed] at henters
    exact henters.2
  case hopened =>
    intro hw ho _
    obtain ⟨names, hnames, hcount⟩ := h.opened hw (hopened.symm.trans ho) hgoing
    simp only [Shared.Enters, hnames] at henters
    refine ⟨_, henters.2, ?_⟩
    simp_all [List.count_append]
  case hentered =>
    intro he
    rw [hstage] at he
    cases he
  case hmissing => exact fun hb => absurd hb (k.not_busy_of_idle hstage)
  case hbalance =>
    rw [hentries, hcarried, hnone]
    simp [Job.ahead, hstage, hidle]

/-! The entry of the migration itself, behind its plan, waits for the commit, takes effect at once, or is
left to the transaction around it. -/

theorem advance_entry {x : Exchanged} {l : Ledger} {now : DateTime} (hx : x.2.accepted = true)
    (hst : x.1.statement = ledgerEntry l now k.name .up) (hrunning : p.stage = .running []) :
    (k.advance p x).opened = p.opened ∧
      (k.advance p x).stage = (if k.placement = .own then .entered else .idle) ∧
      (k.advance p x).carried = p.carried := by
  obtain ⟨hopened, hstage, hcarried⟩ := k.advance_accepted (p := p) hx
  have hopens : Job.opens p.opened x.1.statement = p.opened := by
    rw [hst]
    rfl
  have hnext : k.accept p.stage x.1.statement x.2 = if k.placement = .own then .entered else .idle := by
    rw [hst, hrunning]
    rfl
  rw [hopens] at hopened
  rw [hnext] at hstage hcarried
  refine ⟨hopened, hstage, ?_⟩
  rw [hcarried]
  cases hk : k.placement <;> simp [Job.carriesOut, hk, hrunning]

section
variable {p' : Progress}

theorem Stands.entryOwn (h : Stands S k i db p) (hk : k.placement = .own) (hown : p.opened = true)
    (hrunning : p.stage = .running []) (henters : S.Enters i k.name db db')
    (hopened : p'.opened = p.opened) (hstage : p'.stage = .entered) (hcarried : p'.carried = p.carried) :
    Stepped S k i db p db' p' := by
  have hbusy : k.Busy p := ⟨by simp [hk], by simp [hrunning]⟩
  obtain ⟨names, hnames, hcount⟩ := h.opened (by simp [hk]) hown (by simp [hrunning, Stage.IsFailed])
  simp only [Shared.Enters, hnames] at henters
  have hentries := entries_of_committed k.name henters.1
  refine ⟨⟨?hwithin, ?hclosed, ?hopened, ?hentered, ?hmissing⟩, ?hbalance, Or.inl hentries⟩
  case hwithin => exact fun hw => by simp [hk] at hw
  case hclosed => exact fun _ ho => by simp [hopened, hown] at ho
  case hopened =>
    refine fun _ _ _ => ⟨_, henters.2, ?_⟩
    simp_all [List.count_append]
  case hentered => exact fun _ => hk
  case hmissing => exact fun _ => hentries.trans (h.missing hbusy)
  case hbalance =>
    rw [hentries, hcarried]
    simp [Job.ahead, hk]

theorem Stands.entryOutside (h : Stands S k i db p) (hk : k.placement = .outside)
    (hclosed : p.opened = false) (hrunning : p.stage = .running [])
    (henters : S.Enters i k.name db db') (hopened : p'.opened = p.opened) (hstage : p'.stage = .idle)
    (hcarried : p'.carried = p.carried) : Stepped S k i db p db' p' := by
  have hbusy : k.Busy p := ⟨by simp [hk], by simp [hrunning]⟩
  have hnone := h.closed (by simp [hk]) hclosed (by simp [hrunning, Stage.IsFailed])
  simp only [Shared.Enters, hnone] at henters
  have hentries : S.entries k.name db' = S.entries k.name db + 1 := by
    simp [Shared.entries, henters.1, List.count_append]
  refine ⟨⟨?hwithin, ?hclosed, ?hopened, ?hentered, ?hmissing⟩, ?hbalance, Or.inr ⟨hbusy, hentries⟩⟩
  case hwithin => exact fun hw => by simp [hk] at hw
  case hclosed => exact fun _ _ _ => henters.2
  case hopened => exact fun _ ho => by simp [hopened, hclosed] at ho
  case hentered => exact fun he => by simp [hstage] at he
  case hmissing => exact fun hb => absurd hb (k.not_busy_of_idle hstage)
  case hbalance =>
    rw [hentries, hcarried]
    simp [Job.ahead, hk, hrunning, hstage]

theorem Stands.entryWithin (h : Stands S k i db p) (hk : k.placement = .within)
    (hrunning : p.stage = .running []) (henters : S.Enters i k.name db db')
    (hopened : p'.opened = p.opened) (hstage : p'.stage = .idle) (hcarried : p'.carried = p.carried) :
    Stepped S k i db p db' p' := by
  obtain ⟨hclosed, hsome⟩ := h.within hk
  obtain ⟨names, hnames⟩ := Option.isSome_iff_exists.1 (hsome (by simp [hrunning, Stage.IsFailed]))
  simp only [Shared.Enters, hnames] at henters
  have hentries := entries_of_committed k.name henters.1
  refine ⟨⟨?hwithin, ?hclosed, ?hopened, ?hentered, ?hmissing⟩, ?hbalance, Or.inl hentries⟩
  case hwithin =>
    refine fun _ => ⟨hopened.trans hclosed, fun _ => ?_⟩
    rw [henters.2]
    rfl
  case hclosed => exact fun hw => absurd hk hw
  case hopened => exact fun hw => absurd hk hw
  case hentered => exact fun he => by simp [hstage] at he
  case hmissing => exact fun hb => absurd hk hb.1
  case hbalance =>
    rw [hentries, hcarried]
    simp [Job.ahead, hk]

end

theorem Stands.entry {x : Exchanged} {l : Ledger} {now : DateTime} (h : Stands S k i db p)
    (hx : x.2.accepted = true) (hst : x.1.statement = ledgerEntry l now k.name .up)
    (hrunning : p.stage = .running []) (hopen : p.opened = true ↔ k.placement = .own)
    (henters : S.Enters i k.name db db') : Stepped S k i db p db' (k.advance p x) := by
  obtain ⟨hopened, hstage, hcarried⟩ := advance_entry hx hst hrunning
  cases hk : k.placement with
  | own =>
    rw [if_pos hk] at hstage
    exact h.entryOwn hk (hopen.2 hk) hrunning henters hopened hstage hcarried
  | outside =>
    have hclosed : p.opened = false := by simpa [hk] using hopen
    rw [if_neg (by simp [hk])] at hstage
    exact h.entryOutside hk hclosed hrunning henters hopened hstage hcarried
  | within =>
    rw [if_neg (by simp [hk])] at hstage
    exact h.entryWithin hk hrunning henters hopened hstage hcarried

/-- A transaction is begun before a migration, or before the plan of this one. -/
theorem Stands.begin {x : Exchanged} (h : Stands S k i db p) (hx : x.2.accepted = true)
    (hst : x.1.statement = .begin)
    (hs : p.stage = .idle ∨ (p.stage = .running k.plan ∧ k.placement = .own))
    (hk : k.placement ≠ .within) (hcommitted : S.committed db' = S.committed db)
    (hpending : S.pending db' i = some []) : Stepped S k i db p db' (k.advance p x) := by
  obtain ⟨hopened, hstage, hcarried⟩ := k.advance_accepted (p := p) hx
  have hopens : Job.opens p.opened x.1.statement = true := by
    rw [hst]
    rfl
  have hnext : k.accept p.stage x.1.statement x.2 = p.stage := by
    obtain hs | ⟨hs, -⟩ := hs <;> rw [hst, hs] <;> rfl
  have hentries := entries_of_committed k.name hcommitted
  have hentered : p.stage ≠ .entered := by
    obtain hs | ⟨hs, -⟩ := hs <;> simp [hs]
  have hnone : k.carriesOut p.stage p.stage = false := by
    unfold Job.carriesOut
    obtain hs | ⟨hs, hown⟩ := hs
    · split <;> simp [hs]
    · simp [hs, hown]
  rw [hopens] at hopened
  rw [hnext] at hstage hcarried
  refine ⟨⟨?hwithin, ?hclosed, ?hopened, ?hentered, ?hmissing⟩, ?hbalance, Or.inl hentries⟩
  case hwithin => exact fun hw => absurd hw hk
  case hclosed => exact fun _ ho => by simp [hopened] at ho
  case hopened =>
    refine fun _ _ _ => ⟨[], hpending, ?_⟩
    rw [hstage, if_neg hentered]
    rfl
  case hentered => exact fun he => absurd (hstage.symm.trans he) hentered
  case hmissing => exact fun hb => hentries.trans (h.missing (hb.of_stage hstage))
  case hbalance =>
    rw [hentries, hcarried, hnone]
    simp [Job.ahead, hstage]

theorem Stands.commit {x : Exchanged} (h : Stands S k i db p) (hx : x.2.accepted = true)
    (hst : x.1.statement = .commit) (hs : p.stage = .idle ∨ p.stage = .entered) (hopen : p.opened = true)
    (hcommit : ∀ names, S.pending db i = some names →
      S.committed db' = S.committed db ++ names ∧ S.pending db' i = none) :
    Stepped S k i db p db' (k.advance p x) := by
  obtain ⟨hopened, hstage, hcarried⟩ := k.advance_accepted (p := p) hx
  have hopens : Job.opens p.opened x.1.statement = false := by
    rw [hst]
    rfl
  have hnext : k.accept p.stage x.1.statement x.2 = .idle := by
    obtain hs | hs := hs <;> rw [hst, hs] <;> rfl
  have hk : k.placement ≠ .within := fun hw => by simpa [hopen] using (h.within hw).1
  have hgoing : ¬p.stage.IsFailed := by
    obtain hs | hs := hs <;> simp [hs, Stage.IsFailed]
  -- The entry of the migration is among what is committed exactly if it was made before.
  obtain ⟨names, hnames, hcount⟩ := h.opened hk hopen hgoing
  obtain ⟨hcommitted, hpending⟩ := hcommit names hnames
  have hentries : S.entries k.name db' = S.entries k.name db + names.count k.name := by
    simp [Shared.entries, hcommitted, List.count_append]
  rw [hopens] at hopened
  rw [hnext] at hstage hcarried
  refine ⟨⟨?hwithin, ?hclosed, ?hopened, ?hentered, ?hmissing⟩, ?hbalance, ?hentries⟩
  case hwithin => exact fun hw => absurd hw hk
  case hclosed => exact fun _ _ _ => hpending
  case hopened => exact fun _ ho => by simp [hopened] at ho
  case hentered => exact fun he => by simp [hstage] at he
  case hmissing => exact fun hb => absurd hb (k.not_busy_of_idle hstage)
  case hbalance =>
    rw [hentries, hcount, hcarried]
    obtain hs | hs := hs
    · cases hp : k.placement <;> simp [Job.ahead, Job.carriesOut, hs, hstage, hp]
    · have hown := h.entered hs
      simp only [Job.ahead, Job.carriesOut, hs, hstage, hown]
      simp
      omega
  case hentries =>
    rw [hentries, hcount]
    obtain hs | hs := hs
    · simp [hs]
    · exact Or.inr ⟨⟨hk, by simp [hs]⟩, by simp [hs]⟩

theorem Stands.rollback {x : Exchanged} {carried : Bool} (h : Stands S k i db p)
    (hx : x.2.accepted = true) (hst : x.1.statement = .rollback) (hs : p.stage = .failed carried)
    (hk : k.placement ≠ .within) (hcommitted : S.committed db' = S.committed db) :
    Stepped S k i db p db' (k.advance p x) := by
  obtain ⟨-, hstage, hcarried⟩ := k.advance_accepted (p := p) hx
  have hnext : k.accept p.stage x.1.statement x.2 = .failed carried := by
    rw [hst, hs]
    rfl
  have hentries := entries_of_committed k.name hcommitted
  rw [hnext] at hstage hcarried
  rw [carriesOut_failed] at hcarried
  have hover : (k.advance p x).stage.IsFailed := by
    rw [hstage]
    trivial
  refine ⟨⟨?hwithin, ?hclosed, ?hopened, ?hentered, ?hmissing⟩, ?hbalance, Or.inl hentries⟩
  case hwithin => exact fun hw => absurd hw hk
  case hclosed => exact fun _ _ hn => absurd hover hn
  case hopened => exact fun _ _ hn => absurd hover hn
  case hentered => exact fun he => by simp [hstage] at he
  case hmissing => exact fun hb => hentries.trans (h.missing (hb.of_stage (hstage.trans hs.symm)))
  case hbalance =>
    rw [hentries, hcarried]
    simp [Job.ahead, hs, hstage]

/-- One allowed request, whatever the database answers. -/
theorem Stands.step {st : Statement} (mode : Mode) (hS : S.Faithful g.dialect g.ledger g.texts)
    (h : Stands S g.job i db p) (hst : Allowed g p.opened p.stage st) :
    let r : Request := ⟨st, mode, st.compile g.dialect⟩
    Stepped S g.job i db p (S.answer i r db).2 (g.job.advance p (r, (S.answer i r db).1)) := by
  intro r
  cases hx : (S.answer i r db).1.accepted with
  | false => exact h.refused hx (hS.refused hx)
  | true =>
    generalize ho : p.opened = opened at hst
    generalize hs : p.stage = s at hst
    -- An accepted request is taken by the reason for which it is allowed.
    cases hst with
    | idle hidle =>
      refine h.kept hx (hS.idle hidle mode hx) (hidle.opens _) (Or.inl hs) ?_ (Or.inl rfl) ?_
      · rw [hs]
        exact hidle.accept _ _
      · exact fun _ hne => absurd rfl hne
    | lookup name =>
      obtain ⟨hkeep, hrows⟩ := hS.lookup name mode hx
      have hnext : g.job.accept p.stage (g.ledger.lookup name) (S.answer i r db).1 =
          if name = g.job.name ∧ (S.answer i r db).1.rows?.isEmpty then .running g.job.plan
          else .idle := by
        simp only [hs, Ledger.lookup, Job.accept, nameAsked_lookup, Option.some.injEq]
      refine h.kept hx hkeep rfl (Or.inl hs) hnext ?_ fun hw hne => ?_
      · split
        · exact Or.inr ⟨_, rfl⟩
        · exact Or.inl rfl
      · have hnone := h.closed hw ho (by simp [hs, Stage.IsFailed])
        obtain ⟨rfl, hempty⟩ : name = g.job.name ∧ (S.answer i r db).1.rows?.isEmpty := by
          by_contra hcase
          exact hne (if_neg hcase)
        exact List.count_eq_zero.2 ((hrows hnone).1 (List.isEmpty_iff.1 hempty))
    | planned hsql =>
      rename_i sql left
      have hkeep := hS.idle (.text hsql) mode hx
      refine h.kept hx hkeep rfl (Or.inr ⟨sql, left, hs⟩) ?_ (Or.inr ⟨left, rfl⟩) ?_
      · rw [hs]
        rfl
      · exact fun hw _ => h.missing ⟨hw, by simp [hs]⟩
    | entry now hopen => exact h.entry hx rfl hs (by rw [ho]; exact hopen) (hS.insert now _ mode hx)
    | other now hname => exact h.other hx rfl hs hname (hS.insert now _ mode hx)
    | begin hs' hw hddl =>
      have hnone := h.closed hw ho (by
        rw [hs]
        obtain rfl | ⟨rfl, -⟩ := hs' <;> exact id)
      obtain ⟨hcommitted, hpending⟩ := hS.begin hddl hnone mode hx
      exact h.begin hx rfl (by rw [hs]; exact hs') hw hcommitted hpending
    | commit hs' =>
      exact h.commit hx rfl (by rw [hs]; exact hs') ho fun names hnames => hS.commit hnames mode hx
    | rollback hw => exact h.rollback hx rfl hs hw (hS.rollback mode hx)

/-! ## Interleaved runs -/

/-- At no moment of a history do both connections have a run of the migration under way. -/
def NeverBoth (k : Side → Job) (history : List Event) : Prop :=
  ∀ before after, history = before ++ after → ¬∀ i, (k i).Busy ((k i).progress (exchanges i before))

theorem NeverBoth.initial {k : Side → Job} {history : List Event} {e : Event}
    (h : NeverBoth k (history ++ [e])) : NeverBoth k history :=
  fun before after hsplit => h before (after ++ [e]) (by rw [hsplit, List.append_assoc])

theorem Stands.apart (h : Stands S k j db p) (hpending : S.pending db' j = S.pending db j)
    (hentries : k.Busy p → S.entries k.name db' = S.entries k.name db) : Stands S k j db' p where
  within hw := by
    rw [hpending]
    exact h.within hw
  closed hw ho hn := by
    rw [hpending]
    exact h.closed hw ho hn
  opened hw ho hn := by
    rw [hpending]
    exact h.opened hw ho hn
  entered := h.entered
  missing hb := by
    rw [hentries hb]
    exact h.missing hb

/-- What holds of both together at each moment. The plan took effect as often as the ledger has more entries
than before, up to a run that is ahead of its entry. -/
structure Together (S : Shared δ) (name : String) (k : Side → Job) (before : Nat) (history : List Event)
    (db : δ) : Prop where
  stands i : Stands S (k i) i db ((k i).progress (exchanges i history))
  balance i j : j ≠ i → before + (((k i).progress (exchanges i history)).carried +
      ((k j).progress (exchanges j history)).carried) = S.entries name db +
    ((k i).ahead ((k i).progress (exchanges i history)) + (k j).ahead ((k j).progress (exchanges j history)))
  once : S.entries name db ≤ 1

theorem Together.step {name : String} {g : Side → Setting} {before : Nat} {history : List Event}
    {r : Request} (hS : ∀ i, S.Faithful (g i).dialect (g i).ledger (g i).texts)
    (hname : ∀ i, (g i).job.name = name)
    (h : Together S name (fun i => (g i).job) before history db)
    (hlawful : Lawful (g i) (exchanges i (history ++ [⟨i, r, (S.answer i r db).1⟩])))
    (hboth : ¬∀ i, (g i).job.Busy ((g i).job.progress (exchanges i history))) :
    Together S name (fun i => (g i).job) before (history ++ [⟨i, r, (S.answer i r db).1⟩])
      (S.answer i r db).2 := by
  have hown : exchanges i (history ++ [⟨i, r, (S.answer i r db).1⟩]) =
      exchanges i history ++ [(r, (S.answer i r db).1)] := by
    rw [exchanges_snoc, if_pos rfl]
  have hother : ∀ j, j ≠ i →
      exchanges j (history ++ [⟨i, r, (S.answer i r db).1⟩]) = exchanges j history := by
    intro j hj
    rw [exchanges_snoc, if_neg (Ne.symm hj)]
  rw [hown] at hlawful
  obtain ⟨-, st, mode, rfl, hst⟩ := hlawful.last
  have hstep := (h.stands i).step mode (hS i) hst
  have hbalance := hstep.balance
  have hentries := hstep.entries
  simp only [hname i] at hbalance hentries
  -- An entry is made only by a run that is under way, and then the other one is not.
  have hstill : ∀ j, j ≠ i → (g j).job.Busy ((g j).job.progress (exchanges j history)) →
      S.entries name (S.answer i ⟨st, mode, st.compile (g i).dialect⟩ db).2 = S.entries name db := by
    intro j hj hb
    obtain hsame | ⟨hbusy, -⟩ := hentries
    · exact hsame
    · refine absurd (fun l => ?_) hboth
      obtain rfl | rfl := Side.eq_or_eq hj (k := l)
      · exact hbusy
      · exact hb
  refine ⟨fun j => ?_, fun a b hab => ?_, ?_⟩
  · by_cases hj : j = i
    · subst hj
      rw [hown, Job.progress_snoc]
      exact hstep.stands
    · rw [hother j hj]
      refine (h.stands j).apart ((hS i).apart hj) fun hb => ?_
      rw [hname j]
      exact hstill j hj hb
  · by_cases ha : a = i
    · subst ha
      have hbefore := h.balance a b hab
      rw [hown, hother b hab, Job.progress_snoc]
      omega
    · have hb : b = i := (Side.eq_or_eq (Ne.symm hab) (k := i)).elim Eq.symm fun hi => absurd hi.symm ha
      subst hb
      have hbefore := h.balance a b hab
      rw [hown, hother a ha, Job.progress_snoc]
      omega
  · obtain hsame | ⟨hbusy, hmore⟩ := hentries
    · rw [hsame]
      exact h.once
    · have hnone := (h.stands i).missing hbusy
      rw [hname i] at hnone
      omega

theorem Together.history {name : String} {g : Side → Setting} {history : List Event} {db₀ : δ}
    (hS : ∀ i, S.Faithful (g i).dialect (g i).ledger (g i).texts) (hname : ∀ i, (g i).job.name = name)
    (hserves : S.Serves db₀ history db) (hlawful : ∀ i, Lawful (g i) (exchanges i history))
    (hboth : NeverBoth (fun i => (g i).job) history)
    (hstart : Together S name (fun i => (g i).job) (S.entries name db₀) [] db₀) :
    Together S name (fun i => (g i).job) (S.entries name db₀) history db := by
  induction hserves with
  | nil => exact hstart
  | @snoc history db i r _ ih =>
    have hinitial : ∀ j, Lawful (g j) (exchanges j history) := by
      intro j
      have hj := hlawful j
      rw [exchanges_snoc] at hj
      split at hj
      · exact hj.last.1
      · exact hj
    have hbefore := ih hinitial hboth.initial
    exact hbefore.step hS hname (hlawful i) (hboth _ _ rfl)

theorem ahead_cases (k : Job) (p : Progress) : k.ahead p = 0 ∨ k.ahead p = 1 ∧ k.Busy p := by
  unfold Job.ahead
  split
  · rename_i hcase
    obtain ⟨hk, hs | hs⟩ := hcase
    · exact Or.inr ⟨rfl, by simp [hk], by simp [hs]⟩
    · exact Or.inr ⟨rfl, by simp [hk], by simp [hs]⟩
  · exact Or.inl rfl

/-- Two runs that do not overlap have carried out a plan at most once. -/
theorem Together.carried {name : String} {k : Side → Job} {before : Nat} {history : List Event}
    (h : Together S name k before history db) (hname : ∀ i, (k i).name = name)
    (hboth : NeverBoth k history) :
    before + (((k .first).progress (exchanges .first history)).carried +
      ((k .second).progress (exchanges .second history)).carried) ≤ 1 := by
  have hbalance := h.balance .first .second (by decide)
  have honce := h.once
  have hmissing : ∀ i, (k i).Busy ((k i).progress (exchanges i history)) → S.entries name db = 0 := by
    intro i hb
    have hnone := (h.stands i).missing hb
    rwa [hname i] at hnone
  have hfirst := ahead_cases (k .first) ((k .first).progress (exchanges .first history))
  have hsecond := ahead_cases (k .second) ((k .second).progress (exchanges .second history))
  obtain hfirst | ⟨hfirst, hb⟩ := hfirst
  · obtain hsecond | ⟨hsecond, hb⟩ := hsecond
    · omega
    · have hnone := hmissing .second hb
      omega
  · have hnone := hmissing .first hb
    obtain hsecond | ⟨hsecond, hb'⟩ := hsecond
    · omega
    · refine absurd (fun i => ?_) (hboth history [] (List.append_nil _).symm)
      cases i
      · exact hb
      · exact hb'

end SqlKit.Migration

namespace SqlKit.Migrator
open Migration Session
open Calendar (DateTime)

/-- What a run on a connection makes of the migration with a name. A name that is not registered has no
plan, and is never run. -/
def job (m : Migrator) (d : Dialect) (inTransaction : Bool) (name : String) : Job :=
  match m.find name with
  | .ok x => ⟨name, x.up.statements d, placement x d inTransaction⟩
  | .error _ => ⟨name, [], if inTransaction then .within else .outside⟩

variable {δ : Type} {S : Shared δ}

def single (transactional : Bool) : Migrator where
  migrations := [{ name := "20240101000000_posts", up := [.raw "CREATE TABLE posts (id INT)"], down := [],
                   transactional }]

def request (mode : Mode) (st : Statement) : Request := ⟨st, mode, st.compile .sqlite⟩

end SqlKit.Migrator
