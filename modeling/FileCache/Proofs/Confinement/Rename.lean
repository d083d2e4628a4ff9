import FileCache.World.Settle

/-!
Tasks on a disk whose files go by other names.

What a task keeps of a file between two of its operations is the identity of an open file.  If at
the path of its next operation one disk shows what the other does, with every identity renamed,
then the task renamed in the same way takes the same step there: it reports the same and leaves
the same store, and what it does next is renamed (`Lookup.step_rename`, `Sweep.step_rename`,
`Scanner.step_rename`).  In a step without an operation any two disks will do.
-/

namespace FileCache

/-- At the path, `e` shows what `d` does, with the items of `d` renamed. -/
structure Disk.Shows (f : Item → Item) (d e : Disk) (path : Path) : Prop where
  statPath : e.statPath path = d.statPath path
  openPath : e.openPath path = (d.openPath path).map f
  statHandle : ∀ handle, e.statHandle path (f handle) = d.statHandle path handle
  readHandle : ∀ handle, e.readHandle path (f handle) = d.readHandle path handle

/-- The step with another task in place of the one that goes on. -/
def Step.map {α : Type} (g : α → α) (st : Step α) : Step α := { st with next := g st.next }

variable {f : Item → Item} {d e : Disk} {path : Path} {now : Nat} {s : Store}

/-! ## Readings -/

namespace Reading

def rename (f : Item → Item) : Reading → Reading
  | .opening => .opening
  | .measuring handle => .measuring (f handle)
  | .fetching handle modified => .fetching (f handle) modified
  | .finished result => .finished result

theorem op?_rename (f : Item → Item) (r : Reading) : (r.rename f).op? = r.op? := by
  cases r <;> rfl

theorem advance_rename {r : Reading} (h : ∀ op, r.op? = some op → Disk.Shows f d e path) :
    (r.rename f).advance e path = (r.advance d path).rename f := by
  cases r with
  | opening =>
    simp only [rename, advance, (h _ rfl).openPath]
    cases d.openPath path with
    | ok handle => rfl
    | error error => cases error <;> rfl
  | measuring handle =>
    simp only [rename, advance, (h _ rfl).statHandle]
    cases d.statHandle path handle with
    | ok status =>
      simp only []
      split <;> rfl
    | error error => rfl
  | fetching handle modified =>
    simp only [rename, advance, (h _ rfl).readHandle]
    cases d.readHandle path handle <;> rfl
  | finished result => rfl

end Reading

/-! ## Lookups -/

namespace Lookup

def rename (f : Item → Item) : Lookup → Lookup
  | .loading gate reading => .loading gate (reading.rename f)
  | .bypassing gate reading => .bypassing gate (reading.rename f)
  | phase => phase

theorem op?_rename (f : Item → Item) (phase : Lookup) : (phase.rename f).op? = phase.op? := by
  cases phase with
  | loading gate reading => exact reading.op?_rename f
  | bypassing gate reading => exact reading.op?_rename f
  | _ => rfl

/-- An answer keeps nothing open. -/
theorem rename_reply (f : Item → Item) (gate : Option GateId) (answer : Option Copy) (s : Store)
    (notices : List Notice) :
    (reply gate answer s notices).map (rename f) = reply gate answer s notices := by
  cases gate <;> rfl

theorem rename_answerFrom (f : Item → Item) (gate : Option GateId) (content : Content)
    (s : Store) : (answerFrom gate content s).map (rename f) = answerFrom gate content s := by
  cases content with
  | present copy => exact rename_reply f gate (some copy) _ []
  | missing => exact rename_reply f gate none _ []
  | reloading => rfl

theorem rename_loaded (f : Item → Item) (gate : GateId) (result : ReadResult) :
    (loaded path gate s result).map (rename f) = loaded path gate s result := by
  cases result with
  | copy copy =>
    simp only [loaded]
    split <;> rfl
  | absent => rfl
  | failed error => rfl

theorem rename_bypassed (f : Item → Item) (gate : Option GateId) (result : ReadResult) :
    (bypassed path gate s result).map (rename f) = bypassed path gate s result := by
  cases result <;> exact rename_reply f gate _ _ _

theorem step_rename {phase : Lookup} (h : ∀ op, phase.op? = some op → Disk.Shows f d e path) :
    (phase.rename f).step now e path s = (phase.step now d path s).map (Step.map (rename f)) := by
  cases phase with
  | starting =>
    simp only [rename, step]
    split <;> rfl
  | probing =>
    simp only [rename, step]
    cases s.find? path <;> rfl
  | found gate id =>
    simp only [rename, step, Option.map_map]
    refine congrArg (fun g => Option.map g (s.entry? id)) (funext fun entry => ?_)
    exact (rename_answerFrom f gate entry.content _).symm
  | arriving => rfl
  | waiting gate =>
    simp only [rename, step]
    split <;> rfl
  | rechecking gate =>
    simp only [rename, step]
    cases s.find? path <;> rfl
  | loading gate reading =>
    simp only [rename, step, Reading.advance_rename h]
    cases reading.advance d path with
    | finished result => exact congrArg some (rename_loaded f gate result).symm
    | _ => rfl
  | storing gate copy =>
    simp only [rename, step]
    split <;> rfl
  | bypassing gate reading =>
    simp only [rename, step, Reading.advance_rename h]
    cases reading.advance d path with
    | finished result => exact congrArg some (rename_bypassed f gate result).symm
    | _ => rfl
  | leaving gate answer => rfl
  | done answer => rfl

end Lookup

/-! ## Sweeps -/

namespace Sweep

def Phase.rename (f : Item → Item) : Phase → Phase
  | .preloading reading => .preloading (reading.rename f)
  | .reloading reading => .reloading (reading.rename f)
  | phase => phase

def rename (f : Item → Item) (sw : Sweep) : Sweep := { sw with phase := sw.phase.rename f }

theorem Phase.op?_rename (f : Item → Item) (phase : Phase) : (phase.rename f).op? = phase.op? := by
  cases phase with
  | preloading reading => exact reading.op?_rename f
  | reloading reading => exact reading.op?_rename f
  | _ => rfl

theorem report?_rename (f : Item → Item) (sw : Sweep) : (sw.rename f).report? = sw.report? := by
  obtain ⟨phase, todo, wasMissing, report⟩ := sw
  cases phase <;> rfl

/-- Between two visits nothing is open. -/
theorem proceed_rename (f : Item → Item) (sw : Sweep) (todo : List EntryId) (s : Store)
    (notices : List Notice) :
    (sw.rename f).proceed todo s notices = (sw.proceed todo s notices).map (rename f) := by
  cases todo <;> rfl

theorem conclude_rename (f : Item → Item) (sw : Sweep) (path : Path) (rest : List EntryId)
    (verdict : Verdict) (s : Store) (notices : List Notice) :
    (sw.rename f).conclude path rest verdict s notices =
      (sw.conclude path rest verdict s notices).map (rename f) :=
  proceed_rename f { sw with report := sw.report.conclude verdict sw.wasMissing } rest s _

theorem visit_rename {sw : Sweep} {id : EntryId} {entry : Entry} {rest : List EntryId}
    (h : ∀ op, sw.phase.op? = some op → Disk.Shows f d e entry.path) :
    (sw.rename f).visit now e s id entry rest =
      (sw.visit now d s id entry rest).map (Step.map (rename f)) := by
  -- However a visit ends, nothing is open then.
  have hconclude (verdict : Verdict) (s : Store) (notices : List Notice) :
      some ((sw.rename f).conclude entry.path rest verdict s notices) =
        (some (sw.conclude entry.path rest verdict s notices)).map (Step.map (rename f)) :=
    congrArg some (conclude_rename f sw entry.path rest verdict s notices)
  have hphase : (sw.rename f).phase = sw.phase.rename f := rfl
  cases hat : sw.phase with
  | listing => simp only [visit, hphase, hat, Phase.rename, Option.map_none]
  | visiting =>
    simp only [visit, hphase, hat, Phase.rename]
    split <;> rfl
  | discarding verdict =>
    simp only [visit, hphase, hat, Phase.rename]
    exact hconclude verdict _ []
  | checking =>
    simp only [visit, hphase, hat, Phase.rename, (h .statPath (by rw [hat]; rfl)).statPath]
    cases d.statPath entry.path with
    | ok status =>
      simp only []
      split <;> rfl
    | error error =>
      cases error with
      | noEntry => rfl
      | _ => exact hconclude _ _ _
  | comparing seen =>
    simp only [visit, hphase, hat, Phase.rename]
    cases entry.content with
    | present copy =>
      simp only []
      split
      · rfl
      · exact hconclude _ _ _
    | missing => rfl
    | reloading => rfl
  | weighing seen old =>
    simp only [visit, hphase, hat, Phase.rename]
    split
    · rfl
    · split <;> rfl
  | preloading reading =>
    have hreading (op : FileOp) (hop : reading.op? = some op) : Disk.Shows f d e entry.path :=
      h op (by rw [hat]; exact hop)
    simp only [visit, hphase, hat, Phase.rename, Reading.advance_rename hreading]
    cases reading.advance d entry.path with
    | finished result =>
      cases result with
      | failed error => exact hconclude _ _ _
      | _ => rfl
    | _ => rfl
  | exchanging copy =>
    simp only [visit, hphase, hat, Phase.rename]
    exact hconclude _ _ _
  | vacating =>
    simp only [visit, hphase, hat, Phase.rename]
    cases s.vacate? id with
    | none => exact hconclude _ _ _
    | some t => rfl
  | reloading reading =>
    have hreading (op : FileOp) (hop : reading.op? = some op) : Disk.Shows f d e entry.path :=
      h op (by rw [hat]; exact hop)
    simp only [visit, hphase, hat, Phase.rename, Reading.advance_rename hreading]
    cases reading.advance d entry.path with
    | finished result => cases result <;> rfl
    | _ => rfl
  | refilling copy =>
    simp only [visit, hphase, hat, Phase.rename]
    exact hconclude _ _ _
  | forgetting =>
    simp only [visit, hphase, hat, Phase.rename]
    exact hconclude _ _ _
  | finished => simp only [visit, hphase, hat, Phase.rename, Option.map_none]

theorem step_rename {sw : Sweep}
    (h : ∀ id rest entry op, sw.todo = id :: rest → s.entry? id = some entry →
      sw.phase.op? = some op → Disk.Shows f d e entry.path) :
    (sw.rename f).step now e s = (sw.step now d s).map (Step.map (rename f)) := by
  by_cases hlisting : sw.phase = .listing
  · have hrenamed : (sw.rename f).phase = .listing := by rw [rename, hlisting]; rfl
    simp only [step, hlisting, hrenamed, Option.map_some]
    exact congrArg some (proceed_rename f sw s.mapped s [])
  · have hrenamed : (sw.rename f).phase ≠ .listing := by
      intro hphase
      cases hold : sw.phase <;> simp [rename, Phase.rename, hold] at hphase hlisting
    cases htodo : sw.todo with
    | nil =>
      have htodo' : (sw.rename f).todo = [] := htodo
      simp only [step, htodo, htodo', Option.map_none]
    | cons id rest =>
      have htodo' : (sw.rename f).todo = id :: rest := htodo
      simp only [step, htodo, htodo']
      cases hentry : s.entry? id with
      | none => rfl
      | some entry => exact visit_rename fun op hop => h id rest entry op htodo hentry hop

end Sweep

/-! ## Scanners -/

namespace Scanner

def Phase.rename (f : Item → Item) : Phase → Phase
  | .sweeping wake sw => .sweeping wake (sw.rename f)
  | phase => phase

def rename (f : Item → Item) (sc : Scanner) : Scanner := { sc with phase := sc.phase.rename f }

theorem hasEnded_rename (f : Item → Item) (sc : Scanner) :
    (sc.rename f).hasEnded = sc.hasEnded := by
  obtain ⟨phase, own, stopped, pending, deadline⟩ := sc
  cases phase <;> rfl

theorem request_rename (f : Item → Item) (sc : Scanner) :
    (sc.rename f).request = (sc.request.1, sc.request.2.rename f) := by
  simp only [request, hasEnded_rename]
  have hpending : (sc.rename f).pending = sc.pending := rfl
  rw [hpending]
  split <;> rfl

/-- A scanner that wakes has nothing open. -/
theorem wake_rename (f : Item → Item) (cause : Wake) (s : Store) (sc : Scanner) :
    wake cause s (sc.rename f) = (wake cause s sc).map (rename f) := by
  unfold wake
  split <;> rfl

theorem start_rename (f : Item → Item) (limits : Limits) (sc : Scanner) :
    (sc.rename f).start now limits = (sc.start now limits).rename f := by
  unfold start
  split <;> rfl

theorem answer_rename (f : Item → Item) (s : Store) (sc : Scanner) :
    (sc.rename f).answer now s = (sc.answer now s).map (rename f) := by
  simp only [answer]
  split
  · rfl
  · exact wake_rename f .trigger s { sc with
      pending := false, deadline := now + period s.limits }

theorem step_rename {sc : Scanner}
    (h : ∀ cause sw id rest entry op, sc.phase = .sweeping cause sw → sw.todo = id :: rest →
      s.entry? id = some entry → sw.phase.op? = some op → Disk.Shows f d e entry.path) :
    (sc.rename f).step now e s = (sc.step now d s).map (Step.map (rename f)) := by
  have hphase : (sc.rename f).phase = sc.phase.rename f := rfl
  cases hat : sc.phase with
  | starting =>
    simp only [step, hphase, hat, Phase.rename, start_rename]
    rfl
  | idle =>
    simp only [step, hphase, hat, Phase.rename]
    have hstopped : (sc.rename f).stopped = sc.stopped := rfl
    have hpending : (sc.rename f).pending = sc.pending := rfl
    have hdeadline : (sc.rename f).deadline = sc.deadline := rfl
    rw [hstopped, hpending, hdeadline]
    split
    · rfl
    · split
      · exact congrArg some (answer_rename f s sc)
      · split
        · exact congrArg some (wake_rename f .timer s { sc with
            deadline := nextDeadline now sc.deadline (period s.limits) })
        · rfl
  | sweeping cause sw =>
    have hsweep : (sw.rename f).step now e s = (sw.step now d s).map (Step.map (Sweep.rename f)) :=
      Sweep.step_rename fun id rest entry op => h cause sw id rest entry op hat
    simp only [step, hphase, hat, Phase.rename, hsweep, Option.map_map]
    refine congrArg (fun g => Option.map g (sw.step now d s)) (funext fun st => ?_)
    simp only [Function.comp_apply, Step.map, Sweep.report?_rename]
    cases st.next.report? <;> rfl
  | clearing =>
    simp only [step, hphase, hat, Phase.rename]
    rfl
  | ended => simp only [step, hphase, hat, Phase.rename, Option.map_none]

end Scanner
end FileCache
