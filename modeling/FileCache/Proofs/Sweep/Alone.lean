import FileCache.Proofs.Disk.Faultless
import FileCache.Proofs.World.Load

/-!
A visit that nobody interrupts.

`Sweep.run` takes turns of a sweep in a row.  As nothing else happens between them, a visit
comes to what `Store.reconcile` does in one go; that is the form in which the rules of a visit
can be read off.
-/

namespace FileCache

/-- The verdict that a notice tells of, if it does. -/
def Notice.verdict? : Notice → Option (Path × Verdict)
  | .reconciled path verdict => some (path, verdict)
  | _ => none

/-! ## Visits in one go -/

/-- The stamp of the file whose bytes are kept. -/
def Content.stamp? : Content → Option Stamp
  | .present copy => some copy.stamp
  | .missing => none
  | .reloading => none

namespace Entry

/-- What a visit makes out about an entry before it changes anything. -/
inductive Finding
  /-- It has lain unused for too long. -/
  | idle
  /-- Its file did not show a status. -/
  | unseen
  /-- There is no regular file. -/
  | gone
  /-- The file is the one that was read. -/
  | same
  /-- The file is another, of this size. -/
  | other (size : Nat)
deriving DecidableEq, Repr

/-- Nothing but the entry, the clock and the status of its own file is asked. -/
def finding (now interval : Nat) (stat : Except Errno Status) (e : Entry) : Finding :=
  if interval < e.idle now then .idle
  else
    match stat with
    | .ok status =>
      if status.regular then
        if e.content.stamp? = some status.stamp then .same else .other status.stamp.size
      else .gone
    | .error .noEntry => .gone
    | .error _ => .unseen

end Entry

namespace Store

/-- Reads the file beside the old content, and puts it in its place. -/
def preload (now : Nat) (d : Disk) (id : EntryId) (path : Path) (s : Store) : Store × Verdict :=
  match d.read path with
  | .copy copy => s.exchange now id copy
  | .absent => (s.forget id, .notExist)
  | .failed _ => (s, .unknown)

/-- Reads the file after the old content was given up. -/
def reload (now : Nat) (d : Disk) (id : EntryId) (path : Path) (s : Store) : Store × Verdict :=
  match d.read path with
  | .copy copy => s.refill now id copy
  | .absent => (s.forget id, .notExist)
  | .failed _ => (s.discard id, .failed)

/-- Gives up the old content before the file is read. -/
def swap (now : Nat) (d : Disk) (id : EntryId) (path : Path) (s : Store) : Store × Verdict :=
  match s.vacate? id with
  | none => (s, .noChange)
  | some t => t.reload now d id path

/-- Takes the way that leaves room for a file of the size seen, in place of `old` bytes. -/
def renew (now : Nat) (d : Disk) (id : EntryId) (path : Path) (size old : Nat) (s : Store) :
    Store × Verdict :=
  if s.limits.maxFile < size ∨ s.limits.capacity < s.used - old + size then
    (s.discard id, .failed)
  else if s.used + size ≤ s.limits.capacity then s.preload now d id path
  else s.swap now d id path

/-- Brings the entry `e`, known as `id`, in line with the disk: the store after it, and the
verdict. -/
def reconcile (now : Nat) (d : Disk) (id : EntryId) (e : Entry) (s : Store) : Store × Verdict :=
  match e.finding now s.limits.interval (d.statPath e.path) with
  | .idle => (s.discard id, .stale)
  | .unseen => (s, .unknown)
  | .gone => (s.forget id, .notExist)
  | .same => (s, .noChange)
  | .other size => s.renew now d id e.path size e.size

/-- Giving up the content of an entry leaves it in its place. -/
theorem entry?_vacate {s t : Store} {id : EntryId} {e : Entry} (he : s.entry? id = some e)
    (h : s.vacate? id = some t) : t.entry? id = some e.vacate := by
  unfold vacate? at h
  split at h
  · cases h
    exact entry?_revise_self he Entry.vacate s.used
  · cases h

end Store

namespace Sweep

/-! ## Turns in a row -/

/-- What so many turns in a row make of a sweep; none if it cannot take as many. -/
def run (now : Nat) (d : Disk) : Nat → Store → Sweep → Option (Step Sweep)
  | 0, s, sw => some { next := sw, store := s }
  | turns + 1, s, sw =>
    (sw.step now d s).bind fun st =>
      (run now d turns st.store st.next).map fun last =>
        { last with notices := st.notices ++ last.notices }

/-- Some number of turns in a row bring a sweep there. -/
def ComesTo (now : Nat) (d : Disk) (s : Store) (sw : Sweep) (last : Step Sweep) : Prop :=
  ∃ turns, run now d turns s sw = some last

variable {now : Nat} {d : Disk} {s t u : Store} {sw : Sweep} {st first last : Step Sweep}
  {id : EntryId} {e e' : Entry} {rest : List EntryId} {verdict : Verdict} {phase : Phase}
  {warnings more : List Notice} {r : Reading} {copy : Copy}

theorem ComesTo.refl (now : Nat) (d : Disk) (s : Store) (sw : Sweep) :
    sw.ComesTo now d s { next := sw, store := s } := ⟨0, rfl⟩

theorem ComesTo.step (h : sw.step now d s = some st)
    (hlast : st.next.ComesTo now d st.store last) :
    sw.ComesTo now d s { last with notices := st.notices ++ last.notices } := by
  obtain ⟨turns, hrun⟩ := hlast
  exact ⟨turns + 1, by rw [run, h, Option.bind_some, hrun, Option.map_some]⟩

theorem ComesTo.trans (h : sw.ComesTo now d s first)
    (hlast : first.next.ComesTo now d first.store last) :
    sw.ComesTo now d s { last with notices := first.notices ++ last.notices } := by
  obtain ⟨turns, hrun⟩ := h
  induction turns generalizing s sw first with
  | zero =>
    cases hrun
    exact hlast
  | succ turns ih =>
    obtain ⟨st, hstep, hmap⟩ := Option.bind_eq_some_iff.mp hrun
    obtain ⟨mid, hmid, rfl⟩ := Option.map_eq_some_iff.mp hmap
    rw [List.append_assoc]
    exact .step hstep (ih (show mid.next.ComesTo now d mid.store last from hlast) hmid)

/-- A turn of the visit to the head of the list is a turn of the sweep. -/
theorem step_of_visit (htodo : sw.todo = id :: rest) (he : s.entry? id = some e)
    (h : sw.visit now d s id e rest = some st) : sw.step now d s = some st := by
  unfold step
  split
  · rename_i hphase
    simp [visit, hphase] at h
  · rename_i hnil _
    rw [htodo] at hnil
    cases hnil
  · rename_i htodo' _
    rw [htodo, List.cons.injEq] at htodo'
    obtain ⟨rfl, rfl⟩ := htodo'
    rw [he, Option.bind_some, h]

/-! ## The end of a visit -/

theorem conclude_phase (sw : Sweep) (phase : Phase) (path : Path) (rest : List EntryId)
    (verdict : Verdict) (s : Store) (notices : List Notice) :
    { sw with phase }.conclude path rest verdict s notices =
      sw.conclude path rest verdict s notices := by
  cases rest <;> rfl

theorem conclude_append (sw : Sweep) (path : Path) (rest : List EntryId) (verdict : Verdict)
    (s : Store) (warnings more : List Notice) :
    sw.conclude path rest verdict s (warnings ++ more) =
      { sw.conclude path rest verdict s more with
        notices := warnings ++ (sw.conclude path rest verdict s more).notices } := by
  unfold conclude
  rw [List.append_assoc]
  cases rest <;> rfl

/-- If nobody interrupts it, the visit to the entry `e` ends with the verdict and leaves the
store `t`. -/
def Concludes (now : Nat) (d : Disk) (s : Store) (sw : Sweep) (e : Entry) (verdict : Verdict)
    (t : Store) : Prop :=
  ∃ warnings : List Notice, warnings.filterMap Notice.verdict? = [] ∧
    sw.ComesTo now d s ({ sw with wasMissing := sw.noted e }.conclude e.path sw.todo.tail verdict
      t warnings)

/-- Any phase but the one that a visit begins with. -/
def Phase.begun : Phase → Bool
  | .visiting => false
  | _ => true

theorem noted_of_begun (hbegun : sw.phase.begun) (e : Entry) : sw.noted e = sw.wasMissing := by
  unfold noted
  split
  · rename_i hphase
    rw [hphase] at hbegun
    cases hbegun
  · rfl

/-- Once a visit has begun, its end depends on the path only. -/
theorem Concludes.of_path (h : sw.Concludes now d s e verdict t) (hbegun : sw.phase.begun)
    (hpath : e'.path = e.path) : sw.Concludes now d s e' verdict t := by
  unfold Concludes at h ⊢
  rw [noted_of_begun hbegun] at h ⊢
  rw [hpath]
  exact h

/-- A turn that ends a visit. -/
theorem Concludes.ends (warnings : List Notice) (hquiet : warnings.filterMap Notice.verdict? = [])
    (htodo : sw.todo = id :: rest) (he : s.entry? id = some e) (hbegun : sw.phase.begun)
    (h : sw.visit now d s id e rest = some (sw.conclude e.path rest verdict t warnings)) :
    sw.Concludes now d s e verdict t := by
  refine ⟨warnings, hquiet, ?_⟩
  rw [noted_of_begun hbegun, htodo, List.tail_cons]
  have hend := ComesTo.step (step_of_visit htodo he h) (.refl now d _ _)
  rw [List.append_nil] at hend
  exact hend

/-- A turn within a visit. -/
theorem Concludes.next (phase : Phase) (warnings : List Notice)
    (hquiet : warnings.filterMap Notice.verdict? = []) (htodo : sw.todo = id :: rest)
    (he : s.entry? id = some e) (hphase : phase.begun)
    (h : sw.visit now d s id e rest = some
      { next := { sw with phase, wasMissing := sw.noted e }, store := u, notices := warnings })
    (hlater : Concludes now d u { sw with phase, wasMissing := sw.noted e } e verdict t) :
    sw.Concludes now d s e verdict t := by
  obtain ⟨more, hmore, hcomes⟩ := hlater
  refine ⟨warnings ++ more, by rw [List.filterMap_append, hquiet, hmore, List.append_nil], ?_⟩
  rw [noted_of_begun (show (Sweep.phase { sw with phase, wasMissing := sw.noted e }).begun
    from hphase)] at hcomes
  rw [conclude_append]
  have hend := ComesTo.step (step_of_visit htodo he h) hcomes
  rw [show ({ sw with phase, wasMissing := sw.noted e } : Sweep) =
    { { sw with wasMissing := sw.noted e } with phase } from rfl, conclude_phase] at hend
  exact hend

/-- A turn within a visit that has begun before. -/
theorem Concludes.goes (phase : Phase) (warnings : List Notice)
    (hquiet : warnings.filterMap Notice.verdict? = []) (htodo : sw.todo = id :: rest)
    (he : s.entry? id = some e) (hbegun : sw.phase.begun) (hphase : phase.begun)
    (h : sw.visit now d s id e rest = some (sw.goto phase u warnings))
    (hlater : Concludes now d u { sw with phase } e verdict t) :
    sw.Concludes now d s e verdict t := by
  have hsame : { sw with phase, wasMissing := sw.noted e } = { sw with phase } := by
    rw [noted_of_begun hbegun]
  refine .next phase warnings hquiet htodo he hphase ?_ (hsame ▸ hlater)
  rw [h, hsame]
  rfl

/-! ## Phase by phase -/

theorem concludes_discarding (htodo : sw.todo = id :: rest) (he : s.entry? id = some e)
    (hphase : sw.phase = .discarding verdict) :
    sw.Concludes now d s e verdict (s.discard id) :=
  .ends [] rfl htodo he (by rw [hphase]; rfl) (by rw [visit, hphase])

theorem concludes_forgetting (htodo : sw.todo = id :: rest) (he : s.entry? id = some e)
    (hphase : sw.phase = .forgetting) : sw.Concludes now d s e .notExist (s.forget id) :=
  .ends [] rfl htodo he (by rw [hphase]; rfl) (by rw [visit, hphase])

theorem concludes_exchanging (htodo : sw.todo = id :: rest) (he : s.entry? id = some e)
    (hphase : sw.phase = .exchanging copy) :
    sw.Concludes now d s e (s.exchange now id copy).2 (s.exchange now id copy).1 :=
  .ends [] rfl htodo he (by rw [hphase]; rfl) (by rw [visit, hphase])

theorem concludes_refilling (htodo : sw.todo = id :: rest) (he : s.entry? id = some e)
    (hphase : sw.phase = .refilling copy) :
    sw.Concludes now d s e (s.refill now id copy).2 (s.refill now id copy).1 :=
  .ends [] rfl htodo he (by rw [hphase]; rfl) (by rw [visit, hphase])

/-- The two ways of renewing an entry read the file alike: the visit goes on as long as the
reading does, and what it comes to is settled by the end of the reading. -/
theorem concludes_reading {during : Reading → Phase} (r : Reading) (htodo : sw.todo = id :: rest)
    (he : s.entry? id = some e) (hduring : ∀ r, (during r).begun)
    (hgoes : ∀ r, (∀ result, r.advance d e.path ≠ .finished result) →
      visit now d s { sw with phase := during r } id e rest =
        some (sw.goto (during (r.advance d e.path)) s))
    (hends : ∀ r, r.advance d e.path = .finished (d.read e.path) →
      Concludes now d s { sw with phase := during r } e verdict t) (hleads : r.Leads d e.path) :
    Concludes now d s { sw with phase := during r } e verdict t := by
  by_cases hfinished : ∃ result, r.advance d e.path = .finished result
  · obtain ⟨result, hresult⟩ := hfinished
    exact hends r (hresult.trans (by rw [hleads.result hresult]))
  · have hgo : ∀ result, r.advance d e.path ≠ .finished result := not_exists.mp hfinished
    have hless : (r.advance d e.path).load < r.load :=
      Reading.load_advance fun result hr => hgo result (by rw [hr]; rfl)
    exact .goes (during (r.advance d e.path)) [] rfl htodo he (hduring r) (hduring _) (hgoes r hgo)
      (concludes_reading (r.advance d e.path) htodo he hduring hgoes hends (hleads.advance rfl))
termination_by r.load

theorem concludes_preloading (htodo : sw.todo = id :: rest) (he : s.entry? id = some e)
    (hphase : sw.phase = .preloading .opening) :
    sw.Concludes now d s e (s.preload now d id e.path).2 (s.preload now d id e.path).1 := by
  rw [show sw = { sw with phase := .preloading .opening } by rw [← hphase]]
  refine concludes_reading .opening htodo he (fun _ => rfl) (fun r hgo => ?_) (fun r hr => ?_)
    (Reading.leads_opening d e.path)
  · cases hr : r.advance d e.path with
    | finished result => exact absurd hr (hgo result)
    | _ => simp only [visit, hr, goto]
  · rw [Store.preload]
    cases hread : d.read e.path with
    | copy copy =>
      rw [hread] at hr
      exact .goes (.exchanging copy) [] rfl htodo he rfl rfl (by simp only [visit, hr])
        (concludes_exchanging htodo he rfl)
    | absent =>
      rw [hread] at hr
      exact .goes .forgetting [] rfl htodo he rfl rfl (by simp only [visit, hr])
        (concludes_forgetting htodo he rfl)
    | failed error =>
      rw [hread] at hr
      exact .ends [.reloadFailed e.path] rfl htodo he rfl (by simp only [visit, hr])

theorem concludes_reloading (htodo : sw.todo = id :: rest) (he : s.entry? id = some e)
    (hphase : sw.phase = .reloading .opening) :
    sw.Concludes now d s e (s.reload now d id e.path).2 (s.reload now d id e.path).1 := by
  rw [show sw = { sw with phase := .reloading .opening } by rw [← hphase]]
  refine concludes_reading .opening htodo he (fun _ => rfl) (fun r hgo => ?_) (fun r hr => ?_)
    (Reading.leads_opening d e.path)
  · cases hr : r.advance d e.path with
    | finished result => exact absurd hr (hgo result)
    | _ => simp only [visit, hr, goto]
  · rw [Store.reload]
    cases hread : d.read e.path with
    | copy copy =>
      rw [hread] at hr
      exact .goes (.refilling copy) [] rfl htodo he rfl rfl (by simp only [visit, hr])
        (concludes_refilling htodo he rfl)
    | absent =>
      rw [hread] at hr
      exact .goes .forgetting [] rfl htodo he rfl rfl (by simp only [visit, hr])
        (concludes_forgetting htodo he rfl)
    | failed error =>
      rw [hread] at hr
      exact .goes (.discarding .failed) [.reloadFailed e.path] rfl htodo he rfl rfl
        (by simp only [visit, hr]) (concludes_discarding htodo he rfl)

theorem concludes_vacating (htodo : sw.todo = id :: rest) (he : s.entry? id = some e)
    (hphase : sw.phase = .vacating) :
    sw.Concludes now d s e (s.swap now d id e.path).2 (s.swap now d id e.path).1 := by
  have hbegun : sw.phase.begun := by rw [hphase]; rfl
  rw [Store.swap]
  cases hvacate : s.vacate? id with
  | none => exact .ends [] rfl htodo he hbegun (by simp only [visit, hphase, hvacate])
  | some t =>
    have hlater : Concludes now d t { sw with phase := .reloading .opening } e.vacate
        (t.reload now d id e.path).2 (t.reload now d id e.path).1 :=
      concludes_reloading htodo (Store.entry?_vacate he hvacate) rfl
    exact .goes (.reloading .opening) [] rfl htodo he hbegun rfl
      (by simp only [visit, hphase, hvacate]) (hlater.of_path rfl rfl)

theorem concludes_weighing {seen : Stamp} {old : Nat} (htodo : sw.todo = id :: rest)
    (he : s.entry? id = some e) (hphase : sw.phase = .weighing seen old) :
    sw.Concludes now d s e (s.renew now d id e.path seen.size old).2
      (s.renew now d id e.path seen.size old).1 := by
  have hbegun : sw.phase.begun := by rw [hphase]; rfl
  rw [Store.renew]
  split
  · rename_i hover
    exact .goes (.discarding .failed) [] rfl htodo he hbegun rfl
      (by simp only [visit, hphase, if_pos hover]) (concludes_discarding htodo he rfl)
  · rename_i hfits
    split
    · rename_i hboth
      exact .goes (.preloading .opening) [] rfl htodo he hbegun rfl
        (by simp only [visit, hphase, if_neg hfits, if_pos hboth])
        (concludes_preloading htodo he rfl)
    · rename_i hboth
      exact .goes .vacating [] rfl htodo he hbegun rfl
        (by simp only [visit, hphase, if_neg hfits, if_neg hboth])
        (concludes_vacating htodo he rfl)

theorem concludes_comparing {status : Status} (htodo : sw.todo = id :: rest)
    (he : s.entry? id = some e) (hphase : sw.phase = .comparing status.stamp)
    (hfresh : ¬ s.limits.interval < e.idle now)
    (hstat : d.statPath e.path = .ok status) (hregular : status.regular = true) :
    sw.Concludes now d s e (s.reconcile now d id e).2 (s.reconcile now d id e).1 := by
  have hbegun : sw.phase.begun := by rw [hphase]; rfl
  simp only [Store.reconcile, Entry.finding, if_neg hfresh, hstat, if_pos hregular, Entry.size]
  cases hcontent : e.content with
  | present copy =>
    by_cases hsame : (Content.present copy).stamp? = some status.stamp
    · simp only [if_pos hsame]
      have hdiffers : status.stamp.differs copy.stamp = false :=
        Stamp.differs_eq_false_iff.mpr (Option.some.inj hsame).symm
      exact .ends [] rfl htodo he hbegun
        (by simp only [visit, hphase, hcontent, hdiffers, Bool.false_eq_true, if_false])
    · simp only [if_neg hsame, Content.size]
      have hdiffers : status.stamp.differs copy.stamp = true :=
        eq_true_of_ne_false fun h => hsame (by rw [Stamp.differs_eq_false_iff.mp h, Content.stamp?])
      exact .goes (.weighing status.stamp copy.size) [] rfl htodo he hbegun rfl
        (by simp only [visit, hphase, hcontent, if_pos hdiffers]) (concludes_weighing htodo he rfl)
  | missing =>
    exact .goes (.weighing status.stamp 0) [] rfl htodo he hbegun rfl
      (by simp only [visit, hphase, hcontent]) (concludes_weighing htodo he rfl)
  | reloading =>
    exact .goes (.weighing status.stamp 0) [] rfl htodo he hbegun rfl
      (by simp only [visit, hphase, hcontent]) (concludes_weighing htodo he rfl)

theorem concludes_checking (htodo : sw.todo = id :: rest) (he : s.entry? id = some e)
    (hphase : sw.phase = .checking)
    (hfresh : ¬ s.limits.interval < e.idle now) :
    sw.Concludes now d s e (s.reconcile now d id e).2 (s.reconcile now d id e).1 := by
  have hbegun : sw.phase.begun := by rw [hphase]; rfl
  cases hstat : d.statPath e.path with
  | ok status =>
    by_cases hregular : status.regular = true
    · exact .goes (.comparing status.stamp) [] rfl htodo he hbegun rfl
        (by simp only [visit, hphase, hstat, if_pos hregular])
        (concludes_comparing htodo he rfl hfresh hstat hregular)
    · simp only [Store.reconcile, Entry.finding, if_neg hfresh, hstat, if_neg hregular]
      exact .goes .forgetting [] rfl htodo he hbegun rfl
        (by simp only [visit, hphase, hstat, if_neg hregular]) (concludes_forgetting htodo he rfl)
  | error error =>
    simp only [Store.reconcile, Entry.finding, if_neg hfresh, hstat]
    cases error with
    | noEntry =>
      exact .goes .forgetting [] rfl htodo he hbegun rfl (by simp only [visit, hphase, hstat])
        (concludes_forgetting htodo he rfl)
    | _ =>
      exact .ends [.statFailed e.path] rfl htodo he hbegun (by simp only [visit, hphase, hstat])

/-- The visit to an entry, from its beginning. -/
theorem concludes_visiting (htodo : sw.todo = id :: rest) (he : s.entry? id = some e)
    (hphase : sw.phase = .visiting) :
    sw.Concludes now d s e (s.reconcile now d id e).2 (s.reconcile now d id e).1 := by
  have hnoted : sw.noted e = decide (e.content = .missing) := by simp only [noted, hphase]
  have hexpired := e.isExpired_millis now s.limits.interval
  by_cases hidle : s.limits.interval < e.idle now
  · simp only [Store.reconcile, Entry.finding, if_pos hidle]
    exact .next (.discarding .stale) [] rfl htodo he rfl
      (by simp only [visit, hphase, hexpired, decide_eq_true hidle, if_true, hnoted, goto])
      (concludes_discarding htodo he rfl)
  · exact .next .checking [] rfl htodo he rfl
      (by simp only [visit, hphase, hexpired, decide_eq_false hidle, Bool.false_eq_true, if_false,
        hnoted, goto])
      (concludes_checking htodo he rfl hidle)

/-! ## Whole sweeps -/

/-- What is reported of one visit. -/
structure Account where
  path : Path
  verdict : Verdict
  wasMissing : Bool
deriving DecidableEq, Repr

/-- The report on visits in a row. -/
def reportOf (accounts : List Account) (r : Report) : Report :=
  accounts.foldl (fun r account => r.conclude account.verdict account.wasMissing) r

/-- What is reported of the visit to the entry `e`, known as `id`. -/
def account (now : Nat) (d : Disk) (s : Store) (id : EntryId) (e : Entry) : Account where
  path := e.path
  verdict := (s.reconcile now d id e).2
  wasMissing := e.content = .missing

/-- Visits in a row: the store before, the entries, the store after, and the accounts. -/
inductive Tour (now : Nat) (d : Disk) : Store → List EntryId → Store → List Account → Prop
  | nil (s : Store) : Tour now d s [] s []
  | cons {s t : Store} {id : EntryId} {e : Entry} {rest : List EntryId} {accounts : List Account}
      (he : s.entry? id = some e) (h : Tour now d (s.reconcile now d id e).1 rest t accounts) :
      Tour now d s (id :: rest) t (account now d s id e :: accounts)

variable {todo : List EntryId} {accounts : List Account}

/-- A sweep that has the visits before it makes them, and then ends. -/
theorem Tour.comesTo (h : Tour now d s todo t accounts) (sw : Sweep) (notices : List Notice) :
    ∃ sw' more, (sw.proceed todo s notices).next.ComesTo now d (sw.proceed todo s notices).store
        { next := sw', store := t.count .scanCycle, notices := more } ∧
      sw'.report? = some (reportOf accounts sw.report) ∧
      more.filterMap Notice.verdict? = accounts.map fun a => (a.path, a.verdict) := by
  induction h generalizing sw notices with
  | nil s => exact ⟨_, [], .refl now d _ _, rfl, rfl⟩
  | @cons s t id e rest accounts he _ ih =>
    have hvisit : Concludes now d s { sw with phase := .visiting, todo := id :: rest } e
        (s.reconcile now d id e).2 (s.reconcile now d id e).1 := concludes_visiting rfl he rfl
    obtain ⟨warnings, hquiet, hvisit⟩ := hvisit
    obtain ⟨sw', more, hrest, hreport, hmore⟩ := ih
      { sw with
        phase := .visiting
        todo := id :: rest
        wasMissing := e.content = .missing
        report := sw.report.conclude (s.reconcile now d id e).2 (e.content = .missing) }
      (warnings ++ [.reconciled e.path (s.reconcile now d id e).2])
    refine ⟨sw', _, hvisit.trans hrest, hreport, ?_⟩
    rw [List.filterMap_append, hmore, conclude, notices_proceed, List.filterMap_append, hquiet]
    rfl

/-- A fresh sweep makes the visits to all entries of the map, in its order, and then ends. -/
theorem Tour.fresh_comesTo (h : Tour now d s s.mapped t accounts) :
    ∃ sw notices, fresh.ComesTo now d s { next := sw, store := t.count .scanCycle, notices } ∧
      sw.report? = some (reportOf accounts {}) ∧
      notices.filterMap Notice.verdict? = accounts.map fun a => (a.path, a.verdict) := by
  obtain ⟨sw, more, hrest, hreport, hmore⟩ := h.comesTo fresh []
  have hlisting : fresh.step now d s = some (fresh.proceed s.mapped s []) := rfl
  refine ⟨sw, _, .step hlisting hrest, hreport, ?_⟩
  rw [notices_proceed, List.nil_append, hmore]

end Sweep
end FileCache
