import FileCache.Proofs.Sweep.Table
import FileCache.Proofs.World.Sound

/-!
A sweep leaves nothing for the next one to do.

On a disk without faults, a visit either takes the entry out of the map or leaves it such that
the next visit would find it as it should be.  As a visit touches no other entry, this is still
so when the sweep is over, however short of room it was.
-/

namespace FileCache

open Store (Orderly)

/-! ## Entries at rest -/

namespace Entry

variable {now interval : Nat} {stat : Except Errno Status} {e : Entry}

/-- A visit would find nothing to change about the entry. -/
def AtRest (now interval : Nat) (stat : Except Errno Status) (e : Entry) : Prop :=
  match e.finding now interval stat with
  | .unseen => True
  | .same => True
  | .gone => e.content = .missing
  | _ => False

/-- That there is no file is found out again of a placeholder. -/
theorem finding_forget (h : e.finding now interval stat = .gone) :
    e.forget.finding now interval stat = .gone := by
  unfold finding at h ⊢
  have hidle : e.forget.idle now = e.idle now := rfl
  rw [hidle]
  split at h
  · cases h
  · rename_i hfresh
    rw [if_neg hfresh]
    cases stat with
    | error error =>
      cases error with
      | noEntry => rfl
      | _ => cases h
    | ok status =>
      dsimp only at h ⊢
      split at h
      · split at h <;> cases h
      · rename_i hregular
        rw [if_neg hregular]

/-- A copy that was read just now is found to be that of its file. -/
theorem finding_replace {status : Status} {copy : Copy} (hregular : status.regular = true)
    (hstamp : copy.stamp = status.stamp) :
    (e.replace now copy).finding now interval (.ok status) = .same := by
  have hidle : (e.replace now copy).idle now = 0 := Nat.sub_self now
  rw [finding, hidle, if_neg (Nat.not_lt_zero interval), if_pos hregular]
  exact if_pos (congrArg some hstamp)

end Entry

namespace Store

variable {now : Nat} {d : Disk} {s t : Store} {id other : EntryId} {e e' : Entry}
  {verdict : Verdict}

/-! ## One visit -/

/-- From one store to the next, the entries other than `id` stay what they were, and in the map
if they were. -/
structure Spares (id : EntryId) (s t : Store) : Prop where
  limits : t.limits = s.limits
  orderly : t.Orderly
  entry : ∀ other, other ≠ id → t.entry? other = s.entry? other
  mapped : ∀ other, other ≠ id → (other ∈ t.mapped ↔ other ∈ s.mapped)

theorem spares_settle (hs : s.Orderly) (id : EntryId) (e : Entry) (verdict : Verdict)
    (after : Option Entry) : s.Spares id (s.settle id e verdict after) where
  limits := rfl
  orderly := hs.settle id e verdict after
  entry _ hne := entry?_settle_of_ne hne e verdict after
  mapped _ hne := mem_settle_of_ne hne e verdict after

theorem Leaves.spares (h : s.Leaves now id e verdict t) (hs : s.Orderly) : s.Spares id t := by
  cases h with
  | kept => exact ⟨rfl, hs, fun _ _ => rfl, fun _ _ => Iff.rfl⟩
  | evicted => exact spares_settle hs id e verdict none
  | forgotten => exact spares_settle hs id e verdict _
  | renewed copy hroom => exact spares_settle hs id e verdict _
  | emptied =>
    have h := spares_settle hs id e verdict none
    refine ⟨rfl, ⟨h.orderly.nodup, fun other hother => ?_⟩, fun other hne => ?_, h.mapped⟩
    · rw [List.length_set]
      exact h.orderly.known other hother
    · exact List.getElem?_set_ne hne.symm

/-- An entry that was settled, and that is still in the map, is what it was settled to be. -/
theorem settled_eq {after : Option Entry} (hs : s.Orderly) (hid : id ∈ s.mapped)
    (he : s.entry? id = some e) (hmapped : id ∈ (s.settle id e verdict after).mapped)
    (he' : Store.entry? (s.settle id e verdict after) id = some e') : after = some e' := by
  rw [entry?_settle_self he, Option.some.injEq] at he'
  cases after with
  | none => exact absurd ((mem_settle_self hs hid e verdict none).mp hmapped) nofun
  | some e'' => exact congrArg some he'

/-- A visit leaves its entry at rest, if it leaves it in the map. -/
theorem Prescribed.atRest (h : s.Prescribed now d id e verdict t) (hs : s.Orderly)
    (hid : id ∈ s.mapped) (he : s.entry? id = some e) (hfaultless : d.Faultless)
    (htruthful : d.Truthful) (hmapped : id ∈ t.mapped) (he' : t.entry? id = some e') :
    e'.AtRest now s.limits.interval (d.statPath e'.path) := by
  cases hfinding : e.finding now s.limits.interval (d.statPath e.path) with
  | idle =>
    rw [Prescribed, hfinding] at h
    obtain ⟨-, rfl⟩ := h
    cases settled_eq hs hid he hmapped he'
  | unseen =>
    rw [Prescribed, hfinding] at h
    obtain ⟨-, rfl⟩ := h
    cases he.symm.trans he'
    rw [Entry.AtRest, hfinding]
    trivial
  | gone =>
    rw [Prescribed, hfinding] at h
    obtain ⟨-, rfl⟩ := h
    cases settled_eq hs hid he hmapped he'
    rw [Entry.AtRest, show e.forget.path = e.path from rfl, Entry.finding_forget hfinding]
    rfl
  | same =>
    rw [Prescribed, hfinding] at h
    obtain ⟨-, rfl⟩ := h
    cases he.symm.trans he'
    rw [Entry.AtRest, hfinding]
    trivial
  | other size =>
    obtain ⟨status, hstat, hregular, -, rfl⟩ := Entry.stat_of_other hfinding
    obtain ⟨copy, hread⟩ := hfaultless.read_of_statPath hstat hregular
    rw [Prescribed, hfinding] at h
    unfold Renewed at h
    dsimp only at h
    split at h
    · obtain ⟨-, rfl⟩ := h
      cases settled_eq hs hid he hmapped he'
    · rw [hread] at h
      obtain ⟨-, -, -, rfl⟩ := h
      cases settled_eq hs hid he hmapped he'
      have hsame := htruthful.stamp_of_read hstat hread
      rw [Entry.AtRest, show (e.replace now copy).path = e.path from rfl, hstat,
        Entry.finding_replace hregular hsame]
      trivial

/-- At rest, an entry stays what it is. -/
theorem reconcile_atRest (hid : id ∈ s.mapped) (he : s.entry? id = some e)
    (h : e.AtRest now s.limits.interval (d.statPath e.path)) :
    (s.reconcile now d id e).1 = s ∧
      ((s.reconcile now d id e).2 = .unknown ∨ (s.reconcile now d id e).2 = .noChange ∨
        (s.reconcile now d id e).2 = .notExist ∧ e.content = .missing) := by
  unfold Entry.AtRest at h
  unfold reconcile
  cases hfinding : e.finding now s.limits.interval (d.statPath e.path) with
  | idle => rw [hfinding] at h; exact h.elim
  | unseen => exact ⟨rfl, .inl rfl⟩
  | gone =>
    rw [hfinding] at h
    have hsize : e.size = 0 := by rw [Entry.size, h, Content.size]
    have hforget : e.forget = e := by rw [Entry.forget, ← h]
    refine ⟨?_, .inr (.inr ⟨rfl, h⟩)⟩
    rw [forget_eq hid he, hforget]
    exact settle_self he (hsize ▸ Nat.zero_le _) (by rw [h]; rfl)
  | same => exact ⟨rfl, .inr (.inl rfl)⟩
  | other size => rw [hfinding] at h; exact h.elim

end Store

/-! ## Sweeps -/

namespace Sweep

variable {now : Nat} {d : Disk} {s : Store} {accounts : List Account}

/-- A sweep leaves all entries at rest that it visits, and the others alone. -/
theorem tour_leaves_atRest (hfaultless : d.Faultless) (htruthful : d.Truthful)
    (todo : List EntryId) (hs : s.Orderly) (hnodup : todo.Nodup)
    (hmapped : ∀ id ∈ todo, id ∈ s.mapped) :
    ∃ t accounts, Tour now d s todo t accounts ∧ t.limits = s.limits ∧ t.Orderly ∧
      (∀ id ∈ todo, id ∈ t.mapped → ∀ e, t.entry? id = some e →
        e.AtRest now s.limits.interval (d.statPath e.path)) ∧
      ∀ id ∉ todo, t.entry? id = s.entry? id ∧ (id ∈ t.mapped ↔ id ∈ s.mapped) := by
  induction todo generalizing s with
  | nil =>
    exact ⟨s, [], .nil s, rfl, hs, fun _ h => absurd h List.not_mem_nil,
      fun _ _ => ⟨rfl, Iff.rfl⟩⟩
  | cons id rest ih =>
    have hid := hmapped id List.mem_cons_self
    obtain ⟨e, he⟩ := hs.entry hid
    obtain ⟨hnew, hrest⟩ := List.nodup_cons.mp hnodup
    have hprescribed : s.Prescribed now d id e (s.reconcile now d id e).2
        (s.reconcile now d id e).1 := Store.reconcile_prescribed hid he htruthful
    have hspares := hprescribed.leaves.spares hs
    obtain ⟨t, accounts, htour, hlimits, ht, hvisited, hother⟩ := ih hspares.orderly hrest
      fun other hother => (hspares.mapped other fun h => hnew (h ▸ hother)).mpr
        (hmapped other (List.mem_cons_of_mem id hother))
    obtain ⟨hentry, hkept⟩ := hother id hnew
    refine ⟨t, _, .cons he htour, hlimits.trans hspares.limits, ht,
      fun other hmem hin e' he' => ?_, fun other hmem => ?_⟩
    · rcases List.mem_cons.mp hmem with rfl | hlater
      · exact hprescribed.atRest hs hid he hfaultless htruthful (hkept.mp hin)
          (hentry.symm.trans he')
      · rw [← hspares.limits]
        exact hvisited other hlater hin e' he'
    · obtain ⟨hne, hlater⟩ := not_or.mp (mt List.mem_cons.mpr hmem)
      obtain ⟨hentry', hkept'⟩ := hother other hlater
      exact ⟨hentry'.trans (hspares.entry other hne), hkept'.trans (hspares.mapped other hne)⟩

/-- The account of a visit that changed nothing. -/
def Account.IsQuiet (a : Account) : Prop :=
  a.verdict = .unknown ∨ a.verdict = .noChange ∨ a.verdict = .notExist ∧ a.wasMissing = true

/-- Entries at rest are visited without any change. -/
theorem tour_of_atRest (todo : List EntryId) (hs : s.Orderly)
    (hmapped : ∀ id ∈ todo, id ∈ s.mapped)
    (hrest : ∀ id ∈ todo, ∀ e, s.entry? id = some e →
      e.AtRest now s.limits.interval (d.statPath e.path)) :
    ∃ accounts, Tour now d s todo s accounts ∧ ∀ a ∈ accounts, a.IsQuiet := by
  induction todo with
  | nil => exact ⟨[], .nil s, fun _ h => absurd h List.not_mem_nil⟩
  | cons id rest ih =>
    have hid := hmapped id List.mem_cons_self
    obtain ⟨e, he⟩ := hs.entry hid
    obtain ⟨hsame, hverdict⟩ := Store.reconcile_atRest hid he (hrest id List.mem_cons_self e he)
    obtain ⟨accounts, htour, hquiet⟩ := ih
      (fun other h => hmapped other (List.mem_cons_of_mem id h))
      fun other h => hrest other (List.mem_cons_of_mem id h)
    refine ⟨_, .cons he (by rw [hsame]; exact htour), fun a ha => ?_⟩
    rcases List.mem_cons.mp ha with rfl | ha
    · simpa [Account.IsQuiet, account] using hverdict
    · exact hquiet a ha

/-- A tour of the whole map leaves nothing to do for the next, in whatever order that is made. -/
theorem tour_again (hfaultless : d.Faultless) (htruthful : d.Truthful) (hs : s.Orderly) :
    ∃ t accounts, Tour now d s s.mapped t accounts ∧
      ∀ order, order.Perm t.mapped → ∃ accounts',
        Tour now d { t.count .scanCycle with mapped := order } order
          { t.count .scanCycle with mapped := order } accounts' ∧
        ∀ a ∈ accounts', a.IsQuiet := by
  obtain ⟨t, accounts, htour, hlimits, ht, hvisited, hother⟩ :=
    tour_leaves_atRest hfaultless htruthful s.mapped hs hs.nodup fun _ h => h
  refine ⟨t, accounts, htour, fun order hperm => ?_⟩
  have ht' : Orderly { t.count .scanCycle with mapped := order } :=
    ((Store.alike_count .scanCycle t).orderly ht).shuffle hperm
  refine tour_of_atRest order ht' (fun _ h => h) fun id hid e he => ?_
  have hmapped : id ∈ t.mapped := hperm.mem_iff.mp hid
  have hbefore : id ∈ s.mapped :=
    Decidable.byContradiction fun hnew => hnew ((hother id hnew).2.mp hmapped)
  show e.AtRest now t.limits.interval (d.statPath e.path)
  rw [hlimits]
  exact hvisited id hbefore hmapped e he

end Sweep

/-! ## Reports -/

namespace Report

/-- The report tells of no change. -/
structure IsQuiet (r : Report) : Prop where
  stale : r.stale = 0
  failed : r.failed = 0
  preloaded : r.preloaded = 0
  swapped : r.swapped = 0
  invalidated : r.invalidated = 0

theorem IsQuiet.hasChanges {r : Report} (h : r.IsQuiet) : r.hasChanges = false := by
  simp [Report.hasChanges, evicted, refreshed, h.stale, h.failed, h.preloaded, h.swapped,
    h.invalidated]

theorem IsQuiet.conclude {r : Report} (h : r.IsQuiet) {a : Sweep.Account} (ha : a.IsQuiet) :
    (r.conclude a.verdict a.wasMissing).IsQuiet := by
  rcases ha with hverdict | hverdict | ⟨hverdict, hmissing⟩
  · rw [hverdict]
    exact ⟨h.stale, h.failed, h.preloaded, h.swapped, h.invalidated⟩
  · rw [hverdict]
    exact ⟨h.stale, h.failed, h.preloaded, h.swapped, h.invalidated⟩
  · rw [hverdict, hmissing]
    exact ⟨h.stale, h.failed, h.preloaded, h.swapped, h.invalidated⟩

theorem IsQuiet.reportOf {r : Report} (h : r.IsQuiet) {accounts : List Sweep.Account}
    (haccounts : ∀ a ∈ accounts, a.IsQuiet) : (Sweep.reportOf accounts r).IsQuiet := by
  induction accounts generalizing r with
  | nil => exact h
  | cons a rest ih =>
    exact ih (h.conclude (haccounts a List.mem_cons_self)) fun b hb =>
      haccounts b (List.mem_cons_of_mem a hb)

end Report

/-! ## Worlds -/

namespace World

variable {w w' : World} {id : CallId} {sw : Sweep} {last : Step Sweep} {turns : Nat}
  {order : List EntryId} {t : Store} {r : Report} {notices : List Notice}

theorem run_cons {event : Event} (h : w.apply event = some (w', notices)) (rest : List Event) :
    w.run (event :: rest) = (w'.run rest).map fun later => (later.1, notices ++ later.2) := by
  rw [run, h]
  rfl

/-- Turns in a row of a sweep that somebody has called for. -/
theorem run_turns (hat : w.calls[id]? = some (.sweep sw))
    (h : Sweep.run w.now w.disk turns w.store sw = some last) :
    w.run (List.replicate turns (.turn (.call id))) =
      some ({ w with store := last.store }.setCall id (.sweep last.next), last.notices) := by
  induction turns generalizing w sw last with
  | zero =>
    cases h
    have hsame : w.calls.set id (.sweep sw) = w.calls := by
      obtain ⟨hlt, hget⟩ := List.getElem?_eq_some_iff.mp hat
      rw [← hget, List.set_getElem_self]
    show some (w, []) = some ({ w with calls := w.calls.set id (.sweep sw) }, [])
    rw [hsame]
  | succ turns ih =>
    obtain ⟨st, hstep, h⟩ := Option.bind_eq_some_iff.mp h
    obtain ⟨mid, hmid, rfl⟩ := Option.map_eq_some_iff.mp h
    have hlt : id < w.calls.length := (List.getElem?_eq_some_iff.mp hat).1
    have hturn : w.apply (.turn (.call id)) =
        some ({ w with store := st.store }.setCall id (.sweep st.next), st.notices) := by
      rw [apply, step, hat, Option.bind_some, stepCall, hstep, Option.map_some]
    have hlater := ih (w := { w with store := st.store }.setCall id (.sweep st.next))
      (List.getElem?_set_self hlt) hmid
    rw [List.replicate_succ, run_cons hturn, hlater, Option.map_some]
    simp only [setCall, List.set_set]

/-- Somebody has called for a sweep, which nobody interrupts and which visits the map in the
order given: the world after it, and its report. -/
def Sweeps (w : World) (order : List EntryId) (w' : World) (r : Report) : Prop :=
  ∃ turns notices sw, w.run (.shuffle order :: .call .sweep ::
      List.replicate turns (.turn (.call w.calls.length))) = some (w', notices) ∧
    w'.sweep? (.call w.calls.length) = some sw ∧ sw.report? = some r

theorem sweeps_of_comesTo (hperm : order.Perm w.store.mapped)
    (h : Sweep.fresh.ComesTo w.now w.disk { w.store with mapped := order }
      { next := sw, store := t, notices }) (hreport : sw.report? = some r) :
    w.Sweeps order { w with store := t, calls := w.calls ++ [.sweep sw] } r := by
  obtain ⟨turns, hrun⟩ := h
  have hshuffle : w.apply (.shuffle order) =
      some ({ w with store := { w.store with mapped := order } }, []) := by
    rw [apply, if_pos (List.isPerm_iff.mpr hperm)]
  have hbegin : apply { w with store := { w.store with mapped := order } } (.call .sweep) =
      some ({ w with
        store := { w.store with mapped := order }
        calls := w.calls ++ [.sweep Sweep.fresh] }, []) := rfl
  have hturns := run_turns (w := { w with
    store := { w.store with mapped := order }
    calls := w.calls ++ [.sweep Sweep.fresh] }) List.getElem?_concat_length hrun
  have hset : (w.calls ++ [Call.sweep Sweep.fresh]).set w.calls.length (.sweep sw) =
      w.calls ++ [.sweep sw] := by simp
  refine ⟨turns, notices, sw, ?_, sweep?_call_eq_some_iff.mpr List.getElem?_concat_length, hreport⟩
  rw [run_cons hshuffle, run_cons hbegin, hturns]
  simp only [setCall, hset]
  rfl

/-- After a sweep that nobody interrupts, a second one at the same time finds nothing to do: it
reports no change and leaves the store as it is, but for the count of sweeps.  The two may visit
the map in any order, and the first may have been short of room.  Nor does it matter whether
other sweeps are underway, as long as they wait. -/
theorem sweep_idempotent {disk : Disk} {limits : Limits} {wall : Time.Timestamp}
    {events : List Event} {v : World}
    (hrun : (freshOn disk limits wall).run events = some (v, notices))
    (hfaultless : v.disk.Faultless) (htruthful : v.disk.Truthful)
    (hperm : order.Perm v.store.mapped) :
    ∃ w r, v.Sweeps order w r ∧ w.now = v.now ∧ w.disk = v.disk ∧
      ∀ order', order'.Perm w.store.mapped → ∃ u r', w.Sweeps order' u r' ∧
        r'.hasChanges = false ∧ r'.IsQuiet ∧
        u.store = { w.store with
          mapped := order'
          tally := w.store.tally.add .scanCycle } := by
  have hs : Orderly { v.store with mapped := order } :=
    (Sound.passed v (mem_passed_of_run hrun)).orderly.shuffle hperm
  obtain ⟨t, accounts, htour, hagain⟩ := Sweep.tour_again hfaultless htruthful hs
  obtain ⟨sw, _, hcomes, hreport, -⟩ := htour.fresh_comesTo
  refine ⟨_, _, sweeps_of_comesTo hperm hcomes hreport, rfl, rfl, fun order' hperm' => ?_⟩
  obtain ⟨accounts', htour', haccounts⟩ := hagain order' hperm'
  obtain ⟨sw', _, hcomes', hreport', -⟩ := htour'.fresh_comesTo
  have hquiet : (Sweep.reportOf accounts' {}).IsQuiet :=
    Report.IsQuiet.reportOf ⟨rfl, rfl, rfl, rfl, rfl⟩ haccounts
  exact ⟨_, _, sweeps_of_comesTo hperm' hcomes' hreport', hquiet.hasChanges, hquiet, rfl⟩

/-- A file of seven bytes, in place of the four in the drawer. -/
def grown : FileData := { bytes := List.replicate 7 0, modified := ⟨9, 0⟩, reported := none }

/-- A file is cached and then grows, so that it would not fit beside its old content. -/
def outgrown : List Event :=
  [.call (.toggle true), .turn (.call 0), .call (.lookup ⟨"a"⟩)] ++
  List.replicate 10 (Event.turn (.call 1)) ++ [.edit (.write "a" grown.bytes grown.modified)]

theorem sweep_idempotent_outgrown :
    ∃ (v : World) (notices : List Notice),
      (freshOn Sweep.drawer ⟨7, 10, 1000⟩ ⟨0, 0⟩).run outgrown = some (v, notices) ∧
      ∃ w r, v.Sweeps [0] w r ∧ w.now = v.now ∧ w.disk = v.disk ∧
        ∀ order', order'.Perm w.store.mapped → ∃ u r', w.Sweeps order' u r' ∧
          r'.hasChanges = false ∧ r'.IsQuiet ∧
          u.store = { w.store with
            mapped := order'
            tally := w.store.tally.add .scanCycle } := by
  have hdisk : ((freshOn Sweep.drawer ⟨7, 10, 1000⟩ ⟨0, 0⟩).run outgrown).map (fun r => r.1.disk) =
      some (Sweep.drawer.putFile 0 grown) := rfl
  have hmapped : ((freshOn Sweep.drawer ⟨7, 10, 1000⟩ ⟨0, 0⟩).run outgrown).map (fun r =>
      r.1.store.mapped) = some [0] := by decide +kernel
  obtain ⟨⟨v, notices⟩, hrun, hdisk⟩ := Option.map_eq_some_iff.mp hdisk
  rw [hrun, Option.map_some, Option.some.injEq] at hmapped
  have hfaultless : v.disk.Faultless := by
    rw [hdisk]
    exact fun _ _ => rfl
  have htruthful : v.disk.Truthful := by
    rw [hdisk]
    intro id
    by_cases hid : id = 0
    · simp [Disk.statusOf, Disk.putFile, hid, grown]
    · simp [Disk.statusOf, Disk.putFile, hid, Sweep.drawer]
  exact ⟨v, notices, hrun, sweep_idempotent hrun hfaultless htruthful (by rw [hmapped])⟩

end World
end FileCache
