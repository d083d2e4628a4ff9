import FileCache.Proofs.Sweep.Table
import Mathlib.Data.List.Basic

/-!
With headroom, a sweep treats the entries independently of each other.

If the cache could hold every file that a sweep may come to read beside all that it holds
already, no visit finds the cache short of room.  What becomes of an entry then depends on the
entry and on its own file alone, so that the order of the visits makes no difference.
-/

namespace FileCache

open Store (Orderly)

/-! ## Counts and reports -/

theorem Tally.add_comm (t : Tally) (a b : Count) : (t.add a).add b = (t.add b).add a := by
  cases a <;> cases b <;> rfl

theorem Tally.tell_comm (t : Tally) (v v' : Verdict) (b b' : Bool) :
    (t.tell v b).tell v' b' = (t.tell v' b').tell v b := by
  unfold Tally.tell
  cases v.count? b with
  | none => rfl
  | some c =>
    cases v'.count? b' with
    | none => rfl
    | some c' => exact t.add_comm c c'

namespace Report

theorem add_comm (r : Report) (v v' : Verdict) : (r.add v).add v' = (r.add v').add v := by
  cases v <;> cases v' <;> rfl

theorem add_addInvalidated (r : Report) (v : Verdict) (n : Nat) :
    (r.addInvalidated n).add v = (r.add v).addInvalidated n := by
  cases v <;> rfl

theorem addInvalidated_comm (r : Report) (m n : Nat) :
    (r.addInvalidated m).addInvalidated n = (r.addInvalidated n).addInvalidated m := by
  simp only [addInvalidated, Nat.add_right_comm r.invalidated m n]

theorem conclude_eq (r : Report) (v : Verdict) (b : Bool) :
    r.conclude v b = (r.add v).addInvalidated (if v = .notExist ∧ b = false then 1 else 0) := by
  unfold conclude
  dsimp only
  split <;> rfl

theorem conclude_comm (r : Report) (v v' : Verdict) (b b' : Bool) :
    (r.conclude v b).conclude v' b' = (r.conclude v' b').conclude v b := by
  simp only [conclude_eq, add_addInvalidated]
  rw [add_comm r v' v, addInvalidated_comm]

end Report

/-! ## One entry -/

namespace Entry

/-- The bytes that a visit may come to read for an entry: those of a regular file within the
limit for single files that is not the one that was read before. -/
def demand (maxFile : Nat) (stat : Except Errno Status) (e : Entry) : Nat :=
  match stat with
  | .ok status =>
    if status.regular ∧ status.stamp.size ≤ maxFile ∧ e.content.stamp? ≠ some status.stamp then
      status.stamp.size
    else 0
  | .error _ => 0

/-- The verdict on an entry whose file is another, and what becomes of it if it stays in the map,
when there is room. -/
def renewal (now maxFile size : Nat) (read : ReadResult) (e : Entry) : Verdict × Option Entry :=
  if maxFile < size then (.failed, none)
  else
    match read with
    | .copy copy => (.preloaded, some (e.replace now copy))
    | .absent => (.notExist, some e.forget)
    | .failed _ => (.unknown, some e)

/-- The verdict on an entry, and what becomes of it if it stays in the map, when there is room. -/
def outcome (now interval maxFile : Nat) (stat : Except Errno Status) (read : ReadResult)
    (e : Entry) : Verdict × Option Entry :=
  match e.finding now interval stat with
  | .idle => (.stale, none)
  | .unseen => (.unknown, some e)
  | .gone => (.notExist, some e.forget)
  | .same => (.noChange, some e)
  | .other size => e.renewal now maxFile size read

variable {now interval maxFile : Nat} {d : Disk} {e : Entry} {copy : Copy} {size : Nat}

theorem demand_of_other {stat : Except Errno Status}
    (hother : e.finding now interval stat = .other size) (hfile : size ≤ maxFile) :
    e.demand maxFile stat = size := by
  obtain ⟨status, rfl, hregular, hstamp, rfl⟩ := stat_of_other hother
  exact if_pos ⟨hregular, hfile, hstamp⟩

/-- A visit adds at most what the entry demands. -/
theorem size_outcome_le (htruthful : d.Truthful) :
    ((e.outcome now interval maxFile (d.statPath e.path) (d.read e.path)).2.elim 0 Entry.size) ≤
      e.size + e.demand maxFile (d.statPath e.path) := by
  unfold outcome
  split
  · exact Nat.zero_le _
  · exact Nat.le_add_right _ _
  · exact Nat.zero_le _
  · exact Nat.le_add_right _ _
  · rename_i size hother
    unfold renewal
    split
    · exact Nat.zero_le _
    · rename_i hfile
      split
      · rename_i copy hread
        obtain ⟨status, hstat, -, -, rfl⟩ := stat_of_other hother
        rw [demand_of_other hother (Nat.le_of_not_lt hfile), ← htruthful.size_of_read hstat hread]
        exact Nat.le_add_left _ _
      · exact Nat.zero_le _
      · exact Nat.le_add_right _ _

end Entry

namespace Store

variable {now : Nat} {d : Disk} {s t : Store} {id : EntryId} {e : Entry} {verdict : Verdict}

/-- What becomes of the entry `e` when there is room. -/
def outcome (now : Nat) (d : Disk) (s : Store) (e : Entry) : Verdict × Option Entry :=
  e.outcome now s.limits.interval s.limits.maxFile (d.statPath e.path) (d.read e.path)

/-- With room for the file beside all that is held, only the limit for single files counts. -/
theorem Renewed.outcome {size : Nat} (h : s.Renewed now d id e size verdict t)
    (he : s.entry? id = some e) (hsize : e.size ≤ s.used)
    (hroom : size ≤ s.limits.maxFile → s.used + size ≤ s.limits.capacity) :
    verdict = (e.renewal now s.limits.maxFile size (d.read e.path)).1 ∧
      t = s.settle id e (e.renewal now s.limits.maxFile size (d.read e.path)).1
        (e.renewal now s.limits.maxFile size (d.read e.path)).2 := by
  unfold Renewed at h
  unfold Entry.renewal
  by_cases hfile : s.limits.maxFile < size
  · rw [if_pos (.inl hfile)] at h
    rw [if_pos hfile]
    obtain ⟨rfl, rfl⟩ := h
    exact ⟨rfl, rfl⟩
  have hboth := hroom (Nat.le_of_not_lt hfile)
  have hfits : ¬(s.limits.maxFile < size ∨ s.limits.capacity < s.used - e.size + size) := by omega
  rw [if_neg hfits, if_pos hboth] at h
  rw [if_neg hfile]
  cases hread : d.read e.path with
  | copy copy =>
    rw [hread] at h
    obtain ⟨-, -, rfl, rfl⟩ := h
    exact ⟨rfl, rfl⟩
  | absent =>
    rw [hread] at h
    obtain ⟨rfl, rfl⟩ := h
    exact ⟨rfl, rfl⟩
  | failed error =>
    rw [hread] at h
    obtain ⟨rfl, rfl⟩ := (if_pos hboth).mp h
    exact ⟨rfl, (settle_self he hsize rfl).symm⟩

/-- With room for what the entry demands, the table asks for neither of the limits on the
whole. -/
theorem Prescribed.outcome (h : s.Prescribed now d id e verdict t) (he : s.entry? id = some e)
    (hsize : e.size ≤ s.used)
    (hroom : s.used + e.demand s.limits.maxFile (d.statPath e.path) ≤ s.limits.capacity) :
    verdict = (s.outcome now d e).1 ∧
      t = s.settle id e (s.outcome now d e).1 (s.outcome now d e).2 := by
  rw [Store.outcome, Entry.outcome]
  cases hfinding : e.finding now s.limits.interval (d.statPath e.path) with
  | idle =>
    rw [Prescribed, hfinding] at h
    obtain ⟨rfl, rfl⟩ := h
    exact ⟨rfl, rfl⟩
  | unseen =>
    rw [Prescribed, hfinding] at h
    obtain ⟨rfl, rfl⟩ := h
    exact ⟨rfl, (settle_self he hsize rfl).symm⟩
  | gone =>
    rw [Prescribed, hfinding] at h
    obtain ⟨rfl, rfl⟩ := h
    exact ⟨rfl, rfl⟩
  | same =>
    rw [Prescribed, hfinding] at h
    obtain ⟨rfl, rfl⟩ := h
    exact ⟨rfl, (settle_self he hsize rfl).symm⟩
  | other size =>
    rw [Prescribed, hfinding] at h
    exact h.outcome he hsize fun hfile => by
      rw [Entry.demand_of_other hfinding hfile] at hroom
      exact hroom

theorem reconcile_of_room (hid : id ∈ s.mapped) (he : s.entry? id = some e)
    (htruthful : d.Truthful) (hsize : e.size ≤ s.used)
    (hroom : s.used + e.demand s.limits.maxFile (d.statPath e.path) ≤ s.limits.capacity) :
    s.reconcile now d id e =
      (s.settle id e (s.outcome now d e).1 (s.outcome now d e).2, (s.outcome now d e).1) := by
  obtain ⟨hverdict, hstore⟩ := (reconcile_prescribed hid he htruthful).outcome he hsize hroom
  exact Prod.ext hstore hverdict

/-! ## One entry after the other -/

/-- What the entry `id` demands. -/
def demandOf (d : Disk) (s : Store) (id : EntryId) : Nat :=
  (s.entry? id).elim 0 fun e => e.demand s.limits.maxFile (d.statPath e.path)

/-- The bytes that a sweep may come to read. -/
def demand (d : Disk) (s : Store) : Nat := (s.mapped.map (s.demandOf d)).sum

/-- What is reported of the entry `id` when there is room. -/
def accountOf (now : Nat) (d : Disk) (s : Store) (id : EntryId) : Option Sweep.Account :=
  (s.entry? id).map fun e => ⟨e.path, (s.outcome now d e).1, e.content = .missing⟩

end Store

namespace Sweep

/-- The store after visits to entries of which each came to its outcome. -/
structure Toured (now : Nat) (d : Disk) (s : Store) (todo : List EntryId) (t : Store)
    (accounts : List Account) : Prop where
  rest : t = { s with entries := t.entries, mapped := t.mapped, used := t.used, tally := t.tally }
  orderly : t.Orderly
  used : t.used = t.heldBytes
  entry : ∀ id ∈ todo, ∀ e, s.entry? id = some e →
    t.entry? id = some ((s.outcome now d e).2.getD e) ∧
      (id ∈ t.mapped ↔ (s.outcome now d e).2.isSome = true)
  other : ∀ id ∉ todo, t.entry? id = s.entry? id ∧ (id ∈ t.mapped ↔ id ∈ s.mapped)
  tally : t.tally = accounts.foldl (fun t a => t.tell a.verdict a.wasMissing) s.tally
  accounts : accounts = todo.filterMap (s.accountOf now d)

variable {now : Nat} {d : Disk} {s t : Store} {id : EntryId} {e : Entry} {rest : List EntryId}
  {accounts : List Account}

theorem Toured.nil (hs : s.Orderly) (hused : s.used = s.heldBytes) :
    Toured now d s [] s [] :=
  ⟨rfl, hs, hused, fun _ h => absurd h List.not_mem_nil, fun _ _ => ⟨rfl, Iff.rfl⟩, rfl, rfl⟩

/-- Settling one entry first makes no difference to the others. -/
theorem Toured.cons (hs : s.Orderly) (hid : id ∈ s.mapped) (he : s.entry? id = some e)
    (hnew : id ∉ rest)
    (h : Toured now d (s.settle id e (s.outcome now d e).1 (s.outcome now d e).2) rest t accounts) :
    Toured now d s (id :: rest) t
      (⟨e.path, (s.outcome now d e).1, e.content = .missing⟩ :: accounts) where
  rest := h.rest
  orderly := h.orderly
  used := h.used
  entry other hother e' he' := by
    rcases List.mem_cons.mp hother with rfl | hrest
    · obtain ⟨hentry, hmapped⟩ := h.other other hnew
      rw [he, Option.some.injEq] at he'
      subst he'
      exact ⟨hentry.trans (Store.entry?_settle_self he _ _),
        hmapped.trans (Store.mem_settle_self hs hid _ _ _)⟩
    · have hne : other ≠ id := fun heq => hnew (heq ▸ hrest)
      exact h.entry other hrest e' ((Store.entry?_settle_of_ne hne _ _ _).trans he')
  other other hother := by
    obtain ⟨hne, hrest⟩ := not_or.mp (mt List.mem_cons.mpr hother)
    obtain ⟨hentry, hmapped⟩ := h.other other hrest
    exact ⟨hentry.trans (Store.entry?_settle_of_ne hne _ _ _),
      hmapped.trans (Store.mem_settle_of_ne hne _ _ _)⟩
  tally := h.tally
  accounts := by
    have hsame : rest.filterMap (s.accountOf now d) = accounts := by
      rw [h.accounts]
      refine List.filterMap_congr fun other hother => ?_
      have hne : other ≠ id := fun heq => hnew (heq ▸ hother)
      rw [Store.accountOf, Store.accountOf, Store.entry?_settle_of_ne hne]
      rfl
    rw [List.filterMap_cons_some (show s.accountOf now d id = _ from by
      rw [Store.accountOf, he, Option.map_some]), hsame]

/-- Visits add up to no more than what the entries demand, so that there is room for every one
of them. -/
theorem tour_of_room (htruthful : d.Truthful) (todo : List EntryId) (hs : s.Orderly)
    (hused : s.used = s.heldBytes) (hnodup : todo.Nodup) (hmapped : ∀ id ∈ todo, id ∈ s.mapped)
    (hroom : s.used + (todo.map (s.demandOf d)).sum ≤ s.limits.capacity) :
    ∃ t accounts, Tour now d s todo t accounts ∧ Toured now d s todo t accounts := by
  induction todo generalizing s with
  | nil => exact ⟨s, [], .nil s, .nil hs hused⟩
  | cons id rest ih =>
    have hid := hmapped id List.mem_cons_self
    obtain ⟨e, he⟩ := hs.entry hid
    obtain ⟨hnew, hrest⟩ := List.nodup_cons.mp hnodup
    have hne : ∀ other ∈ rest, other ≠ id := fun other hother h => hnew (h ▸ hother)
    have hsize : e.size ≤ s.used := by
      rw [hused, ← Store.sizeOf_eq he]
      exact Store.sizeOf_le_heldBytes hid
    have hdemand : s.demandOf d id = e.demand s.limits.maxFile (d.statPath e.path) := by
      rw [Store.demandOf, he, Option.elim_some]
    rw [List.map_cons, List.sum_cons, hdemand] at hroom
    have hvisit : s.reconcile now d id e = _ :=
      Store.reconcile_of_room hid he htruthful hsize (by omega)
    have hsettled : (s.settle id e (s.outcome now d e).1 (s.outcome now d e).2).used +
        (rest.map (Store.demandOf d (s.settle id e (s.outcome now d e).1
          (s.outcome now d e).2))).sum ≤ s.limits.capacity := by
      have hsame : rest.map (Store.demandOf d (s.settle id e (s.outcome now d e).1
          (s.outcome now d e).2)) = rest.map (s.demandOf d) := by
        refine List.map_congr_left fun other hother => ?_
        rw [Store.demandOf, Store.demandOf, Store.entry?_settle_of_ne (hne other hother)]
        rfl
      have hadds : (s.outcome now d e).2.elim 0 Entry.size ≤
          e.size + e.demand s.limits.maxFile (d.statPath e.path) :=
        Entry.size_outcome_le htruthful
      rw [hsame]
      show s.used - e.size + (s.outcome now d e).2.elim 0 Entry.size + _ ≤ _
      omega
    obtain ⟨t, accounts, htour, htoured⟩ := ih (hs.settle id e _ _)
      (Store.used_settle hs hid he hused _ _) hrest
      (fun other hother => (Store.mem_settle_of_ne (hne other hother) _ _ _).mpr
        (hmapped other (List.mem_cons_of_mem id hother))) hsettled
    refine ⟨t, _, ?_, .cons hs hid he hnew htoured⟩
    have haccount : account now d s id e =
        ⟨e.path, (s.outcome now d e).1, e.content = .missing⟩ := by
      rw [account, hvisit]
    rw [← haccount]
    exact .cons he (by rw [hvisit]; exact htour)

/-! ## All orders -/

/-- A sweep with headroom, in whatever order. -/
theorem tour_in_order {order : List EntryId} (htruthful : d.Truthful) (hs : s.Orderly)
    (hused : s.used = s.heldBytes) (hroom : s.used + s.demand d ≤ s.limits.capacity)
    (hperm : order.Perm s.mapped) :
    ∃ t accounts, Tour now d { s with mapped := order } order t accounts ∧
      Toured now d { s with mapped := order } order t accounts := by
  have hs' : Orderly { s with mapped := order } := hs.shuffle hperm
  have hused' : s.used = Store.heldBytes { s with mapped := order } :=
    hused.trans (hperm.map s.sizeOf).sum_nat.symm
  have hroom' : s.used + (order.map (s.demandOf d)).sum ≤ s.limits.capacity := by
    rw [(hperm.map (s.demandOf d)).sum_nat]
    exact hroom
  exact tour_of_room htruthful order hs' hused' hs'.nodup (fun _ h => h) hroom'

theorem reportOf_perm {accounts accounts' : List Account} (h : accounts'.Perm accounts)
    (r : Report) : reportOf accounts' r = reportOf accounts r := by
  unfold reportOf
  exact h.foldl_eq' (fun _ _ _ _ r => Report.conclude_comm r _ _ _ _) r

/-- Tours in two orders leave the same, up to the order in which the map is kept. -/
theorem Toured.reordered {t' : Store} {order : List EntryId} {accounts' : List Account}
    (h : Toured now d s s.mapped t accounts)
    (h' : Toured now d { s with mapped := order } order t' accounts') (hs : s.Orderly)
    (hperm : order.Perm s.mapped) :
    t'.mapped.Perm t.mapped ∧ t' = { t with mapped := t'.mapped } ∧ accounts'.Perm accounts := by
  have hsame : ∀ id, t'.entry? id = t.entry? id ∧ (id ∈ t'.mapped ↔ id ∈ t.mapped) := by
    intro id
    by_cases hid : id ∈ s.mapped
    · obtain ⟨e, he⟩ := hs.entry hid
      obtain ⟨hentry, hmapped⟩ := h.entry id hid e he
      obtain ⟨hentry', hmapped'⟩ := h'.entry id (hperm.mem_iff.mpr hid) e he
      exact ⟨hentry'.trans hentry.symm, hmapped'.trans hmapped.symm⟩
    · obtain ⟨hentry, hmapped⟩ := h.other id hid
      obtain ⟨hentry', hmapped'⟩ := h'.other id (mt hperm.mem_iff.mp hid)
      exact ⟨hentry'.trans hentry.symm, hmapped'.trans (hperm.mem_iff.trans hmapped.symm)⟩
  have hkept : t'.mapped.Perm t.mapped :=
    (List.perm_ext_iff_of_nodup h'.orderly.nodup h.orderly.nodup).mpr fun id => (hsame id).2
  have hentries : t'.entries = t.entries := List.ext_getElem? fun id => (hsame id).1
  have hused : t'.used = t.used := by
    have hsizes : t'.sizeOf = t.sizeOf := by
      funext id
      rw [Store.sizeOf, Store.sizeOf, (hsame id).1]
    rw [h'.used, h.used, Store.heldBytes, Store.heldBytes, hsizes]
    exact (hkept.map t.sizeOf).sum_nat
  have haccounts : accounts'.Perm accounts := by
    rw [h'.accounts, h.accounts]
    exact hperm.filterMap _
  have htally : t'.tally = t.tally := by
    rw [h'.tally, h.tally]
    exact haccounts.foldl_eq' (fun _ _ _ _ tally => tally.tell_comm _ _ _ _) s.tally
  refine ⟨hkept, ?_, haccounts⟩
  rw [h'.rest, h.rest, hentries, hused, htally]

/-- With headroom, the store that a sweep leaves, its counters and its report do not depend on
the order of the visits, and neither does the verdict on an entry or what becomes of it: these
depend on the entry, the clock, the time between two scans, the limit for single files and what
the disk says of the entry's own path. -/
theorem order_irrelevant (now : Nat) (hs : s.Orderly) (hused : s.used = s.heldBytes)
    (htruthful : d.Truthful) (hroom : s.used + s.demand d ≤ s.limits.capacity) :
    ∃ (t : Store) (r : Report),
      (∀ order, order.Perm s.mapped → ∃ (sw : Sweep) (kept : List EntryId)
          (notices : List Notice), kept.Perm t.mapped ∧
        fresh.ComesTo now d { s with mapped := order }
          { next := sw, store := { t with mapped := kept }, notices } ∧
        sw.report? = some r ∧
        notices.filterMap Notice.verdict? = order.filterMap fun id =>
          (s.entry? id).map fun e => (e.path, (s.outcome now d e).1)) ∧
      (∀ id ∈ s.mapped, ∀ e, s.entry? id = some e →
        match (s.outcome now d e).2 with
        | some e' => id ∈ t.mapped ∧ t.entry? id = some e'
        | none => id ∉ t.mapped) ∧
      ∀ id ∈ t.mapped, id ∈ s.mapped := by
  obtain ⟨t, accounts, -, htoured⟩ : ∃ t accounts, Tour now d s s.mapped t accounts ∧
      Toured now d s s.mapped t accounts := tour_in_order htruthful hs hused hroom (.refl _)
  refine ⟨t.count .scanCycle, reportOf accounts {}, fun order hperm => ?_, fun id hid e he => ?_,
    fun id hid => ?_⟩
  · obtain ⟨t', accounts', htour, htoured'⟩ :
        ∃ t' accounts', Tour now d { s with mapped := order } order t' accounts' ∧
          Toured now d { s with mapped := order } order t' accounts' :=
      tour_in_order htruthful hs hused hroom hperm
    obtain ⟨hkept, hstore, haccounts⟩ := htoured.reordered htoured' hs hperm
    obtain ⟨sw, notices, hcomes, hreport, hnotices⟩ := htour.fresh_comesTo
    refine ⟨sw, t'.mapped, notices, hkept, ?_, ?_, ?_⟩
    · have hcount : t'.count .scanCycle = { t.count .scanCycle with mapped := t'.mapped } :=
        congrArg (Store.count .scanCycle) hstore
      rw [← hcount]
      exact hcomes
    · rw [hreport, reportOf_perm haccounts]
    · rw [hnotices, htoured'.accounts, List.map_filterMap]
      refine List.filterMap_congr fun id _ => ?_
      exact Option.map_map _ _ _
  · obtain ⟨hentry, hmapped⟩ := htoured.entry id hid e he
    cases hafter : (s.outcome now d e).2 with
    | some e' =>
      rw [hafter] at hentry hmapped
      exact ⟨hmapped.mpr rfl, hentry⟩
    | none =>
      rw [hafter] at hmapped
      exact fun h => nomatch hmapped.mp h
  · by_contra hnew
    exact hnew ((htoured.other id hnew).2.mp hid)

/-- A disk with a file of two bytes and one of four; the second cannot be read. -/
def cabinet : Disk where
  tree place :=
    if place = ["a"] then some (.file 0) else if place = ["b"] then some (.file 1) else none
  files id :=
    { bytes := if id = 0 then [1, 2] else [3, 4, 5, 6], modified := ⟨5, 0⟩, reported := none }
  fresh := 2
  faults parts op := if parts = ["b"] ∧ op = .readHandle then some .inputOutput else none

/-- A store that has an older copy of the one file, and knew the other to be missing. -/
def roomy : Store :=
  { Store.fresh ⟨4, 9, 1000⟩ with
    entries := [outdated, { path := ⟨"b"⟩, content := .missing, touched := 0 }]
    mapped := [0, 1]
    used := 3 }

theorem order_irrelevant_roomy :
    ∃ (t : Store) (r : Report),
      (∀ order, order.Perm roomy.mapped → ∃ (sw : Sweep) (kept : List EntryId)
          (notices : List Notice), kept.Perm t.mapped ∧
        fresh.ComesTo 1000 cabinet { roomy with mapped := order }
          { next := sw, store := { t with mapped := kept }, notices } ∧
        sw.report? = some r ∧
        notices.filterMap Notice.verdict? = order.filterMap fun id =>
          (roomy.entry? id).map fun e => (e.path, (roomy.outcome 1000 cabinet e).1)) ∧
      (∀ id ∈ roomy.mapped, ∀ e, roomy.entry? id = some e →
        match (roomy.outcome 1000 cabinet e).2 with
        | some e' => id ∈ t.mapped ∧ t.entry? id = some e'
        | none => id ∉ t.mapped) ∧
      ∀ id ∈ t.mapped, id ∈ roomy.mapped :=
  order_irrelevant 1000 ⟨by decide, by decide⟩ rfl (fun _ => rfl) (by decide +kernel)

end Sweep
end FileCache
