import FileCache.Proofs.Lookup.Course
import FileCache.Proofs.Sweep.Course
import FileCache.Proofs.World.History
import FileCache.Proofs.World.Reports

/-!
The counters agree with the lookups and with the map.

A lookup is counted once, as what it turns out to be.  A copy that is read for the store is put
there or counted as bypassing it, and an entry is in the map until it is counted as evicted or
reported as dropped.
-/

namespace FileCache

open Store (Alike)

/-! ## Reported clears -/

/-- How many entries were dropped, if the notice is the report of a clear. -/
def Notice.dropped : Notice → Nat
  | .scannerStopped dropped => dropped
  | _ => 0

/-- The entries that all reported clears dropped. -/
def droppedIn (notices : List Notice) : Nat := (notices.map Notice.dropped).sum

theorem droppedIn_append (first second : List Notice) :
    droppedIn (first ++ second) = droppedIn first + droppedIn second := by
  rw [droppedIn, List.map_append, List.sum_append, droppedIn, droppedIn]

/-- Who gives no notice that is a scanner's has cleared nothing. -/
theorem droppedIn_eq_zero {notices : List Notice}
    (hquiet : ∀ n : Notice, n.ofScanner = true → n ∉ notices) : droppedIn notices = 0 := by
  refine List.sum_eq_zero_iff_forall_eq_nat.mpr fun dropped hdropped => ?_
  obtain ⟨n, hn, rfl⟩ := List.mem_map.mp hdropped
  cases n with
  | scannerStopped dropped => exact absurd hn (hquiet _ rfl)
  | _ => rfl

/-! ## The books of a store -/

namespace Lookup

/-- Whether a lookup has been counted as what it turned out to be. -/
def isCounted : Lookup → Bool
  | .loading _ _ => true
  | .storing _ _ => true
  | .bypassing _ _ => true
  | .leaving _ _ => true
  | .done _ => true
  | _ => false

def isStoring : Lookup → Bool
  | .storing _ _ => true
  | _ => false

end Lookup

namespace Store

/-- The counters of a store when so many lookups were counted, so many copies are about to be
stored, and so many entries were dropped by clears. -/
structure Balanced (s : Store) (counted storing dropped : Nat) : Prop where
  /-- A bypass is a lookup that was counted as one, or a copy that was refused. -/
  bypasses : ∃ aside refused, s.tally.bypasses = aside + refused ∧
    counted = s.tally.hits + s.tally.negativeHits + s.tally.misses + aside ∧
    s.tally.diskLoads = s.entries.length + refused + storing
  entries : s.entries.length = s.mapped.length + s.tally.evictions + dropped

namespace Balanced

variable {s t : Store} {counted storing dropped : Nat}

theorem of_same (hs : s.Balanced counted storing dropped) (htally : t.tally = s.tally)
    (hentries : t.entries.length = s.entries.length) (hmapped : t.mapped.length = s.mapped.length) :
    t.Balanced counted storing dropped := by
  constructor
  · rw [htally, hentries]
    exact hs.bypasses
  · rw [htally, hentries, hmapped]
    exact hs.entries

theorem of_alike (hs : s.Balanced counted storing dropped) (h : Alike s t)
    (htally : t.tally = s.tally) : t.Balanced counted storing dropped :=
  hs.of_same htally (by rw [h.entries]) (by rw [h.mapped])

/-- One more lookup is counted. -/
theorem count (hs : s.Balanced counted storing dropped) {what : Count}
    (hwhat : what = .hit ∨ what = .negativeHit ∨ what = .miss ∨ what = .bypass) :
    (s.count what).Balanced (counted + 1) storing dropped := by
  obtain ⟨aside, refused, hbypasses, hcounted, hloads⟩ := hs.bypasses
  rcases hwhat with rfl | rfl | rfl | rfl
  · refine ⟨⟨aside, refused, hbypasses, ?_, hloads⟩, hs.entries⟩
    simp only [Store.count, Tally.add]
    omega
  · refine ⟨⟨aside, refused, hbypasses, ?_, hloads⟩, hs.entries⟩
    simp only [Store.count, Tally.add]
    omega
  · refine ⟨⟨aside, refused, hbypasses, ?_, hloads⟩, hs.entries⟩
    simp only [Store.count, Tally.add]
    omega
  · refine ⟨⟨aside + 1, refused, ?_, ?_, hloads⟩, hs.entries⟩
    · simp only [Store.count, Tally.add]
      omega
    · simp only [Store.count, Tally.add]
      omega

/-- Counting what a sweep did. -/
theorem countSweep (hs : s.Balanced counted storing dropped) {what : Count}
    (hwhat : what = .refresh ∨ what = .invalidation ∨ what = .scanCycle) :
    (s.count what).Balanced counted storing dropped := by
  rcases hwhat with rfl | rfl | rfl <;> exact ⟨hs.bypasses, hs.entries⟩

/-- A copy is read for the store. -/
theorem load (hs : s.Balanced counted storing dropped) :
    (s.count .diskLoad).Balanced counted (storing + 1) dropped := by
  obtain ⟨aside, refused, hbypasses, hcounted, hloads⟩ := hs.bypasses
  refine ⟨⟨aside, refused, hbypasses, hcounted, ?_⟩, hs.entries⟩
  simp only [Store.count, Tally.add]
  omega

theorem refuse (hs : s.Balanced counted (storing + 1) dropped) :
    (s.count .bypass).Balanced counted storing dropped := by
  obtain ⟨aside, refused, hbypasses, hcounted, hloads⟩ := hs.bypasses
  refine ⟨⟨aside, refused + 1, ?_, hcounted, ?_⟩, hs.entries⟩
  · simp only [Store.count, Tally.add]
    omega
  · simp only [Store.count, Tally.add]
    omega

theorem insert (hs : s.Balanced counted (storing + 1) dropped) (now : Nat) (path : Path)
    (copy : Copy) : (s.insert now path copy).Balanced counted storing dropped := by
  have hmapped := hs.entries
  obtain ⟨aside, refused, hbypasses, hcounted, hloads⟩ := hs.bypasses
  refine ⟨⟨aside, refused, hbypasses, hcounted, ?_⟩, ?_⟩
  · simp only [Store.insert, List.length_append, List.length_singleton]
    omega
  · simp only [Store.insert, List.length_append, List.length_singleton]
    omega

theorem unmap (hs : s.Balanced counted storing dropped) {id : EntryId} (hid : id ∈ s.mapped) :
    (s.unmap id).Balanced counted storing dropped := by
  have hmapped := hs.entries
  have hpos := List.length_pos_of_mem hid
  refine ⟨hs.bypasses, ?_⟩
  simp only [Store.unmap, Store.count, Tally.add, List.length_erase_of_mem hid]
  omega

theorem dropAll (hs : s.Balanced counted storing dropped) :
    s.dropAll.Balanced counted storing (dropped + s.mapped.length) := by
  have hmapped := hs.entries
  refine ⟨hs.bypasses, ?_⟩
  simp only [Store.dropAll, List.length_nil]
  omega

/-- An entry gets another content, and the bytes are counted anew. -/
theorem modify (hs : s.Balanced counted storing dropped) (id : EntryId) (change : Entry → Entry)
    (used : Nat) : ({ s with used }.modify id change).Balanced counted storing dropped :=
  hs.of_same rfl (List.length_modify _ _ _) rfl

theorem discard (hs : s.Balanced counted storing dropped) (id : EntryId) :
    (s.discard id).Balanced counted storing dropped := by
  unfold Store.discard
  split
  · rename_i hid
    exact hs.unmap (Store.isMapped_iff.mp hid)
  · exact hs

theorem forget (hs : s.Balanced counted storing dropped) (id : EntryId) :
    (s.forget id).Balanced counted storing dropped := by
  have hforgotten := hs.modify id Entry.forget (s.used - s.sizeOf id)
  unfold Store.forget
  split
  · simp only []
    split
    · exact hforgotten
    · exact hforgotten.countSweep (.inr (.inl rfl))
  · exact hs

theorem vacate (hs : s.Balanced counted storing dropped) {id : EntryId}
    (h : s.vacate? id = some t) : t.Balanced counted storing dropped := by
  unfold Store.vacate? at h
  split at h
  · cases h
    exact hs.modify id Entry.vacate (s.used - s.sizeOf id)
  · cases h

theorem exchange (hs : s.Balanced counted storing dropped) (now : Nat) (id : EntryId)
    (copy : Copy) : (s.exchange now id copy).1.Balanced counted storing dropped := by
  unfold Store.exchange
  split
  · rename_i hid
    simp only []
    split
    · exact (hs.modify id (Entry.replace now copy) _).countSweep (.inl rfl)
    · exact hs.unmap (Store.isMapped_iff.mp hid)
  · exact hs

theorem refill (hs : s.Balanced counted storing dropped) (now : Nat) (id : EntryId)
    (copy : Copy) : (s.refill now id copy).1.Balanced counted storing dropped := by
  unfold Store.refill
  split
  · rename_i hid
    split
    · exact (hs.modify id (Entry.replace now copy) _).countSweep (.inl rfl)
    · exact hs.unmap (Store.isMapped_iff.mp hid)
  · exact hs

end Balanced

theorem tally_arrive (path : Path) (s : Store) : (s.arrive path).2.tally = s.tally := by
  unfold arrive
  split <;> rfl

theorem tally_leave (id : GateId) (path : Path) (s : Store) :
    (s.leave id path).tally = s.tally := by
  simp only [leave]
  split <;> rfl

end Store

/-! ## Turns -/

/-- A lookup is counted in the turn in which it becomes clear what it is, and a copy that it has
read is put into the store or refused. -/
theorem Lookup.Course.balanced {now : Nat} {disk : Disk} {path : Path} {s t : Store}
    {phase next : Lookup} {others copies dropped : Nat}
    (h : Lookup.Course now disk path s phase next t)
    (hs : s.Balanced (others + phase.isCounted.toNat) (copies + phase.isStoring.toNat) dropped) :
    t.Balanced (others + next.isCounted.toNat) (copies + next.isStoring.toNat) dropped := by
  cases h with
  | passBy => exact hs.count (.inr (.inr (.inr rfl)))
  | @take gate id e answer he hanswer =>
    have hused : (s.markUsed now id).Balanced others copies dropped :=
      hs.modify id (Entry.markUsed now) s.used
    have hcounted : ((s.markUsed now id).count e.content.counted).Balanced (others + 1) copies
        dropped := by
      cases hcontent : e.content with
      | present copy => exact hused.count (.inl rfl)
      | missing => exact hused.count (.inr (.inl rfl))
      | reloading =>
        rw [hcontent] at hanswer
        cases hanswer
    cases gate with
    | none => exact hcounted
    | some g => exact hcounted.of_alike (Store.alike_unlock g _) rfl
  | @reload gate id e he hcontent =>
    have hused : (s.markUsed now id).Balanced others copies dropped :=
      hs.modify id (Entry.markUsed now) s.used
    exact hused.count (.inr (.inr (.inr rfl)))
  | arrive => exact hs.of_alike (Store.alike_arrive path s) (Store.tally_arrive path s)
  | pass => exact hs.of_alike (Store.alike_lock _ s) rfl
  | load => exact hs.count (.inr (.inr (.inl rfl)))
  | keep => exact hs.load
  | outsized => exact hs.load.refuse.of_alike (Store.alike_unlock _ _) rfl
  | vain => exact hs.of_alike (Store.alike_unlock _ s) rfl
  | insert => exact (hs.insert now path _).of_alike (Store.alike_unlock _ _) rfl
  | refuse => exact hs.refuse.of_alike (Store.alike_unlock _ _) rfl
  | @answer gate r result _ =>
    cases gate with
    | none => exact hs
    | some g => exact hs.of_alike (Store.alike_unlock g s) rfl
  | leave => exact hs.of_alike (Store.alike_leave _ path s) (Store.tally_leave _ path s)
  | _ => exact hs

/-- A sweep counts no lookup, and what it takes out of the map it counts as evicted. -/
theorem Sweep.step_balanced {now : Nat} {disk : Disk} {s : Store} {sw : Sweep} {st : Step Sweep}
    {counted storing dropped : Nat} (h : sw.step now disk s = some st)
    (hs : s.Balanced counted storing dropped) : st.store.Balanced counted storing dropped := by
  have hproceed {t : Store} (ht : t.Balanced counted storing dropped) (sw : Sweep)
      (todo : List EntryId) (notices : List Notice) :
      (sw.proceed todo t notices).store.Balanced counted storing dropped := by
    cases todo with
    | nil => exact ht.countSweep (.inr (.inr rfl))
    | cons _ _ => exact ht
  rcases step_cases h with ⟨-, rfl⟩ | ⟨id, rest, e, -, -, hvisit⟩
  · exact hproceed hs _ _ _
  · rcases hvisit with ⟨hcourse⟩ | ⟨hending⟩
    · generalize sw.phase = before at hcourse
      cases hcourse with
      | vacate hvacate => exact hs.vacate hvacate
      | _ => exact hs
    · refine hproceed ?_ _ _ _
      generalize sw.phase = before at hending
      cases hending with
      | discard => exact hs.discard id
      | exchange => exact hs.exchange now id _
      | refill => exact hs.refill now id _
      | forget => exact hs.forget id
      | _ => exact hs

/-! ## Runs -/

namespace World

/-- How many of all lookups so far stand at such a point. -/
def count (w : World) (at? : Lookup → Bool) : Nat :=
  w.calls.countP fun call => call.lookup?.any (at? ·.2)

/-- How many lookups have their answer. -/
def completed (w : World) : Nat := w.count (·.answer?.isSome)

/-- The counters agree with the lookups and the map when so many entries were reported as
dropped. -/
def Balanced (w : World) (dropped : Nat) : Prop :=
  w.store.Balanced (w.count Lookup.isCounted) (w.count Lookup.isStoring) dropped

variable {w w' : World} {event : Event} {notices : List Notice} {dropped : Nat}

/-- What a call adds to the count, and the rest of the count. -/
theorem count_setCall {id : CallId} {old : Call} (hold : w.calls[id]? = some old)
    (at? : Lookup → Bool) : ∃ others,
    w.count at? = others + (old.lookup?.any (at? ·.2)).toNat ∧
    ∀ call : Call, (w.setCall id call).count at? = others + (call.lookup?.any (at? ·.2)).toNat :=
  countP_set_split hold _

theorem count_of_calls (h : w'.calls = w.calls) (at? : Lookup → Bool) :
    w'.count at? = w.count at? := by rw [count, h, count]

/-- A call that is no lookup goes on. -/
theorem count_setCall_of_none {id : CallId} {old call : Call} (hold : w.calls[id]? = some old)
    (hlookup : old.lookup? = none) (hnext : call.lookup? = none) (at? : Lookup → Bool) :
    (w.setCall id call).count at? = w.count at? := by
  obtain ⟨others, hbefore, hafter⟩ := count_setCall hold at?
  rw [hafter call, hbefore, hlookup, hnext]

theorem count_begin (ask : Ask) (w : World) {at? : Lookup → Bool} (hnew : at? .starting = false) :
    (w.begin ask).count at? = w.count at? := by
  have hask : (ask.call.lookup?.any (at? ·.2)) = false := by
    cases ask <;> first | exact hnew | rfl
  rw [count, begin, List.countP_append, List.countP_singleton, hask]
  rfl

namespace Balanced

theorem freshOn (disk : Disk) (limits : Limits) (wall : Time.Timestamp) :
    (World.freshOn disk limits wall).Balanced 0 := ⟨⟨0, 0, rfl, rfl, rfl⟩, rfl⟩

/-- No lookup takes a turn, and the store keeps its entries and counters. -/
theorem still (hw : w.Balanced dropped)
    (hcount : ∀ at?, at? .starting = false → w'.count at? = w.count at?)
    (htally : w'.store.tally = w.store.tally)
    (hentries : w'.store.entries.length = w.store.entries.length)
    (hmapped : w'.store.mapped.length = w.store.mapped.length) : w'.Balanced dropped := by
  rw [Balanced, hcount _ rfl, hcount _ rfl]
  exact Store.Balanced.of_same hw htally hentries hmapped

theorem switched (hw : w.Balanced dropped) {v : World} (hv : Switched w v) {id : CallId}
    {old next : Call} (hold : w.calls[id]? = some old) (hlookup : old.lookup? = none)
    (hnext : next.lookup? = none) : (v.setCall id next).Balanced dropped := by
  obtain ⟨on, hstore⟩ := hv.store
  have hold' : v.calls[id]? = some old := by rw [hv.calls, hold]
  have hcount (at? : Lookup → Bool) (_ : at? .starting = false) :
      (v.setCall id next).count at? = w.count at? := by
    rw [count_setCall_of_none hold' hlookup hnext, count_of_calls hv.calls]
  refine hw.still hcount ?_ ?_ ?_
  · rw [setCall, hstore]
  · rw [setCall, hstore]
  · rw [setCall, hstore]

theorem callTurn (hw : w.Balanced dropped) {id : CallId} {call : Call}
    (hcall : w.calls[id]? = some call) (h : CallTurn w id call w' notices) :
    w'.Balanced dropped := by
  cases h with
  | @lookup path phase st hstep =>
    obtain ⟨others, hcounted, hcounted'⟩ := count_setCall hcall Lookup.isCounted
    obtain ⟨copies, hstoring, hstoring'⟩ := count_setCall hcall Lookup.isStoring
    rw [Balanced, hcounted, hstoring] at hw
    show st.store.Balanced ((w.setCall id (.lookup path st.next)).count Lookup.isCounted)
      ((w.setCall id (.lookup path st.next)).count Lookup.isStoring) dropped
    rw [hcounted', hstoring']
    exact (Lookup.step_course hstep).balanced hw
  | @sweep sw st hstep =>
    have hcount (at? : Lookup → Bool) : (w.setCall id (.sweep st.next)).count at? = w.count at? :=
      count_setCall_of_none hcall rfl rfl at?
    show st.store.Balanced ((w.setCall id (.sweep st.next)).count Lookup.isCounted)
      ((w.setCall id (.sweep st.next)).count Lookup.isStoring) dropped
    rw [hcount, hcount]
    exact Sweep.step_balanced hstep hw
  | toggle hturn => exact hw.switched hturn.switched hcall rfl rfl
  | shutdown hturn => exact hw.switched hturn.switched hcall rfl rfl
  | scan hturn => exact hw.switched hturn.switched hcall rfl rfl
  | read =>
    exact hw.still (fun at? _ => count_setCall_of_none hcall rfl rfl at?) rfl rfl rfl
  | stat =>
    exact hw.still (fun at? _ => count_setCall_of_none hcall rfl rfl at?) rfl rfl rfl

/-- A scanner that clears the store reports what it has dropped. -/
theorem scannerTurn (hw : w.Balanced dropped) {sc : Scanner} {st : Step Scanner}
    (h : sc.Turn w.now w.disk w.store st) (scanners : List Scanner) :
    ({ w with store := st.store, scanners } : World).Balanced (dropped + droppedIn st.notices) := by
  have hwake (cause : Wake) (sc : Scanner) :
      ({ w with store := (sc.wake cause w.store).store, scanners } : World).Balanced
        (dropped + droppedIn (sc.wake cause w.store).notices) := by
    rw [droppedIn_eq_zero fun n _ => wake_quiet sc cause w.store]
    unfold Scanner.wake
    split <;> exact hw
  cases h with
  | started => exact hw
  | unstarted => exact hw
  | dismissed => exact hw
  | asked => exact hwake _ _
  | unanswered => exact hw
  | due => exact hwake _ _
  | @sweeps cause sw st _ hstep _ =>
    rw [droppedIn_eq_zero fun n hn => Sweep.step_quiet hstep hn]
    exact Sweep.step_balanced hstep hw
  | @swept cause sw st report _ hstep _ =>
    rw [droppedIn_append, droppedIn_eq_zero fun n hn => Sweep.step_quiet hstep hn]
    exact Sweep.step_balanced hstep hw
  | cleared => exact Store.Balanced.dropAll hw

theorem apply (hw : w.Balanced dropped) (h : w.apply event = some (w', notices)) :
    w'.Balanced (dropped + droppedIn notices) := by
  cases apply_happens h with
  | turn hstep =>
    cases step_turn hstep with
    | call hcall hturn =>
      rw [droppedIn_eq_zero fun n hn => hturn.quiet hn]
      exact hw.callTurn hcall hturn
    | scanner _ hturn => exact hw.scannerTurn (Scanner.step_turn hturn) _
  | call ask => exact hw.still (fun at? hnew => count_begin ask w hnew) rfl rfl rfl
  | @request id =>
    exact hw.still (fun at? _ => count_of_calls (calls_requestScan id w) at?)
      (by rw [store_requestScan]) (by rw [store_requestScan]) (by rw [store_requestScan])
  | shuffle hperm => exact hw.still (fun _ _ => rfl) rfl rfl hperm.length_eq
  | _ => exact hw

theorem of_run {disk : Disk} {limits : Limits} {wall : Time.Timestamp} {events : List Event}
    {v : World} (hrun : (World.freshOn disk limits wall).run events = some (v, notices)) :
    v.Balanced (droppedIn notices) := by
  refine run_induction (P := fun events v => ∀ notices,
    (World.freshOn disk limits wall).run events = some (v, notices) →
      v.Balanced (droppedIn notices)) ?_ ?_ hrun notices hrun
  · intro notices h
    cases h
    exact .freshOn disk limits wall
  · intro events v event v' notices more hv happly hbalanced all hall
    rw [run_snoc, hv, Option.bind_some, happly, Option.map_some] at hall
    cases hall
    rw [droppedIn_append]
    exact (hbalanced notices hv).apply happly

end Balanced

theorem allAnswered_iff : w.AllAnswered ↔
    ∀ call ∈ w.calls, ∀ l ∈ call.lookup?, l.2.answer?.isSome = true := by
  constructor
  · rintro h call hcall ⟨path, phase⟩ hlookup
    obtain ⟨id, hid⟩ := List.mem_iff_getElem?.mp hcall
    exact h id path phase (Option.bind_eq_some_iff.mpr ⟨call, hid, hlookup⟩)
  · intro h id path phase hat
    obtain ⟨call, hid, hlookup⟩ := Option.bind_eq_some_iff.mp hat
    exact h call (List.mem_of_getElem? hid) ⟨path, phase⟩ hlookup

instance (w : World) : Decidable w.AllAnswered := decidable_of_iff _ allAnswered_iff.symm

/-- Two ways of counting come to the same when no lookup is in flight, if they do for lookups that
are done. -/
theorem AllAnswered.count (h : w.AllAnswered) (at? other : Lookup → Bool)
    (hdone : ∀ answer, at? (.done answer) = other (.done answer)) :
    w.count at? = w.count other := by
  refine List.countP_congr fun call hcall => ?_
  cases hlookup : call.lookup? with
  | none => rfl
  | some l =>
    obtain ⟨path, phase⟩ := l
    have hanswered := allAnswered_iff.mp h call hcall (path, phase) hlookup
    cases phase with
    | done answer => rw [Option.any_some, Option.any_some, hdone]
    | _ => cases hanswered

/-- Whatever the order in which lookups, sweeps, clears, switches, changes of files and errors
follow each other: when no lookup is in flight, every lookup was counted once, every copy that was
read for the store was put there or counted as a bypass, and every entry that was made is in the
map, was evicted, or was dropped by a clear that reported it. -/
theorem counters_conserved (disk : Disk) (limits : Limits) (wall : Time.Timestamp)
    (events : List Event) (v : World) (notices : List Notice)
    (hrun : (freshOn disk limits wall).run events = some (v, notices))
    (hanswered : v.AllAnswered) :
    v.store.Balanced v.completed 0 (droppedIn notices) ∧
    v.completed + v.store.tally.diskLoads =
      v.store.tally.hits + v.store.tally.negativeHits + v.store.tally.misses +
        v.store.tally.bypasses + v.store.statistics.totalEntries + v.store.tally.evictions +
        droppedIn notices := by
  have hbalanced : v.store.Balanced v.completed 0 (droppedIn notices) := by
    have hcounted : v.count Lookup.isCounted = v.completed := hanswered.count _ _ fun _ => rfl
    have hstoring : v.count Lookup.isStoring = v.count fun _ => false :=
      hanswered.count _ _ fun _ => rfl
    have hnone : v.count (fun _ => false) = 0 := by simp [count]
    have h := Balanced.of_run hrun
    rw [Balanced, hcounted, hstoring, hnone] at h
    exact h
  obtain ⟨aside, refused, hbypasses, hcounted, hloads⟩ := hbalanced.bypasses
  have hentries := hbalanced.entries
  refine ⟨hbalanced, ?_⟩
  show _ = _ + v.store.mapped.length + _ + _
  omega

/-- Two lookups of a file at a time, one of a file that is too large, and one of none; the first
file is evicted, read again, and dropped when the store is turned off; a last lookup passes the
store by. -/
def accounts : List Event := List.flatten
  [[.edit (.write "a" [1, 1, 1, 1] ⟨1, 0⟩), .edit (.write "b" [2, 2, 2, 2, 2, 2, 2, 2] ⟨1, 0⟩),
      .call (.toggle true), .turn (.call 0), .call (.lookup ⟨"a"⟩), .call (.lookup ⟨"a"⟩)],
    List.replicate 3 (.turn (.call 1)), List.replicate 3 (.turn (.call 2)),
    List.replicate 7 (.turn (.call 1)), List.replicate 4 (.turn (.call 2)),
    [.call (.lookup ⟨"b"⟩)], List.replicate 9 (.turn (.call 3)),
    [.call (.lookup ⟨"c"⟩)], List.replicate 7 (.turn (.call 4)),
    [.elapse 2000000, .call .sweep], List.replicate 3 (.turn (.call 5)),
    [.call (.lookup ⟨"a"⟩)], List.replicate 10 (.turn (.call 6)),
    [.call (.toggle false), .turn (.call 7)], List.replicate 3 (.turn (.scanner 0)),
    [.call (.lookup ⟨"a"⟩)], List.replicate 4 (.turn (.call 8))]

theorem counters_conserved_accounts :
    ∃ v notices, (freshOn Disk.empty ⟨7, 10, 1000⟩ ⟨0, 0⟩).run accounts = some (v, notices) ∧
      v.AllAnswered ∧ v.completed = 6 ∧ droppedIn notices = 1 ∧
      v.store.tally =
        { hits := 1, misses := 4, bypasses := 2, diskLoads := 3, evictions := 1, scanCycles := 1 } ∧
      6 + 3 = 1 + 0 + 4 + 2 + v.store.statistics.totalEntries + 1 + 1 := by
  have hrun : ((freshOn Disk.empty ⟨7, 10, 1000⟩ ⟨0, 0⟩).run accounts).map (fun r =>
      (decide r.1.AllAnswered, r.1.completed, droppedIn r.2, r.1.store.tally)) =
      some (true, 6, 1,
        { hits := 1, misses := 4, bypasses := 2, diskLoads := 3, evictions := 1,
          scanCycles := 1 }) := by decide +kernel
  obtain ⟨⟨v, notices⟩, hrun, hend⟩ := Option.map_eq_some_iff.mp hrun
  simp only [Prod.mk.injEq, decide_eq_true_eq] at hend
  obtain ⟨hanswered, hcompleted, hdropped, htally⟩ := hend
  obtain ⟨-, hsum⟩ := counters_conserved Disk.empty ⟨7, 10, 1000⟩ ⟨0, 0⟩ accounts v notices hrun
    hanswered
  rw [hcompleted, htally, hdropped] at hsum
  exact ⟨v, notices, hrun, hanswered, hcompleted, hdropped, htally, hsum⟩

end World
end FileCache
