import FileCache.Proofs.Accounting.Journal
import FileCache.Proofs.Gates.Single
import FileCache.Proofs.World.Rest

/-!
A crowd of lookups of one path, with the store and the disk to themselves.

Whatever else goes on leaves the files and the store alone, so every event is a turn of one of the
crowd or of no account.  As long as somebody in the crowd has no answer, somebody in it can go on:
whoever keeps the gate locked is one of them.
-/

namespace FileCache

/-- Whether a call is a lookup of the path that stands at such a point. -/
def Call.looksUp (path : Path) (at? : Lookup → Bool) (call : Call) : Bool :=
  call.lookup?.any fun l => decide (l.1 = path) && at? l.2

theorem Call.looksUp_iff {path : Path} {at? : Lookup → Bool} {call : Call} :
    call.looksUp path at? = true ↔ ∃ phase, call = .lookup path phase ∧ at? phase = true := by
  cases call with
  | lookup p phase =>
    simp only [looksUp, lookup?, Option.any_some, Bool.and_eq_true, decide_eq_true_eq,
      Call.lookup.injEq]
    constructor
    · rintro ⟨rfl, h⟩
      exact ⟨phase, ⟨rfl, rfl⟩, h⟩
    · rintro ⟨_, ⟨rfl, rfl⟩, h⟩
      exact ⟨rfl, h⟩
  | _ => simp [looksUp, lookup?]

/-- A scanner that neither sweeps nor clears leaves the store as it is. -/
theorem Scanner.Turn.store_eq {now : Nat} {disk : Disk} {s : Store} {sc : Scanner}
    {st : Step Scanner} (h : sc.Turn now disk s st) (hsweep : sc.sweep? = none)
    (hclear : sc.phase ≠ .clearing) : st.store = s := by
  cases h with
  | asked => unfold wake; split <;> rfl
  | due => unfold wake; split <;> rfl
  | sweeps hphase => simp [sweep?, hphase] at hsweep
  | swept hphase => simp [sweep?, hphase] at hsweep
  | cleared hphase => exact absurd hphase hclear
  | _ => rfl

/-- One element of a list has the property and no other. -/
theorem countP_eq_one {α : Type} {p : α → Bool} {l : List α} {i : Nat} {a : α}
    (hi : l[i]? = some a) (ha : p a = true)
    (honly : ∀ j b, l[j]? = some b → p b = true → j = i) : l.countP p = 1 := by
  induction l generalizing i with
  | nil => cases hi
  | cons first rest ih =>
    cases i with
    | zero =>
      cases hi
      have hrest : rest.countP p = 0 := by
        refine List.countP_eq_zero.mpr fun b hb hpb => ?_
        obtain ⟨j, hj⟩ := List.mem_iff_getElem?.mp hb
        cases honly (j + 1) b hj hpb
      rw [List.countP_cons, hrest, if_pos ha]
    | succ i =>
      have hfirst : ¬ p first = true := fun hp => by cases honly 0 first rfl hp
      rw [List.countP_cons, if_neg hfirst]
      exact ih hi fun j b hj hpb => Nat.succ_inj.mp (honly (j + 1) b hj hpb)

namespace World

variable {w w' u v v' : World} {first : CallId} {path p : Path} {event : Event}
  {events : List Event} {notices more : List Notice} {id : CallId} {phase : Lookup}
  {at? : Lookup → Bool}

/-! ## The count of a crowd -/

/-- How many lookups of the path that are not among the first so many calls stand at such a
point. -/
def crowd (w : World) (first : CallId) (path : Path) (at? : Lookup → Bool) : Nat :=
  (w.calls.drop first).countP (Call.looksUp path at?)

/-- The lookup of the path, from among those that are not the first calls. -/
def InCrowd (w : World) (first : CallId) (path : Path) (id : CallId) (phase : Lookup) : Prop :=
  first ≤ id ∧ w.lookup? id = some (path, phase)

theorem lt_of_lookup? (h : w.lookup? id = some (p, phase)) : id < w.calls.length :=
  (List.getElem?_eq_some_iff.mp (lookup?_eq_some_iff.mp h)).1

/-- Nobody is in a crowd that is still to come. -/
theorem not_inCrowd (w : World) (path : Path) (id : CallId) (phase : Lookup) :
    ¬ w.InCrowd w.calls.length path id phase := fun ⟨hle, hat⟩ =>
  absurd (lt_of_lookup? hat) (Nat.not_lt.mpr hle)

theorem getElem?_drop_of_le (calls : List Call) (h : first ≤ id) :
    (calls.drop first)[id - first]? = calls[id]? := by
  rw [List.getElem?_drop, Nat.add_sub_cancel' h]

theorem crowd_eq_zero (h : ∀ id phase, w.InCrowd first path id phase → at? phase = false) :
    w.crowd first path at? = 0 := by
  refine List.countP_eq_zero.mpr fun call hcall hat => ?_
  obtain ⟨phase, rfl, hphase⟩ := Call.looksUp_iff.mp hat
  obtain ⟨i, hi⟩ := List.mem_iff_getElem?.mp hcall
  rw [List.getElem?_drop] at hi
  cases hphase.symm.trans (h _ phase ⟨Nat.le_add_right first i, lookup?_eq_some_iff.mpr hi⟩)

theorem crowd_congr {other? : Lookup → Bool}
    (h : ∀ id phase, w.InCrowd first path id phase → at? phase = other? phase) :
    w.crowd first path at? = w.crowd first path other? := by
  refine List.countP_congr fun call hcall => ?_
  obtain ⟨i, hi⟩ := List.mem_iff_getElem?.mp hcall
  rw [List.getElem?_drop] at hi
  have hsame {phase : Lookup} (hcall : call = .lookup path phase) : at? phase = other? phase :=
    h _ phase ⟨Nat.le_add_right first i, lookup?_eq_some_iff.mpr (hcall ▸ hi)⟩
  rw [Call.looksUp_iff, Call.looksUp_iff]
  constructor
  · rintro ⟨phase, hcall, hat⟩
    exact ⟨phase, hcall, hsame hcall ▸ hat⟩
  · rintro ⟨phase, hcall, hat⟩
    exact ⟨phase, hcall, hsame hcall ▸ hat⟩

theorem crowd_eq_one (hid : w.InCrowd first path id phase) (hat : at? phase = true)
    (honly : ∀ other phase', w.InCrowd first path other phase' → at? phase' = true → other = id) :
    w.crowd first path at? = 1 := by
  obtain ⟨hle, hlookup⟩ := hid
  have hget : (w.calls.drop first)[id - first]? = some (.lookup path phase) := by
    rw [getElem?_drop_of_le _ hle]
    exact lookup?_eq_some_iff.mp hlookup
  refine countP_eq_one hget (Call.looksUp_iff.mpr ⟨phase, rfl, hat⟩) fun j call hj hcall => ?_
  obtain ⟨phase', rfl, hat'⟩ := Call.looksUp_iff.mp hcall
  rw [List.getElem?_drop] at hj
  have hother : first + j = id :=
    honly _ phase' ⟨Nat.le_add_right first j, lookup?_eq_some_iff.mpr hj⟩ hat'
  rw [← hother, Nat.add_sub_cancel_left]

/-- A lookup in the crowd takes a turn. -/
theorem crowd_setLookup {next : Lookup} (hid : w.InCrowd first path id phase)
    (hcalls : w'.calls = w.calls.set id (.lookup path next)) (at? : Lookup → Bool) :
    ∃ others, w.crowd first path at? = others + (at? phase).toNat ∧
      w'.crowd first path at? = others + (at? next).toNat := by
  obtain ⟨hle, hlookup⟩ := hid
  have hget : (w.calls.drop first)[id - first]? = some (.lookup path phase) := by
    rw [getElem?_drop_of_le _ hle]
    exact lookup?_eq_some_iff.mp hlookup
  have hdrop : w'.calls.drop first = (w.calls.drop first).set (id - first) (.lookup path next) := by
    rw [hcalls, List.drop_set, if_neg (Nat.not_lt.mpr hle)]
  obtain ⟨others, hbefore, hafter⟩ := countP_set_split hget (Call.looksUp path at?)
  refine ⟨others, ?_, ?_⟩
  · rw [crowd, hbefore]
    simp [Call.looksUp, Call.lookup?]
  · rw [crowd, hdrop, hafter]
    simp [Call.looksUp, Call.lookup?]

/-- A call that is no lookup takes a turn. -/
theorem crowd_setOther {old call : Call} (hold : w.calls[id]? = some old)
    (hlookup : old.lookup? = none) (hnext : call.lookup? = none)
    (hcalls : w'.calls = w.calls.set id call) (at? : Lookup → Bool) :
    w'.crowd first path at? = w.crowd first path at? := by
  rw [crowd, hcalls, List.drop_set, crowd]
  split
  · rfl
  · rename_i hle
    have hget := (getElem?_drop_of_le w.calls (Nat.le_of_not_lt hle)).trans hold
    obtain ⟨others, hbefore, hafter⟩ := countP_set_split hget (Call.looksUp path at?)
    rw [hafter, hbefore, Call.looksUp, hnext, Call.looksUp, hlookup]

/-! ## Events -/

/-- Nothing takes place but turns of lookups of the path, none of them among the first so many
calls, and what leaves the files and the store alone. -/
def onlyLooksUp (first : CallId) (path : Path) (w : World) : Event → Bool
  | .turn (.call id) =>
    (w.sweep? (.call id)).isNone && (w.lookup? id).all fun l => decide (first ≤ id ∧ l.1 = path)
  | .turn (.scanner id) =>
    (w.sweep? (.scanner id)).isNone && !w.clears (.turn (.scanner id))
  | .edit _ => false
  | _ => true

/-- What an event of no account leaves as it was.  It may bring in lookups, which have not begun
yet. -/
structure Aside (first : CallId) (path : Path) (w w' : World) : Prop where
  disk : w'.disk = w.disk
  entries : w'.store.entries = w.store.entries
  mapped : w'.store.mapped.Perm w.store.mapped
  used : w'.store.used = w.store.used
  tally : w'.store.tally = w.store.tally
  longer : w.calls.length ≤ w'.calls.length
  kept : ∀ id l, w.lookup? id = some l → w'.lookup? id = some l
  lookups : ∀ id p phase, w'.lookup? id = some (p, phase) →
    w.lookup? id = some (p, phase) ∨ (w.calls.length ≤ id ∧ phase = .starting)
  crowd : ∀ at?, at? .starting = false → w'.crowd first path at? = w.crowd first path at?

/-- What a turn of a lookup in the crowd leaves behind. -/
structure CrowdTurn (first : CallId) (path : Path) (w w' : World) (id : CallId) (phase : Lookup)
    (st : Step Lookup) : Prop where
  before : w.InCrowd first path id phase
  step : phase.step w.now w.disk path w.store = some st
  disk : w'.disk = w.disk
  store : w'.store = st.store
  length : w'.calls.length = w.calls.length
  next : w'.lookup? id = some (path, st.next)
  others : ∀ other, other ≠ id → w'.lookup? other = w.lookup? other
  crowd : ∀ at?, ∃ others, w.crowd first path at? = others + (at? phase).toNat ∧
    w'.crowd first path at? = others + (at? st.next).toNat

/-- What an event makes of a crowd. -/
inductive Advances (first : CallId) (path : Path) (w : World) (event : Event) (w' : World) : Prop
  | aside (h : Aside first path w w')
      (hother : ∀ id l, w.lookup? id = some l → event ≠ .turn (.call id))
      (hcall : ∀ id, event = .turn (.call id) → id < w.calls.length)
  | goes {id : CallId} {phase : Lookup} {st : Step Lookup} (hevent : event = .turn (.call id))
      (h : CrowdTurn first path w w' id phase st)

theorem Advances.other (h : Aside first path w w') (hevent : ∀ id, event ≠ .turn (.call id)) :
    Advances first path w event w' :=
  .aside h (fun id _ _ => hevent id) fun id h => absurd h (hevent id)

theorem Aside.inCrowd (h : Aside first path w w') (hid : w'.InCrowd first path id phase) :
    w.InCrowd first path id phase ∨ phase = .starting :=
  (h.lookups id path phase hid.2).imp (⟨hid.1, ·⟩) And.right

theorem CrowdTurn.inCrowd {mover : CallId} {before : Lookup} {st : Step Lookup}
    (h : CrowdTurn first path w w' mover before st) (hid : w'.InCrowd first path id phase) :
    (id = mover ∧ phase = st.next) ∨ (id ≠ mover ∧ w.InCrowd first path id phase) := by
  obtain ⟨hle, hat⟩ := hid
  by_cases hid : id = mover
  · subst hid
    cases h.next.symm.trans hat
    exact .inl ⟨rfl, rfl⟩
  · exact .inr ⟨hid, hle, h.others id hid ▸ hat⟩

theorem Aside.inCrowd_kept (h : Aside first path w w') (hid : w.InCrowd first path id phase) :
    w'.InCrowd first path id phase := ⟨hid.1, h.kept id _ hid.2⟩

theorem CrowdTurn.inCrowd_kept {mover : CallId} {before : Lookup} {st : Step Lookup}
    (h : CrowdTurn first path w w' mover before st) (hid : w.InCrowd first path id phase) :
    ∃ phase', w'.InCrowd first path id phase' := by
  by_cases hmover : id = mover
  · subst hmover
    exact ⟨st.next, hid.1, h.next⟩
  · exact ⟨phase, hid.1, (h.others id hmover).trans hid.2⟩

theorem Aside.of_calls (hcalls : w'.calls = w.calls) (hdisk : w'.disk = w.disk)
    (hentries : w'.store.entries = w.store.entries)
    (hmapped : w'.store.mapped.Perm w.store.mapped) (hused : w'.store.used = w.store.used)
    (htally : w'.store.tally = w.store.tally) : Aside first path w w' where
  disk := hdisk
  entries := hentries
  mapped := hmapped
  used := hused
  tally := htally
  longer := Nat.le_of_eq (by rw [hcalls])
  kept id l h := by
    rw [lookup?, hcalls]
    exact h
  lookups id p phase h := by
    rw [lookup?, hcalls] at h
    exact .inl h
  crowd at? _ := by rw [World.crowd, hcalls, World.crowd]

theorem Aside.of_store (hcalls : w'.calls = w.calls) (hdisk : w'.disk = w.disk)
    (hstore : w'.store = w.store) : Aside first path w w' :=
  .of_calls hcalls hdisk (by rw [hstore]) (by rw [hstore]) (by rw [hstore]) (by rw [hstore])

/-- A call that is no lookup works the switch, or does less. -/
theorem Switched.aside (h : Switched w v) {old call : Call} (hold : w.calls[id]? = some old)
    (hlookup : old.lookup? = none) (hnext : call.lookup? = none) :
    Aside first path w (v.setCall id call) := by
  obtain ⟨on, hstore⟩ := h.store
  have hcalls : (v.setCall id call).calls = w.calls.set id call := by rw [setCall, h.calls]
  have hsame : (v.setCall id call).lookup? = w.lookup? := by
    funext other
    rw [lookup?_setCall (by rw [h.calls, hold]) call other, h.same.lookup?]
    split
    · rename_i hid
      rw [hid, hnext, lookup?, hold, Option.bind_some, hlookup]
    · rfl
  exact
    { disk := h.disk
      entries := by rw [setCall, hstore]
      mapped := by rw [setCall, hstore]
      used := by rw [setCall, hstore]
      tally := by rw [setCall, hstore]
      longer := Nat.le_of_eq (by rw [hcalls, List.length_set])
      kept := fun _ _ hat => hsame ▸ hat
      lookups := fun _ _ _ hat => .inl (hsame ▸ hat)
      crowd := fun at? _ => crowd_setOther hold hlookup hnext hcalls at? }

theorem begin_aside (ask : Ask) (w : World) : Aside first path w (w.begin ask) where
  disk := rfl
  entries := rfl
  mapped := .refl _
  used := rfl
  tally := rfl
  longer := by
    rw [begin, List.length_append]
    exact Nat.le_add_right _ _
  kept id l h := by
    obtain ⟨call, hcall, hlookup⟩ := Option.bind_eq_some_iff.mp h
    have hlt := (List.getElem?_eq_some_iff.mp hcall).1
    rw [lookup?, begin, List.getElem?_append_left hlt, hcall]
    exact hlookup
  lookups id p phase h := by
    rw [lookup?, begin, List.getElem?_append] at h
    split at h
    · exact .inl h
    · rename_i hge
      refine .inr ⟨Nat.le_of_not_lt hge, ?_⟩
      obtain ⟨call, hcall, hlookup⟩ := Option.bind_eq_some_iff.mp h
      rw [List.mem_singleton.mp (List.mem_of_getElem? hcall)] at hlookup
      cases ask with
      | lookup path =>
        cases hlookup
        rfl
      | _ => cases hlookup
  crowd at? hnew := by
    have hask : ask.call.looksUp path at? = false := by
      cases ask <;> simp [Ask.call, Call.looksUp, Call.lookup?, hnew]
    rw [World.crowd, begin, List.drop_append, List.countP_append, World.crowd]
    refine Nat.add_eq_left.mpr (List.countP_eq_zero.mpr fun call hcall hat => ?_)
    rw [List.mem_singleton.mp (List.mem_of_mem_drop hcall), hask] at hat
    cases hat

theorem CallTurn.advances {call : Call} (hcall : w.calls[id]? = some call)
    (h : CallTurn w id call w' notices)
    (honly : w.onlyLooksUp first path (.turn (.call id)) = true) :
    Advances first path w (.turn (.call id)) w' := by
  have haside (hlookup : call.lookup? = none) (h : Aside first path w w') :
      Advances first path w (.turn (.call id)) w' := by
    refine .aside h ?_ ?_
    · rintro other l hat ⟨⟩
      rw [lookup?, hcall, Option.bind_some, hlookup] at hat
      cases hat
    · rintro other ⟨⟩
      exact (List.getElem?_eq_some_iff.mp hcall).1
  have hstill : Switched w w := .still rfl rfl ⟨rfl, rfl⟩ rfl
  cases h with
  | @lookup p phase st hstep =>
    have hat : w.lookup? id = some (p, phase) := lookup?_eq_some_iff.mpr hcall
    simp only [onlyLooksUp, hat, Option.all_some, Bool.and_eq_true, decide_eq_true_eq] at honly
    obtain ⟨-, hle, rfl⟩ := honly
    refine .goes rfl ⟨⟨hle, hat⟩, hstep, rfl, rfl, List.length_set .., ?_, ?_, ?_⟩
    · rw [lookup?_setCall (w := { w with store := st.store }) hcall, if_pos rfl]
      rfl
    · intro other hne
      rw [lookup?_setCall (w := { w with store := st.store }) hcall, if_neg hne]
      rfl
    · exact crowd_setLookup ⟨hle, hat⟩ rfl
  | @sweep sw st hstep =>
    simp [onlyLooksUp, sweep?_call_eq_some_iff.mpr hcall] at honly
  | toggle hturn => exact haside rfl (hturn.switched.aside hcall rfl rfl)
  | shutdown hturn => exact haside rfl (hturn.switched.aside hcall rfl rfl)
  | scan hturn => exact haside rfl (hturn.switched.aside hcall rfl rfl)
  | read => exact haside rfl (hstill.aside hcall rfl rfl)
  | stat => exact haside rfl (hstill.aside hcall rfl rfl)

theorem apply_advances (h : w.apply event = some (w', notices))
    (honly : w.onlyLooksUp first path event = true) : Advances first path w event w' := by
  cases apply_happens h with
  | turn hstep =>
    cases step_turn hstep with
    | call hcall hturn => exact hturn.advances hcall honly
    | @scanner id sc st hsc hturn =>
      simp only [onlyLooksUp, clears, Bool.and_eq_true, Option.isNone_iff_eq_none, sweep?, hsc,
        Option.bind_some, Option.any_some, Bool.not_eq_true', decide_eq_false_iff_not] at honly
      have hstore := (Scanner.step_turn hturn).store_eq honly.1 honly.2
      exact .other (.of_store rfl rfl hstore) (by simp)
  | call ask => exact .other (begin_aside ask w) (by simp)
  | edit => cases honly
  | @request id =>
    exact .other (.of_store (calls_requestScan id w) (disk_requestScan id w)
      (store_requestScan id w)) (by simp)
  | shuffle hperm => exact .other (.of_calls rfl rfl rfl hperm rfl rfl) (by simp)
  | _ => exact .other (.of_store rfl rfl rfl) (by simp)

/-! ## Runs -/

/-- A crowd in the course of a run from `u`.  Nobody else has moved, and nobody in it takes more
turns than a lookup can take. -/
structure Crowd (u : World) (path : Path) (events : List Event) (v : World) : Prop where
  disk : v.disk = u.disk
  longer : u.calls.length ≤ v.calls.length
  old : ∀ id, id < u.calls.length → v.lookup? id = u.lookup? id
  begun : ∀ id p phase, u.calls.length ≤ id → v.lookup? id = some (p, phase) →
    p = path ∨ phase = .starting
  unborn : ∀ id, v.calls.length ≤ id → u.turnsOf (.call id) events = []
  few : ∀ id phase, v.InCrowd u.calls.length path id phase →
    (u.turnsOf (.call id) events).length + phase.load ≤ 11

theorem Crowd.refl (u : World) (path : Path) : Crowd u path [] u where
  disk := rfl
  longer := Nat.le_refl _
  old _ _ := rfl
  begun _ _ _ hle hat := absurd (lt_of_lookup? hat) (Nat.not_lt.mpr hle)
  unborn _ _ := rfl
  few id phase hid := absurd hid (u.not_inCrowd path id phase)

theorem Crowd.snoc (h : Crowd u path events v) (hrun : u.run events = some (v, notices))
    (happly : v.apply event = some (v', more))
    (hadvances : Advances u.calls.length path v event v') :
    Crowd u path (events ++ [event]) v' := by
  cases hadvances with
  | aside haside hother hcall =>
    have hunborn {id : CallId} (hle : v.calls.length ≤ id) :
        u.turnsOf (.call id) (events ++ [event]) = [] := by
      rw [turnsOf_other (fun hevent => ?_) hrun happly]
      · exact h.unborn id hle
      · exact absurd (hcall id hevent) (Nat.not_lt.mpr hle)
    refine ⟨haside.disk.trans h.disk, Nat.le_trans h.longer haside.longer, ?_, ?_, ?_, ?_⟩
    · intro id hlt
      rw [← h.old id hlt]
      refine Option.ext fun l => ⟨fun hat => ?_, haside.kept id l⟩
      rcases haside.lookups id l.1 l.2 hat with hold | ⟨hle, -⟩
      · exact hold
      · exact absurd (Nat.lt_of_lt_of_le hlt h.longer) (Nat.not_lt.mpr hle)
    · intro id p phase hle hat
      rcases haside.lookups id p phase hat with hold | ⟨-, hstarting⟩
      · exact h.begun id p phase hle hold
      · exact .inr hstarting
    · exact fun id hle => hunborn (Nat.le_trans haside.longer hle)
    · rintro id phase ⟨hle, hat⟩
      rcases haside.lookups id path phase hat with hold | ⟨hnew, rfl⟩
      · rw [turnsOf_other (hother id _ hold) hrun happly]
        exact h.few id phase ⟨hle, hold⟩
      · rw [hunborn hnew]
        decide
  | @goes mover before st hevent hturn =>
    subst hevent
    have hmoved {other : CallId} (hne : other ≠ mover) : u.turnsOf (.call other)
        (events ++ [.turn (.call mover)]) = u.turnsOf (.call other) events := by
      refine turnsOf_other (fun hevent => hne ?_) hrun happly
      cases hevent
      rfl
    have hlt := lt_of_lookup? hturn.before.2
    refine ⟨hturn.disk.trans h.disk, hturn.length ▸ h.longer, ?_, ?_, ?_, ?_⟩
    · intro id hold
      have hne : id ≠ mover := fun he => absurd (he ▸ hold) (Nat.not_lt.mpr hturn.before.1)
      rw [hturn.others id hne]
      exact h.old id hold
    · intro id p phase hle hat
      by_cases he : id = mover
      · subst he
        cases hturn.next.symm.trans hat
        exact .inl rfl
      · exact h.begun id p phase hle (hturn.others id he ▸ hat)
    · intro id hle
      rw [hturn.length] at hle
      have hne : id ≠ mover := fun he => absurd (he ▸ hlt) (Nat.not_lt.mpr hle)
      rw [hmoved hne]
      exact h.unborn id hle
    · intro id phase hid
      rcases hturn.inCrowd hid with ⟨rfl, rfl⟩ | ⟨hne, hid⟩
      · have hfew := h.few id before hturn.before
        have hload := (Lookup.step_course hturn.step).load_lt
        rw [turnsOf_turn hrun happly, List.length_append, List.length_singleton]
        omega
      · rw [hmoved hne]
        exact h.few id phase hid

/-- Nobody but the crowd has anything to do with a gate of the path. -/
theorem Crowd.own_gate (h : Crowd u path events v) (hu : u.Gated)
    (hgate : u.store.findGate? path = none) {g : GateId} (hknows : v.Knows id p g)
    (hsame : p.same path = true) : ∃ phase, v.InCrowd u.calls.length path id phase ∧
      phase.gate? = some g := by
  obtain ⟨phase, hat, hphase⟩ := hknows
  rcases Nat.lt_or_ge id u.calls.length with hold | hnew
  · -- it would have known the gate from the outset
    have hfound := hu.found id p g ⟨phase, (h.old id hold) ▸ hat, hphase⟩
    rw [Store.findGate?_congr hsame, hgate] at hfound
    cases hfound
  · rcases h.begun id p phase hnew hat with rfl | rfl
    · exact ⟨phase, ⟨hnew, hat⟩, hphase⟩
    · cases hphase

/-- As long as somebody in the crowd has no answer, somebody in the crowd can go on. -/
theorem Crowd.goes (h : Crowd u path events v) (hu : u.Gated) (hv : v.Gated) (hsound : v.Sound)
    (hgate : u.store.findGate? path = none) (hid : v.InCrowd u.calls.length path id phase)
    (hopen : phase.answer? = none) : ∃ other phase',
      v.InCrowd u.calls.length path other phase' ∧ v.step (.call other) ≠ none := by
  by_cases hnone : v.step (.call id) = none
  case neg => exact ⟨id, phase, hid, hnone⟩
  case pos =>
    rcases hsound.lookup_stuck hid.2 hnone with ⟨answer, rfl⟩ | ⟨gate, rfl, hlocked⟩
    · cases hopen
    · obtain ⟨owner, p, phase', howner, hheld, hgoes⟩ := hsound.owner_goes hlocked
      have hknows : v.Knows owner p gate := ⟨phase', howner, Lookup.gate?_of_held hheld⟩
      have hmine : v.Knows id path gate := ⟨_, hid.2, rfl⟩
      have hsame := Store.same_of_serves (hv.serves hknows).2 (hv.serves hmine).2
      obtain ⟨phase'', hcrowd, -⟩ := h.own_gate hu hgate hknows hsame
      exact ⟨owner, phase'', hcrowd, hgoes⟩

/-- When all in the crowd have their answers, the path has no gate. -/
theorem Crowd.gone (h : Crowd u path events v) (hu : u.Gated) (hv : v.Gated)
    (hgate : u.store.findGate? path = none)
    (hanswered : ∀ id phase, v.InCrowd u.calls.length path id phase →
      phase.answer?.isSome = true) : v.store.findGate? path = none := by
  refine Option.eq_none_iff_forall_ne_some.mpr fun g hfound => ?_
  obtain ⟨hlisted, hserves⟩ := Store.mem_of_findGate? hfound
  obtain ⟨id, p, hknows⟩ := hv.known g hlisted
  have hsame := Store.same_of_serves (hv.serves hknows).2 hserves
  obtain ⟨phase, hid, hphase⟩ := h.own_gate hu hgate hknows hsame
  cases hphase.symm.trans (Lookup.gate?_of_answered (hanswered id phase hid))

end World
end FileCache
