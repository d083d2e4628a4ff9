import FileCache.Proofs.Store.Outcome
import FileCache.Proofs.Transparency.Faithful
import FileCache.Proofs.World.Reports

/-!
A sweep that finds out about every entry leaves the map in agreement with the disk.

The entries that do not agree are still to be visited (`Sweep.Covers`); a visit that ends
with any verdict but `unknown` brings its entry into agreement or takes it out of the map.
Other sweeps may overlap, but no lookup.
-/

namespace FileCache

open Store (Alike Orderly)

/-! ## Honest entries -/

/-- If by its stamp the copy is the file that the disk has, it is that file. -/
def Entry.Honest (d : Disk) (e : Entry) : Prop :=
  ∀ copy status, e.content = .present copy → d.statPath e.path = .ok status →
    status.regular = true → status.stamp.differs copy.stamp = false → d.read e.path = .copy copy

def Store.Honest (d : Disk) (s : Store) : Prop :=
  ∀ id ∈ s.mapped, ∀ e, s.entry? id = some e → e.Honest d

theorem Entry.Agrees.honest {d : Disk} {e : Entry} (h : e.Agrees d) : e.Honest d := by
  intro copy status hcontent _ _ _
  rw [Agrees, hcontent] at h
  exact h

theorem Store.Tended.honest {d : Disk} {s t : Store} (h : s.Tended d t) (hs : s.Orderly)
    (hhonest : s.Honest d) : t.Honest d := by
  refine h.mapped_induction hs (P := fun _ e => e.Honest d) (fun _ _ hagrees => hagrees.honest)
    (fun _ e e' hpath hcontent hold => ?_) hhonest
  rw [Entry.Honest, hpath, hcontent]
  exact hold

/-! ## Visits -/

namespace Sweep

/-- Every mapped entry agrees with the disk or is still to be visited. -/
def Covers (d : Disk) (s : Store) (sw : Sweep) : Prop :=
  ∀ id ∈ s.mapped, ∀ e, s.entry? id = some e →
    e.Agrees d ∨ (sw.phase ≠ .finished ∧ id ∈ sw.todo)

theorem Covers.tended {d : Disk} {s t : Store} {sw : Sweep} (h : sw.Covers d s)
    (hs : s.Orderly) (htended : s.Tended d t) : sw.Covers d t := by
  refine htended.mapped_induction hs
    (P := fun id e => e.Agrees d ∨ (sw.phase ≠ .finished ∧ id ∈ sw.todo))
    (fun _ _ hagrees => .inl hagrees) (fun _ e e' hpath hcontent hold => ?_) h
  rw [Entry.Agrees, hpath, hcontent]
  exact hold

theorem Covers.reflects {d : Disk} {s : Store} {sw : Sweep} (h : sw.Covers d s)
    (hphase : sw.phase = .finished) : s.Reflects d := by
  intro id hid e he
  rcases h id hid e he with hagrees | ⟨hne, -⟩
  · exact hagrees
  · exact absurd hphase hne

variable {now : Nat} {d : Disk} {s t : Store} {sw : Sweep} {id : EntryId} {e : Entry}

/-- After a visit with a verdict, the entry agrees with the disk or is gone. -/
theorem Ending.settles {phase : Phase} {verdict : Verdict}
    (h : Ending now d s id e phase verdict t) (hs : s.Orderly) (he : s.entry? id = some e)
    (hphase : phase.Faithful d e.path) (hhonest : e.Honest d) (hverdict : verdict ≠ .unknown) :
    id ∉ t.mapped ∨ ∃ e', t.entry? id = some e' ∧ e'.Agrees d := by
  have hgiven {t : Store} {new : Entry} (h : id ∉ t.mapped ∨ t.entry? id = some new)
      (hnew : new.Agrees d) : id ∉ t.mapped ∨ ∃ e', t.entry? id = some e' ∧ e'.Agrees d :=
    h.imp_right fun hentry => ⟨new, hentry, hnew⟩
  cases h with
  | discard => exact .inl hs.not_mem_discard
  | unseen => exact absurd rfl hverdict
  | unread => exact absurd rfl hverdict
  | @same seen copy hc hdiffers =>
    obtain ⟨status, hstat, hregular, hseen⟩ := hphase
    have hread := hhonest copy status hc hstat hregular (hseen ▸ hdiffers)
    refine .inr ⟨e, he, ?_⟩
    rw [Entry.Agrees, hc]
    exact hread
  | @exchange copy => exact hgiven (hs.exchange_leaves he now copy) hphase
  | lost hlost =>
    unfold Store.vacate? at hlost
    split at hlost
    · cases hlost
    · rename_i hid
      exact .inl fun h => hid (Store.isMapped_iff.mpr h)
  | @refill copy => exact hgiven (hs.refill_leaves he now copy) hphase
  | forget => exact hgiven (Store.forget_leaves he) hphase

end Sweep

theorem Report.unknown_conclude {r : Report} {verdict : Verdict} {wasMissing : Bool}
    (h : (r.conclude verdict wasMissing).unknown = 0) : r.unknown = 0 ∧ verdict ≠ .unknown := by
  have hadd : (r.add verdict).unknown = 0 := by
    rw [conclude] at h
    split at h
    · exact h
    · exact h
  cases verdict with
  | unknown => exact absurd hadd (Nat.succ_ne_zero _)
  | _ => exact ⟨hadd, nofun⟩

/-- A turn of a sweep that has found out about every entry so far, up to and with this
turn. -/
theorem Sweep.step_covers {now : Nat} {d : Disk} {s : Store} {sw : Sweep} {st : Step Sweep}
    (hs : s.Orderly) (hsw : sw.Faithful d s) (hhonest : s.Honest d)
    (hcovers : sw.phase ≠ .listing → sw.report.unknown = 0 → sw.Covers d s)
    (h : sw.step now d s = some st) (hunknown : st.next.report.unknown = 0) :
    st.next.Covers d st.store := by
  have hproceed (sw : Sweep) (todo : List EntryId) (s : Store) (notices : List Notice)
      (id : EntryId) (hid : id ∈ todo) :
      (sw.proceed todo s notices).next.phase ≠ .finished ∧
        id ∈ (sw.proceed todo s notices).next.todo := by
    cases todo with
    | nil => cases hid
    | cons first rest => exact ⟨nofun, hid⟩
  have htended := (step_effect h).tended hsw
  rcases step_cases h with ⟨-, rfl⟩ | ⟨id, rest, e, htodo, he, hvisit⟩
  · intro id hid e he
    rw [(alike_proceed sw s.mapped s []).mapped] at hid
    exact .inr (hproceed sw s.mapped s [] id hid)
  · rcases hvisit with ⟨hcourse⟩ | ⟨hending⟩
    · obtain ⟨-, hphase, -⟩ := hcourse.load_lt
      have hold := (hcovers hphase hunknown).tended hs htended
      refine fun other hother e' he' => (hold other hother e' he').imp_right fun hpending => ?_
      exact ⟨hcourse.ne_finished, hpending.2⟩
    · rename_i verdict t notices
      obtain ⟨hsofar, hverdict⟩ := Report.unknown_conclude (by
        rw [conclude, report_proceed] at hunknown
        exact hunknown)
      have hphase := hending.load_pos.2
      have hold := (hcovers hphase hsofar).tended hs htended
      intro other hother e' he'
      rcases hold other hother e' he' with hagrees | ⟨-, hpending⟩
      · exact .inl hagrees
      · rw [htodo, List.mem_cons] at hpending
        rcases hpending with hid | hpending
        · subst hid
          have halike : Alike t (sw.conclude e.path rest verdict t notices).store :=
            alike_conclude _ _ _ _ _ _
          have hmapped : other ∈ s.mapped := (step_effect h).mem_mapped hother
          rcases hending.settles hs he (hsw other (by rw [htodo]; rfl) e he)
            (hhonest other hmapped e he) hverdict with hgone | ⟨e'', he'', hagrees⟩
          · exact absurd (halike.mapped ▸ hother) hgone
          · rw [halike.entry?, he'', Option.some.injEq] at he'
            exact .inl (he' ▸ hagrees)
        · exact .inr (hproceed _ rest t _ other hpending)

/-! ## Worlds on the way to agreement -/

namespace World

variable {w w' : World} {event : Event} {d : Disk} {base : CallId}

/-- A world on the way to agreement: no lookup is on its way, and what is in the map either
is what the disk has or looks different by its stamp.  Calls before `base` are left aside. -/
structure Settling (d : Disk) (base : CallId) (w : World) : Prop extends Steady d w where
  honest : w.store.Honest d
  looked : ∀ id path phase, w.lookup? id = some (path, phase) → phase.Over
  covers : ∀ agent sw, w.sweep? agent = some sw → (∀ id, agent = .call id → base ≤ id) →
    sw.phase ≠ .listing → sw.report.unknown = 0 → sw.Covers d w.store

namespace Settling

theorem tended (hw : w.Settling d base) (h : Move w event w') : w.store.Tended d w'.store :=
  hw.toSteady.tended (fun id path phase hat => .inr (hw.looked id path phase hat)) h

theorem covers_turn (hw : w.Settling d base) (hsound : w.Sound) {agent : Agent} {sw : Sweep}
    {st : Step Sweep} (hat : w.sweep? agent = some sw) (hturn : SweepTurn w agent sw st w')
    (hnew : ∀ id, agent = .call id → base ≤ id) (hunknown : st.next.report.unknown = 0) :
    st.next.Covers d w'.store := by
  have hstep := hturn.step
  rw [hw.disk] at hstep
  rw [hturn.store]
  exact Sweep.step_covers hsound.orderly (hw.sweeps agent sw hat) hw.honest
    (hw.covers agent sw hat hnew) hstep hunknown

theorem move (hw : w.Settling d base) (hsound : w.Sound) (hcandid : d.Candid)
    (hask : ∀ path, event ≠ .call (.lookup path)) (h : Move w event w') (hdisk : w'.disk = d) :
    w'.Settling d base := by
  have htended := hw.tended h
  refine ⟨hw.toSteady.move hsound hcandid htended h hdisk,
    htended.honest hsound.orderly hw.honest, ?_, ?_⟩
  · intro id path phase hat
    rcases h.lookup_cases hat with hold | ⟨hevent, -⟩ | ⟨before, st, hbefore, hstep, -, -⟩
    · exact hw.looked id path phase hold
    · exact absurd hevent (hask path)
    · rw [(hw.looked id path before hbefore).step] at hstep
      cases hstep
  · intro agent sw hat hnew hphase hunknown
    rcases h.sweep_cases hat with hold | rfl | ⟨before, st, hbefore, hturn, rfl⟩
    · exact (hw.covers agent sw hold hnew hphase hunknown).tended hsound.orderly htended
    · exact absurd rfl hphase
    · exact hw.covers_turn hsound hbefore hturn hnew hunknown

theorem turn (hw : w.Settling d base) (hsound : w.Sound) (hcandid : d.Candid) {agent : Agent}
    {notices : List Notice} (h : w.step agent = some (w', notices)) :
    w'.Sound ∧ w'.Settling d base :=
  have hmove : Move w (.turn agent) w' := step_move h
  ⟨hsound.move hmove,
    hw.move hsound hcandid (fun _ h => by cases h) hmove ((step_disk h).trans hw.disk)⟩

theorem settle (hw : w.Settling d base) (hsound : w.Sound) (hcandid : d.Candid) (turns : Nat) :
    (w.settle turns).1.Sound ∧ (w.settle turns).1.Settling d base :=
  settle_induction (P := fun v => v.Sound ∧ v.Settling d base)
    (fun _ _ _ _ hv h => hv.2.turn hv.1 hcandid h) ⟨hsound, hw⟩ turns

/-- Agreement lasts. -/
theorem reflects (hw : w.Settling d base) (hsound : w.Sound) (hcandid : d.Candid)
    (hreflects : w.store.Reflects d) (turns : Nat) : (w.settle turns).1.store.Reflects d := by
  have hall : (w.settle turns).1.Sound ∧ (w.settle turns).1.Settling d base ∧
      (w.settle turns).1.store.Reflects d := by
    refine settle_induction (P := fun v => v.Sound ∧ v.Settling d base ∧ v.store.Reflects d) ?_
      ⟨hsound, hw, hreflects⟩ turns
    rintro v agent v' notices ⟨hsound, hv, hreflects⟩ hstep
    have hmove : Move v (.turn agent) v' := step_move hstep
    obtain ⟨hsound', hv'⟩ := hv.turn hsound hcandid hstep
    exact ⟨hsound', hv', (hv.tended hmove).reflects hsound.orderly hreflects⟩
  exact hall.2.2

/-- Agreement begins with the first sweep of a scanner that leaves nothing unknown. -/
theorem reflects_of_scanned (hw : w.Settling d base) (hsound : w.Sound) (hcandid : d.Candid)
    {turns : Nat} {wake : Wake} {r : Report} (hr : .scanned wake r ∈ (w.settle turns).2)
    (hunknown : r.unknown = 0) : (w.settle turns).1.store.Reflects d := by
  induction turns generalizing w with
  | zero => cases hr
  | succ turns ih =>
    cases hnext : w.next? [] with
    | none =>
      rw [AtRest.settle hnext] at hr
      cases hr
    | some agent =>
      obtain ⟨⟨w', notices⟩, hstep⟩ := ready_of_next? hnext
      simp only [World.settle, hnext, Option.bind_some, hstep] at hr ⊢
      obtain ⟨hsound', hw'⟩ := hw.turn hsound hcandid hstep
      rcases List.mem_append.mp hr with hnow | hlater
      · obtain ⟨id, sw, st, rfl, hat, hturn, hphase, rfl⟩ := step_scanned hstep hnow
        have hcovers := hw.covers_turn hsound hat hturn (fun _ h => by cases h) hunknown
        exact hw'.reflects hsound' hcandid (hcovers.reflects hphase) turns
      · exact ih hw' hsound' hlater

/-- So does the end of a sweep that was called for and leaves nothing unknown. -/
theorem reflects_of_finished (hw : w.Settling d base) {id : CallId} {sw : Sweep}
    (hat : w.sweep? (.call id) = some sw) (hnew : base ≤ id) (hphase : sw.phase = .finished)
    (hunknown : sw.report.unknown = 0) : w.store.Reflects d := by
  have hcovers := hw.covers (.call id) sw hat (fun _ h => by cases h; exact hnew)
    (by rw [hphase]; nofun) hunknown
  exact hcovers.reflects hphase

/-- A world at rest whose entries are honest. -/
theorem of_rest (hrest : w.AtRest) (hsound : w.Sound) (hhonest : w.store.Honest w.disk) :
    w.Settling w.disk w.calls.length where
  disk := rfl
  sweeps agent sw hat := by
    have hover := hrest.sweep_over hsound hat
    intro id _ e _
    rw [hover]
    trivial
  honest := hhonest
  looked id path phase hat := hrest.lookup_done hsound hat
  covers agent sw hat hnew hphase hunknown := by
    cases agent with
    | call id =>
      obtain ⟨call, hcall, -⟩ := Option.bind_eq_some_iff.mp hat
      exact absurd (List.getElem?_eq_some_iff.mp hcall).1 (Nat.not_lt.mpr (hnew id rfl))
    | scanner id =>
      rw [hrest.scanner_idle hsound id] at hat
      cases hat

end Settling
end World
end FileCache
