import FileCache.Proofs.Confinement.Lockstep
import FileCache.Proofs.Confinement.Veil
import FileCache.Proofs.Transparency.Deeds

/-!
Worlds at rest on disks of the same subtree.

At rest nothing is open, so nothing of a disk is left in the world and another can be put in its
place.  What begins then takes the same course on either of two disks that have the same below
the root: both show it what the veil shows, and when the worlds are at rest again, they differ in
nothing but the disk (`World.settle_same`).
-/

namespace FileCache

/-- A call that is over has nothing open. -/
theorem Call.rename_of_isOver {call : Call} (h : call.isOver = true) (f : Item → Item) :
    call.rename f = call := by
  unfold isOver at h
  split at h
  · rfl
  · rename_i sw
    obtain ⟨phase, todo, wasMissing, report⟩ := sw
    cases of_decide_eq_true h
    rfl
  · rfl
  · rfl
  · rfl
  · rfl
  · rfl
  · cases h

namespace World

variable {w w' : World} {d d' e : Disk} {root : String}

/-! ## What does not depend on the disk -/

/-- Neither the disk nor a later hour makes a difference. -/
theorem Sequenced.of_later (hw : w.Sequenced) (disk : Disk) {now : Nat} (hnow : w.now ≤ now)
    (wall : Time.Timestamp) : ({ w with disk, now, wall } : World).Sequenced := by
  have htime (h : ({ w with disk, now, wall } : World).HasTime) : w.HasTime := h.of_le rfl hnow
  have hposted {id : ScannerId} (h : w.Posted id) :
      ({ w with disk, now, wall } : World).Posted id := by
    obtain ⟨sc, hsc, hown, hgoes, hphase, hlasts⟩ := h
    exact ⟨sc, hsc, hown, hgoes, hphase, fun h => hlasts (htime h)⟩
  have hstaffed (hon : w.store.enabled = true) :
      ∃ id, w.switch.slot = some id ∧ ({ w with disk, now, wall } : World).Posted id :=
    (hw.manned.on hon).imp fun _ h => ⟨h.1, hposted h.2⟩
  exact
    { sound := ⟨hw.sound.orderly, hw.sound.found, hw.sound.todo, hw.sound.visits,
        hw.sound.unfinished, hw.sound.gates⟩
      guarded := ⟨fun hon => (hw.guarded.on hon).imp fun _ => hposted,
        fun h => hw.guarded.off (htime h)⟩
      locked := ⟨hw.locked.off, hw.locked.kept, hw.locked.one, hw.locked.own⟩
      attached := ⟨hw.attached.held, hw.attached.owned⟩
      exclusive := ⟨hw.exclusive.due, hw.exclusive.last, hw.exclusive.single,
        fun caller call hcall =>
          have hfits := hw.exclusive.fits caller call hcall
          ⟨hfits.off, hfits.vacant, hfits.held⟩,
        hstaffed⟩
      manned := ⟨hstaffed, hw.manned.told⟩
      inHand := ⟨hw.inHand.waits, hw.inHand.due, hw.inHand.single⟩
      solo := hw.solo }

theorem Sequenced.on (hw : w.Sequenced) (disk : Disk) : (w.on disk).Sequenced :=
  hw.of_later disk (Nat.le_refl _) w.wall

theorem Sequenced.elapse (hw : w.Sequenced) (ms : Nat) : (w.elapse ms).Sequenced :=
  hw.of_later w.disk (Nat.le_add_right _ ms) (w.wall.addMillis ms)

theorem Sequenced.reorder (hw : w.Sequenced) (hrest : w.AtRest) (order : List EntryId) :
    (w.reorder order).Sequenced := by
  rcases reorder_cases order w with hsame | happly
  · exact hsame.symm ▸ hw
  · exact hw.apply (fun _ => hrest) happly

theorem reorder_on (order : List EntryId) (w : World) :
    (w.on d).reorder order = (w.reorder order).on d := by
  rw [reorder, reorder, apply_ite (World.on d)]
  rfl

theorem reorder_rename (f : Item → Item) (order : List EntryId) (w : World) :
    (w.rename f e).reorder order = (w.reorder order).rename f e := by
  rw [reorder, reorder, apply_ite (World.rename f e)]
  rfl

theorem Confined.reorder (hw : w.Confined root) (order : List EntryId) :
    (w.reorder order).Confined root := by
  unfold World.reorder
  split
  · exact ⟨hw.entries, hw.calls⟩
  · exact hw

theorem Confined.on (hw : w.Confined root) (disk : Disk) : (w.on disk).Confined root :=
  ⟨hw.entries, hw.calls⟩

/-- Who has nothing left to do has nothing to do on any disk. -/
theorem AtRest.on (h : w.AtRest) (hw : w.Sequenced) (disk : Disk) : (w.on disk).AtRest := by
  refine atRest_of_step fun agent => ?_
  cases agent with
  | call id =>
    refine Option.bind_eq_none_iff.mpr fun call hcall => ?_
    exact stepCall_of_isOver (hw.call_over h hcall)
  | scanner id =>
    refine Option.bind_eq_none_iff.mpr fun sc hsc => ?_
    rw [stepScanner, Option.map_eq_none_iff]
    rcases h.scanner_cases hw.sound hsc with hended | ⟨hidle, hgoes, hpending, hdeadline⟩
    · simp only [Scanner.step, hended]
    · have hdue : ¬ sc.deadline ≤ w.now := Nat.not_le.mpr hdeadline
      simp only [Scanner.step, hidle, hgoes, hpending]
      exact if_neg hdue

/-- At rest nothing is open. -/
theorem AtRest.rename (h : w.AtRest) (hw : w.Sequenced) (f : Item → Item) (e : Disk) :
    w.rename f e = w.on e := by
  have hcalls : w.calls.map (Call.rename f) = w.calls := by
    refine (List.map_congr_left fun call hcall => ?_).trans (List.map_id w.calls)
    obtain ⟨id, hid⟩ := List.mem_iff_getElem?.mp hcall
    exact Call.rename_of_isOver (hw.call_over h hid) f
  have hscanners : w.scanners.map (Scanner.rename f) = w.scanners := by
    refine (List.map_congr_left fun sc hsc => ?_).trans (List.map_id w.scanners)
    obtain ⟨id, hid⟩ := List.mem_iff_getElem?.mp hsc
    obtain ⟨phase, own, stopped, pending, deadline⟩ := sc
    rcases h.scanner_cases hw.sound hid with hended | ⟨hidle, -⟩
    · cases hended
      rfl
    · cases hidle
      rfl
  rw [World.rename, hcalls, hscanners, World.on]

/-! ## Two disks -/

/-- Nothing is open in the world. -/
def Closed (w : World) : Prop := ∀ f e, w.rename f e = w.on e

theorem Sequenced.settle (hw : w.Sequenced) (turns : Nat) : (w.settle turns).1.Sequenced := by
  refine settle_induction (fun v agent v' notices hv hstep => ?_) hw turns
  have happly : v.apply (.turn agent) = some (v', notices) := hstep
  exact hv.apply (fun hbegins => by cases hbegins) happly

/-- Worlds that are the same on a third disk are the same but for their own. -/
theorem eq_on_of_on (h : w'.on e = w.on e) : w' = w.on w'.disk :=
  calc w' = (w'.on e).on w'.disk := rfl
    _ = (w.on e).on w'.disk := by rw [h]

/-- On a disk that has the root as a directory, a world in which nothing is open goes the way it
goes behind the veil, up to the identities of files. -/
theorem settle_veil (hw : w.Confined root) (hclosed : w.Closed)
    (hroot : Path.Component.parent ∉ Path.componentsOf root)
    (hdirectory : d.locate ⟨root⟩ = .ok .directory) (turns : Nat) :
    (w.on (d.veil root)).settle turns =
        (((w.on d).settle turns).1.rename (Item.veil d) (d.veil root), ((w.on d).settle turns).2) ∧
      (w.on (d.veil root)).operations turns = (w.on d).operations turns ∧
        ∀ held, ((w.on (d.veil root)).settle turns).1.next? held =
          ((w.on d).settle turns).1.next? held := by
  have hveiled : (w.on d).rename (Item.veil d) (d.veil root) = w.on (d.veil root) :=
    hclosed (Item.veil d) (d.veil root)
  have hsettle := settle_rename (f := Item.veil d) (e := d.veil root) (hw.on d)
    (fun path hserved => Disk.shows_veil hroot hdirectory hserved) turns
  rw [hveiled] at hsettle
  exact hsettle

/-- Two disks of the same subtree under the same world: if it comes to rest on one, it does on the
other, by the same file operations, and then the worlds are the same but for the disk. -/
theorem settle_same (hw : w.Confined root) (hsequenced : w.Sequenced) (hclosed : w.Closed)
    (hroot : Path.Component.parent ∉ Path.componentsOf root) (hsame : Disk.SameBelow root d d')
    {turns : Nat} (hrest : ((w.on d).settle turns).1.AtRest) :
    ((w.on d').settle turns).1 = ((w.on d).settle turns).1.on d' ∧
      (w.on d').operations turns = (w.on d).operations turns := by
  obtain ⟨hleft, hleftOps, hleftNext⟩ := settle_veil hw hclosed hroot hsame.left turns
  obtain ⟨hright, hrightOps, hrightNext⟩ := settle_veil hw hclosed hroot hsame.right turns
  rw [← hsame.veil_eq] at hright hrightOps hrightNext
  have hrest' : ((w.on d').settle turns).1.AtRest :=
    (hrightNext []).symm.trans ((hleftNext []).trans hrest)
  have hdisk' : ((w.on d').settle turns).1.disk = d' := disk_settle (w.on d') turns
  have hveils : ((w.on d').settle turns).1.on (d.veil root) =
      ((w.on d).settle turns).1.on (d.veil root) := by
    rw [← hrest.rename ((hsequenced.on d).settle turns) (Item.veil d),
      ← hrest'.rename ((hsequenced.on d').settle turns) (Item.veil d')]
    exact congrArg Prod.fst (hright.symm.trans hleft)
  refine ⟨?_, hrightOps.symm.trans hleftOps⟩
  rw [eq_on_of_on hveils, hdisk']

end World
end FileCache
