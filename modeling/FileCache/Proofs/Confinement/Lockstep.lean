import FileCache.Proofs.Confinement.Rename
import FileCache.Proofs.Switch.Sequence
import FileCache.Proofs.Transparency.Faithful

/-!
Worlds on disks whose files go by other names.

A turn depends on the disk at the path of its file operation only (`World.step_rename`), and if it
performs none, not at all (`World.step_on`).  In a world in which all paths are those of a server
the operations are on these paths.  So on a disk that shows the same there, up to the identities of
files, the renamed world goes through the same turns and performs the same operations
(`World.settle_rename`).
-/

namespace FileCache

/-- The path of the file that somebody asks for. -/
def Ask.path? : Ask → Option Path
  | .lookup path => some path
  | .read path => some path
  | .stat path => some path
  | _ => none

def Call.rename (f : Item → Item) : Call → Call
  | .lookup path phase => .lookup path (phase.rename f)
  | .sweep sw => .sweep (sw.rename f)
  | .read path phase => .read path (phase.rename f)
  | call => call

namespace World

/-- The world on another disk, with everything that is open renamed. -/
def rename (f : Item → Item) (e : Disk) (w : World) : World :=
  { w with
    disk := e
    scanners := w.scanners.map (Scanner.rename f)
    calls := w.calls.map (Call.rename f) }

variable {w w' : World} {f : Item → Item} {e : Disk} {root : String} {agent : Agent}
  {notices : List Notice}

/-! ## Paths -/

/-- All paths that calls and entries have are those of a server with the root. -/
structure Confined (root : String) (w : World) : Prop where
  entries : ∀ id e, w.store.entry? id = some e → Path.Served root e.path
  calls : ∀ (id : CallId) (call : Call) (path : Path), w.calls[id]? = some call →
    call.ask.path? = some path → Path.Served root path

namespace Confined

theorem freshOn (root : String) (disk : Disk) (limits : Limits) (wall : Time.Timestamp) :
    (freshOn disk limits wall).Confined root where
  entries id e h := by cases h
  calls id call path h := by cases h

theorem serves (hw : w.Confined root) : w.Serves root where
  entries := hw.entries
  lookups id path _ hat := hw.calls id _ path (lookup?_eq_some_iff.mp hat) rfl

/-- A call keeps its path. -/
theorem step (hw : w.Confined root) (h : w.step agent = some (w', notices)) :
    w'.Confined root where
  entries := (hw.serves.move (fun _ hevent => by cases hevent) (step_move h)).entries
  calls := by
    cases agent with
    | scanner id =>
      cases step_turn h with
      | scanner => exact hw.calls
    | call caller =>
      obtain ⟨before, next, hbefore, -, hset, hask⟩ := step_calls h
      intro id call path hcall hat
      rw [hset] at hcall
      rcases mem_set_cases hcall with ⟨rfl, rfl⟩ | ⟨-, hold⟩
      · exact hw.calls id before path hbefore (hask ▸ hat)
      · exact hw.calls id call path hold hat

theorem begin {ask : Ask} (hw : w.Confined root)
    (hserved : ∀ path, ask.path? = some path → Path.Served root path) :
    (w.begin ask).Confined root where
  entries := hw.entries
  calls id call path hcall hpath := by
    rcases Nat.lt_trichotomy id w.calls.length with hlt | rfl | hlt
    · exact hw.calls id call path ((List.getElem?_append_left hlt).symm.trans hcall) hpath
    · rw [World.begin, List.getElem?_concat_length] at hcall
      cases hcall
      exact hserved path (ask.ask_call ▸ hpath)
    · have hnone : (w.begin ask).calls[id]? = none := by
        refine List.getElem?_eq_none ?_
        rw [World.begin, List.length_append, List.length_singleton]
        exact hlt
      cases hnone.symm.trans hcall

theorem settle (hw : w.Confined root) (turns : Nat) : (w.settle turns).1.Confined root :=
  settle_induction (fun _ _ _ _ hw hstep => hw.step hstep) hw turns

end Confined

/-! ## The switch -/

theorem call_rename (id : CallId) (w : World) :
    (w.rename f e).calls[id]? = (w.calls[id]?).map (Call.rename f) := List.getElem?_map

theorem scanner_rename (id : ScannerId) (w : World) :
    (w.rename f e).scanners[id]? = (w.scanners[id]?).map (Scanner.rename f) := List.getElem?_map

theorem setCall_rename (id : CallId) (call : Call) (w : World) :
    (w.rename f e).setCall id (call.rename f) = (w.setCall id call).rename f e := by
  simp only [setCall, rename, List.map_set]

theorem begin_rename (ask : Ask) (w : World) :
    (w.rename f e).begin ask = (w.begin ask).rename f e := by
  simp only [begin, rename, List.map_append, List.map_singleton]
  cases ask <;> rfl

theorem addScanner_rename (own : Bool) (w : World) :
    (w.rename f e).addScanner own = (w.addScanner own).rename f e := by
  simp only [addScanner, rename, List.map_append, List.map_singleton]
  rfl

theorem stopScanner_rename (id : ScannerId) (w : World) :
    (w.rename f e).stopScanner id = (w.stopScanner id).rename f e := by
  have hmodify : (w.scanners.map (Scanner.rename f)).modify id Scanner.stop =
      (w.scanners.modify id Scanner.stop).map (Scanner.rename f) := by
    refine List.ext_getElem? fun i => ?_
    rw [List.getElem?_modify, List.getElem?_map, List.getElem?_map, List.getElem?_modify,
      Option.map_eq_map, Option.map_map, Option.map_map]
    refine congrArg (fun g => Option.map g w.scanners[i]?) (funext fun sc => ?_)
    rw [Function.comp_apply, Function.comp_apply]
    split <;> rfl
  simp only [stopScanner, rename, hmodify]

theorem turnOn_rename (w : World) : (w.rename f e).turnOn = w.turnOn.rename f e := by
  have hlength : (w.rename f e).scanners.length = w.scanners.length := List.length_map _
  rw [turnOn, hlength]
  exact addScanner_rename true { w with
    store := { w.store with enabled := true }
    switch := { slot := some w.scanners.length, held := false } }

theorem turnOff_rename (w : World) : (w.rename f e).turnOff = w.turnOff.rename f e := by
  unfold turnOff
  have hslot : (w.rename f e).switch.slot = w.switch.slot := rfl
  simp only [hslot]
  cases w.switch.slot with
  | none => rfl
  | some id => exact stopScanner_rename id { w with store := { w.store with enabled := false } }

theorem hasEnded_rename (id : ScannerId) (w : World) :
    (w.rename f e).hasEnded id = w.hasEnded id := by
  rw [hasEnded, hasEnded, scanner_rename, Option.any_map]
  exact congrArg (fun p => Option.any p w.scanners[id]?) (funext (Scanner.hasEnded_rename f))

theorem requestScan_rename (id : ScannerId) (w : World) :
    (w.rename f e).requestScan id = ((w.requestScan id).1, (w.requestScan id).2.rename f e) := by
  rw [requestScan, requestScan, scanner_rename]
  cases w.scanners[id]? with
  | none => rfl
  | some sc => simp only [Option.map_some, Scanner.request_rename, rename, List.map_set]

theorem stepToggle_rename (on : Bool) (phase : Toggle) (w : World) :
    (w.rename f e).stepToggle on phase =
      (w.stepToggle on phase).map fun r => (r.1, r.2.1.rename f e, r.2.2) := by
  cases phase with
  | waiting =>
    have hheld : (w.rename f e).switch = w.switch := rfl
    have hstore : (w.rename f e).store = w.store := rfl
    simp only [stepToggle, hheld, hstore, turnOn_rename, turnOff_rename]
    split
    · rfl
    · split
      · rfl
      · split
        · cases w.switch.slot <;> rfl
        · rfl
  | joining previous =>
    simp only [stepToggle, hasEnded_rename, turnOn_rename]
    split <;> rfl
  | done => rfl

theorem stepShutdown_rename (phase : Shutdown) (w : World) :
    (w.rename f e).stepShutdown phase =
      (w.stepShutdown phase).map fun r => (r.1, r.2.1.rename f e, r.2.2) := by
  have hheld : (w.rename f e).switch = w.switch := rfl
  have hstore : (w.rename f e).store = w.store := rfl
  cases phase with
  | waiting =>
    simp only [stepShutdown, hheld, hstore, turnOff_rename]
    split
    · rfl
    · split <;> rfl
  | taking =>
    simp only [stepShutdown, hheld]
    split
    · rfl
    · cases w.switch.slot <;> rfl
  | joining id =>
    simp only [stepShutdown, hasEnded_rename]
    split <;> rfl
  | done => rfl

theorem stepScan_rename (phase : ScanRequest) (w : World) :
    (w.rename f e).stepScan phase = (w.stepScan phase).map fun r => (r.1, r.2.rename f e) := by
  have hheld : (w.rename f e).switch = w.switch := rfl
  have hstore : (w.rename f e).store = w.store := rfl
  cases phase with
  | waiting =>
    simp only [stepScan, hheld, hstore, requestScan_rename]
    split
    · rfl
    · split <;> rfl
  | done queued => rfl

/-! ## File operations -/

/-- The file operation in the next turn of an agent, on whatever path. -/
def operation? (w : World) : Agent → Option (Path × FileOp)
  | .call id => (w.calls[id]?).bind w.callOp?
  | .scanner id => (w.scanners[id]?).bind w.scannerOp?

theorem op?_eq (w : World) (agent : Agent) :
    w.op? agent = (w.operation? agent).filter fun (path, _) => !Disk.hasNul path := by
  cases agent <;> rfl

/-- The file operations that take place until all have to wait, in their order, for at most
`turns` turns. -/
def operations (turns : Nat) (w : World) : List (Path × FileOp) :=
  match turns with
  | 0 => []
  | turns + 1 =>
    match w.next? [] with
    | none => []
    | some agent =>
      (w.operation? agent).toList ++ (w.step agent).elim [] fun r => operations turns r.1

theorem sweepOp?_rename (sw : Sweep) (w : World) :
    (w.rename f e).sweepOp? (sw.rename f) = w.sweepOp? sw := by
  have hop : (sw.rename f).phase.op? = sw.phase.op? := sw.phase.op?_rename f
  rw [sweepOp?, sweepOp?, hop]
  rfl

theorem callOp?_rename (call : Call) (w : World) :
    (w.rename f e).callOp? (call.rename f) = w.callOp? call := by
  cases call with
  | lookup path phase => exact congrArg (Option.map _) (phase.op?_rename f)
  | sweep sw => exact sweepOp?_rename sw w
  | read path phase => exact congrArg (Option.map _) (phase.op?_rename f)
  | stat path result => cases result <;> rfl
  | _ => rfl

theorem scannerOp?_rename (sc : Scanner) (w : World) :
    (w.rename f e).scannerOp? (sc.rename f) = w.scannerOp? sc := by
  have hphase : (sc.rename f).phase = sc.phase.rename f := rfl
  rw [scannerOp?, scannerOp?, hphase]
  cases sc.phase with
  | sweeping cause sw => exact sweepOp?_rename sw w
  | _ => rfl

theorem operation?_rename (agent : Agent) (w : World) :
    (w.rename f e).operation? agent = w.operation? agent := by
  cases agent with
  | call id =>
    rw [operation?, operation?, call_rename, Option.bind_map]
    exact congrArg (Option.bind _) (funext fun call => callOp?_rename call w)
  | scanner id =>
    rw [operation?, operation?, scanner_rename, Option.bind_map]
    exact congrArg (Option.bind _) (funext fun sc => scannerOp?_rename sc w)

/-- Who performs a file operation performs it on the path of a call or of an entry. -/
theorem Confined.operation (hw : w.Confined root) {path : Path} {op : FileOp}
    (h : w.operation? agent = some (path, op)) : Path.Served root path := by
  have hsweep {sw : Sweep} (h : w.sweepOp? sw = some (path, op)) : Path.Served root path := by
    unfold sweepOp? at h
    split at h
    · obtain ⟨entry, hentry, h⟩ := Option.map_eq_some_iff.mp h
      cases h
      exact hw.entries _ entry hentry
    · cases h
  cases agent with
  | call id =>
    obtain ⟨call, hcall, h⟩ := Option.bind_eq_some_iff.mp h
    cases call with
    | lookup p phase =>
      obtain ⟨_, -, h⟩ := Option.map_eq_some_iff.mp h
      cases h
      exact hw.calls id _ path hcall rfl
    | sweep sw => exact hsweep h
    | read p phase =>
      obtain ⟨_, -, h⟩ := Option.map_eq_some_iff.mp h
      cases h
      exact hw.calls id _ path hcall rfl
    | stat p result =>
      cases result with
      | some status => cases h
      | none =>
        cases h
        exact hw.calls id _ path hcall rfl
    | _ => cases h
  | scanner id =>
    obtain ⟨sc, -, h⟩ := Option.bind_eq_some_iff.mp h
    unfold scannerOp? at h
    split at h
    · exact hsweep h
    · cases h

theorem Confined.operations (hw : w.Confined root) (turns : Nat) :
    ∀ operation ∈ w.operations turns, Path.Served root operation.1 := by
  induction turns generalizing w with
  | zero => exact fun _ h => by cases h
  | succ turns ih =>
    intro operation hmem
    rw [World.operations] at hmem
    split at hmem
    · cases hmem
    · rename_i agent _
      rcases List.mem_append.mp hmem with hnow | hlater
      · exact hw.operation (Option.mem_toList.mp hnow)
      · cases hstep : w.step agent with
        | none =>
          rw [hstep] at hlater
          cases hlater
        | some r =>
          rw [hstep] at hlater
          exact ih (hw.step hstep) operation hlater

/-! ## Turns -/

theorem sweepOp?_eq {sw : Sweep} {id : EntryId} {rest : List EntryId} {entry : Entry} {op : FileOp}
    (htodo : sw.todo = id :: rest) (hentry : w.store.entry? id = some entry)
    (hop : sw.phase.op? = some op) : w.sweepOp? sw = some (entry.path, op) := by
  simp only [sweepOp?, hop, htodo, hentry, Option.map_some]

theorem stepCall_rename {id : CallId} {call : Call}
    (h : ∀ path op, w.callOp? call = some (path, op) → Disk.Shows f w.disk e path) :
    (w.rename f e).stepCall id (call.rename f) =
      (w.stepCall id call).map fun r => (r.1.rename f e, r.2) := by
  cases call with
  | lookup path phase =>
    have hstep : (phase.rename f).step (w.rename f e).now (w.rename f e).disk path
        (w.rename f e).store = (phase.step w.now w.disk path w.store).map
          (Step.map (Lookup.rename f)) :=
      Lookup.step_rename fun op hop => h path op (by rw [callOp?, hop]; rfl)
    simp only [Call.rename, stepCall, hstep, Option.map_map]
    refine congrArg (fun g => Option.map g _) (funext fun st => Prod.ext ?_ rfl)
    exact setCall_rename id (.lookup path st.next) { w with store := st.store }
  | sweep sw =>
    have hstep : (sw.rename f).step (w.rename f e).now (w.rename f e).disk (w.rename f e).store =
        (sw.step w.now w.disk w.store).map (Step.map (Sweep.rename f)) :=
      Sweep.step_rename fun _ _ _ op htodo hentry hop => h _ op (sweepOp?_eq htodo hentry hop)
    simp only [Call.rename, stepCall, hstep, Option.map_map]
    refine congrArg (fun g => Option.map g _) (funext fun st => Prod.ext ?_ rfl)
    exact setCall_rename id (.sweep st.next) { w with store := st.store }
  | toggle on phase =>
    simp only [Call.rename, stepCall, stepToggle_rename, Option.map_map]
    refine congrArg (fun g => Option.map g _) (funext fun r => Prod.ext ?_ rfl)
    exact setCall_rename id (.toggle on r.1) r.2.1
  | shutdown phase =>
    simp only [Call.rename, stepCall, stepShutdown_rename, Option.map_map]
    refine congrArg (fun g => Option.map g _) (funext fun r => Prod.ext ?_ rfl)
    exact setCall_rename id (.shutdown r.1) r.2.1
  | scan phase =>
    simp only [Call.rename, stepCall, stepScan_rename, Option.map_map]
    refine congrArg (fun g => Option.map g _) (funext fun r => Prod.ext ?_ rfl)
    exact setCall_rename id (.scan r.1) r.2
  | read path phase =>
    have hadvance : (phase.rename f).advance (w.rename f e).disk path =
        (phase.advance w.disk path).rename f :=
      Reading.advance_rename fun op hop => h path op (by rw [callOp?, hop]; rfl)
    have hset : (w.rename f e).setCall id (.read path ((phase.advance w.disk path).rename f)) =
        (w.setCall id (.read path (phase.advance w.disk path))).rename f e :=
      setCall_rename id (.read path (phase.advance w.disk path)) w
    rw [← hadvance] at hset
    cases phase with
    | finished result => rfl
    | _ => exact congrArg (fun v => some (v, [])) hset
  | stat path result =>
    cases result with
    | some status => rfl
    | none =>
      have hstat : (w.rename f e).disk.statPath path = w.disk.statPath path :=
        (h path .statPath rfl).statPath
      simp only [Call.rename, stepCall, hstat, Option.map_some]
      exact congrArg (fun v => some (v, []))
        (setCall_rename id (.stat path (some (w.disk.statPath path))) w)

/-- All that a turn depends on is what the disk shows at the path of its file operation, up to the
identities of files. -/
theorem step_rename
    (h : ∀ path op, w.operation? agent = some (path, op) → Disk.Shows f w.disk e path) :
    (w.rename f e).step agent = (w.step agent).map fun r => (r.1.rename f e, r.2) := by
  cases agent with
  | call id =>
    rw [step, step, call_rename]
    cases hcall : w.calls[id]? with
    | none => rfl
    | some call =>
      exact stepCall_rename fun path op hop => h path op (by rw [operation?, hcall]; exact hop)
  | scanner id =>
    rw [step, step, scanner_rename]
    cases hsc : w.scanners[id]? with
    | none => rfl
    | some sc =>
      have hstep : (sc.rename f).step (w.rename f e).now (w.rename f e).disk (w.rename f e).store =
          (sc.step w.now w.disk w.store).map (Step.map (Scanner.rename f)) := by
        refine Scanner.step_rename fun cause sw id' rest entry op hphase htodo hentry hop => ?_
        refine h entry.path op ?_
        rw [operation?, hsc, Option.bind_some, scannerOp?, hphase]
        exact sweepOp?_eq htodo hentry hop
      simp only [Option.map_some, Option.bind_some, stepScanner, hstep, Option.map_map]
      refine congrArg (fun g => Option.map g _) (funext fun st => Prod.ext ?_ rfl)
      simp only [Function.comp_apply, Step.map, rename, List.map_set]

/-- The world on another disk. -/
def on (disk : Disk) (w : World) : World := { w with disk }

/-- The same agent goes next. -/
theorem next?_rename
    (h : ∀ agent path op, w.operation? agent = some (path, op) → Disk.Shows f w.disk e path)
    (held : List Agent) : (w.rename f e).next? held = w.next? held := by
  have hagents : (w.rename f e).agents = w.agents := by
    simp only [agents, rename, List.length_map]
  have hcan : (w.rename f e).canTurn = w.canTurn := by
    funext agent
    rw [canTurn, canTurn, step_rename (h agent), Option.isSome_map]
  have hop : (w.rename f e).op? = w.op? := by
    funext agent
    rw [op?_eq, op?_eq, operation?_rename]
  simp only [next?, hagents, hcan, hop]

/-- The renamed world comes to what the world comes to, and by the same file operations. -/
theorem settle_rename (hw : w.Confined root)
    (hshows : ∀ path, Path.Served root path → Disk.Shows f w.disk e path) (turns : Nat) :
    (w.rename f e).settle turns = ((w.settle turns).1.rename f e, (w.settle turns).2) ∧
      (w.rename f e).operations turns = w.operations turns ∧
        ∀ held, ((w.rename f e).settle turns).1.next? held = (w.settle turns).1.next? held := by
  have hnext (agent : Agent) (path : Path) (op : FileOp)
      (hop : w.operation? agent = some (path, op)) : Disk.Shows f w.disk e path :=
    hshows path (hw.operation hop)
  induction turns generalizing w with
  | zero => exact ⟨rfl, rfl, next?_rename hnext⟩
  | succ turns ih =>
    rw [settle, settle, operations, operations, next?_rename hnext]
    cases hready : w.next? [] with
    | none => exact ⟨rfl, rfl, next?_rename hnext⟩
    | some agent =>
      obtain ⟨⟨w', notices⟩, hstep⟩ := ready_of_next? hready
      have hw' := hw.step hstep
      have hshows' := step_disk hstep ▸ hshows
      obtain ⟨hsettle, hoperations, hlater⟩ := ih hw' hshows' fun agent path op hop =>
        hshows' path (hw'.operation hop)
      have hturn := step_rename (hnext agent)
      rw [hstep, Option.map_some] at hturn
      simp only [Option.bind_some, hturn, hstep, Option.elim_some, hoperations, operation?_rename]
      exact ⟨by rw [hsettle], trivial, hlater⟩

end World
end FileCache
