import FileCache.Proofs.Transparency.Settling
import FileCache.Server

/-!
Servers that are asked for one thing at a time.

A deed begins, and everybody runs on until the world is at rest; only then does the next
one begin.
-/

namespace FileCache

open Http

/-- What somebody does to a server, or to the disk below it. -/
inductive Deed
  | request (r : Request)
  /-- A sweep that no scanner makes. -/
  | sweep
  | elapse (ms : Nat)
  | edit (change : Edit)
  /-- The order of the map is nobody's business, and the next sweep may find another. -/
  | shuffle (order : List EntryId)

namespace Deed

def keepsDisk : Deed → Bool
  | .edit _ => false
  | _ => true

/-- Whether the deed asks for a file. -/
def asksFile : Deed → Bool
  | .request r =>
    match Plan.ofRequest r with
    | .serve _ _ => true
    | _ => false
  | _ => false

end Deed

def Notice.report? : Notice → Option Report
  | .scanned _ report => some report
  | _ => none

def Call.report? : Call → Option Report
  | .sweep sw => sw.report?
  | _ => none

/-- Lists the map in another order, if it is one of the orders that the map has. -/
def World.reorder (order : List EntryId) (w : World) : World :=
  if order.isPerm w.store.mapped then { w with store := { w.store with mapped := order } } else w

theorem World.reorder_cases (order : List EntryId) (w : World) :
    w.reorder order = w ∨ w.apply (.shuffle order) = some (w.reorder order, []) := by
  by_cases hperm : order.isPerm w.store.mapped = true
  · right
    rw [reorder, if_pos hperm]
    exact if_pos hperm
  · left
    exact if_neg hperm

namespace Server

def freshOn (disk : Disk) (limits : Limits) (wall : Time.Timestamp) (root : String) : Server :=
  { world := World.freshOn disk limits wall, root }

/-- The world in which a deed has begun.  An edit that is refused changes nothing. -/
def start (s : Server) : Deed → World
  | .request r => ((Plan.ofRequest r).ask? s.root).elim s.world fun ask => s.world.begin ask
  | .sweep => s.world.begin .sweep
  | .elapse ms => s.world.elapse ms
  | .edit change => (s.world.disk.edit? change).elim s.world fun disk => { s.world with disk }
  | .shuffle order => s.world.reorder order

/-- The server after a deed, with at most `turns` turns for what follows from it. -/
def perform (turns : Nat) (deed : Deed) (s : Server) : Server :=
  { s with world := ((s.start deed).settle turns).1 }

/-- The reports of the sweeps that a deed brings to an end. -/
def reports (turns : Nat) (deed : Deed) (s : Server) : List Report :=
  let after := (s.start deed).settle turns
  after.2.filterMap Notice.report? ++
    (after.1.calls.drop s.world.calls.length).filterMap Call.report?

/-- A request to a server at rest is a deed. -/
theorem handle_eq_perform {s : Server} (hrest : s.world.AtRest) (turns : Nat) (r : Request) :
    (s.handle turns r).2 = s.perform turns (.request r) := by
  simp only [handle, follow, perform, start]
  cases (Plan.ofRequest r).ask? s.root with
  | none =>
    rw [Option.elim_none, hrest.settle]
  | some ask => rfl

theorem clean_of_ofFile {raw asked name : String} (h : Plan.ofFile raw = .ok (.serve asked name)) :
    asked = raw ∧ Path.clean? raw = some name := by
  unfold Plan.ofFile at h
  split at h
  · rename_i hclean
    cases h
    exact ⟨rfl, hclean⟩
  · cases h

theorem clean_of_ofSwitch {r : Request} {asked name : String} :
    Plan.ofSwitch r ≠ .serve asked name := by
  unfold Plan.ofSwitch
  split
  · nofun
  · split
    · nofun
    · split <;> nofun

/-- A request for a file is for a cleaned name. -/
theorem clean_of_ofRequest {r : Request} {asked name : String}
    (h : Plan.ofRequest r = .serve asked name) : Path.clean? asked = some name := by
  unfold Plan.ofRequest at h
  simp only [] at h
  split at h
  · cases h
  · split at h
    · cases h
    · rename_i endpoint _
      split at h
      · cases endpoint with
        | file rest =>
          simp only [Plan.ofEndpoint, Plan.ofEscapedFile] at h
          split at h
          · cases h
          · split at h
            · rename_i plan hfile
              subst h
              obtain ⟨rfl, hclean⟩ := clean_of_ofFile hfile
              exact hclean
            · cases h
        | switch => exact absurd h clean_of_ofSwitch
        | statistics => cases h
        | scan => cases h
        | health => cases h
      · cases h

/-- A lookup that a request asks for is of a path below the root. -/
theorem served_of_ask {r : Request} {root : String} {path : Path}
    (h : (Plan.ofRequest r).ask? root = some (.lookup path)) :
    Path.Served root path ∧ (Deed.request r).asksFile = true := by
  cases hplan : Plan.ofRequest r with
  | serve asked name =>
    rw [hplan] at h
    cases h
    refine ⟨⟨asked, name, clean_of_ofRequest hplan, rfl⟩, ?_⟩
    simp only [Deed.asksFile, hplan]
  | _ =>
    rw [hplan] at h
    cases h

/-- The beginning of a deed is an event.  The only lookups that begin so are those of
requests, below the root. -/
theorem start_move (s : Server) (deed : Deed) :
    ∃ event, World.Move s.world event (s.start deed) ∧
      ∀ path, event = .call (.lookup path) → Path.Served s.root path ∧ deed.asksFile = true := by
  have hstill : World.Move s.world .spawn s.world := .still rfl ⟨rfl, rfl⟩
  cases deed with
  | request r =>
    simp only [start]
    cases hask : (Plan.ofRequest r).ask? s.root with
    | none => exact ⟨.spawn, hstill, fun _ h => by cases h⟩
    | some ask =>
      refine ⟨.call ask, World.begin_move ask s.world, fun path h => ?_⟩
      cases h
      exact served_of_ask hask
  | sweep => exact ⟨.call .sweep, World.begin_move .sweep s.world, fun _ h => by cases h⟩
  | elapse ms => exact ⟨.elapse ms, .still rfl ⟨rfl, rfl⟩, fun _ h => by cases h⟩
  | edit change =>
    refine ⟨.edit change, ?_, fun _ h => by cases h⟩
    simp only [start]
    cases s.world.disk.edit? change with
    | none => exact .still rfl ⟨rfl, rfl⟩
    | some disk => exact .still rfl ⟨rfl, rfl⟩
  | shuffle order =>
    rcases World.reorder_cases order s.world with hsame | happly
    · exact ⟨.spawn, hsame.symm ▸ hstill, fun _ h => by cases h⟩
    · exact ⟨.shuffle order, World.apply_move happly, fun _ h => by cases h⟩

theorem disk_start {s : Server} {deed : Deed} (hkeeps : deed.keepsDisk = true) :
    (s.start deed).disk = s.world.disk := by
  cases deed with
  | request r =>
    simp only [start]
    cases (Plan.ofRequest r).ask? s.root <;> rfl
  | edit change => cases hkeeps
  | shuffle order =>
    simp only [start, World.reorder]
    split <;> rfl
  | _ => rfl

theorem disk_perform {s : Server} {deed : Deed} (hkeeps : deed.keepsDisk = true) (turns : Nat) :
    (s.perform turns deed).world.disk = s.world.disk :=
  (World.disk_settle _ turns).trans (disk_start hkeeps)

/-! ## Servers at rest -/

/-- A server whose tasks are sound, whose paths lie below its root, and which has nothing
left to do. -/
structure Quiet (s : Server) : Prop where
  sound : s.world.Sound
  serves : s.world.Serves s.root
  rest : s.world.AtRest

theorem Quiet.freshOn (disk : Disk) (limits : Limits) (wall : Time.Timestamp) (root : String) :
    (freshOn disk limits wall root).Quiet where
  sound := .freshOn disk limits wall
  serves := .freshOn root disk limits wall
  rest := rfl

theorem Quiet.perform {s : Server} (hs : s.Quiet) {deed : Deed} {turns : Nat}
    (hrest : (s.perform turns deed).world.AtRest) : (s.perform turns deed).Quiet := by
  obtain ⟨event, hmove, hserved⟩ := s.start_move deed
  refine ⟨?_, ?_, hrest⟩
  · exact (hs.sound.move hmove).settle turns
  · exact (hs.serves.move (fun path h => (hserved path h).1) hmove).settle turns

/-- Servers that have been asked for one thing at a time from the beginning on. -/
inductive Driven : Server → Prop
  | fresh (disk : Disk) (limits : Limits) (wall : Time.Timestamp) (root : String) :
      Driven (freshOn disk limits wall root)
  | deed {s : Server} (hs : Driven s) (deed : Deed) (turns : Nat)
      (hrest : (s.perform turns deed).world.AtRest) : Driven (s.perform turns deed)

theorem Driven.quiet {s : Server} (h : Driven s) : s.Quiet := by
  induction h with
  | fresh disk limits wall root => exact .freshOn disk limits wall root
  | deed _ deed turns hrest ih => exact ih.perform hrest

/-- Whatever follows from a deed comes to an end. -/
theorem exists_enough (s : Server) (deed : Deed) :
    ∃ enough, ∀ turns, enough ≤ turns → (s.perform turns deed).world.AtRest :=
  (s.start deed).exists_rest

end Server
end FileCache
