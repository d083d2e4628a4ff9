import FileCache.Proofs.Confinement.Exchange

/-!
What a server does and says, on whatever disks.

Files are asked for under arbitrary names, the cache is turned on and off and swept in whatever
order, and time passes, one thing after the other; before each the disk may become another one.
The server looks at nothing but what lies below its root, and so what it says, and what it keeps,
depends on nothing else (`Server.outside_unobserved`).
-/

namespace FileCache

open Http

/-! ## Wishes -/

/-- What somebody wants of a server. -/
inductive Wish
  | request (r : Request)
  /-- A file, by its path with all escapes resolved. -/
  | file (path : String)
  | toggle (on : Bool)
  | scan

namespace Wish

def plan : Wish → Plan
  | .request r => Plan.ofRequest r
  | .file path =>
    match Plan.ofFile path with
    | .ok plan => plan
    | .error refusal => Plan.refuse refusal
  | .toggle on => .switch on
  | .scan => .scan

/-- The response to the wish, from the outcome of its plan. -/
def response (wish : Wish) (outcome : Except Refusal Response) : Response :=
  let plain :=
    match outcome with
    | .ok response => response
    | .error refusal => refusal.response
  match wish with
  | .request r => sent r.method plain
  | _ => plain

/-- The files that are looked up for a wish lie below the root. -/
theorem served {wish : Wish} {root : String} {ask : Ask} {path : Path}
    (hask : wish.plan.ask? root = some ask) (hpath : ask.path? = some path) :
    Path.Served root path := by
  cases wish with
  | request r =>
    obtain rfl : ask = .lookup path := by
      simp only [plan] at hask
      cases hplan : Plan.ofRequest r <;> rw [hplan] at hask <;> cases hask <;> cases hpath
      rfl
    exact (Server.served_of_ask hask).1
  | file raw =>
    simp only [plan] at hask
    cases hfile : Plan.ofFile raw with
    | error refusal =>
      rw [hfile] at hask
      cases hask
    | ok plan =>
      rw [hfile] at hask
      cases plan with
      | serve asked name =>
        obtain ⟨rfl, hclean⟩ := Server.clean_of_ofFile hfile
        cases hask
        cases hpath
        exact ⟨_, name, hclean, rfl⟩
      | switch on =>
        cases hask
        cases hpath
      | scan =>
        cases hask
        cases hpath
      | _ => cases hask
  | toggle on =>
    cases hask
    cases hpath
  | scan =>
    cases hask
    cases hpath

end Wish

/-- A plan has an outcome once the call that it needs is over. -/
theorem Http.Plan.outcome_isSome {p : Plan} {root : String} {ask : Ask} {call : Call} (w : World)
    (hask : p.ask? root = some ask) (hcall : call.ask = ask) (hover : call.isOver = true) :
    (p.outcome? w (some call)).isSome = true := by
  subst hcall
  cases p with
  | serve asked name =>
    cases call with
    | lookup path phase => cases phase <;> first | rfl | cases hover
    | _ => cases hask
  | switch on =>
    cases call with
    | toggle turned phase => cases phase <;> first | rfl | cases hover
    | _ => cases hask
  | scan =>
    cases call with
    | scan phase => cases phase <;> first | rfl | cases hover
    | _ => cases hask
  | _ => cases hask

theorem Http.Plan.outcome_on (p : Plan) (w : World) (disk : Disk) (call : Option Call) :
    p.outcome? (w.on disk) call = p.outcome? w call := by cases p <;> rfl

/-- What befalls a server: a wish, the passing of time, or another order of the map. -/
inductive Happening
  | wish (wish : Wish)
  | elapse (ms : Nat)
  | shuffle (order : List EntryId)

namespace Server

/-! ## Happenings -/

def on (disk : Disk) (s : Server) : Server := { s with world := s.world.on disk }

/-- Does what is wished while nothing else is asked for. -/
def grant (turns : Nat) (wish : Wish) (s : Server) : Option Response × Server :=
  let (outcome, s) := s.follow turns wish.plan
  (outcome.map wish.response, s)

/-- The server after something has happened and everybody has run on. -/
def after (turns : Nat) (what : Happening) (s : Server) : Server :=
  match what with
  | .wish wish => (s.grant turns wish).2
  | .elapse ms => { s with world := ((s.world.elapse ms).settle turns).1 }
  | .shuffle order => { s with world := ((s.world.reorder order).settle turns).1 }

/-- The answer to a wish. -/
def answers (turns : Nat) (what : Happening) (s : Server) : List (Option Response) :=
  match what with
  | .wish wish => [(s.grant turns wish).1]
  | _ => []

/-- The world in which something begins to happen. -/
def begun (what : Happening) (s : Server) : World :=
  match what with
  | .wish wish => (wish.plan.ask? s.root).elim s.world fun ask => s.world.begin ask
  | .elapse ms => s.world.elapse ms
  | .shuffle order => s.world.reorder order

/-- All that can be noticed of a server: its answers, its file operations, and its store in the
end. -/
structure Transcript where
  answers : List (Option Response)
  operations : List (Path × FileOp)
  store : Store

/-- Lets one thing happen after the other, each on a disk of its own, with at most `turns` turns
for each. -/
def play (turns : Nat) (s : Server) : List (Disk × Happening) → Transcript
  | [] => { answers := [], operations := [], store := s.world.store }
  | (disk, what) :: rest =>
    let s := s.on disk
    let later := (s.after turns what).play turns rest
    { answers := s.answers turns what ++ later.answers
      operations := (s.begun what).operations turns ++ later.operations
      store := later.store }

/-! ## Servers that are ready for the next thing -/

/-- A server that was asked for one thing at a time, and only for what lies below its root, and
has nothing left to do. -/
structure Ready (s : Server) : Prop where
  sequenced : s.world.Sequenced
  rest : s.world.AtRest
  confined : s.world.Confined s.root

variable {s : Server} {what : Happening} {turns more : Nat} {d d' : Disk}

theorem Ready.fresh (limits : Limits) (root : String) (wall : Time.Timestamp) :
    (fresh limits root wall).Ready where
  sequenced := .freshOn Disk.empty limits wall
  rest := rfl
  confined := .freshOn root Disk.empty limits wall

theorem Ready.on (hs : s.Ready) (disk : Disk) : (s.on disk).Ready where
  sequenced := hs.sequenced.on disk
  rest := hs.rest.on hs.sequenced disk
  confined := hs.confined.on disk

/-- Everything runs on from where it began. -/
theorem after_eq (hrest : s.world.AtRest) (turns : Nat) (what : Happening) :
    s.after turns what = { s with world := ((s.begun what).settle turns).1 } := by
  cases what with
  | elapse ms => rfl
  | shuffle order => rfl
  | wish wish =>
    simp only [after, grant, follow, begun]
    cases wish.plan.ask? s.root with
    | none => rw [Option.elim_none, hrest.settle]
    | some ask => rfl

theorem Ready.begun (hs : s.Ready) (what : Happening) :
    (s.begun what).Sequenced ∧ (s.begun what).Confined s.root ∧ (s.begun what).Closed := by
  have hclosed : s.world.Closed := hs.rest.rename hs.sequenced
  cases what with
  | elapse ms =>
    exact ⟨hs.sequenced.elapse ms, ⟨hs.confined.entries, hs.confined.calls⟩,
      fun f e => congrArg (World.elapse ms) (hclosed f e)⟩
  | shuffle order =>
    exact ⟨hs.sequenced.reorder hs.rest order, hs.confined.reorder order,
      fun f e => (World.reorder_rename f order s.world).symm.trans
        ((congrArg (World.reorder order) (hclosed f e)).trans (World.reorder_on order s.world))⟩
  | wish wish =>
    simp only [Server.begun]
    cases hask : wish.plan.ask? s.root with
    | none => exact ⟨hs.sequenced, hs.confined, hclosed⟩
    | some ask =>
      have happly : s.world.apply (.call ask) = some (s.world.begin ask, []) := rfl
      refine ⟨hs.sequenced.apply (fun _ => hs.rest) happly,
        hs.confined.begin fun path hpath => Wish.served hask hpath, fun f e => ?_⟩
      exact (World.begin_rename ask s.world).symm.trans (congrArg (World.begin ask) (hclosed f e))

theorem Ready.after (hs : s.Ready) (hrest : ((s.begun what).settle turns).1.AtRest) :
    (s.after turns what).Ready := by
  obtain ⟨hsequenced, hconfined, -⟩ := hs.begun what
  rw [after_eq hs.rest]
  exact ⟨hsequenced.settle turns, hrest, hconfined.settle turns⟩

/-- At rest every wish has its answer. -/
theorem Ready.answered (hs : s.Ready) (hrest : ((s.begun what).settle turns).1.AtRest) :
    ∀ answer ∈ s.answers turns what, answer.isSome = true := by
  obtain ⟨hsequenced, -, -⟩ := hs.begun what
  cases what with
  | elapse ms => exact fun _ h => by cases h
  | shuffle order => exact fun _ h => by cases h
  | wish wish =>
    refine List.forall_mem_singleton.mpr ?_
    simp only [grant, follow]
    cases hask : wish.plan.ask? s.root with
    | none =>
      cases hplan : wish.plan with
      | serve asked name => rw [hplan] at hask; cases hask
      | switch on => rw [hplan] at hask; cases hask
      | scan => rw [hplan] at hask; cases hask
      | _ => rfl
    | some ask =>
      simp only [Server.begun, hask, Option.elim_some] at hrest hsequenced
      have hbegun : (s.world.begin ask).calls[s.world.calls.length]? = some ask.call :=
        List.getElem?_concat_length
      obtain ⟨call, hcall, hsame⟩ := World.settle_ask hbegun turns
      have hover := (hsequenced.settle turns).call_over hrest hcall
      have hsome := Plan.outcome_isSome ((s.world.begin ask).settle turns).1 hask
        (hsame.trans ask.ask_call) hover
      simp only [hcall, Option.isSome_map, hsome]

/-- With more turns than it takes to come to rest, the server comes to the same. -/
theorem Ready.more_turns (hs : s.Ready) (hrest : ((s.begun what).settle turns).1.AtRest)
    (hle : turns ≤ more) : s.after more what = s.after turns what := by
  rw [after_eq hs.rest, after_eq hs.rest, World.settle_of_le hrest hle]

/-! ## Two disks of the same subtree -/

/-- On a disk of the same subtree the same happens: the same answers, the same file operations,
and the same server but for its disk. -/
theorem Ready.same (hs : s.Ready) (hroot : Path.Component.parent ∉ Path.componentsOf s.root)
    (hsame : Disk.SameBelow s.root d d')
    (hrest : (((s.on d).begun what).settle turns).1.AtRest) :
    (s.on d').after turns what = ((s.on d).after turns what).on d' ∧
      (s.on d').answers turns what = (s.on d).answers turns what ∧
        ((s.on d').begun what).operations turns = ((s.on d).begun what).operations turns := by
  obtain ⟨hsequenced, hconfined, hclosed⟩ := hs.begun what
  have hon (disk : Disk) : (s.on disk).begun what = (s.begun what).on disk := by
    cases what with
    | elapse ms => rfl
    | shuffle order => exact World.reorder_on order s.world
    | wish wish =>
      simp only [Server.begun]
      have hask : wish.plan.ask? (s.on disk).root = wish.plan.ask? s.root := rfl
      rw [hask]
      cases wish.plan.ask? s.root <;> rfl
  rw [hon] at hrest
  obtain ⟨hworld, hoperations⟩ :=
    World.settle_same hconfined hsequenced hclosed hroot hsame hrest
  refine ⟨?_, ?_, ?_⟩
  · rw [after_eq (hs.on d').rest, after_eq (hs.on d).rest, hon, hon, hworld]
    rfl
  · cases what with
    | elapse ms => rfl
    | shuffle order => rfl
    | wish wish =>
      simp only [Server.answers, grant, follow]
      have hplan : wish.plan.ask? (s.on d').root = wish.plan.ask? s.root := rfl
      have hplan' : wish.plan.ask? (s.on d).root = wish.plan.ask? s.root := rfl
      rw [hplan, hplan']
      cases hask : wish.plan.ask? s.root with
      | none => rfl
      | some ask =>
        simp only [Server.begun, hask, Option.elim_some] at hworld
        have hsettled : (((s.on d').world.begin ask).settle turns).1 =
            (((s.on d).world.begin ask).settle turns).1.on d' := hworld
        simp only [hsettled, Plan.outcome_on]
        rfl
  · rw [hon, hon, hoperations]

/-- Nothing is left of the disk in a server that is ready for the next thing. -/
theorem play_on (turns : Nat) (s : Server) (disk : Disk) (steps : List (Disk × Happening)) :
    (s.on disk).play turns steps = s.play turns steps := by
  cases steps with
  | nil => rfl
  | cons first rest => rfl

/-- One of the things that happen, with the disks that two servers have then. -/
structure Moment where
  left : Disk
  right : Disk
  what : Happening

theorem root_after (turns : Nat) (what : Happening) (s : Server) :
    (s.after turns what).root = s.root := by
  cases what with
  | elapse ms => rfl
  | shuffle order => rfl
  | wish wish =>
    simp only [after, grant, follow]
    cases wish.plan.ask? s.root <;> rfl

theorem Ready.inside (hs : s.Ready) (hroot : Path.Component.parent ∉ Path.componentsOf s.root)
    (turns : Nat) (what : Happening) :
    ∀ operation ∈ (s.begun what).operations turns, Path.Inside s.root operation.1 :=
  fun operation hmem => ((hs.begun what).2.1.operations turns operation hmem).inside hroot

/-- Two servers that are ready for the next thing stay the same but for their disks, and each thing
that happens to both has the same answers and the same file operations. -/
theorem Ready.play_same {root : String} (hroot : Path.Component.parent ∉ Path.componentsOf root)
    {moments : List Moment} (hsame : ∀ m ∈ moments, Disk.SameBelow root m.left m.right)
    (hs : s.Ready) (hserver : s.root = root) :
    ∃ enough, ∀ turns, enough ≤ turns →
      s.play turns (moments.map fun m => (m.left, m.what)) =
          s.play turns (moments.map fun m => (m.right, m.what)) ∧
        (∀ operation ∈ (s.play turns (moments.map fun m => (m.left, m.what))).operations,
          Path.Inside root operation.1) ∧
        ∀ answer ∈ (s.play turns (moments.map fun m => (m.left, m.what))).answers,
          answer.isSome = true := by
  induction moments generalizing s with
  | nil => exact ⟨0, fun _ _ => ⟨rfl, nofun, nofun⟩⟩
  | cons m rest ih =>
    subst hserver
    -- Where the rest begins depends on the turns for the first, but from `few` on no longer.
    obtain ⟨hnow, hlater⟩ := List.forall_mem_cons.mp hsame
    obtain ⟨few, hrest⟩ := ((s.on m.left).begun m.what).exists_rest
    have hleft := hs.on m.left
    obtain ⟨enough, hplay⟩ := ih hlater (hleft.after (hrest few (Nat.le_refl few)))
      (root_after few m.what (s.on m.left))
    refine ⟨max few enough, fun turns hle => ?_⟩
    have hturns : few ≤ turns := Nat.le_trans (Nat.le_max_left few enough) hle
    obtain ⟨hafter, hanswers, hoperations⟩ := hs.same hroot hnow (hrest turns hturns)
    obtain ⟨hsame', hinside, hanswered⟩ :=
      hplay turns (Nat.le_trans (Nat.le_max_right few enough) hle)
    rw [← hleft.more_turns (hrest few (Nat.le_refl few)) hturns] at hsame' hinside hanswered
    simp only [List.map_cons, play, hafter, hanswers, hoperations, play_on, hsame', true_and]
    rw [hsame'] at hinside hanswered
    exact ⟨List.forall_mem_append.mpr ⟨hleft.inside hroot turns m.what, hinside⟩,
      List.forall_mem_append.mpr ⟨hleft.answered (hrest turns hturns), hanswered⟩⟩

/-- Nothing outside the root can be observed.  Whatever is asked for, in whatever order, and
whatever the disks have elsewhere: every file operation is on the root's path with names behind it
and without a step to a parent, every wish has an answer, and on disks of the same subtree the
answers, the operations and the cache in the end are the same. -/
theorem outside_unobserved {root : String}
    (hroot : Path.Component.parent ∉ Path.componentsOf root) (limits : Limits)
    (wall : Time.Timestamp) (moments : List Moment)
    (hsame : ∀ m ∈ moments, Disk.SameBelow root m.left m.right) :
    ∃ enough, ∀ turns, enough ≤ turns →
      let left := (fresh limits root wall).play turns (moments.map fun m => (m.left, m.what))
      let right := (fresh limits root wall).play turns (moments.map fun m => (m.right, m.what))
      left = right ∧ (∀ operation ∈ left.operations, Path.Inside root operation.1) ∧
        ∀ answer ∈ left.answers, answer.isSome = true :=
  Ready.play_same hroot hsame (.fresh limits root wall) rfl

/-- A directory of one file, with a secret beside it. -/
def vault (secret : Bytes) (id : FileId) : Disk where
  tree place :=
    if place = ["www"] then some .directory
    else if place = ["www", "a"] then some (.file id)
    else if place = ["secret"] then some (.file (id + 1))
    else none
  files other :=
    { bytes := if other = id then [1, 2, 3] else secret, modified := ⟨0, 0⟩, reported := none }
  fresh := id + 2
  faults _ _ := none

/-- Requests for the file, and attempts at the secret. -/
def prying : List Happening :=
  [.wish (.toggle true), .wish (.file "a"), .wish (.file "../secret"), .wish (.file "/secret"),
    .wish (.file "a/../../secret"),
    .wish (.request
      { method := "GET", target := "/static/%2e%2e/secret", headers := [], body := [] }),
    .wish .scan, .elapse 5000, .wish (.file "a")]

theorem sameBelow_vault (secret secret' : Bytes) (id id' : FileId) :
    (vault secret id).SameBelow "www" (vault secret' id') := by
  have hroot : Path.partsOf "www" = ["www"] := by decide +kernel
  have hpieces : Text.pieces Path.separator "www" = ["www"] := by decide +kernel
  have hdirectory (secret : Bytes) (id : FileId) :
      (vault secret id).locate ⟨"www"⟩ = .ok .directory := by
    rw [Disk.locate, hpieces, Disk.walk, if_neg (by decide), if_neg (by decide),
      if_neg (by decide +kernel)]
    rfl
  refine ⟨hdirectory secret id, hdirectory secret' id', fun names hnames => ?_, fun _ _ => rfl⟩
  rw [hroot]
  by_cases hfile : names = ["a"]
  · subst hfile
    simp [Disk.viewAt, vault]
  · simp [Disk.viewAt, vault, hnames, hfile]

/-- The file is served from both disks, and the secret of neither is. -/
theorem outside_unobserved_secrets :
    let moments := prying.map (Moment.mk (vault [7] 0) (vault [8, 9] 4))
    (∃ enough, ∀ turns, enough ≤ turns →
      let left := (fresh ⟨10, 20, 1000⟩ "www" ⟨0, 0⟩).play turns
        (moments.map fun m => (m.left, m.what))
      let right := (fresh ⟨10, 20, 1000⟩ "www" ⟨0, 0⟩).play turns
        (moments.map fun m => (m.right, m.what))
      left = right ∧ (∀ operation ∈ left.operations, Path.Inside "www" operation.1) ∧
        ∀ answer ∈ left.answers, answer.isSome = true) ∧
    ((fresh ⟨10, 20, 1000⟩ "www" ⟨0, 0⟩).play 25
      (moments.map fun m => (m.left, m.what))).answers.map (·.map (·.status)) =
        [some 200, some 200, some 400, some 400, some 400, some 400, some 202, some 200] := by
  refine ⟨?_, by decide +kernel⟩
  refine outside_unobserved (by decide +kernel) ⟨10, 20, 1000⟩ ⟨0, 0⟩ _ fun m hm => ?_
  obtain ⟨what, -, rfl⟩ := List.mem_map.mp hm
  exact sameBelow_vault [7] [8, 9] 0 4

end Server
end FileCache
