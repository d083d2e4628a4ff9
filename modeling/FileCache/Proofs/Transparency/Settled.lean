import FileCache.Proofs.Disk.Faultless
import FileCache.Proofs.Transparency.Deeds

/-!
The cache is transparent once it is settled.

A server is settled when it is fresh, or when a sweep has found out about every entry
while the disk stayed as it was.  From then on, and as long as the disk stays, it answers
every request for a file as a server does that was never switched on.
-/

namespace FileCache

open Http

namespace Server

/-- Every cached copy with the time and the length that the disk reports has the bytes of
the file. -/
def Honest (s : Server) : Prop :=
  ∀ id ∈ s.world.store.mapped, ∀ e copy status, s.world.store.entry? id = some e →
    e.content = .present copy → s.world.disk.statPath e.path = .ok status →
    status.regular = true → status.stamp = copy.stamp →
    ∃ c, s.world.disk.read e.path = .copy c ∧ c.bytes = copy.bytes

/-- Where lengths are true, a copy with the right stamp and the right bytes is the file. -/
theorem Honest.store {s : Server} (h : s.Honest) (htruthful : s.world.disk.Truthful) :
    s.world.store.Honest s.world.disk := by
  intro id hid e he copy status hcontent hstat hregular hdiffers
  have hstamp := Stamp.differs_eq_false_iff.mp hdiffers
  obtain ⟨c, hread, hbytes⟩ := h id hid e copy status he hcontent hstat hregular hstamp
  have hstamp' := htruthful.stamp_of_read hstat hread
  have hc : c = copy := by
    obtain ⟨bytes, stamp⟩ := c
    obtain ⟨bytes', stamp'⟩ := copy
    cases hbytes
    cases hstamp'.trans hstamp
    rfl
  rw [hread, hc]

/-! ## Settled servers -/

inductive Settled : Server → Prop
  /-- Nothing is cached, and no file that can be read is denied by its status.  On a disk
  without faults none is (`Disk.Faultless.candid`). -/
  | fresh (disk : Disk) (limits : Limits) (wall : Time.Timestamp) (root : String)
      (hcandid : disk.Candid) : Settled (freshOn disk limits wall root)
  /-- A deed that asks for no file has brought a sweep to its end that found out about every
  entry. -/
  | swept {s : Server} (hs : Driven s) (deed : Deed) (turns : Nat) (r : Report)
      (hkeeps : deed.keepsDisk = true) (hasks : deed.asksFile = false)
      (hrest : (s.perform turns deed).world.AtRest) (hfaultless : s.world.disk.Faultless)
      (htruthful : s.world.disk.Truthful) (hhonest : s.Honest) (hr : r ∈ s.reports turns deed)
      (hunknown : r.unknown = 0) : Settled (s.perform turns deed)

/-- What can become of a server while the disk stays as it is. -/
inductive Follows (s : Server) : Server → Prop
  | start : Follows s s
  | deed {t : Server} (ht : Follows s t) (deed : Deed) (turns : Nat)
      (hkeeps : deed.keepsDisk = true) (hrest : (t.perform turns deed).world.AtRest) :
      Follows s (t.perform turns deed)

/-- A server at rest whose map agrees with its disk. -/
structure Agrees (s : Server) : Prop extends Quiet s where
  candid : s.world.disk.Candid
  reflects : s.world.store.Reflects s.world.disk

theorem Agrees.freshOn {disk : Disk} (hcandid : disk.Candid) (limits : Limits)
    (wall : Time.Timestamp) (root : String) : (freshOn disk limits wall root).Agrees where
  toQuiet := .freshOn disk limits wall root
  candid := hcandid
  reflects _ hid := absurd hid List.not_mem_nil

theorem Agrees.perform {s : Server} (hs : s.Agrees) {deed : Deed} {turns : Nat}
    (hkeeps : deed.keepsDisk = true) (hrest : (s.perform turns deed).world.AtRest) :
    (s.perform turns deed).Agrees := by
  have hdisk := disk_perform (s := s) hkeeps turns
  obtain ⟨event, hmove, hserved⟩ := s.start_move deed
  have hfaithful := (World.Faithful.of_rest hs.rest hs.sound hs.reflects).move hs.sound hs.serves
    hs.candid hmove (disk_start hkeeps)
  have hsettled := hfaithful.settle (hs.sound.move hmove)
    (hs.serves.move (fun path h => (hserved path h).1) hmove) hs.candid turns
  refine ⟨hs.toQuiet.perform hrest, ?_, ?_⟩
  · rw [hdisk]
    exact hs.candid
  · rw [hdisk]
    exact hsettled.reflects

theorem mem_reports {s : Server} {deed : Deed} {turns : Nat} {r : Report}
    (h : r ∈ s.reports turns deed) :
    (∃ wake, .scanned wake r ∈ ((s.start deed).settle turns).2) ∨
      ∃ id sw, s.world.calls.length ≤ id ∧ sw.phase = .finished ∧ sw.report = r ∧
        (s.perform turns deed).world.sweep? (.call id) = some sw := by
  rcases List.mem_append.mp h with hnotice | hcall
  · obtain ⟨notice, hmem, hreport⟩ := List.mem_filterMap.mp hnotice
    cases notice with
    | scanned wake report =>
      cases hreport
      exact .inl ⟨wake, hmem⟩
    | _ => cases hreport
  · obtain ⟨call, hmem, hreport⟩ := List.mem_filterMap.mp hcall
    obtain ⟨i, hi⟩ := List.mem_iff_getElem?.mp hmem
    rw [List.getElem?_drop] at hi
    cases call with
    | sweep sw =>
      obtain ⟨hphase, hreport⟩ := Sweep.report?_eq_some_iff.mp hreport
      refine .inr ⟨_, sw, Nat.le_add_right _ i, hphase, hreport, ?_⟩
      exact World.sweep?_call_eq_some_iff.mpr hi
    | _ => cases hreport

theorem Settled.agrees {s : Server} (h : s.Settled) : s.Agrees := by
  cases h with
  | fresh disk limits wall root hcandid => exact .freshOn hcandid limits wall root
  | @swept s hs deed turns r hkeeps hasks hrest hfaultless htruthful hhonest hr hunknown =>
    have hquiet := hs.quiet
    have hcandid := hfaultless.candid
    have hdisk := disk_perform (s := s) hkeeps turns
    obtain ⟨event, hmove, hserved⟩ := s.start_move deed
    have hsound := hquiet.sound.move hmove
    have hask (path : Path) : event ≠ .call (.lookup path) := by
      intro h
      rw [(hserved path h).2] at hasks
      cases hasks
    have hsettling := (World.Settling.of_rest hquiet.rest hquiet.sound
      (hhonest.store htruthful)).move hquiet.sound hcandid hask hmove
      (disk_start hkeeps)
    refine ⟨hquiet.perform hrest, hdisk ▸ hcandid, ?_⟩
    rw [hdisk]
    rcases mem_reports hr with ⟨wake, hscanned⟩ | ⟨id, sw, hnew, hphase, rfl, hat⟩
    · exact hsettling.reflects_of_scanned hsound hcandid hscanned hunknown
    · exact (hsettling.settle hsound hcandid turns).2.reflects_of_finished hat hnew hphase
        hunknown

theorem Follows.disk {s t : Server} (h : s.Follows t) : t.world.disk = s.world.disk := by
  induction h with
  | start => rfl
  | deed _ deed turns hkeeps _ ih => exact (disk_perform hkeeps turns).trans ih

theorem Follows.root {s t : Server} (h : s.Follows t) : t.root = s.root := by
  induction h with
  | start => rfl
  | deed _ _ _ _ _ ih => exact ih

theorem Follows.agrees {s t : Server} (h : s.Follows t) (hs : s.Agrees) : t.Agrees := by
  induction h with
  | start => exact hs
  | deed _ deed turns hkeeps hrest ih => exact ih.perform hkeeps hrest

/-! ## Responses -/

/-- The response to a request for the file `raw`, with at most `turns` turns for it. -/
def respond (turns : Nat) (raw : String) (s : Server) : Option Response :=
  match Plan.ofFile raw with
  | .error refusal => some refusal.response
  | .ok plan => (s.follow turns plan).1.map fun
    | .ok response => response
    | .error refusal => refusal.response

/-- What a server that reads every file from its disk has to say. -/
def plainResponse (disk : Disk) (root raw : String) : Response :=
  match Path.clean? raw with
  | none => (Refusal.invalidPath raw).response
  | some name =>
    match fileResponse raw name (disk.answer (Path.below root name)) with
    | .ok response => response
    | .error refusal => refusal.response

/-- A lookup in a world that agrees with its disk has what the disk has. -/
theorem Agrees.answer {s : Server} (hs : s.Agrees) {path : Path}
    (hserved : Path.Served s.root path) :
    ∃ enough, ∀ turns, enough ≤ turns →
      ((s.world.begin (.lookup path)).settle turns).1.calls[s.world.calls.length]? =
        some (.lookup path (.done (s.world.disk.answer path))) := by
  obtain ⟨enough, hrest⟩ := (s.world.begin (.lookup path)).exists_rest
  refine ⟨enough, fun turns hle => ?_⟩
  have hmove := World.begin_move (.lookup path) s.world
  have hsound := hs.sound.move hmove
  have hfaithful := (World.Faithful.of_rest hs.rest hs.sound hs.reflects).move hs.sound hs.serves
    hs.candid hmove rfl
  have hserves := hs.serves.move (fun p h => by cases h; exact hserved) hmove
  have hend := hfaithful.settle hsound hserves hs.candid turns
  have hbegun : (s.world.begin (.lookup path)).lookup? s.world.calls.length =
      some (path, .starting) := by
    simp [World.lookup?, World.begin, Ask.call, Call.lookup?]
  obtain ⟨phase, hat⟩ := World.settle_lookup hbegun turns
  obtain ⟨answer, rfl⟩ := (hrest turns hle).lookup_done (hsound.settle turns) hat
  have hanswer : answer = s.world.disk.answer path := by
    rcases hend.lookups _ _ _ hat with hphase | ⟨hlt, -⟩
    · exact hphase
    · exact absurd hlt (Nat.lt_irrefl _)
  rw [World.lookup?_eq_some_iff.mp hat, hanswer]

theorem Agrees.respond {s : Server} (hs : s.Agrees) (raw : String) :
    ∃ enough, ∀ turns, enough ≤ turns →
      s.respond turns raw = some (plainResponse s.world.disk s.root raw) := by
  unfold Server.respond plainResponse Plan.ofFile
  cases hclean : Path.clean? raw with
  | none => exact ⟨0, fun _ _ => rfl⟩
  | some name =>
    obtain ⟨enough, hanswer⟩ := hs.answer ⟨raw, name, hclean, rfl⟩
    refine ⟨enough, fun turns hle => ?_⟩
    simp only [follow, Plan.ask?, Plan.outcome?, hanswer turns hle, Option.map_some]

/-- Once settled, and as long as the disk stays as it is, a server gives for every path
the response that a server gives which was never switched on.  It stays so whatever is done to it
next: everything that can be done comes to an end, and to handle a request is one such thing. -/
theorem transparent {s t : Server} (hs : s.Settled) (hst : s.Follows t) (raw : String)
    (limits : Limits) (wall : Time.Timestamp) :
    (∃ enough, ∀ turns, enough ≤ turns → ∃ response,
      t.respond turns raw = some response ∧
        (freshOn s.world.disk limits wall s.root).respond turns raw = some response) ∧
    (∀ deed : Deed, deed.keepsDisk = true →
      ∃ enough, ∀ turns, enough ≤ turns → s.Follows (t.perform turns deed)) ∧
    ∀ turns r, (t.handle turns r).2 = t.perform turns (.request r) := by
  have hsettled := hs.agrees
  have hplain : (freshOn s.world.disk limits wall s.root).Agrees :=
    .freshOn hsettled.candid limits wall s.root
  obtain ⟨enough, hcached⟩ := (hst.agrees hsettled).respond raw
  obtain ⟨enough', hplainly⟩ := hplain.respond raw
  rw [hst.disk, hst.root] at hcached
  refine ⟨⟨max enough enough', fun turns hle => ⟨_, hcached turns ?_, hplainly turns ?_⟩⟩,
    fun deed hkeeps => ?_, handle_eq_perform (hst.agrees hsettled).rest⟩
  · exact Nat.le_trans (Nat.le_max_left _ _) hle
  · exact Nat.le_trans (Nat.le_max_right _ _) hle
  · obtain ⟨enough, hrest⟩ := t.exists_enough deed
    exact ⟨enough, fun turns hle => hst.deed deed turns hkeeps (hrest turns hle)⟩

/-! ### A stale copy -/

/-- A disk with one file. -/
def shelf : Disk where
  tree place :=
    if place = ["www"] then some .directory
    else if place = ["www", "a"] then some (.file 0) else none
  files _ := { bytes := [1, 2, 3], modified := ⟨0, 0⟩, reported := none }
  fresh := 1
  faults _ _ := none

def rewriting : Edit := .write "www/a" [4, 5] ⟨5, 0⟩

def switchingOn : Request where
  method := "PUT"
  target := "/cache/enabled"
  headers := [("content-type", "application/json")]
  body := Bytes.ofString "[true]"

def askingForFile : Request := { method := "GET", target := "/static/a", headers := [], body := [] }

/-- The server has cached the file. -/
def stocked : Server :=
  ((freshOn shelf ⟨500, 1000, 1000⟩ ⟨0, 0⟩ "www").perform 20 (.request switchingOn)).perform 20
    (.request askingForFile)

/-- The file was written anew since. -/
def stale : Server := stocked.perform 20 (.edit rewriting)

theorem disk_stocked : stocked.world.disk = shelf :=
  (disk_perform rfl 20).trans (disk_perform rfl 20)

theorem disk_stale : stale.world.disk =
    shelf.putFile 0 { bytes := [4, 5], modified := ⟨5, 0⟩, reported := none } := by
  have hparts : Path.partsOf "www/a" = ["www", "a"] := by decide +kernel
  have hedit : shelf.edit? rewriting =
      some (shelf.putFile 0 { bytes := [4, 5], modified := ⟨5, 0⟩, reported := none }) := by
    simp only [rewriting, Disk.edit?, hparts]
    rfl
  refine (World.disk_settle _ 20).trans ?_
  rw [start, disk_stocked, hedit]
  rfl

theorem driven_stale : stale.Driven :=
  .deed (.deed (.deed (.fresh shelf _ _ _) _ 20 (by decide +kernel)) _ 20 (by decide +kernel)) _ 20
    (by decide +kernel)

theorem honest_stale : stale.Honest := by
  have hmapped : stale.world.store.mapped = [0] := by decide +kernel
  have hentry : stale.world.store.entry? 0 =
      some { path := ⟨"www/a"⟩, content := .present ⟨[1, 2, 3], ⟨⟨0, 0⟩, 3⟩⟩, touched := 0 } := by
    decide +kernel
  have hstat : (stale.world.disk.statPath ⟨"www/a"⟩).toOption =
      some { regular := true, stamp := ⟨⟨5, 0⟩, 2⟩ } := by decide +kernel
  intro id hid e copy status he hcontent hstat' _ hstamp
  rw [hmapped, List.mem_singleton] at hid
  subst hid
  rw [hentry, Option.some.injEq] at he
  subst he
  cases hcontent
  rw [hstat'] at hstat
  cases hstat
  cases hstamp

theorem transparent_stale : ∃ enough, ∀ turns, enough ≤ turns → ∃ response,
    ((stale.perform 40 .sweep).perform 20 (.request askingForFile)).respond turns "a" =
        some response ∧
      (freshOn (stale.perform 40 .sweep).world.disk ⟨0, 0, 0⟩ ⟨0, 0⟩ "www").respond turns "a" =
        some response := by
  have hfaultless : stale.world.disk.Faultless := by
    rw [disk_stale]
    exact fun _ _ => rfl
  have htruthful : stale.world.disk.Truthful := by
    rw [disk_stale]
    intro id
    by_cases hid : id = 0
    · simp [Disk.statusOf, Disk.putFile, hid]
    · simp [Disk.statusOf, Disk.putFile, hid, shelf]
  have hsettled : (stale.perform 40 .sweep).Settled :=
    .swept driven_stale .sweep 40 { preloaded := 1 } rfl rfl (by decide +kernel) hfaultless
      htruthful honest_stale (by decide +kernel) rfl
  have hfollows : (stale.perform 40 .sweep).Follows
      ((stale.perform 40 .sweep).perform 20 (.request askingForFile)) :=
    .deed .start (.request askingForFile) 20 rfl (by decide +kernel)
  exact (transparent hsettled hfollows "a" ⟨0, 0, 0⟩ ⟨0, 0⟩).1

end Server
end FileCache
