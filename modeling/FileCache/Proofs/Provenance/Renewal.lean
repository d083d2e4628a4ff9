import FileCache.Proofs.Disk.Change
import FileCache.Proofs.Provenance.Whole

/-!
A stamp that still fits vouches for the content.

The modification time of a copy is taken before its bytes are.  If every change at a place
brings a time that was never seen there, then the file that has the time of the copy there is
the one that was read, with the bytes that were read: any change in between, or since, would
have put another time in the place of that one for good.
-/

namespace FileCache

open Time (Timestamp)

/-! ## The history of a place -/

/-- A file with this modification time is among those seen. -/
def Seen (time : Timestamp) (history : List (Option Version)) : Prop :=
  some time ∈ history.map fun sight => sight.map (·.modified)

instance (time : Timestamp) (history : List (Option Version)) : Decidable (Seen time history) :=
  inferInstanceAs (Decidable (some time ∈ history.map fun sight => sight.map (·.modified)))

/-- Of what was seen at a place, the latest first: every change of the file, of its bytes or
of its modification time left no file there, or one with a time that had not been seen. -/
def Renewed : List (Option Version) → Prop
  | now :: before :: older =>
    (now = before ∨ ∀ version ∈ now, ¬ Seen version.modified (before :: older)) ∧
      Renewed (before :: older)
  | _ => True

def Renewed.decide : (history : List (Option Version)) → Decidable (Renewed history)
  | [] => isTrue trivial
  | [_] => isTrue trivial
  | now :: before :: older =>
    have := Renewed.decide (before :: older)
    inferInstanceAs (Decidable
      ((now = before ∨ ∀ version ∈ now, ¬ Seen version.modified (before :: older)) ∧
        Renewed (before :: older)))

instance : DecidablePred Renewed := Renewed.decide

theorem Renewed.tail {now : Option Version} {history : List (Option Version)}
    (h : Renewed (now :: history)) : Renewed history := by
  cases history with
  | nil => trivial
  | cons before older => exact h.2

/-- What was seen at a place in the course of a run, the latest first. -/
def World.sightings (w : World) (events : List World.Event) (place : Place) :
    List (Option Version) :=
  ((w.passed events).map fun v => v.disk.versionAt? place).reverse

/-- The regular file that a path leads to, if everything on the way is there. -/
def Disk.versionAlong? (d : Disk) (path : Path) : Option Version :=
  match d.locate path with
  | .ok _ => d.versionAt? path.place
  | .error _ => none

/-- What a path has led to in the course of a run, the latest first. -/
def World.encounters (w : World) (events : List World.Event) (path : Path) :
    List (Option Version) :=
  ((w.passed events).map fun v => v.disk.versionAlong? path).reverse

/-! ## From one disk to the next -/

namespace Disk

/-- The time was seen at the place, and a file that has it there now is as `P` says. -/
structure Known (history : List (Option Version)) (d : Disk) (place : Place) (time : Timestamp)
    (P : Version → Prop) : Prop where
  seen : Seen time history
  only : ∀ version, d.versionAt? place = some version → version.modified = time → P version

/-- The file is at the place or has left the tree, and what has its modification time at the
place is that file. -/
structure Bound (history : List (Option Version)) (d : Disk) (place : Place) (id : FileId) :
    Prop where
  stays : d.tree place = some (.file id) ∨ d.Lost id
  known : d.Known history place (d.files id).modified (·.file = id)

/-- A history that has come as far as the disk. -/
def Ends (history : List (Option Version)) (d : Disk) (place : Place) : Prop :=
  ∃ older, history = d.versionAt? place :: older

variable {d d' : Disk} {place : Place} {history : List (Option Version)} {time : Timestamp}
  {P : Version → Prop} {id : FileId}

theorem bytes_of_versionAt? {version : Version} (h : d.versionAt? place = some version) :
    version.bytes = (d.files version.file).bytes := by
  have heq := versionAt?_eq (tree_of_versionAt? h)
  rw [h, Option.some.injEq] at heq
  rw [heq]

theorem Ends.seen (h : d.Ends history place) {version : Version}
    (hversion : d.versionAt? place = some version) : Seen version.modified history := by
  obtain ⟨older, rfl⟩ := h
  rw [Seen, List.map_cons, hversion]
  exact List.mem_cons_self

theorem seen_cons (now : Option Version) (h : Seen time history) : Seen time (now :: history) :=
  List.mem_cons_of_mem _ h

/-- A time once seen is at the place as it was, or not at all. -/
theorem Known.renew (h : d.Known history place time P) (hends : d.Ends history place)
    (hrenewed : Renewed (d'.versionAt? place :: history)) :
    d'.Known (d'.versionAt? place :: history) place time P := by
  obtain ⟨older, rfl⟩ := hends
  refine ⟨seen_cons _ h.seen, fun version hversion htime => ?_⟩
  rcases hrenewed.1 with hsame | hnew
  · exact h.only version (hsame ▸ hversion) htime
  · exact absurd (htime ▸ h.seen) (hnew version hversion)

/-- A file that is open stays bound to the place it was opened at. -/
theorem Bound.renew (h : d.Bound history place id) (hends : d.Ends history place)
    (hproper : d.Proper) (hchange : Change d d')
    (hrenewed : Renewed (d'.versionAt? place :: history)) :
    d'.Bound (d'.versionAt? place :: history) place id := by
  have haway (hlost : d'.Lost id) (hfiles : d'.files id = d.files id) :
      d'.Bound (d'.versionAt? place :: history) place id := by
    refine ⟨.inr hlost, ?_⟩
    rw [hfiles]
    exact h.known.renew hends hrenewed
  rcases h.stays with hplace | hlost
  · rcases hchange.kept_or_lost hproper hplace with hplace' | ⟨hlost, hfiles⟩
    · have hversion := versionAt?_eq hplace'
      refine ⟨.inl hplace', ?_, fun version hv _ => ?_⟩
      · rw [hversion]
        exact List.mem_cons_self
      · rw [hversion, Option.some.injEq] at hv
        rw [← hv]
    · exact haway hlost hfiles
  · obtain ⟨hlost', hfiles⟩ := hchange.lost hlost
    exact haway hlost' hfiles

/-- A file that was just opened is bound to its place. -/
theorem Ends.bound (h : d.Ends history place) (hplace : d.tree place = some (.file id)) :
    d.Bound history place id := by
  have hversion := versionAt?_eq hplace
  refine ⟨.inl hplace, h.seen hversion, fun version hv _ => ?_⟩
  rw [hversion, Option.some.injEq] at hv
  rw [← hv]

end Disk

/-! ## Readings -/

namespace Reading

/-- What is known of a reading of the file at a place: what it has open is bound to the
place, and so is the time that it took. -/
def Tied (history : List (Option Version)) (d : Disk) (place : Place) : Reading → Prop
  | .measuring (.file id) => d.Bound history place id
  | .fetching (.file id) modified => d.Known history place modified (·.file = id)
  | .fetching .directory _ => False
  | _ => True

variable {d d' : Disk} {place : Place} {path : Path} {history : List (Option Version)}
  {r r' : Reading}

theorem Tied.renew (h : r.Tied history d place) (hends : d.Ends history place)
    (hproper : d.Proper) (hchange : Disk.Change d d')
    (hrenewed : Renewed (d'.versionAt? place :: history)) :
    r.Tied (d'.versionAt? place :: history) d' place := by
  cases r with
  | measuring handle =>
    cases handle with
    | directory => trivial
    | file id => exact Disk.Bound.renew h hends hproper hchange hrenewed
  | fetching handle modified =>
    cases handle with
    | directory => exact h
    | file id => exact Disk.Known.renew h hends hrenewed
  | _ => trivial

/-- The stamp is taken from the file that is open. -/
theorem Tied.goes (h : r.Tied history d path.place) (hends : d.Ends history path.place)
    (hgo : r.advance d path = r') : r'.Tied history d path.place := by
  have hcourse := advance_course d path r
  rw [hgo] at hcourse
  cases hcourse with
  | @opened handle hopen =>
    cases handle with
    | directory => trivial
    | file id => exact hends.bound (Disk.tree_of_locate (Disk.locate_of_openPath hopen))
  | @measured handle status hstat hregular =>
    have hstatus := Disk.statusOf_of_statHandle hstat
    obtain ⟨id, rfl⟩ := Disk.file_of_regular (hstatus ▸ hregular)
    rw [← hstatus]
    exact h.known
  | _ => trivial

/-- The bytes are taken from the file that has the time of the stamp. -/
theorem Tied.ends {copy : Copy} (h : r.Tied history d place)
    (hgoes : ∀ result, r ≠ .finished result) (hend : r.advance d path = .finished (.copy copy)) :
    d.Known history place copy.stamp.modified (·.bytes = copy.bytes) := by
  have hcourse := advance_course d path r
  rw [hend] at hcourse
  cases hcourse with
  | complete => exact absurd rfl (hgoes _)
  | @fetched handle modified bytes hread =>
    have hbytes := Disk.contentsOf_of_readHandle hread
    cases handle with
    | directory => exact h.elim
    | file id =>
      refine ⟨h.seen, fun version hversion htime => ?_⟩
      have hfile : version.file = id := h.only version hversion htime
      rw [Disk.bytes_of_versionAt? hversion, hfile]
      exact hbytes

end Reading

/-! ## Runs -/

namespace World

variable {w v v' : World} {events : List Event} {event : Event} {notices more : List Notice}

/-- What is known of readings while the place of their path is renewed by every change. -/
def renewing (w : World) (events : List Event) (d : Disk) : Evidence where
  reading _ path r := Renewed (w.sightings events path.place) →
    (∀ result, r ≠ .finished result) ∧ r.Tied (w.sightings events path.place) d path.place
  result path result := Renewed (w.sightings events path.place) → ∀ copy, result = .copy copy →
    d.Known (w.sightings events path.place) path.place copy.stamp.modified (·.bytes = copy.bytes)
  missing _ := True

theorem apply_change (h : v.apply event = some (v', more)) : Disk.Change v.disk v'.disk := by
  cases apply_happens h with
  | turn hstep =>
    rw [step_disk hstep]
    exact .same v.disk
  | edit hedit => exact Disk.edit_change hedit
  | request =>
    rw [disk_requestScan]
    exact .same v.disk
  | _ => exact .same v.disk

theorem sightings_snoc (hrun : w.run events = some (v, notices))
    (happly : v.apply event = some (v', more)) (place : Place) :
    w.sightings (events ++ [event]) place =
      v'.disk.versionAt? place :: w.sightings events place := by
  rw [sightings, passed_snoc hrun happly, List.map_append, List.reverse_append]
  rfl

theorem sightings_ends (hrun : w.run events = some (v, notices)) (place : Place) :
    v.disk.Ends (w.sightings events place) place := by
  refine run_induction (P := fun events v => v.disk.Ends (w.sightings events place) place)
    ⟨[], rfl⟩ ?_ hrun
  intro before u event u' first more hbefore happly _
  exact ⟨w.sightings before place, sightings_snoc hbefore happly place⟩

theorem renewing_grows (hrun : w.run events = some (v, notices)) (hproper : v.disk.Proper)
    (happly : v.apply event = some (v', more)) :
    (w.renewing events v.disk).Grows (w.renewing (events ++ [event]) v'.disk) v event := by
  have hends (place : Place) := sightings_ends hrun place
  have hchange := apply_change happly
  have hsnoc (place : Place) := sightings_snoc hrun happly place
  constructor
  · intro path result h hrenewed copy hcopy
    rw [hsnoc] at hrenewed ⊢
    exact (h hrenewed.tail copy hcopy).renew (hends path.place) hrenewed
  · exact fun _ _ => trivial
  · exact fun _ _ => trivial
  · exact fun _ _ => trivial
  · exact fun agent path _ => ⟨nofun, trivial⟩
  · intro agent path r _ h _ hrenewed
    rw [hsnoc] at hrenewed ⊢
    obtain ⟨hgoes, htied⟩ := h hrenewed.tail
    exact ⟨hgoes, htied.renew (hends path.place) hproper hchange hrenewed⟩
  · intro agent path r r' _ h _ hgo hnot hrenewed
    rw [hsnoc] at hrenewed ⊢
    have htied := (h hrenewed.tail).2.goes (hends path.place) hgo
    exact ⟨hnot, htied.renew (hends path.place) hproper hchange hrenewed⟩
  · intro agent path r result _ h _ hend hrenewed copy hcopy
    subst hcopy
    rw [hsnoc] at hrenewed ⊢
    obtain ⟨hgoes, htied⟩ := h hrenewed.tail
    exact (htied.ends hgoes hend).renew (hends path.place) hrenewed

theorem backed_renewing {disk : Disk} (hdisk : disk.Proper) {limits : Limits}
    {wall : Timestamp} (hrun : (freshOn disk limits wall).run events = some (v, notices)) :
    v.Backed ((freshOn disk limits wall).renewing events v.disk) := by
  have hboth : v.disk.Proper ∧ v.Backed ((freshOn disk limits wall).renewing events v.disk) := by
    refine run_induction (P := fun events v =>
      v.disk.Proper ∧ v.Backed ((freshOn disk limits wall).renewing events v.disk))
      ⟨hdisk, .freshOn _ disk limits wall⟩ ?_ hrun
    rintro before u event u' first more hbefore happly ⟨hproper, hu⟩
    exact ⟨(apply_change happly).proper hproper,
      hu.apply (.of_run hbefore) (renewing_grows hbefore hproper happly) happly⟩
  exact hboth.2

/-- A copy whose stamp is that of the file at its path has the bytes of that file. -/
theorem bytes_of_stamp {disk : Disk} (hdisk : disk.Proper) {limits : Limits} {wall : Timestamp}
    (hrun : (freshOn disk limits wall).run events = some (v, notices)) {id : EntryId} {e : Entry}
    {copy : Copy} {status : Status} (he : v.store.entry? id = some e)
    (hcontent : e.content = .present copy)
    (hrenewed : Renewed ((freshOn disk limits wall).sightings events e.path.place))
    (hstat : v.disk.statPath e.path = .ok status) (hregular : status.regular = true)
    (hstamp : status.stamp.differs copy.stamp = false) :
    ∃ file, v.disk.locate e.path = .ok (.file file) ∧ (v.disk.files file).bytes = copy.bytes := by
  have hentry := (backed_renewing hdisk hrun).entries id e he
  rw [hcontent] at hentry
  have hknown := hentry hrenewed copy rfl
  obtain ⟨item, hlocate, hstatus⟩ := Disk.locate_of_statPath hstat
  obtain ⟨file, rfl⟩ := Disk.file_of_regular (hstatus ▸ hregular)
  have hversion := Disk.versionAt?_eq (Disk.tree_of_locate hlocate)
  have htime : (v.disk.files file).modified = copy.stamp.modified := by
    simp only [Stamp.differs, decide_eq_false_iff_not, not_or, Decidable.not_not] at hstamp
    rw [← hstamp.1, ← hstatus]
    rfl
  exact ⟨file, hlocate, hknown.only _ hversion htime⟩

/-- Whatever an entry holds or a lookup returns was read at one go, and a copy whose stamp is
that of its file holds what the file holds, if every change of the file brings a time never
seen at its place. -/
theorem copies_sound (disk : Disk) (limits : Limits) (wall : Timestamp) (events : List Event)
    (v : World) (notices : List Notice)
    (hrun : (freshOn disk limits wall).run events = some (v, notices)) :
    (∀ id path copy, v.lookup? id = some (path, .done (some copy)) →
      copy.stamp.size = copy.bytes.length ∧
        ∃ asked : Path, asked.same path = true ∧
          (freshOn disk limits wall).ReadWhole events asked copy) ∧
    (∀ id e copy, v.store.entry? id = some e → e.content = .present copy →
      copy.stamp.size = copy.bytes.length ∧
        (freshOn disk limits wall).ReadWhole events e.path copy) ∧
    (disk.Proper → ∀ id e copy status, v.store.entry? id = some e → e.content = .present copy →
      Renewed ((freshOn disk limits wall).sightings events e.path.place) →
      v.disk.statPath e.path = .ok status → status.regular = true →
      status.stamp.differs copy.stamp = false →
      ∃ file, v.disk.locate e.path = .ok (.file file) ∧
        (v.disk.files file).bytes = copy.bytes) := by
  have hwhole := backed_whole hrun
  refine ⟨fun id path copy hat => ?_, fun id e copy he hcontent => ?_, ?_⟩
  · rcases hwhole.lookups id path _ hat with
      ⟨result, hresult, heq⟩ | ⟨kept, content, hsame, hcontent, heq⟩
    · cases result with
      | copy other =>
        cases heq
        have hread := hresult copy rfl
        exact ⟨hread.size, path, decide_eq_true rfl, hread⟩
      | absent => cases heq
      | failed error => cases heq
    · cases content with
      | present other =>
        cases heq
        have hread := hcontent copy rfl
        exact ⟨hread.size, kept, hsame, hread⟩
      | missing => cases heq
      | reloading => cases heq
  · have hentry := hwhole.entries id e he
    rw [hcontent] at hentry
    have hread := hentry copy rfl
    exact ⟨hread.size, hread⟩
  · intro hdisk id e copy status he hcontent hrenewed hstat hregular hstamp
    exact bytes_of_stamp hdisk hrun he hcontent hrenewed hstat hregular hstamp

theorem ok_of_toOption {error value : Type} {r : Except error value} {a : value}
    (h : r.toOption = some a) : r = .ok a := by
  cases r with
  | ok b => exact congrArg Except.ok (Option.some.inj h)
  | error => cases h

/-- A file is written to twice while a lookup is reading it, and a sweep brings the entry in
line with it afterwards. -/
def rewritten : List Event :=
  [Event.edit (.write "a" [1] ⟨1, 0⟩), .call (.toggle true), .turn (.call 0),
    .call (.lookup ⟨"a"⟩)] ++
  List.replicate 6 (Event.turn (.call 1)) ++
  [Event.edit (.write "a" [2, 2] ⟨2, 0⟩), .turn (.call 1), .edit (.write "a" [3] ⟨3, 0⟩)] ++
  List.replicate 3 (Event.turn (.call 1)) ++ [Event.call .sweep] ++
  List.replicate 9 (Event.turn (.call 2))

/-- The lookup returns the last bytes under the stamp before the last, both from one reading,
and the entry comes to hold what the file holds. -/
theorem copies_sound_rewritten :
    ∃ v notices, (freshOn Disk.empty ⟨7, 10, 1000⟩ ⟨0, 0⟩).run rewritten = some (v, notices) ∧
      v.lookup? 1 = some (⟨"a"⟩, .done (some ⟨[3], ⟨⟨2, 0⟩, 1⟩⟩)) ∧
      (∃ asked : Path, asked.same ⟨"a"⟩ = true ∧
        (freshOn Disk.empty ⟨7, 10, 1000⟩ ⟨0, 0⟩).ReadWhole rewritten asked
          ⟨[3], ⟨⟨2, 0⟩, 1⟩⟩) ∧
      (freshOn Disk.empty ⟨7, 10, 1000⟩ ⟨0, 0⟩).ReadWhole rewritten ⟨"a"⟩ ⟨[3], ⟨⟨3, 0⟩, 1⟩⟩ ∧
      ∃ file, v.disk.locate ⟨"a"⟩ = .ok (.file file) ∧ (v.disk.files file).bytes = [3] := by
  have hrun : ((freshOn Disk.empty ⟨7, 10, 1000⟩ ⟨0, 0⟩).run rewritten).map (fun r =>
      (r.1.lookup? 1, r.1.store.entry? 0, (r.1.disk.statPath ⟨"a"⟩).toOption)) =
      some (some (⟨"a"⟩, .done (some ⟨[3], ⟨⟨2, 0⟩, 1⟩⟩)),
        some ⟨⟨"a"⟩, .present ⟨[3], ⟨⟨3, 0⟩, 1⟩⟩, 0⟩, some ⟨true, ⟨⟨3, 0⟩, 1⟩⟩) := by
    decide +kernel
  have hrenewed : Renewed ((freshOn Disk.empty ⟨7, 10, 1000⟩ ⟨0, 0⟩).sightings rewritten
      (Path.place ⟨"a"⟩)) := by decide +kernel
  obtain ⟨⟨v, notices⟩, hrun, hend⟩ := Option.map_eq_some_iff.mp hrun
  obtain ⟨hlookup, hend⟩ := Prod.mk.inj hend
  obtain ⟨hentry, hstat⟩ := Prod.mk.inj hend
  have hstat := ok_of_toOption hstat
  obtain ⟨hanswers, hheld, hfits⟩ :=
    copies_sound Disk.empty ⟨7, 10, 1000⟩ ⟨0, 0⟩ rewritten v notices hrun
  exact ⟨v, notices, hrun, hlookup, (hanswers 1 _ _ hlookup).2, (hheld 0 _ _ hentry rfl).2,
    hfits ⟨nofun, nofun⟩ 0 _ _ _ hentry rfl hrenewed hstat rfl (by decide)⟩

/-! ### Stamps that deceive -/

/-- The entry has the stamp of the file at its path, but not the bytes. -/
def Deceived (w : World) (e : Entry) : Prop :=
  ∃ copy status file, e.content = .present copy ∧ w.disk.statPath e.path = .ok status ∧
    status.regular = true ∧ status.stamp.differs copy.stamp = false ∧
    w.disk.locate e.path = .ok (.file file) ∧ (w.disk.files file).bytes ≠ copy.bytes

/-- What the outcome of a run has to show of one entry for it to be deceived there. -/
theorem deceived_of_run {disk : Disk} {events : List Event} {path : Path} {copy : Copy}
    {status : Status} {file : FileId} {bytes : Bytes}
    (hends : ((freshOn disk ⟨7, 10, 1000⟩ ⟨0, 0⟩).run events).map (fun r =>
        (r.1.store.entry? 0, (r.1.disk.statPath path).toOption,
          (r.1.disk.locate path).toOption, (r.1.disk.files file).bytes)) =
      some (some ⟨path, .present copy, 0⟩, some status, some (.file file), bytes))
    (hregular : status.regular = true) (hstamp : status.stamp.differs copy.stamp = false)
    (hbytes : bytes ≠ copy.bytes) :
    ∃ v notices, (freshOn disk ⟨7, 10, 1000⟩ ⟨0, 0⟩).run events = some (v, notices) ∧
      v.store.entry? 0 = some ⟨path, .present copy, 0⟩ ∧
      v.Deceived ⟨path, .present copy, 0⟩ := by
  obtain ⟨⟨v, notices⟩, hrun, hend⟩ := Option.map_eq_some_iff.mp hends
  simp only [Prod.mk.injEq] at hend
  obtain ⟨hentry, hstat, hlocate, hheld⟩ := hend
  exact ⟨v, notices, hrun, hentry, copy, status, file, rfl, ok_of_toOption hstat, hregular, hstamp,
    ok_of_toOption hlocate, hheld ▸ hbytes⟩

/-- A disk with one file, which goes by two names. -/
def twoNames : Disk where
  tree place := if place = ["a"] ∨ place = ["b"] then some (.file 0) else none
  files _ := { bytes := [1], modified := ⟨1, 0⟩, reported := none }
  fresh := 1
  faults _ _ := none

/-- While a lookup reads the file by its first name, that name is taken from it, and it is written
by its second.  Another file comes by the first name later. -/
def renamed : List Event :=
  [Event.call (.toggle true), .turn (.call 0), .call (.lookup ⟨"a"⟩)] ++
  List.replicate 6 (Event.turn (.call 1)) ++
  [Event.edit (.remove "a"), .edit (.write "b" [3] ⟨3, 0⟩)] ++
  List.replicate 4 (Event.turn (.call 1)) ++ [Event.edit (.write "a" [4] ⟨3, 0⟩)]

/-- While a lookup reads a file by way of a directory, that directory is removed, and the file is
written.  It is written again, under the same time, before the directory is back. -/
def detoured : List Event :=
  [Event.edit (.makeDirectory "x"), .edit (.write "a" [1] ⟨1, 0⟩), .call (.toggle true),
    .turn (.call 0), .call (.lookup ⟨"x/../a"⟩)] ++
  List.replicate 6 (Event.turn (.call 1)) ++
  [Event.edit (.remove "x"), .edit (.write "a" [3] ⟨3, 0⟩)] ++
  List.replicate 4 (Event.turn (.call 1)) ++
  [Event.edit (.write "a" [4] ⟨3, 0⟩), .edit (.makeDirectory "x")]

/-- A file that keeps its second name can be changed after it has left the place that it was opened
at, and one that its path does not lead to for a while can be changed at its place.  Neither change
is seen on the path of the entry. -/
theorem stamps_deceive :
    (∃ v notices e, (freshOn twoNames ⟨7, 10, 1000⟩ ⟨0, 0⟩).run renamed = some (v, notices) ∧
      v.store.entry? 0 = some e ∧
      Renewed ((freshOn twoNames ⟨7, 10, 1000⟩ ⟨0, 0⟩).sightings renamed e.path.place) ∧
      Renewed ((freshOn twoNames ⟨7, 10, 1000⟩ ⟨0, 0⟩).encounters renamed e.path) ∧
      v.Deceived e) ∧
    ∃ v notices e, (freshOn Disk.empty ⟨7, 10, 1000⟩ ⟨0, 0⟩).run detoured = some (v, notices) ∧
      v.store.entry? 0 = some e ∧
      Renewed ((freshOn Disk.empty ⟨7, 10, 1000⟩ ⟨0, 0⟩).encounters detoured e.path) ∧
      v.Deceived e := by
  constructor
  · have hends : ((freshOn twoNames ⟨7, 10, 1000⟩ ⟨0, 0⟩).run renamed).map (fun r =>
        (r.1.store.entry? 0, (r.1.disk.statPath ⟨"a"⟩).toOption,
          (r.1.disk.locate ⟨"a"⟩).toOption, (r.1.disk.files 1).bytes)) =
        some (some ⟨⟨"a"⟩, .present ⟨[3], ⟨⟨3, 0⟩, 1⟩⟩, 0⟩, some ⟨true, ⟨⟨3, 0⟩, 1⟩⟩,
          some (.file 1), [4]) := by decide +kernel
    have hrenewed : Renewed ((freshOn twoNames ⟨7, 10, 1000⟩ ⟨0, 0⟩).sightings renamed
          (Path.place ⟨"a"⟩)) ∧
        Renewed ((freshOn twoNames ⟨7, 10, 1000⟩ ⟨0, 0⟩).encounters renamed ⟨"a"⟩) := by
      decide +kernel
    obtain ⟨v, notices, hrun, hentry, hdeceived⟩ :=
      deceived_of_run hends rfl (by decide) (by decide)
    exact ⟨v, notices, _, hrun, hentry, hrenewed.1, hrenewed.2, hdeceived⟩
  · have hends : ((freshOn Disk.empty ⟨7, 10, 1000⟩ ⟨0, 0⟩).run detoured).map (fun r =>
        (r.1.store.entry? 0, (r.1.disk.statPath ⟨"x/../a"⟩).toOption,
          (r.1.disk.locate ⟨"x/../a"⟩).toOption, (r.1.disk.files 0).bytes)) =
        some (some ⟨⟨"x/../a"⟩, .present ⟨[3], ⟨⟨3, 0⟩, 1⟩⟩, 0⟩, some ⟨true, ⟨⟨3, 0⟩, 1⟩⟩,
          some (.file 0), [4]) := by decide +kernel
    have hrenewed : Renewed ((freshOn Disk.empty ⟨7, 10, 1000⟩ ⟨0, 0⟩).encounters detoured
        ⟨"x/../a"⟩) := by decide +kernel
    obtain ⟨v, notices, hrun, hentry, hdeceived⟩ :=
      deceived_of_run hends rfl (by decide) (by decide)
    exact ⟨v, notices, _, hrun, hentry, hrenewed, hdeceived⟩

end World
end FileCache
