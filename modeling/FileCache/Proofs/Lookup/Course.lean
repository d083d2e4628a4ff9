import FileCache.Lookup
import FileCache.Proofs.Store.Bytes

/-!
What one turn of a lookup can be.

`Course` lists the turns, each with the condition under which it is taken, the phase it
leads to and the store it leaves behind.  `step_course` says that there are no others;
every invariant of lookups is a case analysis over it.
-/

namespace FileCache

open Store (Alike)

/-- What a lookup says of a file, from the outcome of reading it. -/
def ReadResult.answer : ReadResult → Option Copy
  | .copy c => some c
  | .absent => none
  | .failed _ => none

namespace Content

/-- What a lookup says of a file, from the content of its entry. -/
def answer? : Content → Option (Option Copy)
  | .present copy => some (some copy)
  | .missing => some none
  | .reloading => none

/-- What a lookup that finds this content counts as. -/
def counted : Content → Count
  | .present _ => .hit
  | .missing => .negativeHit
  | .reloading => .bypass

end Content

namespace Lookup

/-- A lookup that has its answer is at its end, or has a gate still to leave. -/
def answered (gate : Option GateId) (answer : Option Copy) : Lookup :=
  match gate with
  | none => .done answer
  | some g => .leaving g answer

def reopened (gate : Option GateId) (s : Store) : Store :=
  match gate with
  | none => s
  | some g => s.unlock g

theorem reply_eq (gate : Option GateId) (answer : Option Copy) (s : Store)
    (notices : List Notice) :
    (reply gate answer s notices).next = answered gate answer ∧
      (reply gate answer s notices).store = reopened gate s := by
  cases gate <;> exact ⟨rfl, rfl⟩

/-- The turns of a lookup of `path` on the store `s`: the phase before, the phase
after, and the store after. -/
inductive Course (now : Nat) (disk : Disk) (path : Path) (s : Store) :
    Lookup → Lookup → Store → Prop
  | enter (h : s.enabled = true) : Course now disk path s .starting .probing s
  | passBy (h : s.enabled = false) :
      Course now disk path s .starting (.bypassing none .opening) (s.count .bypass)
  | find {id : EntryId} (h : s.find? path = some id) :
      Course now disk path s .probing (.found none id) s
  | miss (h : s.find? path = none) : Course now disk path s .probing .arriving s
  | take {gate : Option GateId} {id : EntryId} {e : Entry} {answer : Option Copy}
      (he : s.entry? id = some e) (h : e.content.answer? = some answer) :
      Course now disk path s (.found gate id) (answered gate answer)
        (reopened gate ((s.markUsed now id).count e.content.counted))
  | reload {gate : Option GateId} {id : EntryId} {e : Entry}
      (he : s.entry? id = some e) (h : e.content = .reloading) :
      Course now disk path s (.found gate id) (.bypassing gate .opening)
        ((s.markUsed now id).count .bypass)
  | arrive : Course now disk path s .arriving (.waiting (s.arrive path).1) (s.arrive path).2
  | pass {gate : GateId} (h : s.isLocked gate = false) :
      Course now disk path s (.waiting gate) (.rechecking gate) (s.lock gate)
  | findAgain {gate : GateId} {id : EntryId} (h : s.find? path = some id) :
      Course now disk path s (.rechecking gate) (.found (some gate) id) s
  | load {gate : GateId} (h : s.find? path = none) :
      Course now disk path s (.rechecking gate) (.loading gate .opening) (s.count .miss)
  | read {gate : GateId} {r r' : Reading} (h : r.advance disk path = r')
      (hgo : ∀ result, r' ≠ .finished result) :
      Course now disk path s (.loading gate r) (.loading gate r') s
  | keep {gate : GateId} {r : Reading} {copy : Copy}
      (h : r.advance disk path = .finished (.copy copy))
      (hsize : copy.size ≤ s.limits.maxFile) :
      Course now disk path s (.loading gate r) (.storing gate copy) (s.count .diskLoad)
  | outsized {gate : GateId} {r : Reading} {copy : Copy}
      (h : r.advance disk path = .finished (.copy copy))
      (hsize : s.limits.maxFile < copy.size) :
      Course now disk path s (.loading gate r) (.leaving gate (some copy))
        (((s.count .diskLoad).count .bypass).unlock gate)
  | vain {gate : GateId} {r : Reading} {result : ReadResult}
      (h : r.advance disk path = .finished result) (hresult : result.answer = none) :
      Course now disk path s (.loading gate r) (.leaving gate none) (s.unlock gate)
  | insert {gate : GateId} {copy : Copy} (h : s.accepts path copy = true) :
      Course now disk path s (.storing gate copy) (.leaving gate (some copy))
        ((s.insert now path copy).unlock gate)
  | refuse {gate : GateId} {copy : Copy} (h : s.accepts path copy = false) :
      Course now disk path s (.storing gate copy) (.leaving gate (some copy))
        ((s.count .bypass).unlock gate)
  | readAside {gate : Option GateId} {r r' : Reading} (h : r.advance disk path = r')
      (hgo : ∀ result, r' ≠ .finished result) :
      Course now disk path s (.bypassing gate r) (.bypassing gate r') s
  | answer {gate : Option GateId} {r : Reading} {result : ReadResult}
      (h : r.advance disk path = .finished result) :
      Course now disk path s (.bypassing gate r) (answered gate result.answer)
        (reopened gate s)
  | leave {gate : GateId} {answer : Option Copy} :
      Course now disk path s (.leaving gate answer) (.done answer) (s.leave gate path)

variable {now : Nat} {disk : Disk} {path : Path} {s : Store}

theorem course_answerFrom {gate : Option GateId} {id : EntryId} {e : Entry}
    (he : s.entry? id = some e) :
    Course now disk path s (.found gate id)
      (answerFrom gate e.content (s.markUsed now id)).next
      (answerFrom gate e.content (s.markUsed now id)).store := by
  cases hc : e.content with
  | present copy =>
    obtain ⟨hn, hs⟩ := reply_eq gate (some copy) ((s.markUsed now id).count .hit) []
    have hturn : Course now disk path s (.found gate id) (answered gate (some copy))
        (reopened gate ((s.markUsed now id).count e.content.counted)) :=
      .take he (by rw [hc]; rfl)
    rw [hc] at hturn
    rw [answerFrom, hn, hs]
    exact hturn
  | missing =>
    obtain ⟨hn, hs⟩ := reply_eq gate none ((s.markUsed now id).count .negativeHit) []
    have hturn : Course now disk path s (.found gate id) (answered gate none)
        (reopened gate ((s.markUsed now id).count e.content.counted)) :=
      .take he (by rw [hc]; rfl)
    rw [hc] at hturn
    rw [answerFrom, hn, hs]
    exact hturn
  | reloading => exact .reload he hc

theorem course_loaded {gate : GateId} {r : Reading} {result : ReadResult}
    (h : r.advance disk path = .finished result) :
    Course now disk path s (.loading gate r) (loaded path gate s result).next
      (loaded path gate s result).store := by
  cases result with
  | copy copy =>
    simp only [loaded]
    split
    · rename_i hsize
      exact .outsized h hsize
    · rename_i hsize
      exact .keep h (Nat.le_of_not_lt hsize)
  | absent => exact .vain h rfl
  | failed e => exact .vain h rfl

theorem course_bypassed {gate : Option GateId} {r : Reading} {result : ReadResult}
    (h : r.advance disk path = .finished result) :
    Course now disk path s (.bypassing gate r) (bypassed path gate s result).next
      (bypassed path gate s result).store := by
  have hturn : Course now disk path s (.bypassing gate r) (answered gate result.answer)
      (reopened gate s) := .answer h
  cases result with
  | copy copy =>
    obtain ⟨hn, hs⟩ := reply_eq gate (some copy) s []
    rw [bypassed, hn, hs]
    exact hturn
  | absent =>
    obtain ⟨hn, hs⟩ := reply_eq gate none s []
    rw [bypassed, hn, hs]
    exact hturn
  | failed e =>
    obtain ⟨hn, hs⟩ := reply_eq gate none s [.readFailed path]
    rw [bypassed, hn, hs]
    exact hturn

/-- A lookup takes no other turns than those of its course. -/
theorem step_course {phase : Lookup} {st : Step Lookup}
    (h : phase.step now disk path s = some st) :
    Course now disk path s phase st.next st.store := by
  cases phase with
  | starting =>
    simp only [step] at h
    split at h
    · rename_i hon
      cases h
      exact .enter hon
    · rename_i hoff
      cases h
      exact .passBy (Bool.eq_false_iff.mpr hoff)
  | probing =>
    simp only [step] at h
    split at h
    · rename_i id hfind
      cases h
      exact .find hfind
    · rename_i hfind
      cases h
      exact .miss hfind
  | found gate id =>
    simp only [step, Option.map_eq_some_iff] at h
    obtain ⟨e, he, rfl⟩ := h
    exact course_answerFrom he
  | arriving =>
    simp only [step] at h
    cases h
    exact .arrive
  | waiting gate =>
    simp only [step] at h
    split at h
    · cases h
    · rename_i hfree
      cases h
      exact .pass (Bool.eq_false_iff.mpr hfree)
  | rechecking gate =>
    simp only [step] at h
    split at h
    · rename_i id hfind
      cases h
      exact .findAgain hfind
    · rename_i hfind
      cases h
      exact .load hfind
  | loading gate reading =>
    simp only [step] at h
    split at h
    · rename_i result hread
      cases h
      exact course_loaded hread
    · rename_i r' hgo
      cases h
      exact .read rfl hgo
  | storing gate copy =>
    simp only [step] at h
    split at h
    · rename_i haccepts
      cases h
      exact .insert haccepts
    · rename_i hrefuses
      cases h
      exact .refuse (Bool.eq_false_iff.mpr hrefuses)
  | bypassing gate reading =>
    simp only [step] at h
    split at h
    · rename_i result hread
      cases h
      exact course_bypassed hread
    · rename_i r' hgo
      cases h
      exact .readAside rfl hgo
  | leaving gate answer =>
    simp only [step] at h
    cases h
    exact .leave
  | done answer => simp [step] at h

/-! ## The store after a turn -/

/-- The change of the store in one turn of a lookup of `path`, counters and gates left
aside. -/
inductive Effect (now : Nat) (path : Path) (phase : Lookup) (s t : Store) : Prop
  | nothing (h : Alike s t)
  | used {gate : Option GateId} (id : EntryId) (hphase : phase = .found gate id)
      (h : Alike (s.markUsed now id) t)
  | inserted (gate : GateId) (copy : Copy) (hphase : phase = .storing gate copy)
      (haccepts : s.accepts path copy = true) (h : Alike (s.insert now path copy) t)

theorem alike_reopened (gate : Option GateId) (s : Store) : Alike s (reopened gate s) := by
  cases gate with
  | none => exact .refl s
  | some g => exact Store.alike_unlock g s

theorem Course.effect {phase next : Lookup} {t : Store}
    (h : Course now disk path s phase next t) : Effect now path phase s t := by
  cases h with
  | enter | find | miss | findAgain | read | readAside => exact .nothing (.refl s)
  | passBy | load | keep => exact .nothing (Store.alike_count _ s)
  | take => exact .used _ rfl ((Store.alike_count _ _).trans (alike_reopened _ _))
  | reload => exact .used _ rfl (Store.alike_count _ _)
  | arrive => exact .nothing (Store.alike_arrive path s)
  | pass => exact .nothing (Store.alike_lock _ s)
  | outsized =>
    exact .nothing (((Store.alike_count _ s).trans (Store.alike_count _ _)).trans
      (Store.alike_unlock _ _))
  | vain => exact .nothing (Store.alike_unlock _ s)
  | insert h => exact .inserted _ _ rfl h (Store.alike_unlock _ _)
  | refuse => exact .nothing ((Store.alike_count _ s).trans (Store.alike_unlock _ _))
  | answer => exact .nothing (alike_reopened _ s)
  | leave => exact .nothing (Store.alike_leave _ path s)

end Lookup
end FileCache
