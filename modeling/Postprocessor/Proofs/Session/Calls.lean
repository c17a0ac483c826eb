import Postprocessor.Proofs.Log.Context
import Postprocessor.Proofs.Log.Lines
import Postprocessor.Proofs.Session.Keeping

/-!
# Proofs — calls to the log

A session sets logging up, changes the context and reports records, in any order and as often as it
likes.

* `LogCall`: one of these calls; `LogCall.step`, `perform`, `performAll`: what is done.
* `latest`, `changes`: the setup that was made last, and what was done to the context.
* `InForce`: the log is set up as a setup asks for; `inForce_setUp`: so it is where setting it up
  succeeds.
* `Silent`: nothing was written to the console or to any file; `IsQuiet.perform`: nothing is by a
  call that reports nothing.
-/

namespace Postprocessor.Session

/-- A call to the log. -/
inductive LogCall where
  | setUp (u : Setup)
  | push (fields : Params)
  | pop (keys : Option (List String))
  /-- A record is reported at a moment. -/
  | report (time : Log.Moment) (r : Log.Record)

namespace LogCall

/-- What a call does. -/
def step : LogCall → Session.Step SetupFault Unit
  | .setUp u => Session.setUp u
  | .push fields => setLog fun l => l.push fields
  | .pop keys => setLog fun l => l.pop keys
  | .report time r => do
    modify fun s => { s with time }
    Session.report r

/-- What a call asks logging to be set up as. -/
def setup? : LogCall → Option Setup
  | .setUp u => some u
  | _ => none

/-- What a call does to the context. -/
def change? : LogCall → Option Log.Change
  | .setUp u => some (.push u.context)
  | .push fields => some (.push fields)
  | .pop keys => some (.pop keys)
  | .report .. => none

end LogCall

/-- The session after a call. -/
def perform (s : Session) (c : LogCall) : Session := (c.step s).2

/-- The session after calls, whether they succeeded or not. -/
def performAll (s : Session) (calls : List LogCall) : Session := calls.foldl perform s

/-- Each of the calls succeeds. -/
def Succeeds (s : Session) : List LogCall → Prop
  | [] => True
  | c :: calls => (c.step s).1 = .ok () ∧ (s.perform c).Succeeds calls

/-- The setup that was made last. -/
def latest (calls : List LogCall) : Option Setup := (calls.filterMap LogCall.setup?).getLast?

/-- What was done to the context. -/
def changes (calls : List LogCall) : List Log.Change := calls.filterMap LogCall.change?

variable {s s' : Session} {u : Setup} {calls : List LogCall}

theorem performAll_append (s : Session) (calls : List LogCall) (c : LogCall) :
    s.performAll (calls ++ [c]) = (s.performAll calls).perform c := List.foldl_append

theorem Succeeds.of_append {c : LogCall} (h : s.Succeeds (calls ++ [c])) :
    s.Succeeds calls ∧ (c.step (s.performAll calls)).1 = .ok () := by
  induction calls generalizing s with
  | nil => exact ⟨trivial, h.1⟩
  | cons first calls ih =>
      obtain ⟨before, last⟩ := ih h.2
      exact ⟨⟨h.1, before⟩, last⟩

theorem latest_append (calls : List LogCall) (c : LogCall) :
    latest (calls ++ [c]) = c.setup?.or (latest calls) := by
  cases c <;> simp [latest, LogCall.setup?]

theorem changes_append (calls : List LogCall) (c : LogCall) :
    changes (calls ++ [c]) = changes calls ++ c.change?.toList := by
  cases c <;> simp [changes, LogCall.change?]

/-! ### Reports -/

theorem perform_report (s : Session) (time : Log.Moment) (r : Log.Record) :
    s.perform (.report time r) = (s.log.deliveries time r).foldl deliver { s with time } := rfl

/-- What is delivered changes neither the log nor the kind of the console. -/
theorem foldl_deliver (ts : List (Log.Target × String)) (s : Session) :
    (ts.foldl deliver s).log = s.log ∧ (ts.foldl deliver s).terminal = s.terminal := by
  induction ts generalizing s with
  | nil => exact ⟨rfl, rfl⟩
  | cons t ts ih =>
      obtain ⟨hlog, hterminal⟩ := ih (s.deliver t)
      obtain ⟨_ | id, line⟩ := t
      all_goals exact ⟨hlog, hterminal⟩

theorem log_report (s : Session) (time : Log.Moment) (r : Log.Record) :
    (s.perform (.report time r)).log = s.log := (foldl_deliver _ _).1

/-- **The context after a call** that succeeds is made of the fields that stand then. -/
theorem isContext_perform (h : Log.IsContext (changes calls) s.log.context) {c : LogCall}
    (ok : (c.step s).1 = .ok ()) :
    Log.IsContext (changes (calls ++ [c])) (s.perform c).log.context := by
  rw [changes_append]
  cases c with
  | setUp u =>
      have pushed := h.apply (.push u.context)
      have done := setsUp_setUp u s
      rw [perform]
      rw [LogCall.step] at ok ⊢
      generalize setUp u s = r at done ok ⊢
      cases done with
      | unknown | refused => cases ok
      | unnamed | opened => exact pushed
  | push fields => exact h.apply (.push fields)
  | pop keys => exact h.apply (.pop keys)
  | report time r =>
      rw [log_report, LogCall.change?, Option.toList_none, List.append_nil]
      exact h

/-! ### The setup in force -/

/-- The log has the handlers that a setup asks for, the one for the file adding to the file at its
path. -/
inductive Attached (u : Setup) (s : Session) : Prop
  | console (hu : u.path? = none) (hh : s.log.handlers = [consoleHandler u s])
  | file {p : Path} {id : Nat} {bytes : List UInt8} (hu : u.path? = some p)
      (hi : s.disk.item? p.place = some (.file id bytes))
      (hh : s.log.handlers = [consoleHandler u s, fileHandler u id])

/-- The log is set up as a setup asks for. -/
structure InForce (u : Setup) (s : Session) : Prop where
  threshold : Log.thresholdOf u.level = .ok s.log.threshold
  attached : Attached u s

theorem Attached.ne_nil (h : Attached u s) : s.log.handlers ≠ [] := by
  cases h with
  | console _ hh | file _ _ hh =>
      rw [hh]
      exact List.cons_ne_nil _ _

/-- It stays in force while files keep their identities and places. -/
theorem InForce.of_eq (h : InForce u s) (ht : s'.terminal = s.terminal)
    (hl : s'.log.threshold = s.log.threshold) (hh : s'.log.handlers = s.log.handlers)
    (hd : ∀ {q id bytes}, s.disk.item? q = some (.file id bytes) →
      ∃ more, s'.disk.item? q = some (.file id more)) : InForce u s' where
  threshold := by rw [hl, h.threshold]
  attached := by
    have console : consoleHandler u s = consoleHandler u s' := by
      rw [consoleHandler, consoleHandler, ht]
    cases h.attached with
    | console hu hattached => exact .console hu (by rw [hh, hattached, console])
    | file hu hi hattached =>
        obtain ⟨more, hi⟩ := hd hi
        exact .file hu hi (by rw [hh, hattached, console])

/-- Where setting logging up succeeds, it is set up as asked for. -/
theorem inForce_setUp (hr : setUp u s = (.ok (), s')) : InForce u s' := by
  have h := setsUp_setUp u s
  rw [hr] at h
  cases h with
  | unnamed hl hu => exact ⟨hl, .console (Setup.path?_of_unnamed hu) rfl⟩
  | opened hl hu hne ho =>
      obtain ⟨bytes, hi⟩ := (opens_openFile ho).item?_place
      exact ⟨hl, .file (Setup.path?_of_named hu hne) hi rfl⟩

/-! ### Calls that report nothing -/

/-- From one session to another nothing was written to the console or to any file. -/
structure Silent (s s' : Session) : Prop where
  console : s'.console = s.console
  terminal : s'.terminal = s.terminal
  content : ∀ q, s'.disk.content q = s.disk.content q
  sound : s.disk.IsSound → s'.disk.IsSound

/-- Setting logging up writes nothing.  An empty file that is made holds no bytes. -/
theorem silent_setUp {r : Except SetupFault Unit} (hr : setUp u s = (r, s')) : Silent s s' := by
  have content (q : Place) : s'.disk.content q = s.disk.content q := by
    rw [Disk.content, Disk.content]
    rcases bytes?_setUp hr q with h | ⟨-, hnone, hempty⟩
    · rw [h]
    · rw [hnone, hempty]
      rfl
  have done := setsUp_setUp u s
  rw [hr] at done
  cases done with
  | unknown | unnamed => exact ⟨rfl, rfl, content, id⟩
  | opened _ _ _ ho | refused _ _ _ ho =>
      exact ⟨rfl, rfl, content, fun hd => (opens_openFile ho).isSound hd⟩

/-- The call is no report. -/
def LogCall.IsQuiet (c : LogCall) : Prop := ∀ time r, c ≠ .report time r

theorem LogCall.IsQuiet.perform {c : LogCall} (h : c.IsQuiet) (s : Session) :
    Silent s (s.perform c) := by
  cases c with
  | setUp u =>
      rw [Session.perform, step]
      rcases hr : Session.setUp u s with ⟨r, s'⟩
      exact silent_setUp hr
  | push | pop => exact ⟨rfl, rfl, fun _ => rfl, id⟩
  | report time r => exact absurd rfl (h time r)

end Postprocessor.Session
