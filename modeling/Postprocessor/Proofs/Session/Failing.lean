import Postprocessor.Proofs.Session.Calls

/-!
# Proofs — setups that fail

A setup takes away the handlers of the one before it first, and changes the threshold before it
opens the file.  So one that fails leaves no handlers.  Until another one succeeds no record comes to
stand in a file, and on the console there is the message alone, if the record is grave enough.

* `log_of_setUp_failed`, `bytes?_setUp_failed`: what a setup that fails leaves behind.
* `LogCall.SetsNothingUp`, `SetNothingUp`: calls of which none sets logging up with success.
* `Unattended`: without handlers, and with the files as they were; `Unattended.perform`,
  `Unattended.performAll`: so it stays.
* `unattended_after_failed_setUp`: so it is after a setup that fails.
-/

namespace Postprocessor

/-- Without handlers there is the message alone, if the record is grave enough. -/
theorem Log.deliveries_of_no_handlers {l : Log} (h : l.handlers = []) (time : Moment) (r : Record) :
    l.deliveries time r = if l.admits r.level then lastResort r else [] := by
  rw [deliveries, h]
  cases l.admits r.level <;> rfl

namespace Session

variable {s s' : Session} {u : Setup} {f : SetupFault} {calls : List LogCall} {c : LogCall}

/-! ### A setup that fails -/

/-- The threshold that a setup leaves behind: that of its level, if there is such a level. -/
def thresholdAfter (u : Setup) (l : Log) : Int :=
  (Log.thresholdOf u.level).toOption.getD l.threshold

/-- The handlers are gone, and the threshold is the new one already unless the level is at fault. -/
theorem log_of_setUp_failed (h : setUp u s = (.error f, s')) :
    s'.log = ⟨thresholdAfter u s.log, [], s.log.context⟩ := by
  have done := setsUp_setUp u s
  rw [h] at done
  cases done with
  | unknown hl | refused hl =>
      rw [thresholdAfter, hl]
      rfl

/-- Folders may have been made on the way to the file. -/
theorem bytes?_setUp_failed (h : setUp u s = (.error f, s')) (q : Place) :
    s'.disk.bytes? q = s.disk.bytes? q := by
  have done := setsUp_setUp u s
  rw [h] at done
  cases done with
  | unknown => rfl
  | refused _ _ _ ho =>
      cases opens_openFile ho with
      | refused hf => exact hf.bytes?_eq q

/-! ### Until a setup succeeds -/

/-- The call does not set logging up, or fails to. -/
def LogCall.SetsNothingUp (s : Session) (c : LogCall) : Prop :=
  ∀ u, c = .setUp u → (Session.setUp u s).1 ≠ .ok ()

/-- None of the calls sets logging up with success. -/
def SetNothingUp (s : Session) : List LogCall → Prop
  | [] => True
  | c :: calls => c.SetsNothingUp s ∧ (s.perform c).SetNothingUp calls

/-- There are no handlers, and the files hold the bytes that they are said to hold. -/
structure Unattended (files : Place → Option (List UInt8)) (s : Session) : Prop where
  handlers : s.log.handlers = []
  bytes : ∀ q, s.disk.bytes? q = files q

variable {files : Place → Option (List UInt8)}

theorem Unattended.setUp_failed (h : setUp u s = (.error f, s'))
    (bytes : ∀ q, s.disk.bytes? q = files q) : Unattended files s' where
  handlers := by rw [log_of_setUp_failed h]
  bytes q := (bytes?_setUp_failed h q).trans (bytes q)

/-- What goes to the console changes no file. -/
theorem disk_foldl_deliver {ts : List (Log.Target × String)} (h : ∀ t ∈ ts, t.1 = .console)
    (s : Session) : (ts.foldl deliver s).disk = s.disk := by
  induction ts generalizing s with
  | nil => rfl
  | cons t ts ih =>
      obtain ⟨first, others⟩ := List.forall_mem_cons.mp h
      obtain ⟨target, line⟩ := t
      subst first
      exact ih others _

/-- A call that does not set logging up with success leaves it unattended. -/
theorem Unattended.perform (h : Unattended files s) (hc : c.SetsNothingUp s) :
    Unattended files (s.perform c) := by
  cases c with
  | setUp u =>
      rw [Session.perform, LogCall.step]
      rcases hr : Session.setUp u s with ⟨f | _, s'⟩
      · exact .setUp_failed hr h.bytes
      · exact absurd (congrArg Prod.fst hr) (hc u rfl)
  | push fields => exact ⟨h.handlers, h.bytes⟩
  | pop keys => cases keys <;> exact ⟨h.handlers, h.bytes⟩
  | report time r =>
      have console : ∀ t ∈ s.log.deliveries time r, t.1 = .console := by
        intro t ht
        rcases Log.target_of_mem_deliveries ht with hconsole | ⟨g, hg, -⟩
        · exact hconsole
        · rw [h.handlers] at hg
          cases hg
      refine ⟨(congrArg Log.handlers (log_report s time r)).trans h.handlers, fun q => ?_⟩
      rw [perform_report, disk_foldl_deliver console]
      exact h.bytes q

theorem Unattended.performAll (h : Unattended files s) (hc : s.SetNothingUp calls) :
    Unattended files (s.performAll calls) := by
  induction calls generalizing s with
  | nil => exact h
  | cons c calls ih => exact ih (h.perform hc.1) hc.2

/-- **A setup that fails leaves logging unattended.**  The handlers are gone; the threshold is that
of the new level, if it is known; the context stays.  So logging is as before only if there were no
handlers and the threshold is the same.  Until a setup succeeds no record comes to stand in a file,
and a record that the threshold admits brings its message on the console at most. -/
theorem unattended_after_failed_setUp (h : setUp u s = (.error f, s')) :
    s'.log = ⟨thresholdAfter u s.log, [], s.log.context⟩ ∧
      (s'.log = s.log ↔
        s.log.handlers = [] ∧ thresholdAfter u s.log = s.log.threshold) ∧
      ∀ calls, s'.SetNothingUp calls →
        (∀ q, (s'.performAll calls).disk.bytes? q = s.disk.bytes? q) ∧
        ∀ time r, (s'.performAll calls).log.deliveries time r =
          if (s'.performAll calls).log.admits r.level then Log.lastResort r else [] := by
  have hlog := log_of_setUp_failed h
  refine ⟨hlog, ?_, fun calls hcalls => ?_⟩
  · rw [hlog]
    rcases s.log with ⟨threshold, handlers, context⟩
    rw [Log.mk.injEq]
    exact ⟨fun ⟨ht, hh, _⟩ => ⟨hh.symm, ht⟩, fun ⟨hh, ht⟩ => ⟨ht, hh.symm, rfl⟩⟩
  · have after : Unattended s.disk.bytes? (s'.performAll calls) :=
      Unattended.performAll (.setUp_failed h fun _ => rfl) hcalls
    exact ⟨after.bytes, fun time r => Log.deliveries_of_no_handlers after.handlers time r⟩

theorem unattended_after_unknown_level :
    let s := (Session.start .empty false ⟨0⟩).perform (.setUp ⟨"INFO", none, false, []⟩)
    let s' : Session := { s with log := { s.log with handlers := [] } }
    setUp ⟨"LOUD", none, false, []⟩ s = (.error (.level .unknown), s') ∧
      s'.log = ⟨thresholdAfter ⟨"LOUD", none, false, []⟩ s.log, [], s.log.context⟩ ∧
      s'.log ≠ s.log := by
  intro s s'
  have unknown : Log.thresholdOf "LOUD" = .error .unknown := rfl
  have attached : s.log.handlers ≠ [] := by decide +kernel
  have failed : setUp ⟨"LOUD", none, false, []⟩ s = (.error (.level .unknown), s') :=
    setUp_of_error (u := ⟨"LOUD", none, false, []⟩) unknown s
  obtain ⟨hlog, same, -⟩ := unattended_after_failed_setUp failed
  exact ⟨failed, hlog, fun h => attached (same.mp h).1⟩

/-- A setup that names no level fails, and a record is lost that would have been written before. -/
theorem lost_after_unknown_level :
    let s := (Session.start .empty false ⟨0⟩).perform (.setUp ⟨"INFO", none, false, []⟩)
    let s' := s.perform (.setUp ⟨"LOUD", none, false, []⟩)
    let record : LogCall := .report ⟨0⟩ ⟨"trace", 20, "x", [], none⟩
    (setUp ⟨"LOUD", none, false, []⟩ s).1 = .error (.level .unknown) ∧
      s'.log.handlers ≠ s.log.handlers ∧
      (s.perform record).console = "1970-01-01T00:00:00.000Z | INFO     | x\n" ∧
      (s'.perform record).console = "" := by
  have unknown : Log.thresholdOf "LOUD" = .error .unknown := rfl
  refine ⟨?_, by decide +kernel, by decide +kernel, by decide +kernel⟩
  rw [setUp_of_error (u := ⟨"LOUD", none, false, []⟩) unknown]

end Session

end Postprocessor
