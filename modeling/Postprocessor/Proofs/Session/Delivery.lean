import Postprocessor.Proofs.Session.Calls

/-!
# Proofs — every record is delivered once

Handlers pile up if a new setup does not take the place of the old one, and then records are written
twice, or to a file that is no longer asked for.

* `Entry`: what is written of a record; `Adds`: sessions that differ in entries that were written.
* `Recorded`: what a record at the end of calls brings; `Recordings`: what all records of calls
  bring.
* `recorded_report`: a report brings what the setup made last asks for.
* `delivered_once`: so it is with every report, whatever calls there are in between.
-/

namespace Postprocessor

namespace Log

variable {l : Log} {time : Moment} {r : Record}

theorem deliveries_of_not_admits (h : ¬ l.admits r.level) : l.deliveries time r = [] := by
  rw [deliveries, if_pos (by simpa using h)]

theorem deliveries_of_admits (h : l.admits r.level) (hh : l.handlers ≠ []) :
    l.deliveries time r = l.handlers.filterMap fun h => h.delivery? l.context time r := by
  rw [deliveries, if_neg (by simpa using h), if_neg (by simpa using hh)]

theorem Handler.delivery?_of_line {h : Handler} {context : Params} {line : String}
    (hl : r.line h.style context time = .ok line) :
    h.delivery? context time r = some (h.target, line ++ "\n") := by
  rw [delivery?, hl]

theorem Handler.delivery?_of_no_line {h : Handler} {context : Params}
    (hl : ¬ ∃ line, r.line h.style context time = .ok line) :
    h.delivery? context time r = none := by
  rw [delivery?]
  split
  · next line hline => exact absurd ⟨line, hline⟩ hl
  · rfl

/-- A record that cannot be written is passed over. -/
theorem deliveries_of_not_isWritable (hh : l.handlers ≠ [])
    (distinct : (l.context.map Prod.fst).Nodup) (plain : IsPlain l.context) (fits : r.Fits)
    (hw : ¬ r.IsWritable l.context) : l.deliveries time r = [] := by
  by_cases ha : l.admits r.level
  · rw [deliveries_of_admits ha hh, List.filterMap_eq_nil_iff]
    exact fun h _ => Handler.delivery?_of_no_line fun hl =>
      hw ((Record.exists_line_iff distinct plain fits).mp hl)
  · exact deliveries_of_not_admits ha

end Log

namespace Session

/-! ### What is written -/

/-- What is written of a record: a line for the console, and one for the file at a place. -/
structure Entry where
  shown : String
  filed : Option (Place × String)

/-- What is added to the file at a place. -/
def Entry.bytesAt (e : Entry) (q : Place) : List UInt8 :=
  match e.filed with
  | some (p, line) => if p = q then Text.Utf8.encode (line ++ "\n").toList else []
  | none => []

/-- From one session to another, entries were written one after the other, and nothing else was
written to the console or to any file. -/
structure Adds (s s' : Session) (entries : List Entry) : Prop where
  console : s'.console = s.console ++ String.join (entries.map (·.shown ++ "\n"))
  content : ∀ q, s'.disk.content q = s.disk.content q ++ entries.flatMap (·.bytesAt q)

theorem Adds.of_eq {s s' : Session} (hc : s'.console = s.console)
    (hd : ∀ q, s'.disk.content q = s.disk.content q) : Adds s s' [] where
  console := hc.trans (String.append_empty).symm
  content q := (hd q).trans (List.append_nil _).symm

theorem Adds.trans {s s' s'' : Session} {entries more : List Entry} (h : Adds s s' entries)
    (h' : Adds s' s'' more) : Adds s s'' (entries ++ more) where
  console := by
    rw [h'.console, h.console, List.map_append, String.join_append, String.append_assoc]
  content q := by rw [h'.content, h.content, List.flatMap_append, List.append_assoc]

/-- What a record brings that is reported after other calls, by the setup that was made last and the
fields that were pushed and not popped since: a line for the console, and one for the file of the
setup if it names one. -/
inductive Recorded (terminal : Bool) (before : List LogCall) (time : Log.Moment) (r : Log.Record) :
    List Entry → Prop
  /-- The level of the record is too low. -/
  | below {u : Setup} {threshold : Int} (hu : latest before = some u)
      (hl : Log.thresholdOf u.level = .ok threshold) (hr : r.level < threshold) :
    Recorded terminal before time r []
  /-- A number that comes with the record has too many digits. -/
  | unwritable {u : Setup} {threshold : Int} {context : Params} (hu : latest before = some u)
      (hl : Log.thresholdOf u.level = .ok threshold) (hr : threshold ≤ r.level)
      (hc : Log.IsContext (changes before) context) (hw : ¬ r.IsWritable context) :
    Recorded terminal before time r []
  | written {u : Setup} {threshold : Int} {context : Params} {shown filed : String}
      (hu : latest before = some u) (hl : Log.thresholdOf u.level = .ok threshold)
      (hr : threshold ≤ r.level) (hc : Log.IsContext (changes before) context)
      (hw : r.IsWritable context) (hs : r.Carries context time ⟨u.json, terminal⟩ shown)
      (hf : r.Carries context time ⟨u.json, false⟩ filed) :
    Recorded terminal before time r [⟨shown, u.path?.map fun p => (p.place, filed)⟩]

/-- What the records bring that are reported in the course of calls. -/
inductive Recordings (terminal : Bool) : List LogCall → List Entry → Prop
  | none : Recordings terminal [] []
  | other {calls : List LogCall} {entries : List Entry} {c : LogCall}
      (h : Recordings terminal calls entries) (hc : c.IsQuiet) :
    Recordings terminal (calls ++ [c]) entries
  | report {calls : List LogCall} {entries more : List Entry} {time : Log.Moment} {r : Log.Record}
      (h : Recordings terminal calls entries) (hr : Recorded terminal calls time r more) :
    Recordings terminal (calls ++ [.report time r]) (entries ++ more)

/-! ### One report -/

variable {s s' : Session} {u : Setup} {calls : List LogCall}

/-- Without deliveries only the clock changes. -/
theorem report_of_no_delivery {time : Log.Moment} {r : Log.Record} (force : InForce u s)
    (none : s.log.deliveries time r = []) :
    Adds s (s.perform (.report time r)) [] ∧ InForce u (s.perform (.report time r)) ∧
      (s.perform (.report time r)).disk = s.disk := by
  rw [perform_report, none]
  exact ⟨.of_eq rfl fun _ => rfl, force.of_eq rfl rfl rfl fun hi => ⟨_, hi⟩, rfl⟩

/-- A record that can be written goes to the console and to the file of the setup in force. -/
theorem report_of_line {time : Log.Moment} {r : Log.Record} {shown filed : String}
    (force : InForce u s) (sound : s.disk.IsSound) (admits : s.log.admits r.level)
    (hs : r.line ⟨u.json, s.terminal⟩ s.log.context time = .ok shown)
    (hf : r.line ⟨u.json, false⟩ s.log.context time = .ok filed) :
    Adds s (s.perform (.report time r)) [⟨shown, u.path?.map fun p => (p.place, filed)⟩] ∧
      InForce u (s.perform (.report time r)) ∧ (s.perform (.report time r)).disk.IsSound := by
  have deliveries : s.log.deliveries time r =
      s.log.handlers.filterMap fun h => h.delivery? s.log.context time r :=
    Log.deliveries_of_admits admits force.attached.ne_nil
  have toConsole : (consoleHandler u s).delivery? s.log.context time r =
    some (.console, shown ++ "\n") := Log.Handler.delivery?_of_line hs
  have console : s.console ++ (shown ++ "\n") = s.console ++ String.join [shown ++ "\n"] := by simp
  cases force.attached with
  | console hu hh =>
      have all : s.log.deliveries time r = [(.console, shown ++ "\n")] := by
        simp only [deliveries, hh, List.filterMap_cons, toConsole, List.filterMap_nil]
      rw [perform_report, all, hu]
      refine ⟨⟨console, fun q => (List.append_nil _).symm⟩, ?_, sound⟩
      exact force.of_eq rfl rfl rfl fun hi => ⟨_, hi⟩
  | file hu hi hh =>
      have toFile (id : Nat) : (fileHandler u id).delivery? s.log.context time r =
        some (.file id, filed ++ "\n") := Log.Handler.delivery?_of_line hf
      rw [perform_report, deliveries, hh]
      simp only [List.filterMap_cons, toConsole, toFile, List.filterMap_nil]
      rw [hu]
      refine ⟨⟨console, fun q => ?_⟩, ?_, sound.append _ _⟩
      · rw [List.flatMap_singleton]
        exact sound.content_append hi _ q
      · exact force.of_eq rfl rfl rfl fun hq => Disk.exists_item?_append_iff.mpr ⟨_, hq⟩

/-- **A report** brings what the setup that was made last asks for. -/
theorem recorded_report (hu : latest calls = some u) (force : InForce u s) (sound : s.disk.IsSound)
    (context : Log.IsContext (changes calls) s.log.context) (plain : Log.IsPlain s.log.context)
    {r : Log.Record} (positive : 0 < r.level) (fits : r.Fits) (time : Log.Moment) :
    ∃ more, Recorded s.terminal calls time r more ∧ Adds s (s.perform (.report time r)) more ∧
      InForce u (s.perform (.report time r)) ∧ (s.perform (.report time r)).disk.IsSound := by
  have distinct := context.nodup
  have written (style : Log.Style) (hw : r.IsWritable s.log.context) :
      ∃ line, r.line style s.log.context time = .ok line :=
    (Log.Record.exists_line_iff distinct plain fits).mpr hw
  have carries {style : Log.Style} {line : String}
      (h : r.line style s.log.context time = .ok line) :
      r.Carries s.log.context time style line := Log.Record.carries_of_line distinct plain h
  by_cases hr : s.log.threshold ≤ r.level
  case neg =>
    have low : ¬ s.log.admits r.level := by simp [Log.admits, hr]
    have none : s.log.deliveries time r = [] := Log.deliveries_of_not_admits low
    have quiet := report_of_no_delivery force none
    exact ⟨[], .below hu force.threshold (Int.not_le.mp hr), quiet.1, quiet.2.1, quiet.2.2 ▸ sound⟩
  by_cases hw : r.IsWritable s.log.context
  · have admits : s.log.admits r.level := by simp [Log.admits, hr, positive]
    obtain ⟨shown, hs⟩ := written ⟨u.json, s.terminal⟩ hw
    obtain ⟨filed, hf⟩ := written ⟨u.json, false⟩ hw
    exact ⟨_, .written hu force.threshold hr context hw (carries hs) (carries hf),
      report_of_line force sound admits hs hf⟩
  · have none : s.log.deliveries time r = [] :=
      Log.deliveries_of_not_isWritable force.attached.ne_nil distinct plain fits hw
    have quiet := report_of_no_delivery force none
    exact ⟨[], .unwritable hu force.threshold hr context hw, quiet.1, quiet.2.1, quiet.2.2 ▸ sound⟩

/-! ### All reports -/

/-- Fields of values without parts that do not go by a name of the record's own, and records of
positive level whose arguments fit. -/
def LogCall.IsPlain : LogCall → Prop
  | .setUp u => Log.IsPlain u.context
  | .push fields => Log.IsPlain fields
  | .pop _ => True
  | .report _ r => 0 < r.level ∧ r.Fits

theorem isPlain_context {context : Params} (h : Log.IsContext (changes calls) context)
    (plain : ∀ c ∈ calls, c.IsPlain) : Log.IsPlain context := by
  intro e he
  obtain ⟨d, hd, added⟩ := h.exists_added he
  obtain ⟨c, hc, hchange⟩ := List.mem_filterMap.mp hd
  have fields := plain c hc
  cases c with
  | setUp | push =>
      cases hchange
      exact fields e added
  | pop keys =>
      cases hchange
      cases added
  | report time r => cases hchange

/-- What is so after calls that brought entries. -/
structure Delivered (s : Session) (calls : List LogCall) (entries : List Entry) : Prop where
  terminal : (s.performAll calls).terminal = s.terminal
  sound : (s.performAll calls).disk.IsSound
  context : Log.IsContext (changes calls) (s.performAll calls).log.context
  recordings : Recordings s.terminal calls entries
  adds : Adds s (s.performAll calls) entries

/-- The setup that was made last is in force. -/
def IsSetUp (s : Session) (calls : List LogCall) : Prop :=
  ∃ u, latest calls = some u ∧ InForce u (s.performAll calls)

variable {entries : List Entry} {c : LogCall}

/-- A call that is no report brings nothing. -/
theorem Delivered.quiet (h : Delivered s calls entries) (hc : c.IsQuiet)
    (ok : (c.step (s.performAll calls)).1 = .ok ()) : Delivered s (calls ++ [c]) entries := by
  have silent := hc.perform (s.performAll calls)
  rw [← performAll_append] at silent
  have adds := h.adds.trans (.of_eq silent.console silent.content)
  rw [List.append_nil] at adds
  refine ⟨silent.terminal.trans h.terminal, silent.sound h.sound, ?_, .other h.recordings hc, adds⟩
  rw [performAll_append]
  exact isContext_perform h.context ok

/-- After a call that succeeds and is no report the setup that was made last is in force. -/
theorem IsSetUp.quiet (h : IsSetUp s calls) (hc : c.IsQuiet)
    (ok : (c.step (s.performAll calls)).1 = .ok ()) : IsSetUp s (calls ++ [c]) := by
  rw [IsSetUp, latest_append, performAll_append]
  obtain ⟨u, hu, force⟩ := h
  cases c with
  | setUp v =>
      have force := inForce_setUp (eq_mk_of_fst ok)
      exact ⟨v, rfl, force⟩
  | push fields => exact ⟨u, hu, force.of_eq rfl rfl rfl fun hi => ⟨_, hi⟩⟩
  | pop keys => cases keys <;> exact ⟨u, hu, force.of_eq rfl rfl rfl fun hi => ⟨_, hi⟩⟩
  | report time r => exact absurd rfl (hc time r)

/-- A report brings what it should, and leaves the setup in force. -/
theorem Delivered.report (h : Delivered s calls entries) (hset : IsSetUp s calls)
    (plain : ∀ c ∈ calls, c.IsPlain) {r : Log.Record} (positive : 0 < r.level) (fits : r.Fits)
    (time : Log.Moment) : IsSetUp s (calls ++ [.report time r]) ∧
      ∃ more, Delivered s (calls ++ [.report time r]) (entries ++ more) := by
  obtain ⟨u, hu, force⟩ := hset
  have fields := isPlain_context h.context plain
  obtain ⟨more, recorded, adds, force', sound⟩ :=
    recorded_report hu force h.sound h.context fields positive fits time
  rw [h.terminal] at recorded
  have done : s.performAll (calls ++ [.report time r]) =
    (s.performAll calls).perform (.report time r) := performAll_append ..
  refine ⟨⟨u, ?_, done ▸ force'⟩, more, ?_, done ▸ sound, ?_, .report h.recordings recorded,
    done ▸ h.adds.trans adds⟩
  · rw [latest_append, hu]
    rfl
  · rw [done, ← h.terminal]
    exact (foldl_deliver _ _).2
  · rw [done]
    exact isContext_perform h.context rfl

/-- What is so after one setup is so after all calls that follow. -/
theorem exists_delivered (first : Delivered s [.setUp u] []) (hset : IsSetUp s [.setUp u])
    (plain : ∀ c ∈ .setUp u :: calls, c.IsPlain) (ok : s.Succeeds (.setUp u :: calls)) :
    IsSetUp s (.setUp u :: calls) ∧ ∃ entries, Delivered s (.setUp u :: calls) entries := by
  -- from the right, since what a report brings depends on the calls before it
  induction calls using List.reverseRecOn with
  | nil => exact ⟨hset, [], first⟩
  | append_singleton calls c ih =>
      rw [← List.cons_append] at plain ok ⊢
      obtain ⟨before, last⟩ := List.forall_mem_append.mp plain
      obtain ⟨okBefore, okLast⟩ := ok.of_append
      obtain ⟨hset, entries, h⟩ := ih before okBefore
      by_cases hc : c.IsQuiet
      · exact ⟨hset.quiet hc okLast, entries, h.quiet hc okLast⟩
      · obtain ⟨time, r, rfl⟩ : ∃ time r, c = .report time r := by
          simpa [LogCall.IsQuiet] using hc
        obtain ⟨positive, fits⟩ := last _ (List.mem_singleton_self _)
        obtain ⟨hset, more, h⟩ := h.report hset before positive fits time
        exact ⟨hset, _, h⟩

end Session

end Postprocessor
