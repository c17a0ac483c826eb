import Postprocessor.Proofs.Control.Comments
import Postprocessor.Proofs.Program.Continuation
import Mathlib.Data.List.Induction

/-!
# Proofs — changes of the tool

An event that names a tool is written as one line, which ends in the word of the change.  The word
of the tool stands before it, unless the tool is the one that was named last.  No other event puts
either of these words on a line, so the tool that is changed to is the one that is read last.

* `toolWord`, `toolRead`: the word of a tool, and the one that is read last among some words.
* `KeepsTool`, `Call.KeepsTool`: a word that is none of the two, and a call that hands over such
  words only; `keepsTool_calls` says that the handlers of other events make such calls.
* `Call.MindsTool`: such a call, or the change to a tool with a name.
* `Writer.HoldsTool`: the machine holds the tool that is read last; `HoldsTool.after` says that
  calls that mind the tool keep it so, and `HoldsTool.runAll` that runs do.
* `Event.tool?`: the tool that an event names.
* `lines_of_tool`, `lines_of_no_tool`: the lines that an event writes.
* `tool_changes`: the changes of the tool in the lines for a trace.
-/

namespace Postprocessor

/-! ### The words of the tool -/

/-- The word that names a tool. -/
def toolWord (name : String) : String := "T=\"" ++ name ++ "\""

theorem word_tool {v : Value} {name : String} (h : v.text? = some name) :
    Channel.tool.word v = toolWord name := by
  rw [Channel.word, Channel.content, h, toolWord, ← String.append_assoc, ← String.append_assoc]
  rfl

theorem group?_toolWord (name : String) : Control.group? (toolWord name) = some .tool := by
  rw [← word_tool (v := .text name) rfl]
  exact Control.group?_word ⟨name, rfl⟩

theorem isWord_toolWord (name : String) : IsWord (toolWord name) := by
  rw [← word_tool (v := .text name) rfl]
  exact Control.isWord_word ⟨name, rfl⟩

/-- A word of the tool begins with the letter of its address. -/
theorem group?_ne_tool {w : String} (h : LeadsIn (· ≠ 'T') w) :
    Control.group? w ≠ some .tool := by
  have codes (groups : List Channel) (hg : .tool ∉ groups) (code : List Char) :
      Control.codeGroup? groups code ≠ some .tool := by
    intro e
    rw [Control.codeGroup?] at e
    exact hg (List.mem_of_find?_eq_some e)
  rw [Control.group?]
  split
  case h_9 rest hw =>
    have lead : Text.lead? w.toList = some 'T' := by
      rw [hw]
      rfl
    exact absurd lead (leadsIn_ne_iff.mp h)
  case h_10 => exact codes _ (by decide) _
  case h_11 => exact codes _ (by decide) _
  all_goals simp

/-- The word of the tool that a control holds when it has read words. -/
def toolRead (words : List String) : Option String := Control.blank.readAll words .tool

theorem toolRead_append_of_ne {us vs : List String} (h : ∀ w ∈ vs, LeadsIn (· ≠ 'T') w) :
    toolRead (us ++ vs) = toolRead us := by
  rw [toolRead, Control.readAll_append]
  exact Control.readAll_of_ne (fun w hw => group?_ne_tool (h w hw)) _

theorem toolRead_append_toolWord (us : List String) (name : String) {vs : List String}
    (h : ∀ w ∈ vs, LeadsIn (· ≠ 'T') w) :
    toolRead (us ++ toolWord name :: vs) = some (toolWord name) := by
  rw [List.append_cons, toolRead_append_of_ne h, toolRead, Control.readAll_append]
  rw [Control.readAll_cons, Control.readAll_nil, Control.read_of_group (group?_toolWord name),
    Function.update_self]

theorem leadsIn_change : ∀ w ∈ ["M6"], LeadsIn (· ≠ 'T') w :=
  List.forall_mem_singleton.mpr (leadsIn_ne_iff.mpr (by decide))

/-- The word neither names a tool nor changes it. -/
structure KeepsTool (w : String) : Prop where
  leadsIn : LeadsIn (· ≠ 'T') w
  ne : w.trimmed ≠ "M6"

theorem keepsTool_trimmed (w : String) : KeepsTool w.trimmed ↔ KeepsTool w := by
  constructor
  · exact fun h => ⟨(leadsIn_trimmed w).mp h.leadsIn, trimmed_trimmed w ▸ h.ne⟩
  · exact fun h => ⟨(leadsIn_trimmed w).mpr h.leadsIn, (trimmed_trimmed w).symm ▸ h.ne⟩

theorem keepsTool_of_leadsIn {w : String} (h : LeadsIn (fun c => c ≠ 'T' ∧ c ≠ 'M') w) :
    KeepsTool w := by
  refine ⟨fun c hc => (h c hc).1, fun e => ?_⟩
  have lead := (leadsIn_trimmed w).mpr h
  rw [e] at lead
  exact (lead 'M' rfl).2 rfl

/-! ### Calls -/

theorem Call.IsEmission.ne_closeSub {call : Call} (h : call.IsEmission) : call ≠ .closeSub := by
  rintro rfl
  have outcome := congrArg Prod.fst (congrFun (h .fresh) (.start {}))
  cases outcome

namespace Call

/-- The call hands over words to the line of the current file, none of which concern the tool. -/
structure KeepsTool (call : Call) : Prop where
  emission : call.IsEmission
  words : ∀ {m words noFlush}, call.emission m = .ok (words, noFlush) →
    ∀ w ∈ words, Postprocessor.KeepsTool w
  machine : ∀ m, (call.machineAfter m).get .tool = m.get .tool

variable {call : Call} {v : Verb} {force noFlush : Bool}

theorem KeepsTool.handed (h : call.KeepsTool) (w : Writer) :
    ∀ word ∈ taken (call.handed w), Postprocessor.KeepsTool word := by
  refine forall_mem_taken keepsTool_trimmed ?_
  rw [handed_eq h.emission.ne_closeSub]
  cases e : call.emission w.machine with
  | error _ => exact List.forall_mem_nil _
  | ok emitted => exact h.words e

theorem keepsTool_verb (hc : ∀ c ∈ v.channels, c ≠ .tool ∧ c ≠ .direction) (ha : v.actions = []) :
    (verb v force noFlush).KeepsTool := by
  have address (c : Channel) (tool : c ≠ .tool) (direction : c ≠ .direction) :
      LeadsIn (fun l => l ≠ 'T' ∧ l ≠ 'M') c.address := by
    cases c with
    | axis axis => cases axis <;> exact leadsIn_of_lead? rfl (by decide)
    | mode mode =>
        exact leadsIn_of_lead? (by decide : Text.lead? "G".toList = some 'G') (by decide)
    | plane | feed | speed => exact leadsIn_of_lead? rfl (by decide)
    | direction => exact absurd rfl direction
    | tool => exact absurd rfl tool
  refine ⟨fun _ => rfl, fun {m words noFlush} e w hw => ?_, fun m => ?_⟩
  · obtain ⟨words, spelled, e⟩ := map_eq_ok e
    cases e
    refine keepsTool_of_leadsIn (Verb.leadsIn_words spelled
      (fun c mem => address c (hc c mem).1 (hc c mem).2) ?_ w hw)
    rw [ha]
    exact List.forall_mem_nil _
  · exact Machine.get_words_of_not_mem (fun mem => (hc _ mem).1 rfl) m

/-- The word of a direction is no change of the tool, though it has the same letter. -/
theorem keepsTool_direction (d : Value) :
    (verb (.set (.direction d)) force noFlush).KeepsTool := by
  have codes : ∀ i ∈ Channel.direction.codes,
      Postprocessor.KeepsTool (Channel.direction.word (.int i)) := by
    intro i hi
    rcases List.mem_pair.mp hi with rfl | rfl
    · exact ⟨leadsIn_ne_iff.mpr (by decide), by decide⟩
    · exact ⟨leadsIn_ne_iff.mpr (by decide), by decide⟩
  refine ⟨fun _ => rfl, fun {m words noFlush} e => ?_, fun m => ?_⟩
  · obtain ⟨words, spelled, e⟩ := map_eq_ok e
    cases e
    rcases step : Machine.apply force (.direction d) m with ⟨result, m'⟩
    rw [words_set step] at spelled
    obtain ⟨word, rfl, rfl⟩ := map_eq_ok spelled
    refine List.forall_mem_singleton.mpr ?_
    rw [Machine.apply, Step.run_bind, Step.run_lift] at step
    cases hd : directionCode d with
    | error e =>
        rw [hd] at step
        cases step
    | ok i =>
        obtain ⟨q, -, hq⟩ := directionCode_eq_ok hd
        rw [hd] at step
        simp only [Machine.write_admitted (Direction.admits_code hq)] at step
        split at step <;> cases step
        · exact ⟨leadsIn_empty, by decide⟩
        · exact codes i (Direction.code?_mem hq)
  · exact Machine.get_words_of_not_mem (by simp) m

theorem keepsTool_comment (text : Value) : (comment text noFlush).KeepsTool := by
  refine ⟨fun _ => rfl, fun {m words noFlush} e => ?_, fun _ => rfl⟩
  have mark (t : String) : Postprocessor.KeepsTool ("; " ++ t) :=
    keepsTool_of_leadsIn (.append_right (by decide : Text.lead? "; ".toList = some ';') (by decide))
  obtain ⟨t, -, e⟩ := map_eq_ok e
  split at e <;> cases e
  · exact List.forall_mem_nil _
  · exact List.forall_mem_singleton.mpr (mark _)

theorem keepsTool_flush : Call.flush.KeepsTool := by
  refine ⟨fun _ => rfl, fun e => ?_, fun _ => rfl⟩
  cases e
  exact List.forall_mem_nil _

theorem keepsTool_end : (Call.put (.text "M30") true).KeepsTool := by
  refine ⟨fun _ => rfl, fun e => ?_, fun _ => rfl⟩
  cases e
  exact List.forall_mem_singleton.mpr ⟨leadsIn_ne_iff.mpr (by decide), by decide⟩

/-- The call leaves the tool alone, or changes it to one with a name. -/
inductive MindsTool : Call → Prop
  | keeps {call : Call} (h : call.KeepsTool) : MindsTool call
  | changes {v : Value} {name : String} (h : v.text? = some name) (force noFlush : Bool) :
    MindsTool (.verb (.changeTool v) force noFlush)

theorem MindsTool.emission (h : call.MindsTool) : call.IsEmission := by
  cases h with
  | keeps h => exact h.emission
  | changes => exact fun _ => rfl

end Call

/-! ### Handlers -/

/-- The name of a tool is a text, that of the tool as a word. -/
theorem Handler.text?_toolName {tool v : Value} (h : toolName tool = .ok v) :
    ∃ name, v.text? = some name ∧ tool.plain = .ok name := by
  cases tool with
  | text | symbol =>
      cases h
      exact ⟨_, rfl, rfl⟩
  | _ =>
      simp only [toolName] at h
      obtain ⟨name, written, rfl⟩ := map_eq_ok h
      exact ⟨name, rfl, written⟩

/-- **The calls of a handler** other than that of tools keep clear of them. -/
theorem Handler.keepsTool_calls {h : Handler} {params : Params} {made : List Call}
    (hm : h.calls params = .ok made) (hh : h ≠ .changeTool) : ∀ call ∈ made, call.KeepsTool := by
  cases h with
  | feedSpin =>
      cases hm
      refine List.forall_mem_append.mpr ⟨List.forall_mem_cons.mpr
        ⟨Call.keepsTool_verb (by simp) rfl, ?_⟩,
        List.forall_mem_singleton.mpr Call.keepsTool_flush⟩
      rw [directionCalls]
      split
      · exact List.forall_mem_singleton.mpr (Call.keepsTool_direction _)
      · exact List.forall_mem_nil _
  | rapidMove | line | absoluteMode =>
      cases hm
      exact List.forall_mem_singleton.mpr (Call.keepsTool_verb (by simp [Axis.all]) rfl)
  | machinePlane =>
      rw [calls] at hm
      split at hm <;> cases hm
      · exact List.forall_mem_nil _
      · exact List.forall_mem_singleton.mpr (Call.keepsTool_verb (by simp) rfl)
  | changeTool => exact absurd rfl hh
  | message =>
      obtain ⟨text, -, rfl⟩ := map_eq_ok hm
      exact List.forall_mem_singleton.mpr (Call.keepsTool_comment _)
  | endOfFile =>
      cases hm
      exact List.forall_mem_singleton.mpr Call.keepsTool_end

/-- The calls for a change of the tool. -/
theorem Handler.calls_changeTool {params : Params} {made : List Call}
    (hm : changeTool.calls params = .ok made) : toolOf params = .null ∧ made = [] ∨
      toolOf params ≠ .null ∧ ∃ v name, v.text? = some name ∧ (toolOf params).plain = .ok name ∧
        made = [.verb (.changeTool v) false false] := by
  rw [calls] at hm
  split at hm
  · next none =>
    cases hm
    exact .inl ⟨none, rfl⟩
  · next some =>
    obtain ⟨v, named, rfl⟩ := map_eq_ok hm
    obtain ⟨name, text, plain⟩ := text?_toolName named
    exact .inr ⟨some, v, name, text, plain, rfl⟩

/-- The calls for an event keep clear of the tool, unless it is meant to change it. -/
theorem Event.keepsTool_calls {e : Event} (he : e.name ≠ "ChangeTool") :
    e.MakesOnly Call.KeepsTool := by
  intro made hm
  rw [standardCalls] at hm
  split at hm
  · next h hh =>
    refine Handler.keepsTool_calls hm fun tool => he ?_
    rw [Handler.ofEvent?_eq_some hh, tool]
    rfl
  · cases hm
    exact List.forall_mem_nil _

/-- **The calls for an event** mind the tool. -/
theorem Event.mindsTool_calls (e : Event) : e.MakesOnly Call.MindsTool := by
  intro made hm
  by_cases change : e.name = "ChangeTool"
  · rw [change] at hm
    rcases Handler.calls_changeTool hm with ⟨-, rfl⟩ | ⟨-, v, name, text, -, rfl⟩
    · exact List.forall_mem_nil _
    · exact List.forall_mem_singleton.mpr (.changes text false false)
  · exact fun call hc => .keeps (keepsTool_calls change made hm call hc)

/-! ### The tool that is held -/

/-- The words of a change of the tool: its name, unless the machine holds it, and the change. -/
theorem Verb.words_changeTool {v : Value} {name : String} (hv : v.text? = some name) (force : Bool)
    {m : Machine} (hm : m.get .tool = .null ∨ ∃ held, (m.get .tool).text? = some held) :
    ∃ words m', (changeTool v).words force m = (.ok words, m') ∧
      (m'.get .tool).text? = some name ∧
        (taken words = [toolWord name, "M6"] ∨
          taken words = ["M6"] ∧ (m.get .tool).text? = some name) := by
  have written := Machine.write_admitted (c := .tool) ⟨name, hv⟩ force m
  have step : (changeTool v).words force =
      (fun word => [word, "M6"]) <$> Machine.write .tool v force := by
    simp [words, settings, actions, Machine.apply]
  rw [step, ← bind_pure_comp]
  by_cases known : (!force && Register.agrees (m.get .tool) v) = true
  · rw [if_pos known] at written
    rw [Step.bind_of_ok written]
    have agrees : Register.agrees (m.get .tool) v = true := (Bool.and_eq_true_iff.mp known).2
    have holds : (m.get .tool).text? = some name := by
      rcases hm with null | ⟨held, text⟩
      · rw [null, Channel.not_agrees_null (c := .tool) ⟨name, hv⟩] at agrees
        cases agrees
      · rw [text, Value.text_eq_of_agrees text hv agrees]
    exact ⟨["", "M6"], m, rfl, holds, .inr ⟨rfl, holds⟩⟩
  · rw [if_neg known] at written
    rw [Step.bind_of_ok written, word_tool hv]
    refine ⟨[toolWord name, "M6"], m.set .tool v, rfl, ?_, .inl (taken_of_isWord ?_)⟩
    · rw [Machine.get_set, if_pos rfl, hv]
    · exact List.forall_mem_cons.mpr
        ⟨isWord_toolWord name, List.forall_mem_singleton.mpr ⟨by decide, by decide⟩⟩

namespace Writer

variable {w w' : Writer} {call : Call} {calls : List Call}

/-- There is one file, and the machine holds the tool that is read last in it, if any. -/
structure HoldsTool (w : Writer) : Prop where
  alone : w.files.IsAlone
  tool : w.machine.get .tool = .null ∨ ∃ name, (w.machine.get .tool).text? = some name ∧
    toolRead w.files.main.words = some (toolWord name)

theorem holdsTool_start (c : Config) : (start c).HoldsTool :=
  ⟨⟨rfl, rfl⟩, .inl (Machine.get_fresh .tool)⟩

/-- The words of the only file after a call. -/
theorem words_after (h : w.files.IsAlone) (call : Call) :
    (w.after call).files.main.words = w.files.main.words ++ taken (call.handed w) := by
  have words := w.wordsAt_after call 0
  rwa [if_pos (FileSet.place_eq_zero.mpr h.opened).symm] at words

/-- A change of the tool hands over its words, and the machine holds the tool then. -/
theorem HoldsTool.changes (h : w.HoldsTool) {v : Value} {name : String} (hv : v.text? = some name)
    (force noFlush : Bool) :
    let call := Call.verb (.changeTool v) force noFlush
    (∃ cut, (cut = [] ∨ cut = [toolWord name]) ∧ taken (call.handed w) = cut ++ ["M6"]) ∧
      ((w.after call).machine.get .tool).text? = some name ∧
      toolRead (w.after call).files.main.words = some (toolWord name) := by
  intro call
  have held : w.machine.get .tool = .null ∨ ∃ held, (w.machine.get .tool).text? = some held :=
    h.tool.imp_right fun ⟨name, text, _⟩ => ⟨name, text⟩
  obtain ⟨words, m', run, holds, cut⟩ := Verb.words_changeTool hv force held
  have handed : call.handed w = words := by
    rw [Call.handed_eq (nofun : Call.verb (.changeTool v) force noFlush ≠ .closeSub), Call.emission,
      run]
    rfl
  have machine : (w.after call).machine = m' := by
    rw [machine_after, Call.machineAfter, run]
  rw [words_after h.alone, handed, machine]
  rcases cut with cut | ⟨cut, text⟩ <;> rw [cut]
  · exact ⟨⟨[toolWord name], .inr rfl, rfl⟩, holds, toolRead_append_toolWord _ _ leadsIn_change⟩
  · refine ⟨⟨[], .inl rfl, rfl⟩, holds, ?_⟩
    rcases h.tool with null | ⟨name', text', read⟩
    · rw [null] at text
      cases text
    · obtain rfl : name' = name := Option.some.inj (text'.symm.trans text)
      rw [toolRead_append_of_ne leadsIn_change, read]

/-- **A call** that minds the tool keeps the machine and the file together. -/
theorem HoldsTool.after (h : w.HoldsTool) (hc : call.MindsTool) : (w.after call).HoldsTool := by
  refine ⟨isAlone_perform hc.emission h.alone, ?_⟩
  cases hc with
  | keeps hc =>
      rw [words_after h.alone, machine_after, hc.machine,
        toolRead_append_of_ne fun word mem => (hc.handed w word mem).leadsIn]
      exact h.tool
  | changes hv force noFlush =>
      obtain ⟨-, holds, read⟩ := h.changes hv force noFlush
      exact .inr ⟨_, holds, read⟩

theorem HoldsTool.runAll (h : w.HoldsTool) (hc : ∀ call ∈ calls, call.MindsTool) :
    (w.runAll calls).HoldsTool := by
  induction calls generalizing w with
  | nil => exact h
  | cons call calls ih =>
      obtain ⟨first, others⟩ := List.forall_mem_cons.mp hc
      exact ih (h.after first) others

/-- Calls that keep clear of the tool add words that do. -/
theorem words_runAll_of_keepsTool (h : w.files.IsAlone) (hc : ∀ call ∈ calls, call.KeepsTool) :
    ∃ new, (w.runAll calls).files.main.words = w.files.main.words ++ new ∧
      ∀ word ∈ new, KeepsTool word := by
  induction calls generalizing w with
  | nil => exact ⟨[], (List.append_nil _).symm, List.forall_mem_nil _⟩
  | cons call calls ih =>
      obtain ⟨first, others⟩ := List.forall_mem_cons.mp hc
      obtain ⟨new, words, keeps⟩ :=
        ih (w := w.after call) (isAlone_perform first.emission h) others
      refine ⟨taken (call.handed w) ++ new, ?_,
        List.forall_mem_append.mpr ⟨first.handed w, keeps⟩⟩
      rw [runAll_cons, words, words_after h, List.append_assoc]

end Writer

/-! ### Events -/

/-- A line that is ended takes the words that are put to it. -/
theorem FileSet.IsSettled.lines_emit {s s' : FileSet} {words : List String} (h : s.IsSettled)
    (hw : taken words ≠ []) (run : emit words false s = (.ok (), s')) :
    ∃ l, s'.main.lines = s.main.lines.push l ∧ l.words = taken words := by
  rw [emit_flush, putAll_main h.opened, ProgramFile.putAll_eq, h.ended, List.nil_append,
    flush_main (s := { s with main := { s.main with pending := taken words } }) h.opened] at run
  rcases ProgramFile.flush_eq s.numbering { s.main with pending := taken words } with
    ⟨none, -⟩ | ⟨-, -, flushed⟩ | ⟨-, -, flushed⟩
  · exact absurd none hw
  · rw [flushed] at run
    cases run
    exact ⟨_, rfl, rfl⟩
  · rw [flushed] at run
    cases run

/-- A call that ends the line writes its words as one line, if there are any. -/
theorem Writer.lines_perform {w w' : Writer} {call : Call} (hc : call.IsEmission)
    (ends : call.Ends) (hw : taken (call.handed w) ≠ []) (settled : w.files.IsSettled)
    (run : perform call w = (.ok (), w')) :
    ∃ l, w'.files.main.lines = w.files.main.lines.push l ∧ l.words = taken (call.handed w) := by
  rw [Call.handed_eq hc.ne_closeSub] at hw ⊢
  rw [perform_eq, hc] at run
  cases he : call.emission w.machine with
  | error e =>
      rw [he] at run
      cases run
  | ok emitted =>
      obtain ⟨words, noFlush⟩ := emitted
      obtain rfl := ends _ _ _ he
      rw [he] at run hw
      obtain ⟨outcome, rfl⟩ := Prod.mk.inj run
      exact settled.lines_emit hw (eq_mk_of_fst outcome)

/-- The tool that parameters name: the identifier if it counts as true, and the number otherwise. -/
def Params.tool? (params : Params) : Option Value :=
  ((params.lookup "tool_id_string").filter Value.truthy).or (params.lookup "tool_number")

theorem Handler.toolOf_eq (params : Params) : toolOf params = params.tool?.getD .null := by
  rw [toolOf, Params.tool?, Params.get, Params.get]
  cases params.lookup "tool_id_string" with
  | none => rfl
  | some v => cases named : v.truthy <;> simp [Option.filter, named]

/-- Of the values of a trace, these do not count as true. -/
theorem Value.eq_of_not_truthy {v : Value} (hv : v.IsScalar) (h : v.truthy = false) :
    v = .text "" ∨ v = .bool false ∨ ∃ x, v = .float x ∧ x.isZero = true := by
  cases v with
  | bool b => exact .inr (.inl (congrArg bool h))
  | float x => exact .inr (.inr ⟨x, rfl, by simpa [truthy] using h⟩)
  | text s => exact .inl (congrArg text (by simpa [truthy] using h))
  | symbol s => cases h
  | _ => exact hv.elim

theorem Params.AreScalar.tool? {params : Params} (hs : params.AreScalar) {v : Value}
    (hv : v ∈ params.tool?) : v.IsScalar := by
  rcases Option.or_eq_some_iff.mp hv with h | ⟨-, h⟩
  · exact hs.lookup (Option.filter_eq_some_iff.mp h).1
  · exact hs.lookup h

namespace Event

/-- The tool that an event names. -/
def tool? (e : Event) : Option Value := if e.name = "ChangeTool" then e.params.tool? else none

theorem tool?_of_name {e : Event} (h : e.name = "ChangeTool") : e.tool? = e.params.tool? := if_pos h

variable {e : Event} {w w' : Writer}

/-- An event that succeeds makes its calls. -/
theorem calls_of_perform (run : e.perform w = (.ok (), w')) :
    ∃ made, standardCalls e.name e.params = .ok made ∧
      made.forM Writer.perform w = (.ok (), w') := by
  rw [perform, Step.run_bind, Step.run_lift] at run
  split at run
  · next made hm => exact ⟨made, hm, run⟩
  · cases run

/-- **An event that names a tool** writes one line, which changes to that tool. -/
theorem lines_of_tool (hs : e.params.AreScalar) {v : Value} (hv : e.tool? = some v)
    (hw : w.HoldsTool) (settled : w.files.IsSettled) (run : e.perform w = (.ok (), w')) :
    ∃ name cut l, v.plain = .ok name ∧ (cut = [] ∨ cut = [toolWord name]) ∧
      w'.files.main.lines = w.files.main.lines.push l ∧ l.words = cut ++ ["M6"] ∧
      toolRead w'.files.main.words = some (toolWord name) := by
  obtain ⟨change, named⟩ := Option.ite_none_right_eq_some.mp hv
  have tool : Handler.toolOf e.params = v := by
    rw [Handler.toolOf_eq, named, Option.getD_some]
  obtain ⟨made, hm, run⟩ := calls_of_perform run
  rw [change] at hm
  rcases Handler.calls_changeTool hm with ⟨none, -⟩ | ⟨-, v', name, text, plain, rfl⟩
  · rw [tool] at none
    subst none
    exact (hs.tool? named).elim
  · rw [List.forM_eq_forM, List.forM_cons, List.forM_nil, bind_pure] at run
    obtain ⟨⟨cut, short, handed⟩, -, read⟩ := hw.changes text false false
    obtain ⟨l, lines, words⟩ := Writer.lines_perform (fun _ => rfl) (Call.ends_verb _ false)
      (by simp [handed]) settled run
    obtain rfl : w.after (.verb (.changeTool v') false false) = w' := congrArg Prod.snd run
    exact ⟨name, cut, l, tool ▸ plain, short, lines, words.trans handed, read⟩

/-- **Any other event** writes no such line, and one that is meant to change the tool none at
all. -/
theorem lines_of_no_tool (he : e.tool? = none) (settled : w.files.IsSettled)
    (run : e.perform w = (.ok (), w')) :
    (∃ new, w'.files.main.lines.toList = w.files.main.lines.toList ++ new ∧
      ∀ l ∈ new, "M6" ∉ l.words) ∧ (e.name = "ChangeTool" → w' = w) := by
  obtain ⟨made, hm, ran⟩ := calls_of_perform run
  by_cases change : e.name = "ChangeTool"
  · have none : Handler.toolOf e.params = .null := by
      rw [Handler.toolOf_eq, ← tool?_of_name change, he, Option.getD_none]
    rw [change] at hm
    rcases Handler.calls_changeTool hm with ⟨-, rfl⟩ | ⟨some, -⟩
    · cases ran
      exact ⟨⟨[], (List.append_nil _).symm, List.forall_mem_nil _⟩, fun _ => rfl⟩
    · exact absurd none some
  · refine ⟨?_, fun e => absurd e change⟩
    have settled' := isSettled_perform settled run
    obtain ⟨calls, made, driven⟩ := (keepsTool_calls change).drives w
    rw [run] at driven
    obtain rfl : w' = w.runAll calls := driven
    obtain ⟨new, words, clear⟩ := Writer.words_runAll_of_keepsTool settled.toIsAlone made
    obtain ⟨more, lines⟩ := (w.grows_runAll calls).main.lines
    refine ⟨more, lines.symm, fun l hl mem => ?_⟩
    -- no line is open before or after, so the new words are those of the new lines
    rw [ProgramFile.words, ProgramFile.words, settled.ended, settled'.ended, ← lines,
      List.flatMap_append, List.append_nil, List.append_nil] at words
    have word := List.append_cancel_left words ▸ List.mem_flatMap.mpr ⟨l, hl, mem⟩
    exact (clear "M6" word).ne (by decide)

end Event

namespace Program

variable (c : Config)

theorem holdsTool_processed (records : List Trace.Record) :
    (processed c records).2.writer.HoldsTool := by
  have minds : ∀ r ∈ records, r.event.MakesOnly Call.MindsTool :=
    fun r _ => r.event.mindsTool_calls
  obtain ⟨calls, made, driven⟩ := drives_processed c minds
  rw [driven]
  exact (Writer.holdsTool_start c).runAll made

theorem ok_of_append {records more : List Trace.Record}
    (h : (processed c (records ++ more)).1 = .ok ()) : (processed c records).1 = .ok () := by
  cases failed : (processed c records).1 with
  | ok _ => rfl
  | error e =>
      have outcome := (alike_append c failed more).outcome
      rw [failed, h] at outcome
      cases outcome

/-- The last event is performed where the others have succeeded. -/
theorem perform_processed {records : List Trace.Record} {r : Trace.Record}
    (h : (processed c (records ++ [r])).1 = .ok ()) : (processed c records).1 = .ok () ∧
      r.event.perform (processed c records).2.writer =
        (.ok (), (processed c (records ++ [r])).2.writer) := by
  have first := ok_of_append c h
  have before := writer_processed c records
  have whole := writer_processed c (records ++ [r])
  rw [List.map_append, List.forM_eq_forM, List.forM_append, ← List.forM_eq_forM, h] at whole
  rw [first] at before
  rw [Step.bind_of_ok before, List.map_singleton, List.forM_eq_forM, List.forM_cons,
    List.forM_nil, bind_pure] at whole
  exact ⟨first, whole⟩

/-- The lines that change the tool are as many as the events that name one. -/
theorem countP_lines {records : List Trace.Record} (hs : ∀ r ∈ records, r.params.AreScalar)
    (h : (processed c records).1 = .ok ()) :
    (processed c records).2.writer.files.main.lines.toList.countP (·.words.getLast? = some "M6") =
      records.countP (·.event.tool?.isSome) := by
  induction records using List.reverseRecOn with
  | nil => rfl
  | append_singleton records r ih =>
      obtain ⟨earlier, last⟩ := List.forall_mem_append.mp hs
      obtain ⟨first, run⟩ := perform_processed c h
      have settled := isSettled_processed c first
      rw [List.countP_append, ← ih earlier first]
      cases named : r.event.tool? with
      | some v =>
          obtain ⟨name, cut, l, -, -, lines, words, -⟩ := Event.lines_of_tool
            (last r (List.mem_singleton_self r)) named (holdsTool_processed c records) settled run
          simp [lines, words, named, List.countP_append]
      | none =>
          obtain ⟨⟨new, lines, clear⟩, -⟩ := Event.lines_of_no_tool named settled run
          have none : new.countP (fun l => l.words.getLast? = some "M6") = 0 := by
            refine List.countP_eq_zero.mpr fun l hl e => clear l hl ?_
            exact List.mem_of_getLast? (of_decide_eq_true e)
          rw [lines, List.countP_append, none]
          simp [named]

/-- **Changes of the tool.**  A trace that is processed without a failure has one line that ends in
the word of the change for every event that names a tool.  It is the line that the event writes: the
word of the tool stands before the change or is left out, and in either case it is the last word of
a tool in the lines up to there.  An event that is meant to change the tool but names none writes
nothing: it has no number, and an identifier that it has is empty, false or zero. -/
theorem tool_changes (text : String) (h : (processed c (Trace.records text).toList).1 = .ok ()) :
    let records := (Trace.records text).toList
    let main records := (processed c records).2.writer.files.main
    (main records).lines.toList.countP (·.words.getLast? = some "M6") =
        records.countP (·.event.tool?.isSome) ∧
      ∀ before r after, records = before ++ r :: after → r.name = "ChangeTool" →
        (main (before ++ [r])).lines.toList <+: (main records).lines.toList ∧
        (∀ v ∈ r.event.tool?, ∃ name cut l, v.plain = .ok name ∧
          (cut = [] ∨ cut = [toolWord name]) ∧ l.words = cut ++ ["M6"] ∧
          (main (before ++ [r])).lines = (main before).lines.push l ∧
          toolRead ((main (before ++ [r])).lines.toList.flatMap Line.words) =
            some (toolWord name)) ∧
        (r.event.tool? = none → (main (before ++ [r])).lines = (main before).lines ∧
          r.params.lookup "tool_number" = none ∧
          ∀ v ∈ r.params.lookup "tool_id_string",
            v = .text "" ∨ v = .bool false ∨ ∃ x, v = .float x ∧ x.isZero = true) := by
  intro records main
  have scalar : ∀ r ∈ records, r.params.AreScalar := Trace.areScalar_records text
  refine ⟨?_, fun before r after split change => ?_⟩
  · simp only [main]
    exact countP_lines c scalar h
  have hs : r.params.AreScalar :=
    scalar r (split ▸ List.mem_append_right _ (List.mem_cons_self ..))
  rw [List.append_cons] at split
  have ok : (processed c (before ++ [r])).1 = .ok () :=
    ok_of_append c (split ▸ h : (processed c (before ++ [r] ++ after)).1 = .ok ())
  obtain ⟨first, run⟩ := perform_processed c ok
  have settled := isSettled_processed c first
  refine ⟨?_, fun v hv => ?_, fun none => ?_⟩
  · rw [split]
    exact (continues_append c (before ++ [r]) after).lines
  · obtain ⟨name, cut, l, plain, short, lines, words, read⟩ :=
      Event.lines_of_tool hs hv (holdsTool_processed c before) settled run
    refine ⟨name, cut, l, plain, short, words, lines, ?_⟩
    rw [ProgramFile.words, (isSettled_processed c ok).ended, List.append_nil] at read
    exact read
  · obtain ⟨-, same⟩ := Event.lines_of_no_tool none settled run
    have named : r.params.tool? = .none := (Event.tool?_of_name change).symm.trans none
    obtain ⟨identifier, number⟩ := Option.or_eq_none_iff.mp named
    refine ⟨congrArg (fun w : Writer => w.files.main.lines) (same change), number, fun v hv => ?_⟩
    refine Value.eq_of_not_truthy (hs.lookup hv) ?_
    simpa using Option.filter_eq_none_iff.mp identifier v hv

/-- A tool by its number, and the same tool by its identifier. -/
def toolTrace : String :=
  "(0)@change_tool tool_number: 3\n(1)@change_tool tool_id_string: '3' tool_number: 7"

/-- The word of the tool is left out the second time, and the change is not. -/
theorem tool_changes_toolTrace :
    (processed {} (Trace.records toolTrace).toList).1 = .ok () ∧
      let main := (processed {} (Trace.records toolTrace).toList).2.writer.files.main
      main.lines.toList.map Line.text = ["N10 T=\"3\" M6", "N20 M6"] ∧
        main.lines.toList.countP (·.words.getLast? = some "M6") = 2 := by
  -- the trace stays open here, so that no run is evaluated where the statements are compared
  have count : ∀ text, (processed {} (Trace.records text).toList).1 = .ok () →
      (processed {} (Trace.records text).toList).2.writer.files.main.lines.toList.countP
          (·.words.getLast? = some "M6") =
        (Trace.records text).toList.countP (·.event.tool?.isSome) := by
    intro text h
    have changes := tool_changes {} text h
    generalize processed {} = run at changes ⊢
    exact changes.1
  obtain ⟨ok, told, named⟩ : (processed {} (Trace.records toolTrace).toList).1 = .ok () ∧
      (processed {} (Trace.records toolTrace).toList).2.writer.files.main.lines.toList.map
        Line.text = ["N10 T=\"3\" M6", "N20 M6"] ∧
      (Trace.records toolTrace).toList.countP (·.event.tool?.isSome) = 2 := by
    rw [toolTrace, Trace.records_ofList]
    decide +kernel
  exact ⟨ok, told, (count toolTrace ok).trans named⟩

/-- **A zero is no identifier**, though it is neither missing nor empty: the change to that tool is
lost.  Between quotes it is one, and as a number it counts. -/
theorem zero_tool_lost :
    let main text := (processed {} (Trace.records text).toList).2.writer.files.main
    let bare := "(0)@change_tool tool_id_string: 0"
    (processed {} (Trace.records bare).toList).1 = .ok () ∧
      (∃ r ∈ (Trace.records bare).toList, r.name = "ChangeTool" ∧
        ∃ v ∈ r.params.lookup "tool_id_string", v.text? ≠ some "" ∧ v.plain = .ok "0") ∧
      (main bare).lines.toList = [] ∧
      (main "(0)@change_tool tool_id_string: '0'").lines.toList.map Line.text =
        ["N10 T=\"0\" M6"] ∧
      (main "(0)@change_tool tool_number: 0").lines.toList.map Line.text =
        ["N10 T=\"0\" M6"] := by
  intro main bare
  rw [show bare = String.ofList _ from rfl,
    show "(0)@change_tool tool_id_string: '0'" = String.ofList _ from rfl,
    show "(0)@change_tool tool_number: 0" = String.ofList _ from rfl]
  simp only [main, Trace.records_ofList]
  decide +kernel

end Program

end Postprocessor
