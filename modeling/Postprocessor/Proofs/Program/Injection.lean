import Postprocessor.Proofs.Machine.Unbroken
import Postprocessor.Proofs.Program.Effects
import Postprocessor.Proofs.Trace.Scanning

/-!
# Proofs — no lines from a trace

A trace is cut at every line break before any value is read in it, so no value of a record holds
one; and nothing that is done to a value on its way to a line makes one.  Every line that is written
for a trace is therefore one line of the file.

* `Trace.isUnbroken_records`: the values of the records of a trace.
* `Call.IsUnbroken`: a call whose words hold no line break; `isUnbroken_calls` says that the calls
  of the handlers are so.
* `isUnbroken_runAll`: the lines that such calls write.
* `Program.lines_unbroken`: the lines of every file that is written for a trace, and the main file
  cut at its line feeds.
-/

namespace Postprocessor

/-! ### Traces -/

namespace Trace

/-- What an assignment gives stands in the text where it is found. -/
theorem content_subset {cs after : List Char} {a : Assignment}
    (h : assignmentAt? cs = some (a, after)) : a.content ⊆ cs := by
  cases assignmentAt?_eq_some_iff.mp h with
  | @intro key gap gap' value content after quoted _ _ _ _ _ here =>
      have written : content ⊆ value := by
        cases here with
        | quoted value =>
            rw [value.1, List.cons_append]
            exact List.Subset.trans (List.subset_append_left ..) (List.subset_cons_self ..)
        | bare value =>
            rw [value.1]
            exact List.subset_append_left ..
      calc content ⊆ value := written
        _ ⊆ gap' ++ value := List.subset_append_right ..
        _ ⊆ ':' :: (gap' ++ value) := List.subset_cons_self ..
        _ ⊆ key ++ gap ++ ':' :: (gap' ++ value) := List.subset_append_right ..

theorem content_subset_of_mem_scanFrom {skip : Nat} {cs : List Char} {a : Assignment}
    (h : a ∈ scanFrom skip cs) : a.content ⊆ cs := by
  induction cs generalizing skip with
  | nil => cases h
  | cons c rest ih =>
      have later {skip : Nat} (h : a ∈ scanFrom skip rest) : a.content ⊆ c :: rest :=
        List.Subset.trans (ih h) (List.subset_cons_self _ _)
      cases skip with
      | succ skip => exact later h
      | zero =>
          rw [scanFrom] at h
          split at h
          · next b after found =>
            rcases List.mem_cons.mp h with rfl | h
            · exact content_subset found
            · exact later h
          · exact later h

theorem isUnbroken_ofToken {token : List Char} (h : Text.IsUnbroken token) :
    (Value.ofToken token).IsUnbroken := by
  rw [Value.ofToken]
  split
  · exact Value.isUnbroken_bool true
  split
  · exact Value.isUnbroken_bool false
  split
  · exact Value.isUnbroken_float _
  split
  · exact Value.isUnbroken_symbol _
  · exact Value.isUnbroken_text (isUnbroken_ofList.mpr h)

/-- **The values of a trace** hold no line break. -/
theorem isUnbroken_records (text : String) :
    ∀ record ∈ (records text).toList, ∀ e ∈ record.params, e.2.IsUnbroken := by
  refine forall_records fun line hl a ha => ?_
  have content : Text.IsUnbroken a.content :=
    (Text.isUnbroken_lines text.toList line hl).mono (content_subset_of_mem_scanFrom ha)
  rw [Assignment.value]
  split
  · exact Value.isUnbroken_text (isUnbroken_ofList.mpr content)
  · exact isUnbroken_ofToken content

end Trace

/-! ### Calls -/

/-- The words that the call hands over hold no line break, whatever writer makes it. -/
def Call.IsUnbroken (call : Call) : Prop :=
  ∀ w, ∀ word ∈ call.handed w, Postprocessor.IsUnbroken word

/-- A call that only hands over the words of its emission. -/
theorem Call.isUnbroken_of_emission {call : Call} (hc : call ≠ .closeSub)
    (h : ∀ m words noFlush, call.emission m = .ok (words, noFlush) →
      ∀ word ∈ words, Postprocessor.IsUnbroken word) : call.IsUnbroken := by
  intro w
  rw [Call.handed]
  · split
    · next words noFlush he => exact h _ _ _ he
    · exact List.forall_mem_nil _
  · exact hc

theorem isUnbroken_verb {v : Verb} (h : v.IsUnbroken) (force noFlush : Bool) :
    (Call.verb v force noFlush).IsUnbroken := by
  refine Call.isUnbroken_of_emission (by simp) fun m words noFlush' he => ?_
  obtain ⟨words', hw, e⟩ := map_eq_ok he
  cases e
  exact Verb.isUnbroken_words h hw

theorem isUnbroken_set {s : Setting} (h : s.IsUnbroken) (force noFlush : Bool) :
    (Call.verb (.set s) force noFlush).IsUnbroken := by
  have settings : (Verb.set s).IsUnbroken := List.forall_mem_singleton.mpr h
  exact isUnbroken_verb settings force noFlush

theorem isUnbroken_flush : Call.flush.IsUnbroken := by
  refine Call.isUnbroken_of_emission (by simp) fun m words noFlush he => ?_
  cases he
  exact List.forall_mem_nil _

theorem isUnbroken_wordOf {v : Value} (h : v.IsUnbroken) {word : String}
    (hw : Writer.wordOf v = .ok word) : IsUnbroken word := by
  rw [Writer.wordOf] at hw
  split at hw
  · split at hw
    · next s hs =>
      cases hw
      exact h.text? hs
    · cases hw
  · cases hw
    decide

theorem isUnbroken_put {v : Value} (h : v.IsUnbroken) (ends : Bool) :
    (Call.put v ends).IsUnbroken := by
  refine Call.isUnbroken_of_emission (by simp) fun m words noFlush he => ?_
  rw [Call.emission] at he
  obtain ⟨word, hw, e⟩ := map_eq_ok he
  cases e
  exact List.forall_mem_singleton.mpr (isUnbroken_wordOf h hw)

theorem isUnbroken_comment {v : Value} (h : v.IsUnbroken) (keep : Bool) :
    (Call.comment v keep).IsUnbroken := by
  refine Call.isUnbroken_of_emission (by simp) fun m words noFlush he => ?_
  obtain ⟨word, hw, e⟩ := map_eq_ok he
  split at e <;> cases e
  · exact List.forall_mem_nil _
  · have mark : IsUnbroken "; " := by decide
    exact List.forall_mem_singleton.mpr (mark.append (isUnbroken_wordOf h hw).trimmed)

/-! ### Handlers -/

namespace Handler

variable {params : Params}

theorem isUnbroken_get (h : ∀ e ∈ params, e.2.IsUnbroken) (key : String) :
    (params.get key).IsUnbroken := by
  rw [Params.get]
  cases hv : params.lookup key with
  | none => exact Value.isUnbroken_null
  | some v => exact Params.forall_lookup h hv

theorem isUnbroken_target (h : ∀ e ∈ params, e.2.IsUnbroken) (axis : Axis) :
    (target params axis).IsUnbroken := by
  cases axis with
  | x | y | z => exact isUnbroken_get h _
  | a | b | c => exact Value.isUnbroken_null

theorem isUnbroken_toolOf (h : ∀ e ∈ params, e.2.IsUnbroken) : (toolOf params).IsUnbroken := by
  rw [toolOf]
  split <;> exact isUnbroken_get h _

theorem isUnbroken_toolName {tool name : Value} (h : tool.IsUnbroken)
    (hn : toolName tool = .ok name) : name.IsUnbroken := by
  rw [toolName.eq_def] at hn
  split at hn
  · cases hn
    exact h
  · cases hn
    exact h
  · obtain ⟨s, hs, rfl⟩ := map_eq_ok hn
    exact Value.isUnbroken_text (h.plain s hs)

/-- The settings of a move. -/
theorem isUnbroken_move (h : ∀ e ∈ params, e.2.IsUnbroken) (code : Int) :
    ∀ s ∈ [Setting.mode .motion (.int code), .position (target params)], s.IsUnbroken :=
  List.forall_mem_cons.mpr ⟨Setting.isUnbroken_mode .motion code,
    List.forall_mem_singleton.mpr (Setting.isUnbroken_position (isUnbroken_target h))⟩

theorem isUnbroken_rapid (h : ∀ e ∈ params, e.2.IsUnbroken) :
    (Verb.rapid (target params)).IsUnbroken := isUnbroken_move h 0

theorem isUnbroken_line (h : ∀ e ∈ params, e.2.IsUnbroken) :
    (Verb.line (target params) (params.get "feed")).IsUnbroken :=
  List.forall_mem_append.mpr ⟨isUnbroken_move h 1,
    List.forall_mem_singleton.mpr (Setting.isUnbroken_single rfl (isUnbroken_get h "feed"))⟩

theorem isUnbroken_changeTool {name : Value} (h : name.IsUnbroken) :
    (Verb.changeTool name).IsUnbroken :=
  List.forall_mem_singleton.mpr (Setting.isUnbroken_single rfl h)

theorem isUnbroken_directionCalls (params : Params) :
    ∀ call ∈ directionCalls params, call.IsUnbroken := by
  rw [directionCalls]
  split
  · exact List.forall_mem_singleton.mpr (isUnbroken_set (Setting.isUnbroken_direction _) false true)
  · exact List.forall_mem_nil _

/-- **The calls of a handler** hand over no line break if the parameters hold none. -/
theorem isUnbroken_calls (h : ∀ e ∈ params, e.2.IsUnbroken) {handler : Handler} {made : List Call}
    (hm : handler.calls params = .ok made) : ∀ call ∈ made, call.IsUnbroken := by
  cases handler with
  | feedSpin =>
      cases hm
      have speed : (Setting.speed (params.get "spin")).IsUnbroken :=
        Setting.isUnbroken_single rfl (isUnbroken_get h "spin")
      exact List.forall_mem_append.mpr ⟨List.forall_mem_cons.mpr
        ⟨isUnbroken_set speed false true, isUnbroken_directionCalls params⟩,
        List.forall_mem_singleton.mpr isUnbroken_flush⟩
  | rapidMove =>
      cases hm
      exact List.forall_mem_singleton.mpr (isUnbroken_verb (isUnbroken_rapid h) false false)
  | line =>
      cases hm
      exact List.forall_mem_singleton.mpr (isUnbroken_verb (isUnbroken_line h) false false)
  | absoluteMode =>
      cases hm
      exact List.forall_mem_singleton.mpr
        (isUnbroken_set (Setting.isUnbroken_mode .positioning 90) false false)
  | machinePlane =>
      rw [calls] at hm
      split at hm <;> cases hm
      · exact List.forall_mem_nil _
      · exact List.forall_mem_singleton.mpr
          (isUnbroken_set (Setting.isUnbroken_plane _) false false)
  | changeTool =>
      rw [calls] at hm
      split at hm
      · cases hm
        exact List.forall_mem_nil _
      · obtain ⟨name, hn, rfl⟩ := map_eq_ok hm
        have named := isUnbroken_toolName (isUnbroken_toolOf h) hn
        exact List.forall_mem_singleton.mpr
          (isUnbroken_verb (isUnbroken_changeTool named) false false)
  | message =>
      obtain ⟨text, ht, rfl⟩ := map_eq_ok hm
      have written : IsUnbroken text := by
        cases hv : params.lookup "message" with
        | none =>
            rw [hv] at ht
            cases ht
            decide
        | some v =>
            rw [hv] at ht
            exact (Params.forall_lookup h hv).written text ht
      exact List.forall_mem_singleton.mpr
        (isUnbroken_comment (Value.isUnbroken_text written) false)
  | endOfFile =>
      cases hm
      exact List.forall_mem_singleton.mpr
        (isUnbroken_put (Value.isUnbroken_text (by decide)) true)

end Handler

theorem Event.isUnbroken_calls {e : Event} (h : ∀ p ∈ e.params, p.2.IsUnbroken) :
    e.MakesOnly Call.IsUnbroken := by
  intro made hm
  rw [standardCalls] at hm
  split at hm
  · exact Handler.isUnbroken_calls h hm
  · cases hm
    exact List.forall_mem_nil _

/-! ### Lines -/

theorem isUnbroken_taken {words : List String} (h : ∀ word ∈ words, IsUnbroken word) :
    ∀ word ∈ taken words, IsUnbroken word := by
  intro word hw
  obtain ⟨s, hs, rfl⟩ := List.mem_map.mp (List.mem_of_mem_filter hw)
  exact (h s hs).trimmed

/-- Calls hand no line break to any file. -/
theorem isUnbroken_wordsAt {w : Writer} {calls : List Call} (hc : ∀ call ∈ calls, call.IsUnbroken)
    {k : Nat} (h : ∀ word ∈ w.files.wordsAt k, IsUnbroken word) :
    ∀ word ∈ (w.runAll calls).files.wordsAt k, IsUnbroken word := by
  induction calls generalizing w with
  | nil => exact h
  | cons call calls ih =>
      obtain ⟨first, others⟩ := List.forall_mem_cons.mp hc
      refine ih others ?_
      rw [Writer.wordsAt_after]
      refine List.forall_mem_append.mpr ⟨h, ?_⟩
      split
      · exact isUnbroken_taken (first w)
      · exact List.forall_mem_nil _

theorem isUnbroken_labelAt (n : Numbering) (k : Nat) : IsUnbroken (n.labelAt k) := by
  rw [Numbering.labelAt]
  split
  · next i _ =>
    have letter : IsUnbroken "N" := by decide
    exact (letter.append (isUnbroken_ofList.mpr (isUnbroken_intText i))).append (by decide)
  · decide

/-- **The lines that unbroken calls write** hold no line break. -/
theorem isUnbroken_runAll (c : Config) {calls : List Call} (hc : ∀ call ∈ calls, call.IsUnbroken)
    {f : ProgramFile} (hf : f ∈ ((Writer.start c).runAll calls).files.files) :
    ∀ l ∈ f.lines.toList, IsUnbroken l.text := by
  intro l hl
  obtain ⟨k, hk⟩ := List.getElem?_of_mem hf
  have words : ((Writer.start c).runAll calls).files.wordsAt k = f.words := by
    rw [FileSet.wordsAt, hk]
    rfl
  have none : ∀ word ∈ (Writer.start c).files.wordsAt k, IsUnbroken word := by
    rw [Writer.wordsAt_start]
    exact List.forall_mem_nil _
  have unbroken := isUnbroken_wordsAt hc none
  rw [words] at unbroken
  obtain ⟨j, hj, rfl⟩ := List.getElem_of_mem hl
  have inside : j < f.lines.size := by simpa using hj
  have text := (tidy_runAll c calls hf).text inside
  rw [Array.getElem_toList, text]
  refine (isUnbroken_labelAt _ _).append (IsUnbroken.intercalate (by decide) fun word hw => ?_)
  exact unbroken word (List.mem_append_left _
    (List.mem_flatMap.mpr ⟨_, Array.getElem_mem_toList inside, hw⟩))

namespace Program

variable (c : Config) (text : String)

/-- What is processed for a trace is written by calls whose words hold no line break. -/
theorem exists_runAll_of_trace : ∃ calls, (∀ call ∈ calls, call.IsUnbroken) ∧
    (processed c (Trace.records text).toList).2.writer = (Writer.start c).runAll calls :=
  drives_processed c fun r hr => Event.isUnbroken_calls (Trace.isUnbroken_records text r hr)

/-- A file without line breaks in its lines, cut at its line feeds. -/
theorem parts_text {f : ProgramFile} (h : ∀ l ∈ f.lines.toList, IsUnbroken l.text)
    (hne : f.text ≠ "") : Text.partsAt (· == '\n') f.text.toList =
      f.lines.toList.map fun l => l.text.toList := by
  have lines : f.lines.toList.map (fun l => l.text.toList) ≠ [] := by
    intro none
    rw [List.map_eq_nil_iff] at none
    rw [ProgramFile.text, none] at hne
    exact hne rfl
  have feeds : ∀ cs ∈ f.lines.toList.map (fun l => l.text.toList), '\n' ∉ cs := by
    refine List.forall_mem_map.mpr fun l hl hc => ?_
    have unbroken := h l hl '\n' hc
    exact absurd unbroken (by decide)
  have spelled : f.text.toList =
      ['\n'].intercalate (f.lines.toList.map fun l => l.text.toList) := by
    rw [ProgramFile.text, String.toList_intercalate, List.map_map]
    rfl
  rw [spelled, Text.partsAt_intercalate lines feeds]

/-- **A trace injects no lines.**  No line of any file that is written for a trace holds a line
break, however the processing ends.  So the main file, if it is not empty, has as many lines where
it is cut at its line feeds as were written to it, and each starts with its own number. -/
theorem lines_unbroken (he : c.numbering.enabled = true) :
    let files := (processed c (Trace.records text).toList).2.writer.files
    (∀ f ∈ files.files, ∀ l ∈ f.lines.toList, IsUnbroken l.text) ∧
      (files.main.text ≠ "" → Text.partsAt (· == '\n') files.main.text.toList =
        files.main.lines.toList.map fun l => l.text.toList) ∧
      ∀ k (hk : k < files.main.lines.size), ∃ body, files.main.lines[k].text =
        "N" ++ String.ofList (intText (c.numbering.start + k * c.numbering.increment)) ++ " " ++
          body := by
  obtain ⟨calls, unbroken, writer⟩ := exists_runAll_of_trace c text
  simp only [writer]
  have lines := fun f hf => isUnbroken_runAll c unbroken (f := f) hf
  have main : ((Writer.start c).runAll calls).files.main ∈
      ((Writer.start c).runAll calls).files.files := List.mem_cons_self ..
  refine ⟨lines, fun hne => parts_text (lines _ main) hne, fun k hk => ?_⟩
  have tidy := (tidy_runAll c calls main).text hk
  rw [Numbering.labelAt, Numbering.numberAt, if_pos he] at tidy
  exact ⟨_, tidy⟩

/-- A message that would run on over a separator of paragraphs, and the end. -/
def brokenTrace : String :=
  "(0)@message message: 'one\u2029(7)@message message: 'two'\n(1)@end_of_file"

/-- The separator ends the first message, and the second one has a line of its own. -/
theorem lines_brokenTrace :
    let files := (processed {} (Trace.records brokenTrace).toList).2.writer.files
    (Config.numbering {}).enabled = true ∧
      files.main.text = "N10 ; 'one\nN20 ; two\nN30 M30" ∧
      (∀ f ∈ files.files, ∀ l ∈ f.lines.toList, IsUnbroken l.text) ∧
      (Text.partsAt (· == '\n') files.main.text.toList =
        files.main.lines.toList.map fun l => l.text.toList) ∧
      ∀ k (hk : k < files.main.lines.size), ∃ body, files.main.lines[k].text =
        "N" ++ String.ofList (intText (10 + k * 10)) ++ " " ++ body := by
  obtain ⟨lines, parts, labels⟩ := lines_unbroken {} brokenTrace rfl
  have text : (processed {} (Trace.records brokenTrace).toList).2.writer.files.main.text =
      "N10 ; 'one\nN20 ; two\nN30 M30" := by
    rw [brokenTrace, Trace.records_ofList]
    decide +kernel
  exact ⟨rfl, text, lines, parts (by rw [text]; decide), labels⟩

end Program

end Postprocessor
