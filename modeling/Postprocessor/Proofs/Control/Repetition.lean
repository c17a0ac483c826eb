import Postprocessor.Proofs.Control.Lines
import Postprocessor.Proofs.Control.Travel
import Postprocessor.Proofs.Machine.Stopping
import Postprocessor.Proofs.Output.Subprograms

/-!
# Proofs — no word is said twice

A machine that is neither forced nor made to forget says of a modal group only what is new there: a
control that hears all words of the verbs, whatever files they go to, has to change at each of them.
What is new is a matter of texts for the control and of values for the machine, which come to the
same since different values are written differently.

* `Control.IsNews`: every word changes the control; `isChain_of_isNews` says that then no word of a
  group is followed by the same one.
* `Control.Mirrors`: the control holds the words of what the machine holds, and nothing else.
* `write_news`: writing a value says something new or nothing.
* `Call.IsSparing`: a call that neither forces words nor makes the machine forget.
* `Writer.said`: the words that the verbs of a run say.
* `words_again`, `files_again`: a verb that is called again.
* `isNews_said`, `no_word_twice`: the words of a run.
-/

namespace Postprocessor

/-! ### News -/

namespace Control

variable {k : Control} {us vs : List String}

/-- Every word of a modal group is another one than the last one of its group. -/
def IsNews (k : Control) : List String → Prop
  | [] => True
  | w :: ws => (∀ c, group? w = some c → k c ≠ some w) ∧ (k.read w).IsNews ws

theorem isNews_append (k : Control) (us vs : List String) :
    k.IsNews (us ++ vs) ↔ k.IsNews us ∧ (k.readAll us).IsNews vs := by
  induction us generalizing k with
  | nil => simp [IsNews, readAll_nil]
  | cons w us ih => rw [List.cons_append, IsNews, IsNews, ih, readAll_cons, and_assoc]

theorem isNews_empty (k : Control) : k.IsNews [""] := ⟨nofun, trivial⟩

/-- Words of no group are no matter. -/
theorem isNews_of_not_group (h : ∀ w ∈ us, group? w = none) (k : Control) : k.IsNews us := by
  induction us generalizing k with
  | nil => trivial
  | cons w us ih =>
      obtain ⟨first, others⟩ := List.forall_mem_cons.mp h
      refine ⟨fun c hc => ?_, ih others _⟩
      rw [first] at hc
      cases hc

theorem isNews_filter (k : Control) (us : List String) :
    k.IsNews (us.filter (· ≠ "")) ↔ k.IsNews us := by
  induction us generalizing k with
  | nil => rfl
  | cons w us ih =>
      by_cases hw : w = ""
      · subst hw
        rw [List.filter_cons_of_neg (by simp), ih, IsNews, read_empty]
        exact ⟨fun h => ⟨nofun, h⟩, And.right⟩
      · rw [List.filter_cons_of_pos (by simpa using hw), IsNews, IsNews, ih]

/-- **No word of a group is followed by the same one**, if each is news. -/
theorem isChain_of_isNews (h : k.IsNews us) (c : Channel) :
    List.IsChain (· ≠ ·) ((k c).toList ++ us.filter fun w => group? w = some c) := by
  induction us generalizing k with
  | nil => cases k c <;> simp
  | cons w us ih =>
      obtain ⟨new, rest⟩ := h
      have later := ih rest
      by_cases hw : group? w = some c
      · have read : k.read w c = some w := by
          rw [read_of_group hw, Function.update_self]
        rw [read] at later
        rw [List.filter_cons_of_pos (by simpa using hw)]
        cases hk : k c with
        | none => exact later
        | some u =>
            have other : u ≠ w := fun e => new c hw (by rw [hk, e])
            exact later.cons_cons other
      · rw [List.filter_cons_of_neg (by simpa using hw)]
        rwa [read_of_ne hw] at later

/-- The control holds the words of what the machine holds, and nothing else. -/
structure Mirrors (k : Control) (m : Machine) : Prop where
  tracks : k.Tracks m
  silent : ∀ c, m.get c = .null → k c = none

theorem mirrors_blank : blank.Mirrors .fresh := ⟨tracks_fresh _, fun _ _ => rfl⟩

end Control

/-! ### Machines -/

variable {k : Control} {m : Machine}

/-- **Writing a value** says something new, or nothing. -/
theorem write_news (h : k.Mirrors m) {a : Assignment} (ha : a.IsTaken) :
    ∃ w m', Machine.write a.channel a.value false m = (.ok w, m') ∧ k.IsNews [w] ∧
      (k.read w).Mirrors m' := by
  obtain ⟨w, m', hw, -, hread, htracks⟩ := write_step h.tracks ha false
  rw [← hread] at htracks
  -- nothing is said where nothing is needed
  have nothing : ∀ {w m'}, (.ok "", m) = ((.ok w, m') : Except Failure String × Machine) →
      k.IsNews [w] ∧ (k.read w).Mirrors m' := by
    rintro w m' ⟨⟩
    exact ⟨k.isNews_empty, h⟩
  obtain ⟨c, v⟩ := a
  refine ⟨w, m', hw, ?_⟩
  rcases ha with rfl | ha
  · rw [Machine.write_null] at hw
    exact nothing hw
  · rw [Machine.write_admitted ha] at hw
    by_cases known : Register.agrees (m.get c) v = true
    · rw [known] at hw
      exact nothing hw
    · rw [Bool.eq_false_iff.mpr known] at hw
      obtain ⟨rfl, rfl⟩ : c.word v = w ∧ m.set c v = m' := by cases hw; exact ⟨rfl, rfl⟩
      have group := Control.group?_word ha
      refine ⟨⟨fun d hd => ?_, trivial⟩, htracks, fun d hd => ?_⟩
      · -- had the control held the word, the machine would hold a value that agrees
        obtain rfl : c = d := Option.some.inj (group.symm.trans hd)
        intro held
        by_cases null : m.get c = .null
        · rw [h.silent c null] at held
          cases held
        · obtain ⟨admits, hk⟩ := h.tracks c null
          exact known (Channel.agrees_of_word_eq admits ha (Option.some.inj (hk.symm.trans held)))
      · rw [Machine.get_set] at hd
        split at hd
        · rw [hd] at ha
          exact absurd ha Channel.not_admits_null
        · next other =>
            rw [Control.read_of_ne fun e => other (Option.some.inj (group.symm.trans e))]
            exact h.silent d hd

/-- Several values. -/
theorem writeAll_news {as : List Assignment} (h : k.Mirrors m) (ha : ∀ a ∈ as, a.IsTaken) :
    ∃ words m', Machine.writeAll false as m = (.ok words, m') ∧ k.IsNews words ∧
      (k.readAll words).Mirrors m' := by
  induction as generalizing k m with
  | nil => exact ⟨[], m, rfl, trivial, h⟩
  | cons a as ih =>
      obtain ⟨first, others⟩ := List.forall_mem_cons.mp ha
      obtain ⟨w, m', hw, new, mirrors⟩ := write_news h first
      obtain ⟨words, m'', hws, news, mirrors'⟩ := ih mirrors others
      exact ⟨w :: words, m'', Machine.writeAll_cons_of_ok hw hws,
        (Control.isNews_append k [w] words).mpr ⟨new, news⟩, mirrors'⟩

theorem isNews_actions (v : Verb) (k : Control) : k.IsNews v.actions := by
  refine Control.isNews_of_not_group ?_ k
  cases v with
  | changeTool name => exact List.forall_mem_singleton.mpr (by decide)
  | _ => exact List.forall_mem_nil _

/-- The change of a tool, or the word of a channel for a value that it admits. -/
def IsVerbWord (t : String) : Prop :=
  t = "M6" ∨ ∃ (c : Channel) (v : Value), c.Admits v ∧ t = c.word v

theorem isVerbWord_of_mem_actions {v : Verb} : ∀ t ∈ v.actions, IsVerbWord t := by
  cases v with
  | changeTool name => exact List.forall_mem_singleton.mpr (.inl rfl)
  | _ => exact List.forall_mem_nil _

/-- Of the words of values those that are not left out are words of channels. -/
theorem isVerbWord_of_mem_writeAll {as : List Assignment} (ha : ∀ a ∈ as, a.IsTaken)
    (hnodup : (as.map Assignment.channel).Nodup) {force : Bool} {words : List String} {m' : Machine}
    (h : Machine.writeAll force as m = (.ok words, m')) :
    ∀ t ∈ words.filter (· ≠ ""), IsVerbWord t := by
  have cut := writeAll_cut ha hnodup m force
  rw [h] at cut
  obtain rfl := Except.ok.inj cut
  intro t mem
  obtain ⟨written, nonempty⟩ := List.mem_filter.mp mem
  obtain ⟨a, assigned, rfl⟩ := List.mem_map.mp written
  exact .inr ⟨_, _, (isWordOf_cut (ha a assigned) m force).resolve_left (by simpa using nonempty)⟩

/-- **A verb** that is not refused says news only. -/
theorem words_news {v : Verb} (hv : v.IsModal) (hr : v.refusal = .ok ()) (h : k.Mirrors m) :
    ∃ texts m', v.words false m = (.ok texts, m') ∧ k.IsNews (Control.heard texts) ∧
      (k.readAll (Control.heard texts)).Mirrors m' ∧ ∀ t ∈ Control.heard texts, IsVerbWord t := by
  have taken := Verb.isTaken_assigned hv
  obtain ⟨words, texts, m', hw, ht, heard⟩ := words_written hv hr false h.tracks
  obtain ⟨words', m'', hw', news, mirrors⟩ := writeAll_news h taken
  obtain ⟨rfl, rfl⟩ : words' = words ∧ m'' = m' := by
    rw [hw] at hw'
    cases hw'
    exact ⟨rfl, rfl⟩
  refine ⟨texts, m'', ht, ?_, ?_, ?_⟩ <;> rw [heard]
  · exact (Control.isNews_append ..).mpr ⟨(Control.isNews_filter ..).mpr news, isNews_actions ..⟩
  · rwa [Control.readAll_append, readAll_actions, Control.readAll_filter]
  · exact List.forall_mem_append.mpr
      ⟨isVerbWord_of_mem_writeAll taken v.nodup_assigned hw, isVerbWord_of_mem_actions⟩

/-! ### Runs -/

/-- A call that neither forces words nor makes the machine forget.  Verbs are given values that can
be written. -/
def Call.IsSparing : Call → Prop
  | .verb v force _ => v.IsModal ∧ force = false
  | .resetMachine => False
  | _ => True

/-- The words that a verb says, as they are handed to the current file; none for other calls. -/
def Call.utters (w : Writer) : Call → List String
  | .verb v force noFlush => Control.heard ((Call.verb v force noFlush).handed w)
  | _ => []

namespace Writer

/-- The words that the verbs of a run say, in the order in which they are said, whatever file is
current. -/
def said (w : Writer) : List Call → List String
  | [] => []
  | call :: calls => call.utters w ++ said (w.after call) calls

/-- What a call says is news. -/
theorem isNews_utters {w : Writer} {call : Call} (hc : call.IsSparing) (h : k.Mirrors w.machine) :
    k.IsNews (call.utters w) ∧ (k.readAll (call.utters w)).Mirrors (w.after call).machine ∧
      ∀ t ∈ call.utters w, IsVerbWord t := by
  rw [machine_after]
  cases call with
  | verb v force noFlush =>
      obtain ⟨hv, rfl⟩ := hc
      simp only [Call.utters, Call.handed, Call.emission, Call.machineAfter]
      cases hr : v.refusal with
      | error e =>
          rw [(words_refused hr false w.machine).1]
          exact ⟨trivial, h, List.forall_mem_nil _⟩
      | ok _ =>
          obtain ⟨texts, m', ht, news, mirrors, spelled⟩ := words_news hv hr h
          rw [ht]
          exact ⟨news, mirrors, spelled⟩
  | resetMachine => exact hc.elim
  | _ => exact ⟨trivial, h, List.forall_mem_nil _⟩

/-- **What a run says is news**, word by word. -/
theorem isNews_said {w : Writer} {calls : List Call} (hc : ∀ call ∈ calls, call.IsSparing)
    (h : k.Mirrors w.machine) :
    k.IsNews (w.said calls) ∧ (k.readAll (w.said calls)).Mirrors (w.runAll calls).machine ∧
      ∀ t ∈ w.said calls, IsVerbWord t := by
  induction calls generalizing k w with
  | nil => exact ⟨trivial, h, List.forall_mem_nil _⟩
  | cons call calls ih =>
      obtain ⟨first, others⟩ := List.forall_mem_cons.mp hc
      obtain ⟨news, mirrors, spelled⟩ := isNews_utters first h
      obtain ⟨news', mirrors', spelled'⟩ := ih others mirrors
      rw [said, runAll_cons, Control.readAll_append]
      exact ⟨(Control.isNews_append ..).mpr ⟨news, news'⟩, mirrors',
        List.forall_mem_append.mpr ⟨spelled, spelled'⟩⟩

end Writer

/-! ### Verbs that are called again -/

namespace Machine

variable {as : List Assignment} {force : Bool}

theorem agrees_write {c : Channel} {v : Value} (h : c.Admits v) (m : Machine) :
    Register.agrees ((write c v false m).2.get c) v = true := by
  rw [write_admitted h]
  split
  · next known => exact known
  · rw [get_set, if_pos rfl]
    exact Channel.agrees_of_word_eq h h rfl

/-- After values were written, each on its own channel, the machine holds them all. -/
theorem agrees_writeAll (ha : ∀ a ∈ as, a.IsTaken) (hnodup : (as.map Assignment.channel).Nodup)
    (m : Machine) : ∀ a ∈ as, a.value = .null ∨
      Register.agrees ((writeAll false as m).2.get a.channel) a.value = true := by
  induction as generalizing m with
  | nil => exact List.forall_mem_nil _
  | cons a as ih =>
      obtain ⟨first, others⟩ := List.forall_mem_cons.mp ha
      obtain ⟨new, hnodup'⟩ := List.nodup_cons.mp hnodup
      obtain ⟨m', hw, -⟩ := write_cut first m false
      rw [writeAll_cons, Step.bind_of_ok hw, Step.snd_bind fun _ _ => rfl]
      refine List.forall_mem_cons.mpr ⟨first.imp_right fun admits => ?_, ih others hnodup' m'⟩
      have apart : ∀ b ∈ as, b.channel ≠ a.channel := fun b hb e =>
        new (List.mem_map.mpr ⟨b, hb, e⟩)
      have written := agrees_write admits m
      rw [hw] at written
      rwa [get_writeAll_of_ne apart]

/-- A value that the machine holds needs no word. -/
theorem cut_eq_empty {a : Assignment} (h : a.value = .null ∨
    Register.agrees (m.get a.channel) a.value = true) : m.cut false a = "" := by
  rw [cut]
  split
  · rfl
  · next other =>
      rcases h with null | known
      · rw [Assignment.word, null]
        rfl
      · exact absurd known other

end Machine

/-- **A verb that is called again** says nothing but its actions. -/
theorem words_again {v : Verb} (hv : v.IsModal) (hr : v.refusal = .ok ()) (h : k.Tracks m) :
    ∃ texts m' texts' m'', v.words false m = (.ok texts, m') ∧
      v.words false m' = (.ok texts', m'') ∧ Control.heard texts' = v.actions := by
  have taken := Verb.isTaken_assigned hv
  obtain ⟨words, texts, m', hw, ht, -⟩ := words_written hv hr false h
  obtain ⟨words', m₁, hw', -, -, tracks⟩ := writeAll_step taken false h
  obtain rfl : m₁ = m' := by
    rw [hw] at hw'
    cases hw'
    rfl
  obtain ⟨words'', texts', m'', hw'', ht', heard⟩ := words_written hv hr false tracks
  refine ⟨texts, m₁, texts', m'', ht, ht', ?_⟩
  have held := Machine.agrees_writeAll taken v.nodup_assigned m
  rw [hw] at held
  have silent : ∀ w ∈ words'', w = "" := by
    have cut := writeAll_cut taken v.nodup_assigned m₁ false
    rw [hw''] at cut
    intro w mem
    rw [Except.ok.inj cut] at mem
    obtain ⟨a, ha, rfl⟩ := List.mem_map.mp mem
    exact Machine.cut_eq_empty (held a ha)
  have none : words''.filter (· ≠ "") = [] :=
    List.filter_eq_nil_iff.mpr fun w mem => by simp [silent w mem]
  rw [heard, none, List.nil_append]

/-- Texts without words in them. -/
theorem taken_of_heard {texts : List String} (h : Control.heard texts = []) :
    taken texts = [] := by
  refine List.eq_nil_iff_forall_not_mem.mpr fun t ht => Control.parts_ne_nil t ?_
  exact List.flatMap_eq_nil_iff.mp h t ht

namespace FileSet

theorem flush_flush (s : FileSet) : (flush (flush s).2).2 = (flush s).2 := by
  cases e : s.current.flush s.numbering with
  | error e' =>
      have kept : (flush s).2 = s := by rw [flush_eq, e]
      rw [kept, kept]
  | ok f =>
      have ended : (flush s).2 = s.setCurrent f := by rw [flush_eq, e]
      have again : f.flush s.numbering = .ok f :=
        ProgramFile.flush_of_pending_eq_nil (ProgramFile.flush_ok e).1
      rw [ended, flush_eq, current_setCurrent, numbering_setCurrent, again]
      exact setCurrent_setCurrent ..

theorem putAll_of_taken_eq_nil {words : List String} (h : taken words = []) (s : FileSet) :
    words.foldl put s = s := by
  rw [putAll_eq, ProgramFile.putAll_eq, h, List.append_nil]
  exact setCurrent_current s

/-- Nothing changes when nothing is written after something was. -/
theorem emit_again {words : List String} (h : taken words = []) (us : List String)
    (noFlush : Bool) (s : FileSet) :
    (emit words noFlush (emit us noFlush s).2).2 = (emit us noFlush s).2 := by
  cases noFlush with
  | true => exact putAll_of_taken_eq_nil h _
  | false => rw [emit_flush, emit_flush, putAll_of_taken_eq_nil h, flush_flush]

end FileSet

namespace Writer

/-- **A verb that is called again** leaves the files as they are. -/
theorem files_again {w : Writer} (h : k.Tracks w.machine) {v : Verb} (hv : v.IsModal)
    (ha : v.actions = []) (noFlush : Bool) :
    ((w.after (.verb v false noFlush)).after (.verb v false noFlush)).files =
      (w.after (.verb v false noFlush)).files := by
  rw [files_after, files_after, machine_after]
  simp only [Call.fileStep, Call.emission, Call.machineAfter]
  cases hr : v.refusal with
  | error e =>
      have refused := (words_refused hr false w.machine).1
      rw [refused]
      simp only [refused]
      rfl
  | ok _ =>
      obtain ⟨texts, m', texts', m'', ht, ht', heard⟩ := words_again hv hr h
      rw [ht]
      simp only [ht']
      exact FileSet.emit_again (taken_of_heard (heard.trans ha)) texts noFlush w.files

/-- **No word is said twice.**  In a run that neither forces words nor makes the machine forget, and
whose verbs are given values that can be written, what a verb says is the change of a tool or the
word of one channel, by which it is known.  No word of a channel is followed by the same one,
whatever calls fail and whatever files the words go to.  A verb other than the change of a tool that
is called again adds nothing to any file. -/
theorem no_word_twice (c : Config) (calls : List Call) (h : ∀ call ∈ calls, call.IsSparing) :
    (∀ t ∈ (start c).said calls, t = "M6" ∨ ∃ (channel : Channel) (v : Value),
      channel.Admits v ∧ t = channel.word v ∧ Control.group? t = some channel) ∧
    (∀ channel, List.IsChain (· ≠ ·)
      (((start c).said calls).filter fun t => Control.group? t = some channel)) ∧
    ∀ (v : Verb) (noFlush : Bool), v.IsModal → (∀ name, v ≠ .changeTool name) →
      let w := ((start c).runAll calls).after (.verb v false noFlush)
      (w.after (.verb v false noFlush)).files = w.files := by
  obtain ⟨news, mirrors, spelled⟩ := isNews_said h (w := start c) Control.mirrors_blank
  refine ⟨fun t mem => ?_, fun channel => Control.isChain_of_isNews news channel,
    fun v noFlush hv other => ?_⟩
  · rcases spelled t mem with e | ⟨channel, v, admits, rfl⟩
    · exact .inl e
    · exact .inr ⟨channel, v, admits, rfl, Control.group?_word admits⟩
  · have actions : v.actions = [] := by
      cases v with
      | changeTool name => exact absurd rfl (other name)
      | _ => rfl
    exact files_again mirrors.tracks hv actions noFlush

/-- A move to zero whose line is left pending, and the same move with the values given as other
numbers, in a subprogram. -/
def movesToZero : List Call :=
  [.verb (.line (fun _ => .int 0) .null) false true, .openSub (.text "S"),
    .verb (.line (fun _ => .float (.zero true)) .null) false false, .closeSub]

/-- The second move says nothing. -/
theorem no_word_twice_movesToZero :
    (∀ call ∈ movesToZero, call.IsSparing) ∧
      (∀ t ∈ (start {}).said movesToZero, t = "M6" ∨ ∃ (channel : Channel) (v : Value),
        channel.Admits v ∧ t = channel.word v ∧ Control.group? t = some channel) ∧
      (∀ channel, List.IsChain (· ≠ ·)
        (((start {}).said movesToZero).filter fun t => Control.group? t = some channel)) ∧
      (∀ (v : Verb) (noFlush : Bool), v.IsModal → (∀ name, v ≠ .changeTool name) →
        let w := ((start {}).runAll movesToZero).after (.verb v false noFlush)
        (w.after (.verb v false noFlush)).files = w.files) ∧
      (start {}).said movesToZero = ["G1", "X0", "Y0", "Z0", "A0", "B0", "C0"] := by
  have modal : ∀ v : Value, v.IsNumber → (Verb.line (fun _ => v) .null).IsModal := fun v hv =>
    Verb.isModal_line (fun _ => .inr hv) (.inl rfl)
  have sparing : ∀ call ∈ movesToZero, call.IsSparing := by
    intro call hc
    simp only [movesToZero, List.mem_cons, List.not_mem_nil, or_false] at hc
    rcases hc with rfl | rfl | rfl | rfl
    · exact ⟨modal _ (by decide : IsPrintable 0), rfl⟩
    · trivial
    · exact ⟨modal _ trivial, rfl⟩
    · trivial
  obtain ⟨spelled, chain, again⟩ := no_word_twice {} movesToZero sparing
  exact ⟨sparing, spelled, chain, again, by decide +kernel⟩

end Writer

end Postprocessor
