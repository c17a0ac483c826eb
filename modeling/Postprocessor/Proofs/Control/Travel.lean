import Postprocessor.Decimal.Literal
import Postprocessor.Proofs.Control.Modal

/-!
# Proofs — where the machine goes

The word of an axis is a target, or a displacement, in the unit system and from the origin of the
work offset that hold when it is executed.  Whether a word that is left out was redundant therefore
depends on more than the last word of its axis.

* `Bench`: what the words of a machine mean; `Bench.execute`: executes a word.
* `Travel`: a call that moves the machine, or sets the positioning mode, the unit system or the work
  offset.
* `position_after`: where such a call leaves an axis.
* `travel_agrees_iff`: a run and the run with every move forced go to the same places exactly when
  every word that is left out names the place where its axis stands.
* `travel_incremental`: it is not so for a displacement that is made twice.
-/

namespace Postprocessor

/-! ### Lengths -/

/-- The number that a decimal stands for. -/
def Decimal.toRat (d : Decimal) : Rat :=
  let coefficient : Rat := if d.negative then -d.coefficient else d.coefficient
  if 0 ≤ d.exponent then coefficient * 10 ^ d.exponent.toNat
  else coefficient / 10 ^ (-d.exponent).toNat

/-- The number in a word, after its address. -/
def Control.amount (word : String) : Rat :=
  match scanDecimal (word.toList.drop 1) with
  | some (d, []) => d.toRat
  | _ => 0

/-- What the words of moves mean to a machine. -/
structure Bench where
  /-- Whether they are displacements as long as no positioning mode was read. -/
  incremental : Bool
  /-- The length of a unit, by the word of the unit system. -/
  unit : Option String → Rat
  /-- The origin, by the word of the work offset. -/
  origin : Option String → Axis → Rat
  /-- Where the axes stand at the beginning. -/
  start : Axis → Rat

/-- A control with the axes that it moves. -/
structure Carriage where
  modal : Control
  position : Axis → Rat

namespace Bench

variable (b : Bench)

/-- Whether the words of axes are displacements. -/
def isIncremental (k : Control) : Bool :=
  match k (.mode .positioning) with
  | some word => word == "G91"
  | none => b.incremental

/-- Where the word of an axis sends it from `here`. -/
def destination (k : Control) (of : Axis) (word : String) (here : Rat) : Rat :=
  let length := Control.amount word * b.unit (k (.mode .units))
  if b.isIncremental k then here + length else b.origin (k (.mode .home)) of + length

/-- Executes a word. -/
def execute (s : Carriage) (word : String) : Carriage :=
  let modal := s.modal.read word
  match Control.group? word with
  | some (.axis of) =>
    ⟨modal, Function.update s.position of (b.destination modal of word (s.position of))⟩
  | _ => ⟨modal, s.position⟩

/-- Executes words in order. -/
def executeAll (s : Carriage) (words : List String) : Carriage := words.foldl b.execute s

/-- The word names the place where the axis stands. -/
def Idle (s : Carriage) (of : Axis) (word : String) : Prop :=
  b.destination s.modal of word (s.position of) = s.position of

end Bench

/-- The carriage after the words of the main file. -/
def Writer.carriage (w : Writer) (b : Bench) : Carriage :=
  b.executeAll ⟨.blank, b.start⟩ w.heard

/-! ### Executing words -/

section Executing

variable {b : Bench} {s : Carriage}

theorem executeAll_append (us vs : List String) :
    b.executeAll s (us ++ vs) = b.executeAll (b.executeAll s us) vs := List.foldl_append

theorem modal_execute (word : String) : (b.execute s word).modal = s.modal.read word := by
  rw [Bench.execute]
  split <;> rfl

theorem modal_executeAll (words : List String) :
    (b.executeAll s words).modal = s.modal.readAll words := by
  induction words generalizing s with
  | nil => rfl
  | cons word words ih =>
      show (b.executeAll (b.execute s word) words).modal = _
      rw [ih, modal_execute, Control.readAll_cons]

theorem executeAll_filter (words : List String) :
    b.executeAll s (words.filter (· ≠ "")) = b.executeAll s words := by
  induction words generalizing s with
  | nil => rfl
  | cons word words ih =>
      by_cases h : word = ""
      · subst h
        exact ih
      · rw [List.filter_cons_of_pos (by simpa using h)]
        exact ih

theorem Writer.modal_carriage (w : Writer) : (w.carriage b).modal = w.control :=
  modal_executeAll w.heard

/-- The channels that say how the word of an axis is meant. -/
def Channel.IsFrame (c : Channel) : Prop :=
  c = .mode .positioning ∨ c = .mode .units ∨ c = .mode .home

/-- A destination depends on those channels only. -/
theorem destination_congr {k k' : Control} (h : ∀ c : Channel, c.IsFrame → k' c = k c)
    (of : Axis) (word : String) (here : Rat) :
    b.destination k' of word here = b.destination k of word here := by
  have positioning := h (.mode .positioning) (.inl rfl)
  have units := h (.mode .units) (.inr (.inl rfl))
  have home := h (.mode .home) (.inr (.inr rfl))
  have incremental : b.isIncremental k' = b.isIncremental k := by
    rw [Bench.isIncremental, Bench.isIncremental, positioning]
  rw [Bench.destination, Bench.destination, incremental, units, home]

/-- A word that is not one of the axis leaves it where it stands. -/
theorem position_execute_of_ne {w : String} {a : Assignment} (h : Control.IsWordOf w a)
    {of : Axis} (hne : a.channel ≠ .axis of) : (b.execute s w).position of = s.position of := by
  rcases h with rfl | ⟨ha, rfl⟩
  · rfl
  · rw [Bench.execute, Control.group?_word ha]
    cases hc : a.channel with
    | axis of' =>
        have other : of ≠ of' := by
          rintro rfl
          exact hne hc
        exact Function.update_of_ne other ..
    | _ => rfl

/-- A word of another channel leaves what was read of a channel. -/
theorem modal_execute_of_ne {w : String} {a : Assignment} (h : Control.IsWordOf w a)
    {c : Channel} (hne : a.channel ≠ c) : (b.execute s w).modal c = s.modal c := by
  rw [modal_execute]
  rcases h with rfl | ⟨ha, rfl⟩
  · rfl
  · rw [Control.read_of_group (Control.group?_word ha), Function.update_of_ne (Ne.symm hne)]

theorem modal_execute_self {w : String} {a : Assignment} (h : Control.IsWordOf w a) :
    (b.execute s w).modal a.channel = if w = "" then s.modal a.channel else some w := by
  rw [modal_execute]
  rcases h with rfl | ⟨ha, rfl⟩
  · rfl
  · rw [if_neg (Control.word_ne_empty _ _), Control.read_of_group (Control.group?_word ha),
      Function.update_self]

theorem position_execute_self {w : String} {a : Assignment} (h : Control.IsWordOf w a)
    {of : Axis} (hof : a.channel = .axis of) : (b.execute s w).position of =
      if w = "" then s.position of else b.destination s.modal of w (s.position of) := by
  rcases h with rfl | ⟨ha, rfl⟩
  · rfl
  · have group := Control.group?_word ha
    rw [if_neg (Control.word_ne_empty _ _), Bench.execute, group, hof]
    simp only [Function.update_self]
    -- reading the word itself does not change how it is meant
    refine destination_congr (fun c hc => ?_) of _ _
    rw [← hof, Control.read_of_group group, Function.update_of_ne]
    rintro rfl
    rcases hc with hc | hc | hc <;> rw [hof] at hc <;> cases hc

variable {f : Assignment → String} {as : List Assignment}

theorem position_executeAll_of_ne (hf : ∀ a ∈ as, Control.IsWordOf (f a) a) {of : Axis}
    (hne : ∀ a ∈ as, a.channel ≠ .axis of) :
    (b.executeAll s (as.map f)).position of = s.position of := by
  induction as generalizing s with
  | nil => rfl
  | cons a as ih =>
      refine (ih (s := b.execute s (f a)) (fun c hc => hf c (List.mem_cons_of_mem _ hc))
        fun c hc => hne c (List.mem_cons_of_mem _ hc)).trans ?_
      exact position_execute_of_ne (hf a (List.mem_cons_self ..)) (hne a (List.mem_cons_self ..))

theorem modal_executeAll_of_ne (hf : ∀ a ∈ as, Control.IsWordOf (f a) a) {c : Channel}
    (hne : ∀ a ∈ as, a.channel ≠ c) : (b.executeAll s (as.map f)).modal c = s.modal c := by
  induction as generalizing s with
  | nil => rfl
  | cons a as ih =>
      refine (ih (s := b.execute s (f a)) (fun c hc => hf c (List.mem_cons_of_mem _ hc))
        fun c hc => hne c (List.mem_cons_of_mem _ hc)).trans ?_
      exact modal_execute_of_ne (hf a (List.mem_cons_self ..)) (hne a (List.mem_cons_self ..))

/-- One of several values on different channels, with those before and after it. -/
theorem split_of_mem (hnodup : (as.map Assignment.channel).Nodup) {a : Assignment} (ha : a ∈ as) :
    ∃ us vs, as = us ++ a :: vs ∧ (∀ x ∈ us, x.channel ≠ a.channel) ∧
      ∀ x ∈ vs, x.channel ≠ a.channel := by
  obtain ⟨us, vs, rfl⟩ := List.append_of_mem ha
  rw [List.map_append, List.map_cons] at hnodup
  obtain ⟨-, back, apart⟩ := List.nodup_append.mp hnodup
  refine ⟨us, vs, rfl, fun x hx => ?_, fun x hx e => ?_⟩
  · exact apart _ (List.mem_map_of_mem hx) _ (List.mem_cons_self ..)
  · exact (List.nodup_cons.mp back).1 (List.mem_map.mpr ⟨x, hx, e⟩)

/-- What is read of a channel when values are written, each on its own channel. -/
theorem modal_executeAll_word (hf : ∀ a ∈ as, Control.IsWordOf (f a) a)
    (hnodup : (as.map Assignment.channel).Nodup) {a : Assignment} (ha : a ∈ as) :
    (b.executeAll s (as.map f)).modal a.channel =
      if f a = "" then s.modal a.channel else some (f a) := by
  obtain ⟨us, vs, rfl, front, back⟩ := split_of_mem hnodup ha
  have words := List.forall_mem_append.mp hf
  have tail := List.forall_mem_cons.mp words.2
  rw [List.map_append, List.map_cons, executeAll_append]
  refine (modal_executeAll_of_ne tail.2 back).trans ?_
  rw [modal_execute_self tail.1, modal_executeAll_of_ne words.1 front]

/-- **Where one axis goes** when values are written, each on its own channel, none of them one that
says how words are meant: to the destination of its word, if it has one. -/
theorem position_executeAll (hf : ∀ a ∈ as, Control.IsWordOf (f a) a)
    (hnodup : (as.map Assignment.channel).Nodup) (hframe : ∀ a ∈ as, ¬ a.channel.IsFrame)
    {a : Assignment} (ha : a ∈ as) {of : Axis} (hof : a.channel = .axis of) :
    (b.executeAll s (as.map f)).position of =
      if f a = "" then s.position of
      else b.destination s.modal of (f a) (s.position of) := by
  obtain ⟨us, vs, rfl, front, back⟩ := split_of_mem hnodup ha
  rw [hof] at front back
  have words := List.forall_mem_append.mp hf
  have tail := List.forall_mem_cons.mp words.2
  rw [List.map_append, List.map_cons, executeAll_append]
  refine (position_executeAll_of_ne tail.2 back).trans ?_
  -- the words before it move other axes and leave alone how words are meant
  have meant : ∀ here, b.destination (b.executeAll s (us.map f)).modal of (f a) here =
      b.destination s.modal of (f a) here := fun here => by
    refine destination_congr (fun c hc => modal_executeAll_of_ne words.1 fun x hx e => ?_) of _ here
    exact hframe x (List.mem_append_left _ hx) (e ▸ hc)
  rw [position_execute_self tail.1 hof, position_executeAll_of_ne words.1 front, meant]

end Executing

/-! ### Values on different channels -/

/-- The word that a machine writes for a value, empty if it leaves it out. -/
def Machine.cut (m : Machine) (force : Bool) (a : Assignment) : String :=
  if !force && Register.agrees (m.get a.channel) a.value then "" else a.word

theorem isWordOf_cut {a : Assignment} (h : a.IsTaken) (m : Machine) (force : Bool) :
    Control.IsWordOf (m.cut force a) a := by
  rw [Machine.cut]
  split
  · exact .inl rfl
  · rcases h with h | h
    · refine .inl ?_
      rw [Assignment.word, h]
      rfl
    · exact .inr ⟨h, Channel.wordOrNone_of_admits h⟩

theorem write_cut {a : Assignment} (h : a.IsTaken) (m : Machine) (force : Bool) :
    ∃ m', Machine.write a.channel a.value force m = (.ok (m.cut force a), m') ∧
      ∀ c, a.channel ≠ c → m'.get c = m.get c := by
  rcases h with hnull | hadmits
  · refine ⟨m, ?_, fun _ _ => rfl⟩
    have empty : m.cut force a = "" := by
      rw [Machine.cut, Assignment.word, hnull]
      exact ite_self ""
    rw [empty, hnull, Machine.write_null]
  · rw [Machine.write_admitted hadmits, Machine.cut, Assignment.word,
      Channel.wordOrNone_of_admits hadmits]
    split
    · exact ⟨m, rfl, fun _ _ => rfl⟩
    · exact ⟨m.set a.channel a.value, rfl, fun c hc => by rw [Machine.get_set, if_neg hc]⟩

/-- On different channels the words of several values depend on the machine before them only. -/
theorem writeAll_cut {as : List Assignment} (ha : ∀ a ∈ as, a.IsTaken)
    (hnodup : (as.map Assignment.channel).Nodup) (m : Machine) (force : Bool) :
    (Machine.writeAll force as m).1 = .ok (as.map (m.cut force)) := by
  induction as generalizing m with
  | nil => rfl
  | cons a as ih =>
      obtain ⟨hnew, hnodup'⟩ := List.nodup_cons.mp hnodup
      obtain ⟨m', hw, hframe⟩ := write_cut (ha a (List.mem_cons_self ..)) m force
      have rest := ih (fun c hc => ha c (List.mem_cons_of_mem _ hc)) hnodup' m'
      have same : as.map (m'.cut force) = as.map (m.cut force) := by
        refine List.map_congr_left fun c hc => ?_
        rw [Machine.cut, Machine.cut, hframe c.channel fun e =>
          hnew (List.mem_map.mpr ⟨c, hc, e.symm⟩)]
      rcases hws : Machine.writeAll force as m' with ⟨r, m''⟩
      rw [hws, same] at rest
      obtain rfl : r = .ok (as.map (m.cut force)) := rest
      rw [Machine.writeAll_cons_of_ok hw hws, List.map_cons]

/-! ### Calls -/

/-- The writer's main file after a verb with its values on different channels. -/
theorem heard_verb {calls : List Call} {w : Writer} (h : Follows calls w) {v : Verb}
    (hv : v.IsModal) (hnodup : (v.assigned.map Assignment.channel).Nodup) (force noFlush : Bool) :
    (w.after (.verb v force noFlush)).heard =
      w.heard ++ ((v.assigned.map (w.machine.cut force)).filter (· ≠ "") ++ v.actions) := by
  cases hr : v.refusal with
  | error e =>
      obtain ⟨hw, assigned, actions⟩ := words_refused hr force w.machine
      have step : (Call.verb v force noFlush).fileStep w.machine = throw e := by
        simp only [Call.fileStep, Call.emission, hw]
        rfl
      rw [Writer.heard, Writer.files_after, step, Step.run_throw, assigned, actions]
      exact (List.append_nil _).symm
  | ok u =>
      obtain ⟨words, texts, m', hw, ht, heard⟩ := words_written hv hr force h.tracks
      have cut := writeAll_cut (Verb.isTaken_assigned hv) hnodup w.machine force
      rw [hw] at cut
      obtain rfl := Except.ok.inj cut
      have step : (Call.verb v force noFlush).fileStep w.machine = FileSet.emit texts noFlush := by
        simp only [Call.fileStep, Call.emission, ht]
        rfl
      rw [Writer.heard, Writer.files_after, step, (FileSet.main_emit h.opened texts noFlush).2,
        List.flatMap_append, ← heard]
      rfl

/-- A verb that moves the machine, or sets the positioning mode, the unit system or the work
offset, with values that can be written. -/
def Verb.IsTravel : Verb → Prop
  | .rapid target => ∀ of, (Channel.axis of).Takes (target of)
  | .line target feed => (∀ of, (Channel.axis of).Takes (target of)) ∧ Channel.feed.Takes feed
  | .set (.mode mode _) => (Channel.mode mode).IsFrame
  | _ => False

/-- Whether the verb is a move. -/
def Verb.isMove : Verb → Bool
  | .rapid _ | .line .. => true
  | _ => false

/-- The target of a move; null for an axis that does not move. -/
def Verb.target : Verb → Axis → Value
  | .rapid target | .line target _ => target
  | _ => fun _ => .null

namespace Verb

theorem IsTravel.isModal {v : Verb} (h : v.IsTravel) : v.IsModal := by
  cases v with
  | rapid target => exact isModal_rapid h
  | line target feed => exact isModal_line h.1 h.2
  | set t =>
      cases t with
      | mode mode code => exact isModal_set trivial
      | _ => exact h.elim
  | changeTool name => exact h.elim

theorem channels_mode (mode : Mode) (code : Value) : ∀ a ∈ (Setting.mode mode code).assigned,
    a.channel = .mode mode := by
  intro a ha
  cases h : (Setting.mode mode code).assignments with
  | error e =>
      rw [Setting.assigned_of_error h] at ha
      cases ha
  | ok as =>
      rw [Setting.assigned_of_ok h] at ha
      obtain ⟨_, -, rfl⟩ := map_eq_ok h
      rw [List.mem_singleton.mp ha]

theorem mem_assigned_of_move {v : Verb} (h : v.isMove = true) (of : Axis) :
    ⟨.axis of, v.target of⟩ ∈ v.assigned := by
  have axis : of ∈ Axis.all := by cases of <;> decide
  cases v with
  | rapid target =>
      rw [assigned_rapid]
      exact List.mem_cons_of_mem _ (List.mem_map.mpr ⟨of, axis, rfl⟩)
  | line target feed =>
      rw [assigned_line]
      exact List.mem_append_left _ (List.mem_cons_of_mem _ (List.mem_map.mpr ⟨of, axis, rfl⟩))
  | _ => cases h

theorem not_isFrame_of_move {v : Verb} (h : v.isMove = true) :
    ∀ a ∈ v.assigned, ¬ a.channel.IsFrame := by
  intro a ha
  have channel : a.channel = .mode .motion ∨ (∃ of, a.channel = .axis of) ∨ a.channel = .feed := by
    cases v with
    | rapid target =>
        rw [assigned_rapid] at ha
        rcases List.mem_cons.mp ha with rfl | ha
        · exact .inl rfl
        · obtain ⟨of, -, rfl⟩ := List.mem_map.mp ha
          exact .inr (.inl ⟨of, rfl⟩)
    | line target feed =>
        rw [assigned_line] at ha
        rcases List.mem_append.mp ha with ha | ha
        · rcases List.mem_cons.mp ha with rfl | ha
          · exact .inl rfl
          · obtain ⟨of, -, rfl⟩ := List.mem_map.mp ha
            exact .inr (.inl ⟨of, rfl⟩)
        · rw [List.mem_singleton.mp ha]
          exact .inr (.inr rfl)
    | _ => cases h
  rintro (frame | frame | frame) <;> rw [frame] at channel <;> simp at channel

/-- A verb that is no move assigns nothing to an axis. -/
theorem IsTravel.channel_of_not_move {v : Verb} (h : v.IsTravel) (hm : v.isMove = false) :
    (∀ of, v.target of = .null) ∧ ∀ a ∈ v.assigned, ∀ of, a.channel ≠ .axis of := by
  cases v with
  | set s =>
      cases s with
      | mode mode code =>
          refine ⟨fun of => rfl, fun a ha of => ?_⟩
          rw [assigned_set] at ha
          rw [channels_mode mode code a ha]
          simp
      | _ => exact h.elim
  | changeTool name => exact h.elim
  | _ => cases hm

end Verb

/-- The carriage after a verb that travels: the words that are not left out are executed. -/
theorem carriage_after (b : Bench) {calls : List Call} {w : Writer} (h : Follows calls w) {v : Verb}
    (hv : v.IsTravel) (force noFlush : Bool) :
    (w.after (.verb v force noFlush)).carriage b =
      b.executeAll (w.carriage b) (v.assigned.map (w.machine.cut force)) := by
  have actions : v.actions = [] := by
    cases v with
    | changeTool name => exact hv.elim
    | _ => rfl
  rw [Writer.carriage, heard_verb h hv.isModal v.nodup_assigned, actions, List.append_nil,
    executeAll_append, executeAll_filter]
  rfl

theorem Verb.IsTravel.isWordOf_cut {v : Verb} (hv : v.IsTravel) (m : Machine) (force : Bool) :
    ∀ a ∈ v.assigned, Control.IsWordOf (m.cut force a) a := fun a ha =>
  Postprocessor.isWordOf_cut (Verb.isTaken_assigned hv.isModal a ha) m force

/-- The position of an axis after a verb that travels: the destination of its word, if one is
written. -/
theorem position_after (b : Bench) {calls : List Call} {w : Writer} (h : Follows calls w) {v : Verb}
    (hv : v.IsTravel) (force noFlush : Bool) (of : Axis) :
    ((w.after (.verb v force noFlush)).carriage b).position of =
      let word := w.machine.cut force ⟨.axis of, v.target of⟩
      if word = "" then (w.carriage b).position of
      else b.destination w.control of word ((w.carriage b).position of) := by
  have words := hv.isWordOf_cut w.machine force
  rw [carriage_after b h hv, ← w.modal_carriage (b := b)]
  cases hm : v.isMove with
  | true =>
      exact position_executeAll words v.nodup_assigned (Verb.not_isFrame_of_move hm)
        (Verb.mem_assigned_of_move hm of) rfl
  | false =>
      obtain ⟨still, channels⟩ := hv.channel_of_not_move hm
      have none : w.machine.cut force ⟨.axis of, v.target of⟩ = "" := by
        rw [still, Machine.cut]
        exact ite_self ""
      simp only [none]
      exact position_executeAll_of_ne words fun a ha => channels a ha of

/-! ### Runs -/

/-- A call of a verb that travels. -/
structure Travel where
  verb : Verb
  noFlush : Bool
  isTravel : verb.IsTravel

namespace Travel

/-- The call; a move is forced if `force` is set, a setting never is. -/
def call (force : Bool) (t : Travel) : Call := .verb t.verb (force && t.verb.isMove) t.noFlush

/-- The writer after calls. -/
def run (c : Config) (force : Bool) (ts : List Travel) : Writer :=
  (Writer.start c).runAll (ts.map (call force))

/-- The move leaves the word of an axis out on a machine, though it has a target for it. -/
def LeavesOut (t : Travel) (m : Machine) (of : Axis) : Prop :=
  t.verb.target of ≠ .null ∧ Register.agrees (m.get (.axis of)) (t.verb.target of) = true

theorem follows_run (c : Config) (force : Bool) (ts : List Travel) :
    Follows (ts.map (call force)) (run c force ts) := by
  have modal : ∀ d ∈ ts.map (call force), d.IsModal := by
    intro d hd
    obtain ⟨t, -, rfl⟩ := List.mem_map.mp hd
    exact t.isTravel.isModal
  have all := follows_runAll (follows_start c) modal
  rwa [List.nil_append] at all

/-- Forced or not, the two runs read the same. -/
theorem control_run (c : Config) (force : Bool) (ts : List Travel) :
    (run c force ts).control = (run c false ts).control := by
  rw [(follows_run c force ts).control, (follows_run c false ts).control, List.flatMap_map,
    List.flatMap_map]
  rfl

theorem run_concat (c : Config) (force : Bool) (ts : List Travel) (t : Travel) :
    run c force (ts ++ [t]) = (run c force ts).after (t.call force) := by
  rw [run, List.map_append, Writer.runAll_append]
  rfl

/-- The word of the target of an axis. -/
def wordFor (t : Travel) (of : Axis) : String := (Channel.axis of).wordOrNone (t.verb.target of)

theorem isMove_of_target {t : Travel} {of : Axis} (h : t.verb.target of ≠ .null) :
    t.verb.isMove = true := by
  cases hm : t.verb.isMove with
  | true => rfl
  | false => exact absurd ((t.isTravel.channel_of_not_move hm).1 of) h

theorem wordFor_ne_empty {t : Travel} {of : Axis} (h : t.verb.target of ≠ .null) :
    t.wordFor of ≠ "" := by
  have taken := Verb.isTaken_assigned t.isTravel.isModal _
    (Verb.mem_assigned_of_move (isMove_of_target h) of)
  have admits : (Channel.axis of).Admits (t.verb.target of) := taken.resolve_left h
  rw [wordFor, Channel.wordOrNone_of_admits admits]
  exact Control.word_ne_empty _ _

/-- Where a move that is not forced leaves an axis: where it stands, if its word is left out. -/
theorem position_given (b : Bench) (c : Config) (ts : List Travel) (t : Travel) {of : Axis}
    (h : t.verb.target of ≠ .null) [Decidable (t.LeavesOut (run c false ts).machine of)] :
    ((run c false (ts ++ [t])).carriage b).position of =
      if t.LeavesOut (run c false ts).machine of then ((run c false ts).carriage b).position of
      else b.destination (run c false ts).control of (t.wordFor of)
        (((run c false ts).carriage b).position of) := by
  rw [run_concat, call, position_after b (follows_run c false ts) t.isTravel, Bool.false_and]
  simp only [Machine.cut, Bool.not_false, Bool.true_and]
  by_cases hagrees : Register.agrees ((run c false ts).machine.get (.axis of)) (t.verb.target of)
  · rw [if_pos hagrees, if_pos rfl, if_pos ⟨h, hagrees⟩]
  · have written : ¬ t.LeavesOut (run c false ts).machine of := fun hl => hagrees hl.2
    rw [if_neg hagrees, if_neg written]
    exact if_neg (wordFor_ne_empty h)

/-- Where a forced move leaves an axis. -/
theorem position_forced (b : Bench) (c : Config) (ts : List Travel) (t : Travel) {of : Axis}
    (h : t.verb.target of ≠ .null) :
    ((run c true (ts ++ [t])).carriage b).position of =
      b.destination (run c false ts).control of (t.wordFor of)
        (((run c true ts).carriage b).position of) := by
  rw [run_concat, call, position_after b (follows_run c true ts) t.isTravel, isMove_of_target h,
    control_run]
  exact if_neg (wordFor_ne_empty h)

theorem position_still (b : Bench) (c : Config) (force : Bool) (ts : List Travel) (t : Travel)
    {of : Axis} (h : t.verb.target of = .null) :
    ((run c force (ts ++ [t])).carriage b).position of =
      ((run c force ts).carriage b).position of := by
  rw [run_concat, call, position_after b (follows_run c force ts) t.isTravel, h]
  exact if_pos (ite_self "")

end Travel

/-- The places after a run of calls. -/
def Travel.places (b : Bench) (c : Config) (force : Bool) (ts : List Travel) : Axis → Rat :=
  ((run c force ts).carriage b).position

/-- One more call keeps two runs together exactly when every word that is left out names the place
where its axis stands. -/
theorem travel_step (b : Bench) (c : Config) (ts : List Travel) (t : Travel)
    (h : Travel.places b c false ts = Travel.places b c true ts) :
    Travel.places b c false (ts ++ [t]) = Travel.places b c true (ts ++ [t]) ↔
      ∀ of, t.LeavesOut (Travel.run c false ts).machine of →
        b.Idle ((Travel.run c false ts).carriage b) of (t.wordFor of) := by
  classical
  rw [funext_iff]
  refine forall_congr' fun of => ?_
  have here : ((Travel.run c true ts).carriage b).position of =
      ((Travel.run c false ts).carriage b).position of := (congrFun h of).symm
  by_cases htarget : t.verb.target of = .null
  · have still : Travel.places b c false (ts ++ [t]) of =
        Travel.places b c true (ts ++ [t]) of := by
      rw [Travel.places, Travel.places, Travel.position_still b c false ts t htarget,
        Travel.position_still b c true ts t htarget, here]
    exact iff_of_true still fun hl => absurd htarget hl.1
  · rw [Travel.places, Travel.places, Travel.position_given b c ts t htarget,
      Travel.position_forced b c ts t htarget, here, Bench.Idle, Writer.modal_carriage]
    by_cases hl : t.LeavesOut (Travel.run c false ts).machine of
    · rw [if_pos hl]
      exact ⟨fun e _ => e.symm, fun e => (e hl).symm⟩
    · rw [if_neg hl]
      exact iff_of_true rfl fun hl' => absurd hl' hl

/-- **Which words are redundant.**  A run of moves and settings, and the same run with every move
forced, take the machine to the same places after each call exactly when every word that is left out
names, in the positioning mode, the unit system and the work offset of that moment, the place where
its axis stands. -/
theorem travel_agrees_iff (b : Bench) (c : Config) (ts : List Travel) :
    (∀ n, Travel.places b c false (ts.take n) = Travel.places b c true (ts.take n)) ↔
      ∀ (n : Fin ts.length) (of : Axis),
        ts[n].LeavesOut (Travel.run c false (ts.take n)).machine of →
          b.Idle ((Travel.run c false (ts.take n)).carriage b) of (ts[n].wordFor of) := by
  have next : ∀ n : Fin ts.length, ts.take (n + 1) = ts.take n ++ [ts[n]] := fun n =>
    (List.take_append_getElem n.isLt).symm
  constructor
  · intro h n
    have after := h (n + 1)
    rw [next] at after
    exact (travel_step b c (ts.take n) ts[n] (h n)).mp after
  · intro h n
    induction n with
    | zero => rfl
    | succ n ih =>
        by_cases hn : n < ts.length
        · rw [next ⟨n, hn⟩]
          exact (travel_step b c (ts.take n) ts[n] ih).mpr (h ⟨n, hn⟩)
        · have all : ts.take (n + 1) = ts.take n := by
            rw [List.take_of_length_le (by omega), List.take_of_length_le (by omega)]
          rw [all]
          exact ih

/-! ### A displacement that is made twice -/

/-- A machine that counts in one unit from one origin. -/
def Bench.plain : Bench := ⟨false, fun _ => 1, fun _ _ => 0, fun _ => 0⟩

/-- A target for the first axis only. -/
def firstAxis (v : Value) : Axis → Value
  | .x => v
  | _ => .null

/-- The choice of displacements, and the displacement of the first axis by ten, twice. -/
def Travel.twice : List Travel :=
  [⟨.set (.mode .positioning (.int 91)), false, .inl rfl⟩,
    ⟨.rapid (firstAxis (.int 10)), false, by
      intro of
      cases of with
      | x => exact .inr (by decide : IsPrintable 10)
      | _ => exact .inl rfl⟩,
    ⟨.rapid (firstAxis (.int 10)), false, by
      intro of
      cases of with
      | x => exact .inr (by decide : IsPrintable 10)
      | _ => exact .inl rfl⟩]

/-- **Displacements are lost**: the second one is left out, and the machine stands at ten where it
should stand at twenty. -/
theorem travel_incremental : Travel.places .plain {} false Travel.twice .x = 10 ∧
    Travel.places .plain {} true Travel.twice .x = 20 := by
  decide +kernel

end Postprocessor
