import Postprocessor.Proofs.Control.Reading
import Postprocessor.Proofs.Machine.Stopping

/-!
# Proofs — the codes of a machine

Seven channels are set by codes: the five modes, the plane and the direction of the spindle.  Their
settings check what they are given before anything is written, so that whatever the machine is told,
and however often it refuses, these channels hold codes and only codes are written for them.

* `Channel.coded`, `Setting.coded?`: the channels with codes and the settings for them.
* `Setting.Names`: the code that a setting asks for.
* `Setting.assignments_coded`: a setting for a channel with codes is accepted with the code that it
  names, or it names none and is refused.
* `Machine.Order`, `Machine.afterAll`: orders to a machine, and what they leave.
* `codes_afterAll`: after any orders the machine keeps to the codes.
-/

namespace Postprocessor

/-! ### Values -/

namespace Value

mutual

/-- Showing a value fails at a whole number with too many digits only. -/
theorem eq_of_shown : ∀ {v : Value} {e : Failure}, v.shown = .error e → e = .tooManyDigits
  | .list items, e, h => by
      rw [shown] at h
      exact eq_of_shownItems (map_eq_error h)
  | .mapping entries, e, h => by
      rw [shown] at h
      exact eq_of_shownEntries (map_eq_error h)
  | .set [], e, h => by simp [shown] at h
  | .set (x :: xs), e, h => by
      rw [shown] at h
      · exact eq_of_shownItems (map_eq_error h)
      · simp
  | .pair a b, e, h => by
      rw [shown] at h
      rcases bind_eq_error h with h | ⟨_, -, h⟩
      · exact eq_of_shown h
      rcases bind_eq_error h with h | ⟨_, -, h⟩
      · exact eq_of_shown h
      · cases h
  | .int i, e, h => by
      by_cases hi : IsPrintable i
      · simp [shown, shownAtom, intWritten_of_isPrintable hi] at h
      · simpa [shown, shownAtom, intWritten_of_not_isPrintable hi] using h.symm
  | .null, e, h | .bool _, e, h | .float _, e, h | .text _, e, h | .symbol _, e, h
  | .foreign _, e, h | .again _, e, h => by simp [shown, shownAtom] at h

theorem eq_of_shownItems : ∀ {xs : List Value} {e : Failure},
    shownItems xs = .error e → e = .tooManyDigits
  | [], e, h => by simp [shownItems] at h
  | x :: xs, e, h => by
      rw [shownItems] at h
      rcases bind_eq_error h with h | ⟨_, -, h⟩
      · exact eq_of_shown h
      rcases bind_eq_error h with h | ⟨_, -, h⟩
      · exact eq_of_shownItems h
      · cases h

theorem eq_of_shownEntries : ∀ {es : List (Value × Value)} {e : Failure},
    shownEntries es = .error e → e = .tooManyDigits
  | [], e, h => by simp [shownEntries] at h
  | (k, v) :: es, e, h => by
      rw [shownEntries] at h
      rcases bind_eq_error h with h | ⟨_, -, h⟩
      · exact eq_of_shown h
      rcases bind_eq_error h with h | ⟨_, -, h⟩
      · exact eq_of_shown h
      rcases bind_eq_error h with h | ⟨_, -, h⟩
      · exact eq_of_shownEntries h
      · cases h

end

end Value

/-! ### Channels and settings -/

namespace Channel

/-- The channels that are set by codes. -/
def coded : List Channel := Control.preparatory ++ [.direction]

/-- The word for a code. -/
def codeWord (c : Channel) (i : Int) : String :=
  (if c = .direction then "M" else "G") ++ String.ofList (intText i)

theorem mem_coded_iff (c : Channel) : c ∈ coded ↔ c.codes ≠ [] := by
  cases c with
  | axis of => cases of <;> decide
  | mode mode => cases mode <;> decide
  | _ => decide

theorem word_eq_codeWord {c : Channel} (hc : c ∈ coded) {v : Value} {i : Int} (h : v.IsCode i) :
    c.word v = c.codeWord i := by
  have notTool : c ≠ .tool := by rintro rfl; revert hc; decide
  have address : c.address = if c = .direction then "M" else "G" := by
    revert c
    decide
  rw [word, codeWord, content_eq_digits notTool, h.digits, address]

/-- No two codes have the same word. -/
theorem codeWord_injective : ∀ c ∈ coded, ∀ i ∈ c.codes, ∀ d ∈ coded, ∀ j ∈ d.codes,
    c.codeWord i = d.codeWord j → c = d ∧ i = j := by
  have apart : ∀ c ∈ coded, ∀ d ∈ coded, (c = .direction ↔ d = .direction) →
      ∀ i ∈ c.codes, i ∈ d.codes → c = d := by decide
  have chars (c : Channel) (i : Int) :
      (c.codeWord i).toList = (if c = .direction then 'M' else 'G') :: intText i := by
    rw [codeWord, String.toList_append, String.toList_ofList]
    split <;> rfl
  intro c hc i hi d hd j hj same
  have same := congrArg String.toList same
  rw [chars, chars] at same
  obtain ⟨letter, digits⟩ := List.cons.inj same
  have alike : c = .direction ↔ d = .direction := by
    split at letter <;> split at letter <;> simp_all
  obtain rfl := intText_injective digits
  exact ⟨apart c hc d hd alike i hi hj, rfl⟩

end Channel

namespace Setting

/-- The channel with codes that a setting is for. -/
def coded? : Setting → Option Channel
  | .mode m _ => some (.mode m)
  | .plane _ => some .plane
  | .direction _ => some .direction
  | _ => none

/-- The setting asks for the code: a mode by the code itself, the plane and the direction by a
symbol. -/
def Names : Setting → Int → Prop
  | .mode m v, i => i ∈ m.codes ∧ v.IsCode i
  | .plane v, i => ∃ p : Plane, v.symbol? = some (.plane p) ∧ p.code = i
  | .direction v, i => ∃ d : Direction, v.symbol? = some (.direction d) ∧ d.code? = some i
  | _, _ => False

/-- A mode is given a value that cannot be looked up among its codes. -/
def IsUnfindable : Setting → Prop
  | .mode _ v => v.isFindable = false
  | _ => False

instance : DecidablePred IsUnfindable
  | .mode _ v => inferInstanceAs (Decidable (v.isFindable = false))
  | .position _ | .plane _ | .feed _ | .speed _ | .direction _ | .tool _ => .isFalse id

/-- The kind of a failure to set a code. -/
def refusalKind (s : Setting) : String := if s.IsUnfindable then "TypeError" else "ValueError"

theorem coded?_mem {s : Setting} {c : Channel} (h : s.coded? = some c) : c ∈ Channel.coded := by
  cases s with
  | mode m v => cases h; cases m <;> decide
  | plane v | direction v => cases h; decide
  | _ => cases h

end Setting

/-- A report that shows a value has the kind of the report, or else the value has too many digits. -/
theorem kind_of_shown {α : Type} {v : Value} {report : String → Failure} {e : Failure}
    (hk : ∀ shown, (report shown).kind = "ValueError")
    (h : (v.shown.bind fun shown => .error (report shown) : Except Failure α) = .error e) :
    e.kind = "ValueError" := by
  rcases bind_eq_error h with hs | ⟨shown, -, hs⟩
  · rw [Value.eq_of_shown hs]
    rfl
  · cases hs
    exact hk shown

namespace Mode

variable {mode : Mode} {v : Value}

/-- A value that is refused is no code.  The kind of the failure says whether it was looked up. -/
theorem check_eq_error {e : Failure} (h : mode.check v = .error e) :
    (∀ i ∈ mode.codes, ¬ v.IsCode i) ∧
      e.kind = if v.isFindable = false then "TypeError" else "ValueError" := by
  have refused : ∀ w : Value, mode.refuse w = .error e → e.kind = "ValueError" :=
    fun w hw => kind_of_shown (fun _ => rfl) hw
  cases v with
  | bool b => exact ⟨fun i _ hi => hi.notBool b rfl, refused _ h⟩
  | _ =>
      simp only [check] at h
      split at h
      · next hf =>
          cases h
          have hf' := Bool.not_eq_true' _ ▸ hf
          refine ⟨fun i _ hi => ?_, by rw [if_pos hf']; rfl⟩
          rcases hi.cases with e | ⟨x, e, -⟩ <;> cases e <;> cases hf'
      · next hf =>
          split at h
          · cases h
          · next hany =>
              refine ⟨fun i hi hv => hany (List.any_eq_true.mpr ⟨i, hi, hv.same⟩), ?_⟩
              rw [if_neg (by simpa using hf)]
              exact refused _ h

end Mode

theorem planeCode_eq_error {v : Value} {e : Failure} (h : planeCode v = .error e) :
    (∀ p, v.symbol? ≠ some (.plane p)) ∧ e.kind = "ValueError" := by
  rw [planeCode] at h
  split at h
  · cases h
  · next hv => exact ⟨fun p hp => hv p hp, kind_of_shown (fun _ => rfl) h⟩

theorem directionCode_eq_error {v : Value} {e : Failure} (h : directionCode v = .error e) :
    (∀ d i, v.symbol? = some (.direction d) → d.code? ≠ some i) ∧ e.kind = "ValueError" := by
  rw [directionCode] at h
  split at h
  · next d hd =>
      split at h
      · cases h
      · next hc =>
          refine ⟨fun d' i hd' hi => ?_, kind_of_shown (fun _ => rfl) h⟩
          cases hd.symm.trans hd'
          rw [hc] at hi
          cases hi
  · next hv => exact ⟨fun d i hd _ => hv d hd, kind_of_shown (fun _ => rfl) h⟩

namespace Setting

variable {s : Setting} {c : Channel}

/-- **A setting for a channel with codes** is accepted with the code that it names, or it names none
and is refused. -/
theorem assignments_coded (h : s.coded? = some c) :
    (∃ i ∈ c.codes, ∃ v : Value, s.Names i ∧ v.IsCode i ∧ s.assignments = .ok [⟨c, v⟩]) ∨
      ∃ e, (∀ i, ¬ s.Names i) ∧ s.assignments = .error e ∧ e.kind = s.refusalKind := by
  cases s with
  | mode m v =>
      cases h
      cases hc : m.check v with
      | ok _ =>
          obtain ⟨i, hi, hv⟩ := Mode.check_eq_ok hc
          exact .inl ⟨i, hi, v, ⟨hi, hv⟩, hv, by rw [assignments, hc]; rfl⟩
      | error e =>
          obtain ⟨none, kind⟩ := Mode.check_eq_error hc
          exact .inr ⟨e, fun i hi => none i hi.1 hi.2, by rw [assignments, hc]; rfl, kind⟩
  | plane v =>
      cases h
      cases hc : planeCode v with
      | ok i =>
          obtain ⟨p, hp, rfl⟩ := planeCode_eq_ok hc
          exact .inl ⟨p.code, p.code_mem, _, ⟨p, hp, rfl⟩, Value.isCode_int _,
            by rw [assignments, hc]; rfl⟩
      | error e =>
          obtain ⟨none, kind⟩ := planeCode_eq_error hc
          refine .inr ⟨e, ?_, by rw [assignments, hc]; rfl, kind⟩
          rintro i ⟨p, hp, -⟩
          exact none p hp
  | direction v =>
      cases h
      cases hc : directionCode v with
      | ok i =>
          obtain ⟨d, hd, hi⟩ := directionCode_eq_ok hc
          exact .inl ⟨i, Direction.code?_mem hi, _, ⟨d, hd, hi⟩, Value.isCode_int _,
            by rw [assignments, hc]; rfl⟩
      | error e =>
          obtain ⟨none, kind⟩ := directionCode_eq_error hc
          refine .inr ⟨e, ?_, by rw [assignments, hc]; rfl, kind⟩
          rintro i ⟨d, hd, hi⟩
          exact none d i hd hi
  | _ => cases h

/-- Other settings assign nothing to a channel with codes. -/
theorem not_coded_of_mem (h : s.coded? = none) {as : List Assignment} (hs : s.assignments = .ok as) :
    ∀ a ∈ as, a.channel ∉ Channel.coded := by
  cases s with
  | position target =>
      cases hs
      intro a ha
      obtain ⟨axis, mem, rfl⟩ := List.mem_map.mp ha
      have uncoded : ∀ axis ∈ Axis.all, Channel.axis axis ∉ Channel.coded := by decide
      exact uncoded axis mem
  | feed v | speed v | tool v =>
      cases hs
      refine List.forall_mem_singleton.mpr ?_
      rw [Channel.mem_coded_iff]
      exact fun h => h rfl
  | _ => cases h

/-- What a setting assigns to a channel with codes is one of its codes. -/
theorem isCode_of_mem {as : List Assignment} (hs : s.assignments = .ok as) {a : Assignment}
    (ha : a ∈ as) (hc : a.channel ∈ Channel.coded) : ∃ i ∈ a.channel.codes, a.value.IsCode i := by
  cases h : s.coded? with
  | none => exact absurd hc (not_coded_of_mem h hs a ha)
  | some c =>
      rcases assignments_coded h with ⟨i, hi, v, -, hv, accepted⟩ | ⟨e, -, refused, -⟩
      · cases accepted.symm.trans hs
        obtain rfl := List.mem_singleton.mp ha
        exact ⟨i, hi, hv⟩
      · rw [hs] at refused
        cases refused

end Setting

/-! ### The machine -/

namespace Machine

variable {m : Machine} {c : Channel} {v : Value} {force : Bool} {s : Setting}

/-- The channels with codes hold nothing or a code. -/
def HoldsCodes (m : Machine) : Prop :=
  ∀ c ∈ Channel.coded, m.get c = .null ∨ ∃ i ∈ c.codes, (m.get c).IsCode i

theorem holdsCodes_fresh : fresh.HoldsCodes := fun c _ => .inl (get_fresh c)

/-- Writing a value leaves the machine as it is, or with that value. -/
theorem machine_write (c : Channel) (v : Value) (force : Bool) (m : Machine) :
    (write c v force m).2 = m ∨ (write c v force m).2 = m.set c v := by
  by_cases h : Assignment.IsNeeded force m ⟨c, v⟩
  · exact .inr (congrArg Prod.snd (write_of_needed h))
  · exact .inl (congrArg Prod.snd (write_of_not_needed h))

theorem HoldsCodes.set (h : m.HoldsCodes) (hv : c ∈ Channel.coded → ∃ i ∈ c.codes, v.IsCode i) :
    (m.set c v).HoldsCodes := by
  intro d hd
  rw [get_set]
  split
  · next e =>
      subst e
      exact .inr (hv hd)
  · exact h d hd

theorem HoldsCodes.writeAll (h : m.HoldsCodes) {as : List Assignment}
    (ha : ∀ a ∈ as, a.channel ∈ Channel.coded → ∃ i ∈ a.channel.codes, a.value.IsCode i) :
    (writeAll force as m).2.HoldsCodes := by
  induction as generalizing m with
  | nil => exact h
  | cons a as ih =>
      obtain ⟨first, others⟩ := List.forall_mem_cons.mp ha
      have written : (write a.channel a.value force m).2.HoldsCodes := by
        rcases machine_write a.channel a.value force m with e | e <;> rw [e]
        · exact h
        · exact h.set first
      rcases hw : write a.channel a.value force m with ⟨e | w, m'⟩
      · rw [hw] at written
        rw [writeAll_cons_of_error hw]
        exact written
      · rw [hw] at written
        rw [writeAll_cons, Step.bind_of_ok hw, Step.snd_bind fun _ _ => rfl]
        exact ih written others

/-- A setting with one code writes it. -/
theorem apply_coded (h : s.coded? = some c) (hs : s.assignments = .ok [⟨c, v⟩]) :
    apply force s m = write c v force m := by
  have joined : ∀ w, s.joined [w] = w := by
    intro w
    cases s with
    | position target => cases h
    | _ => simp [Setting.joined]
  rw [apply_eq, hs, Step.bind_of_ok (Step.run_lift _ _)]
  rcases hw : write c v force m with ⟨e | w, m'⟩
  · exact Step.bind_of_error (writeAll_cons_of_error hw []) _
  · rw [Step.bind_of_ok (writeAll_cons_of_ok hw (writeAll_nil force m')), joined]
    rfl

/-- A setting keeps the codes, wherever it fails. -/
theorem HoldsCodes.apply (h : m.HoldsCodes) (force : Bool) (s : Setting) :
    (apply force s m).2.HoldsCodes := by
  rw [apply_eq]
  cases hs : s.assignments with
  | error e => exact h
  | ok as =>
      rw [Step.bind_of_ok (Step.run_lift _ _), Step.snd_bind fun _ _ => rfl]
      exact h.writeAll fun a ha => Setting.isCode_of_mem hs ha

/-! ### Orders -/

/-- An order to a machine. -/
inductive Order where
  | set (setting : Setting) (force : Bool)
  /-- To forget everything. -/
  | reset

/-- The machine after an order, whether it is carried out or fails. -/
def after (m : Machine) : Order → Machine
  | .set setting force => (apply force setting m).2
  | .reset => fresh

/-- The machine after orders. -/
def afterAll (m : Machine) (orders : List Order) : Machine := orders.foldl after m

theorem HoldsCodes.afterAll (h : m.HoldsCodes) (orders : List Order) :
    (m.afterAll orders).HoldsCodes := by
  induction orders generalizing m with
  | nil => exact h
  | cons order orders ih =>
      refine ih ?_
      cases order with
      | set setting force => exact h.apply force setting
      | reset => exact holdsCodes_fresh

/-- A code that needs no new word is the one that the machine holds. -/
theorem HoldsCodes.isCode_of_agrees (h : m.HoldsCodes) (hc : c ∈ Channel.coded) {i : Int}
    (hi : i ∈ c.codes) (hv : v.IsCode i) (ha : Register.agrees (m.get c) v = true) :
    (m.get c).IsCode i := by
  have admits := Channel.admits_of_isCode hi hv
  rcases h c hc with hnull | ⟨j, hj, held⟩
  · rw [hnull, Channel.not_agrees_null admits] at ha
    cases ha
  · have word := Channel.word_eq_of_agrees (Channel.admits_of_isCode hj held) admits ha
    rw [Channel.word_eq_codeWord hc held, Channel.word_eq_codeWord hc hv] at word
    obtain ⟨-, rfl⟩ := Channel.codeWord_injective c hc j hj c hc i hi word
    exact held

end Machine

end Postprocessor
