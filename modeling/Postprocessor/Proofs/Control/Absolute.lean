import Mathlib.Data.List.Induction
import Postprocessor.Proofs.Control.Travel

/-!
# Proofs — absolute moves

An absolute target names a place by itself, so a word that an axis was given before still names the
place where the axis stands, as long as nothing changes how words are meant.

* `Bench.IsSettled`: every word that the control holds for an axis names the place where the axis
  stands.
* `settled_of_settings`: a run of settings leaves no word for an axis.
* `settled_after`: an absolute move keeps this.
* `idle_of_leavesOut`: what an absolute move leaves out is redundant.
* `travel_agrees_of_absolute`: moves that follow all settings go to the same places whether they are
  forced or not, if the settings leave absolute targets.
-/

namespace Postprocessor

/-- Every word that the control holds for an axis names the place where the axis stands. -/
def Bench.IsSettled (b : Bench) (s : Carriage) : Prop :=
  ∀ of word, s.modal (.axis of) = some word → b.Idle s of word

variable {b : Bench} {c : Config}

/-- An absolute destination does not depend on where the axis stands. -/
theorem destination_of_absolute {k : Control} (h : b.isIncremental k = false) (of : Axis)
    (word : String) (here there : Rat) :
    b.destination k of word here = b.destination k of word there := by
  rw [Bench.destination, Bench.destination, h]
  rfl

theorem isIncremental_congr {k k' : Control} (h : ∀ c : Channel, c.IsFrame → k' c = k c) :
    b.isIncremental k' = b.isIncremental k := by
  rw [Bench.isIncremental, Bench.isIncremental, h (.mode .positioning) (.inl rfl)]

/-! ### Moves -/

section Moves

variable {calls : List Call} {w : Writer} {v : Verb}

/-- A move does not change how words are meant. -/
theorem frame_after (h : Follows calls w) (hv : v.IsTravel) (hm : v.isMove = true)
    (force noFlush : Bool) {c : Channel} (hc : c.IsFrame) :
    (w.after (.verb v force noFlush)).control c = w.control c := by
  rw [← Writer.modal_carriage (b := .plain),
    carriage_after _ h hv, ← Writer.modal_carriage]
  refine modal_executeAll_of_ne (hv.isWordOf_cut w.machine force) fun a ha e => ?_
  exact Verb.not_isFrame_of_move hm a ha (e ▸ hc)

/-- What is read of an axis after a move: its word, if one is written. -/
theorem axis_after (b : Bench) (h : Follows calls w) (hv : v.IsTravel) (hm : v.isMove = true)
    (force noFlush : Bool) (of : Axis) :
    ((w.after (.verb v force noFlush)).carriage b).modal (.axis of) =
      let word := w.machine.cut force ⟨.axis of, v.target of⟩
      if word = "" then (w.carriage b).modal (.axis of) else some word := by
  rw [carriage_after b h hv]
  exact modal_executeAll_word (hv.isWordOf_cut w.machine force) v.nodup_assigned
    (Verb.mem_assigned_of_move hm of)

/-- **An absolute move settles** what it moves, and leaves the rest settled. -/
theorem settled_after (h : Follows calls w) (hv : v.IsTravel) (hm : v.isMove = true)
    (force noFlush : Bool) (habs : b.isIncremental w.control = false)
    (hs : b.IsSettled (w.carriage b)) :
    b.IsSettled ((w.after (.verb v force noFlush)).carriage b) := by
  intro of word hword
  have same : ∀ word here, b.destination ((w.after (.verb v force noFlush)).carriage b).modal of
      word here = b.destination w.control of word here := fun word here => by
    rw [Writer.modal_carriage]
    exact destination_congr (fun c hc => frame_after h hv hm force noFlush hc) of word here
  rw [axis_after b h hv hm] at hword
  rw [Bench.Idle, same, position_after b h hv]
  simp only at hword ⊢
  -- either the axis was given a word now, or neither its word nor its place has changed
  by_cases hcut : w.machine.cut force ⟨.axis of, v.target of⟩ = ""
  · rw [if_pos hcut] at hword ⊢
    have before := hs of word hword
    rwa [Bench.Idle, Writer.modal_carriage] at before
  · rw [if_neg hcut] at hword ⊢
    obtain rfl := Option.some.inj hword
    exact destination_of_absolute habs of _ _ _

end Moves

/-! ### Runs -/

namespace Travel

/-- A word that is left out is the word that the control holds for its axis. -/
theorem control_of_leavesOut {ts : List Travel} {t : Travel} {of : Axis}
    (h : t.LeavesOut (run c false ts).machine of) :
    (run c false ts).control (.axis of) = some (t.wordFor of) := by
  obtain ⟨hne, hagrees⟩ := h
  have follows := follows_run c false ts
  have taken := Verb.isTaken_assigned t.isTravel.isModal _
    (Verb.mem_assigned_of_move (isMove_of_target hne) of)
  have admits : (Channel.axis of).Admits (t.verb.target of) := taken.resolve_left hne
  have held : (run c false ts).machine.get (.axis of) ≠ .null := by
    intro e
    rw [e, Channel.not_agrees_null admits] at hagrees
    cases hagrees
  obtain ⟨holds, word⟩ := follows.tracks _ held
  rw [follows.control, word, wordFor, Channel.wordOrNone_of_admits admits,
    Channel.word_eq_of_agrees holds admits hagrees]

theorem idle_of_leavesOut {ts : List Travel} {t : Travel} {of : Axis}
    (hs : b.IsSettled ((run c false ts).carriage b))
    (h : t.LeavesOut (run c false ts).machine of) :
    b.Idle ((run c false ts).carriage b) of (t.wordFor of) := by
  refine hs of _ ?_
  rw [Writer.modal_carriage]
  exact control_of_leavesOut h

/-- A run of settings tells a control nothing about an axis. -/
theorem settled_of_settings {ts : List Travel} (h : ∀ t ∈ ts, t.verb.isMove = false) :
    b.IsSettled ((run c false ts).carriage b) := by
  have nothing : ∀ of, (run c false ts).control (.axis of) = none := by
    intro of
    induction ts using List.reverseRecOn with
    | nil => rfl
    | append_singleton ts t ih =>
        have still := h t (List.mem_append_right _ (List.mem_singleton_self t))
        have channels := (t.isTravel.channel_of_not_move still).2
        rw [run_concat, call, ← Writer.modal_carriage (b := b),
          carriage_after b (follows_run c false ts) t.isTravel,
          modal_executeAll_of_ne (t.isTravel.isWordOf_cut _ _) fun a ha => channels a ha of,
          Writer.modal_carriage]
        exact ih fun s hs => h s (List.mem_append_left _ hs)
  intro of word hword
  rw [Writer.modal_carriage, nothing of] at hword
  cases hword

/-- Settings are never forced. -/
theorem run_of_settings {ts : List Travel} (h : ∀ t ∈ ts, t.verb.isMove = false) :
    run c true ts = run c false ts := by
  have same : ts.map (call true) = ts.map (call false) := by
    refine List.map_congr_left fun t ht => ?_
    rw [call, call, h t ht]
    rfl
  rw [run, run, same]

end Travel

/-- **Absolute moves lose nothing.**  If all settings come first and leave absolute targets, then
after every move the machine stands where it would stand if all moves were forced: a word is left
out only if it names the place where its axis stands. -/
theorem travel_agrees_of_absolute (b : Bench) (c : Config) {settings moves : List Travel}
    (hs : ∀ t ∈ settings, t.verb.isMove = false) (hm : ∀ t ∈ moves, t.verb.isMove = true)
    (habs : b.isIncremental (Travel.run c false settings).control = false) :
    Travel.places b c false (settings ++ moves) = Travel.places b c true (settings ++ moves) := by
  -- the frame of the settings holds throughout, and every word that was read is settled in it
  have run : Travel.places b c false (settings ++ moves) =
        Travel.places b c true (settings ++ moves) ∧
      b.isIncremental (Travel.run c false (settings ++ moves)).control = false ∧
      b.IsSettled ((Travel.run c false (settings ++ moves)).carriage b) := by
    induction moves using List.reverseRecOn with
    | nil =>
        rw [List.append_nil]
        refine ⟨?_, habs, Travel.settled_of_settings hs⟩
        rw [Travel.places, Travel.places, Travel.run_of_settings hs]
    | append_singleton moves t ih =>
        obtain ⟨agree, absolute, settled⟩ := ih fun t ht => hm t (List.mem_append_left _ ht)
        have move := hm t (List.mem_append_right _ (List.mem_singleton_self t))
        have follows := Travel.follows_run c false (settings ++ moves)
        rw [← List.append_assoc]
        refine ⟨?_, ?_, ?_⟩
        · rw [travel_step b c (settings ++ moves) t agree]
          intro of out
          exact Travel.idle_of_leavesOut settled out
        · rw [Travel.run_concat]
          refine (isIncremental_congr fun channel hc => ?_).trans absolute
          exact frame_after follows t.isTravel move _ _ hc
        · rw [Travel.run_concat]
          exact settled_after follows t.isTravel move _ _ absolute settled
  exact run.1

end Postprocessor
