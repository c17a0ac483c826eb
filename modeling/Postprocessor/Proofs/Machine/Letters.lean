import Postprocessor.Proofs.Machine.Writings
import Postprocessor.Proofs.Text.Trimming

/-!
# Proofs — the letters that words begin with

A word that is written on a channel begins with the letter of the channel, whatever its value is.
Words that are joined or trimmed keep their first letter, so that what a verb hands over shows the
channels that it writes on.

* `LeadsIn`: the first character of a text that is no blank is one of some letters.
* `Verb.leadsIn_words`: the words of a verb begin with the letters of its channels.
-/

namespace Postprocessor

/-- The first character of the word that is no blank, if there is one, is one of the letters. -/
def LeadsIn (letters : Char → Prop) (w : String) : Prop := ∀ c ∈ Text.lead? w.toList, letters c

variable {letters : Char → Prop} {u v w : String}

theorem leadsIn_ne_iff {c : Char} : LeadsIn (· ≠ c) w ↔ Text.lead? w.toList ≠ some c :=
  ⟨fun h e => h c e rfl, fun h _ hd e => h (e ▸ hd)⟩

theorem leadsIn_empty : LeadsIn letters "" := nofun

theorem leadsIn_space : LeadsIn letters " " := by
  intro c hc
  have none : Text.lead? " ".toList = none := by decide
  rw [none] at hc
  cases hc

theorem LeadsIn.append (hu : LeadsIn letters u) (hv : LeadsIn letters v) :
    LeadsIn letters (u ++ v) := by
  intro c hc
  rw [String.toList_append, Text.lead?_append, Option.mem_def, Option.or_eq_some_iff] at hc
  rcases hc with h | ⟨-, h⟩
  · exact hu c h
  · exact hv c h

theorem leadsIn_of_lead? {c : Char} (h : Text.lead? w.toList = some c) (hc : letters c) :
    LeadsIn letters w := by
  intro d hd
  rw [h] at hd
  cases hd
  exact hc

/-- Only the first of two texts matters, if it is not blank. -/
theorem LeadsIn.append_right {c : Char} (hu : Text.lead? u.toList = some c) (hc : letters c) :
    LeadsIn letters (u ++ v) := by
  refine leadsIn_of_lead? ?_ hc
  rw [String.toList_append, Text.lead?_append, hu, Option.some_or]

theorem leadsIn_trimmed (w : String) : LeadsIn letters w.trimmed ↔ LeadsIn letters w := by
  rw [LeadsIn, String.trimmed, String.toList_ofList, Text.lead?_trim, LeadsIn]

theorem leadsIn_intercalate {between : String} (hb : LeadsIn letters between)
    {words : List String} (h : ∀ w ∈ words, LeadsIn letters w) :
    LeadsIn letters (between.intercalate words) := by
  induction words with
  | nil => exact leadsIn_empty
  | cons w words ih =>
      obtain ⟨first, others⟩ := List.forall_mem_cons.mp h
      cases words with
      | nil =>
          rw [String.intercalate_singleton]
          exact first
      | cons w' words =>
          rw [String.intercalate_cons_of_ne_nil (List.cons_ne_nil w' words)]
          exact (first.append hb).append (ih others)

/-- The address of a channel is no blank. -/
theorem lead?_address (c : Channel) : ∃ letter, Text.lead? c.address.toList = some letter := by
  cases c with
  | axis axis => cases axis <;> exact ⟨_, rfl⟩
  | mode mode => exact ⟨'G', (by decide : Text.lead? "G".toList = some 'G')⟩
  | _ => exact ⟨_, rfl⟩

/-- What is written on a channel begins with the address of the channel. -/
theorem Writing.Arises.leadsIn {s : Setting} {force : Bool} {w : Writing} (h : w.Arises s force)
    (ha : LeadsIn letters w.channel.address) : LeadsIn letters w.written := by
  obtain ⟨⟨c, v⟩, word⟩ := w
  obtain ⟨-, m, hm⟩ := h
  by_cases null : v = .null
  · rw [null, Machine.write_null] at hm
    cases hm
    exact leadsIn_empty
  · rw [Machine.write_eq null] at hm
    split at hm
    · cases hm
      exact leadsIn_empty
    · obtain ⟨body, -, spelled⟩ := map_eq_ok hm
      obtain ⟨letter, lead⟩ := lead?_address c
      rw [← spelled]
      exact .append_right lead (ha letter lead)

theorem Setting.leadsIn_joined (s : Setting) {words : List String}
    (h : ∀ w ∈ words, LeadsIn letters w) : LeadsIn letters (s.joined words) := by
  cases s with
  | position target =>
      rw [joined, Machine.joinWords, LeadsIn, String.toList_ofList, Text.lead?_trim, Text.squeeze,
        Text.lead?_squeezeFrom]
      exact leadsIn_intercalate leadsIn_space h
  | _ => exact leadsIn_intercalate leadsIn_empty h

/-- **The words of a verb** begin with the addresses of the channels that it writes on, actions
aside. -/
theorem Verb.leadsIn_words {v : Verb} {force : Bool} {m : Machine} {words : List String}
    (hw : (v.words force m).1 = .ok words)
    (addresses : ∀ c ∈ v.channels, LeadsIn letters c.address)
    (actions : ∀ w ∈ v.actions, LeadsIn letters w) : ∀ w ∈ words, LeadsIn letters w := by
  refine forall_words hw (fun s hs w arises => ?_) (fun s _ _ => s.leadsIn_joined) actions
  obtain ⟨as, has, ha⟩ := arises.assigned
  have channel := Setting.channel_mem has w.toAssignment ha
  exact arises.leadsIn (addresses _ (mem_channels.mpr ⟨s, hs, channel⟩))

end Postprocessor
