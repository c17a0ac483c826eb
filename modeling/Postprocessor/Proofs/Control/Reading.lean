import Postprocessor.Proofs.Machine.Words
import Postprocessor.Proofs.Output.Files
import Mathlib.Logic.Function.Basic

/-!
# Proofs — what a control reads

A control reads a program word by word and keeps, of every modal group, the word it has read last.
A word belongs to a group by its address letter; of the addresses `G` and `M`, which several groups
share, by its code.  The words of a move come in one text and are parted at their spaces.

* `Control`: the last word of every group; `Control.read`, `readAll`: reads a word, or several.
* `Control.group?`: the group of a word.
* `Control.parts`: the words in a text that is written in one go.
* `group?_word`: the word for a value on a channel belongs to the group of that channel, so the
  groups that share an address can be told apart.
* `Control.heard`: the words that a control reads in texts that are put into a line.
* `heard_joined`: of the text of a setting these are the words that were joined in it.
-/

namespace Postprocessor

/-- The last word that was read of every modal group. -/
abbrev Control := Channel → Option String

namespace Control

/-- A control that has read nothing. -/
def blank : Control := fun _ => none

/-! ### Groups -/

/-- The groups whose words have the address `G`. -/
def preparatory : List Channel :=
  [.mode .motion, .plane, .mode .units, .mode .positioning, .mode .feed, .mode .home]

/-- The group among `groups` that has the code. -/
def codeGroup? (groups : List Channel) (code : List Char) : Option Channel :=
  groups.find? fun c => c.codes.any fun i => intText i == code

/-- The modal group of a word. -/
def group? (word : String) : Option Channel :=
  match word.toList with
  | 'X' :: _ => some (.axis .x)
  | 'Y' :: _ => some (.axis .y)
  | 'Z' :: _ => some (.axis .z)
  | 'A' :: _ => some (.axis .a)
  | 'B' :: _ => some (.axis .b)
  | 'C' :: _ => some (.axis .c)
  | 'F' :: _ => some .feed
  | 'S' :: _ => some .speed
  | 'T' :: _ => some .tool
  | 'G' :: code => codeGroup? preparatory code
  | 'M' :: code => codeGroup? [.direction] code
  | _ => none

/-- The words in a text that is written in one go: the words of a move are parted at their
spaces. -/
def parts (text : String) : List String :=
  match group? text with
  | some (.axis _) => (Text.partsAt (· == ' ') text.toList).map String.ofList
  | _ => [text]

/-- Reads a word. -/
def read (k : Control) (word : String) : Control :=
  match group? word with
  | some c => Function.update k c (some word)
  | none => k

/-- Reads words in order. -/
def readAll (k : Control) (words : List String) : Control := words.foldl read k

theorem readAll_nil (k : Control) : k.readAll [] = k := rfl

theorem readAll_cons (k : Control) (word : String) (words : List String) :
    k.readAll (word :: words) = (k.read word).readAll words := rfl

theorem readAll_append (k : Control) (us vs : List String) :
    k.readAll (us ++ vs) = (k.readAll us).readAll vs := List.foldl_append

/-! ### The groups of written words -/

/-- The six groups of the address `G` have different codes, and so has the spindle. -/
theorem codeGroup?_of_mem : (∀ c ∈ preparatory, ∀ i ∈ c.codes,
      codeGroup? preparatory (intText i) = some c) ∧
    ∀ i ∈ Channel.direction.codes, codeGroup? [.direction] (intText i) = some .direction := by
  decide

theorem toList_word {c : Channel} (hc : c ≠ .tool) (v : Value) :
    (c.word v).toList = c.address.toList ++ v.digits := by
  rw [Channel.word, String.toList_append, Channel.content_eq_digits hc, String.toList_ofList]

theorem group?_of_address_g {word : String} {code : List Char} (h : word.toList = 'G' :: code) :
    group? word = codeGroup? preparatory code := by
  simp [group?, h]

theorem group?_of_address_m {word : String} {code : List Char} (h : word.toList = 'M' :: code) :
    group? word = codeGroup? [.direction] code := by
  simp [group?, h]

/-- **The groups can be told apart.**  The word for a value on a channel is a word of its group. -/
theorem group?_word {c : Channel} {v : Value} (h : c.Admits v) : group? (c.word v) = some c := by
  cases c with
  | axis of =>
      rw [group?, toList_word (by simp)]
      cases of <;> rfl
  | feed | speed =>
      rw [group?, toList_word (by simp)]
      rfl
  | tool =>
      rw [group?, Channel.word, String.toList_append]
      rfl
  -- the codes of six groups share the letter `G`, and no code is in two of them
  | mode m =>
      obtain ⟨-, i, hi, e⟩ := h
      have hm : Channel.mode m ≠ .tool := by simp
      have spelled : ((Channel.mode m).word v).toList = 'G' :: v.digits := by
        rw [toList_word hm, Channel.address]
        rfl
      rw [group?_of_address_g spelled, e]
      exact codeGroup?_of_mem.1 _ (by cases m <;> decide) i hi
  | plane =>
      obtain ⟨-, i, hi, e⟩ := h
      have spelled : (Channel.plane.word v).toList = 'G' :: v.digits := toList_word (by simp) v
      rw [group?_of_address_g spelled, e]
      exact codeGroup?_of_mem.1 _ (by decide) i hi
  | direction =>
      obtain ⟨-, i, hi, e⟩ := h
      have spelled : (Channel.direction.word v).toList = 'M' :: v.digits := toList_word (by simp) v
      rw [group?_of_address_m spelled, e]
      exact codeGroup?_of_mem.2 i hi

theorem read_of_group {k : Control} {word : String} {c : Channel} (h : group? word = some c) :
    k.read word = Function.update k c (some word) := by
  rw [read, h]

theorem read_of_not_group {w : String} (h : group? w = none) (k : Control) : k.read w = k := by
  rw [read, h]

theorem read_of_ne {w : String} {c : Channel} (h : group? w ≠ some c) (k : Control) :
    k.read w c = k c := by
  cases hg : group? w with
  | none => rw [read_of_not_group hg]
  | some d =>
      have other : c ≠ d := fun e => h (e ▸ hg)
      rw [read_of_group hg, Function.update_of_ne other]

/-- Words of other groups leave the word of a group alone. -/
theorem readAll_of_ne {words : List String} {c : Channel} (h : ∀ w ∈ words, group? w ≠ some c)
    (k : Control) : k.readAll words c = k c := by
  induction words generalizing k with
  | nil => rfl
  | cons w words ih =>
      obtain ⟨first, others⟩ := List.forall_mem_cons.mp h
      rw [readAll_cons, ih others, read_of_ne first]

theorem read_empty (k : Control) : k.read "" = k := rfl

/-- Empty words change nothing. -/
theorem readAll_filter (k : Control) (words : List String) :
    k.readAll (words.filter (· ≠ "")) = k.readAll words := by
  induction words generalizing k with
  | nil => rfl
  | cons w ws ih =>
      by_cases h : w = ""
      · subst h
        exact ih k
      · rw [List.filter_cons_of_pos (by simpa using h)]
        exact ih (k.read w)

/-! ### The spelling of written words -/

theorem not_isBlank_of_isPlainDigit {c : Char} (h : IsPlainDigit c) : Text.isBlank c = false := by
  have small : c.toNat ≠ 0x20 ∧ 0x20 ≤ c.toNat ∧ c.toNat < 0x7F := by
    rcases h with h | rfl | rfl
    · simp only [Char.isDigit, Bool.and_eq_true, decide_eq_true_eq] at h
      have lower : 0x30 ≤ c.toNat := h.1
      have upper : c.toNat ≤ 0x39 := h.2
      omega
    · decide
    · decide
  simp [Text.isBlank, Text.CharSet.contains, Text.blankTable]
  omega

theorem isSolid_address (c : Channel) : Text.IsSolid c.address.toList := by
  cases c with
  | axis of => cases of <;> decide
  | mode m => exact (by decide : Text.IsSolid "G".toList)
  | _ => decide

theorem isSolid_word {c : Channel} {v : Value} (hc : c ≠ .tool) (h : c.Admits v) :
    Text.IsSolid (c.word v).toList := by
  rw [toList_word hc]
  intro d hd
  rcases List.mem_append.mp hd with hd | hd
  · exact isSolid_address c d hd
  · exact not_isBlank_of_isPlainDigit (Value.isPlainDigit_of_mem_digits (h.isNumber hc) hd)

theorem word_ne_empty (c : Channel) (v : Value) : c.word v ≠ "" := by
  intro e
  have spelled : c.address = "" := (String.append_eq_empty_iff.mp e).1
  cases c with
  | axis of => cases of <;> simp [Channel.address, Axis.address] at spelled
  | _ => simp [Channel.address] at spelled

/-- The word for a value is taken into a line as it is. -/
theorem isWord_word {c : Channel} {v : Value} (h : c.Admits v) : IsWord (c.word v) := by
  refine isWord_of_isTrim (word_ne_empty c v) ?_
  by_cases hc : c = .tool
  · subst hc
    have spelled : (Channel.tool.word v).toList =
        'T' :: '=' :: '"' :: (v.text?.getD "").toList ++ ['"'] := by
      rw [Channel.word, Channel.content, Channel.address]
      simp
    rw [spelled]
    refine ⟨fun d hd => ?_, fun d hd => ?_⟩
    · obtain rfl : 'T' = d := by simpa using hd
      decide
    · rw [List.getLast?_concat] at hd
      obtain rfl : '"' = d := by simpa using hd
      decide
  · exact (isSolid_word hc h).isTrim

/-! ### Texts -/

/-- The words that a control reads in texts that are put into a line. -/
def heard (texts : List String) : List String := (taken texts).flatMap parts

theorem heard_append (us vs : List String) : heard (us ++ vs) = heard us ++ heard vs := by
  rw [heard, taken_append, List.flatMap_append, heard, heard]

/-- Words of no group change nothing. -/
theorem readAll_parts_of_group {texts : List String} (h : ∀ t ∈ texts, group? t = none)
    (k : Control) : k.readAll (texts.flatMap parts) = k := by
  induction texts with
  | nil => rfl
  | cons t texts ih =>
      obtain ⟨first, others⟩ := List.forall_mem_cons.mp h
      have alone : parts t = [t] := by rw [parts, first]
      rw [List.flatMap_cons, alone, List.singleton_append, readAll_cons, read, first, ih others]

theorem heard_of_isWord {t : String} (h : IsWord t) : heard [t] = parts t := by
  rw [heard, taken_of_isWord (by simpa using h), List.flatMap_singleton]

/-- The word is that of a value for an axis. -/
def IsAxisWord (w : String) : Prop :=
  ∃ of v, (Channel.axis of).Admits v ∧ w = (Channel.axis of).word v

theorem IsAxisWord.isSolid {w : String} (h : IsAxisWord w) : Text.IsSolid w.toList := by
  obtain ⟨of, v, hv, rfl⟩ := h
  exact isSolid_word (by simp) hv

theorem IsAxisWord.isWord {w : String} (h : IsAxisWord w) : IsWord w := by
  obtain ⟨of, v, hv, rfl⟩ := h
  exact isWord_word hv

theorem IsAxisWord.group? {w : String} (h : IsAxisWord w) (rest : List Char) :
    ∃ of, Control.group? (String.ofList (w.toList ++ rest)) = some (.axis of) := by
  obtain ⟨of, v, -, rfl⟩ := h
  refine ⟨of, ?_⟩
  rw [Control.group?, String.toList_ofList, toList_word (by simp)]
  cases of <;> rfl

/-- Words of axes that are joined by spaces are parted again. -/
theorem parts_intercalate {words : List String} (hne : words ≠ [])
    (h : ∀ w ∈ words, IsAxisWord w) : parts (" ".intercalate words) = words := by
  have spaces : ∀ cs ∈ words.map String.toList, ' ' ∉ cs := by
    intro cs hcs hspace
    obtain ⟨w, hw, rfl⟩ := List.mem_map.mp hcs
    exact absurd ((h w hw).isSolid ' ' hspace) (by decide)
  have spelled : (" ".intercalate words).toList = [' '].intercalate (words.map String.toList) :=
    String.toList_intercalate
  have cut : (Text.partsAt (· == ' ') (" ".intercalate words).toList).map String.ofList =
      words := by
    rw [spelled, Text.partsAt_intercalate (by simpa using hne) spaces, List.map_map]
    exact List.map_id'' (fun w => String.ofList_toList) words
  -- the joined text is still taken for a word of an axis, as its first letter says so
  obtain ⟨of, group⟩ : ∃ of, group? (" ".intercalate words) = some (.axis of) := by
    cases words with
    | nil => exact absurd rfl hne
    | cons w rest =>
        have first : ∃ more, (" ".intercalate (w :: rest)).toList = w.toList ++ more := by
          rw [spelled]
          cases rest with
          | nil => exact ⟨[], by simp [List.intercalate]⟩
          | cons w' rest =>
              rw [List.map_cons, List.map_cons, List.intercalate_cons_cons, List.append_assoc]
              exact ⟨_, rfl⟩
        obtain ⟨more, e⟩ := first
        have found := (h w (List.mem_cons_self ..)).group? more
        rwa [← e, String.ofList_toList] at found
  rw [parts, group]
  exact cut

theorem parts_word {c : Channel} {v : Value} (h : c.Admits v) : parts (c.word v) = [c.word v] := by
  cases c with
  | axis of =>
      have single := parts_intercalate (List.cons_ne_nil ((Channel.axis of).word v) [])
        (List.forall_mem_singleton.mpr ⟨of, v, h, rfl⟩)
      simpa using single
  | _ => rw [parts, group?_word h]

/-- Solid words that are joined for a move have single spaces between them. -/
theorem joinWords_eq {words : List String} (h : ∀ w ∈ words, Text.IsSolid w.toList) :
    Machine.joinWords words = " ".intercalate (words.filter (· ≠ "")) := by
  have solid : ∀ cs ∈ words.map String.toList, Text.IsSolid cs := by
    intro cs hcs
    obtain ⟨w, hw, rfl⟩ := List.mem_map.mp hcs
    exact h w hw
  have filtered : Text.nonempty (words.map String.toList) =
      (words.filter (· ≠ "")).map String.toList := by
    rw [Text.nonempty, List.filter_map]
    refine congrArg _ (List.filter_congr fun w _ => ?_)
    by_cases hw : w = "" <;> simp [hw]
  rw [Machine.joinWords, String.toList_intercalate]
  refine (congrArg String.ofList (Text.trim_squeeze_intercalate solid)).trans ?_
  rw [filtered, ← String.ofList_toList (s := " ".intercalate _), String.toList_intercalate]
  rfl

/-- The text is empty or the word of the assignment. -/
def IsWordOf (w : String) (a : Assignment) : Prop :=
  w = "" ∨ a.channel.Admits a.value ∧ w = a.channel.word a.value

theorem heard_joinWords {words : List String} (h : ∀ w ∈ words, w = "" ∨ IsAxisWord w) :
    heard [Machine.joinWords words] = words.filter (· ≠ "") := by
  have solid : ∀ w ∈ words, Text.IsSolid w.toList := by
    intro w hw
    rcases h w hw with rfl | hw
    · simp [Text.IsSolid]
    · exact hw.isSolid
  have spoken : ∀ w ∈ words.filter (· ≠ ""), IsAxisWord w := by
    intro w hw
    obtain ⟨hmem, hne⟩ := List.mem_filter.mp hw
    exact (h w hmem).resolve_left (by simpa using hne)
  rw [joinWords_eq solid]
  by_cases hne : words.filter (· ≠ "") = []
  · rw [hne]
    rfl
  · rw [heard_of_isWord (isWord_intercalate hne fun w hw => (spoken w hw).isWord),
      parts_intercalate hne spoken]

theorem heard_intercalate {w : String} {a : Assignment} (h : IsWordOf w a) :
    heard ["".intercalate [w]] = [w].filter (· ≠ "") := by
  rw [String.intercalate_singleton]
  rcases h with rfl | ⟨ha, rfl⟩
  · rfl
  · rw [heard_of_isWord (isWord_word ha), parts_word ha]
    simp [word_ne_empty]

/-- **What is heard of a setting** are its words that are not empty, as they were joined. -/
theorem heard_joined {s : Setting} {as : List Assignment} (hs : s.assignments = .ok as)
    {words : List String} (hw : List.Forall₂ IsWordOf words as) :
    heard [s.joined words] = words.filter (· ≠ "") := by
  have single : ∀ a, as = [a] → heard ["".intercalate words] = words.filter (· ≠ "") := by
    rintro a rfl
    obtain ⟨w, _, h, hnil, rfl⟩ := List.forall₂_cons_right_iff.mp hw
    cases hnil
    exact heard_intercalate h
  -- only a position has several words, which are joined by spaces and parted again
  cases s with
  | position target =>
      cases hs
      refine heard_joinWords fun w hmem => ?_
      obtain ⟨k, hk, rfl⟩ := List.getElem_of_mem hmem
      have hk' := hw.length_eq ▸ hk
      rcases hw.get hk hk' with h | ⟨ha, h⟩
      · exact .inl h
      · refine .inr ?_
        simp only [List.get_eq_getElem, List.getElem_map] at ha h
        exact ⟨_, _, ha, h⟩
  | feed rate | speed rate | tool name =>
      cases hs
      exact single _ rfl
  | mode m code =>
      obtain ⟨_, -, rfl⟩ := map_eq_ok hs
      exact single _ rfl
  | plane p | direction d =>
      obtain ⟨_, -, rfl⟩ := map_eq_ok hs
      exact single _ rfl

end Control

end Postprocessor
