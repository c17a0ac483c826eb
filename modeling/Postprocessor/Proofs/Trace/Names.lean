import Mathlib.Data.List.SplitBy
import Postprocessor.Proofs.Program.Dispatch
import Postprocessor.Proofs.Text.Trimming
import Postprocessor.Proofs.Trace.Groups

/-!
# Proofs — the name of an event tells its identifier

The name of an event runs the words of its identifier together, each with a capital.  In an
identifier of small words the capitals of the name are the beginnings of its words and nothing else,
so the name can be cut before them again.

* `Word`, `Identifier`: words of small letters and digits, and such words joined by underscores.
* `eventName_text`: the name of the event for such an identifier.
* `identifierOf`, `identifierOf_eventName`: the identifier is read back from the name.
* `name_tells_identifier`: events with different identifiers have different names, and no listener
  in common.
-/

namespace Postprocessor

/-! ### Small letters and digits -/

namespace Text

/-- A small letter or a digit, of ASCII. -/
def isSmall (c : Char) : Bool := c.isLower || c.isDigit

theorem toNat_lt_of_isLower {c : Char} (h : c.isLower = true) : c.toNat < 128 := by
  have bounds : decide ('a'.val ≤ c.val) = true ∧ decide (c.val ≤ 'z'.val) = true :=
    Bool.and_eq_true_iff.mp h
  exact Nat.lt_of_le_of_lt (of_decide_eq_true bounds.2 : c.toNat ≤ 122) (by decide)

theorem toNat_lt_of_isSmall {c : Char} (h : isSmall c = true) : c.toNat < 128 := by
  rcases Bool.or_eq_true_iff.mp h with letter | digit
  · exact toNat_lt_of_isLower letter
  · exact Nat.lt_of_le_of_lt (Char.isDigit_iff_toNat.mp digit).2 (by decide)

/-- A small letter has one capital, whose small form it is. -/
theorem capital_of_isLower {c : Char} (h : c.isLower = true) :
    upperChar c = [c.toUpper] ∧ c.toUpper.isUpper = true ∧ lowerChar c.toUpper = [c] ∧
      c.toUpper ≠ 'Σ' := by
  have all : ∀ n < 128, (Char.ofNat n).isLower = true →
      upperChar (Char.ofNat n) = [(Char.ofNat n).toUpper] ∧
        (Char.ofNat n).toUpper.isUpper = true ∧
        lowerChar (Char.ofNat n).toUpper = [Char.ofNat n] ∧ (Char.ofNat n).toUpper ≠ 'Σ' := by
    decide
  have letter := all c.toNat (toNat_lt_of_isLower h)
  rw [Char.ofNat_toNat] at letter
  exact letter h

/-- A small letter or a digit is its own small form, and neither a capital nor an underscore. -/
theorem lowerChar_of_isSmall {c : Char} (h : isSmall c = true) :
    lowerChar c = [c] ∧ c ≠ 'Σ' ∧ c.isUpper = false ∧ c ≠ '_' := by
  have all : ∀ n < 128, isSmall (Char.ofNat n) = true →
      lowerChar (Char.ofNat n) = [Char.ofNat n] ∧ Char.ofNat n ≠ 'Σ' ∧
        (Char.ofNat n).isUpper = false ∧ Char.ofNat n ≠ '_' := by
    decide
  have small := all c.toNat (toNat_lt_of_isSmall h)
  rw [Char.ofNat_toNat] at small
  exact small h

theorem lowerFrom_cons {c : Char} (h : c ≠ 'Σ') (before rest : List Char) :
    lowerFrom before (c :: rest) = lowerChar c ++ lowerFrom (c :: before) rest := by
  rw [lowerFrom, if_neg (by simpa using h)]

/-- Small letters and digits stay as they are, whatever stands before them. -/
theorem lowerFrom_of_isSmall {cs : List Char} (h : ∀ c ∈ cs, isSmall c = true)
    (before : List Char) : lowerFrom before cs = cs := by
  induction cs generalizing before with
  | nil => rfl
  | cons c cs ih =>
      obtain ⟨small, others⟩ := List.forall_mem_cons.mp h
      obtain ⟨same, sigma, -, -⟩ := lowerChar_of_isSmall small
      rw [lowerFrom_cons sigma, same, ih others]
      rfl

end Text

namespace Trace
open Text

/-! ### Identifiers of small words -/

/-- A small letter, and small letters and digits after it. -/
structure Word where
  first : Char
  rest : List Char
  isLower_first : first.isLower = true
  isSmall_rest : ∀ c ∈ rest, isSmall c = true

namespace Word

/-- The text of a word. -/
def text (w : Word) : List Char := w.first :: w.rest

/-- The word with a capital. -/
def capital (w : Word) : List Char := w.first.toUpper :: w.rest

theorem isSmall_text (w : Word) : ∀ c ∈ w.text, isSmall c = true :=
  List.forall_mem_cons.mpr ⟨by rw [isSmall, w.isLower_first, Bool.true_or], w.isSmall_rest⟩

theorem capitalise_text (w : Word) : capitalise w.text = w.capital := by
  have first : upper [w.first] = [w.first.toUpper] := by
    rw [upper, List.flatMap_singleton, (capital_of_isLower w.isLower_first).1]
  exact congrArg₂ (· ++ ·) first (lowerFrom_of_isSmall w.isSmall_rest [])

theorem lower_capital (w : Word) : lower w.capital = w.text := by
  obtain ⟨-, -, small, sigma⟩ := capital_of_isLower w.isLower_first
  rw [lower, capital, lowerFrom_cons sigma, small, lowerFrom_of_isSmall w.isSmall_rest]
  rfl

end Word

/-- One word or more, to be joined by underscores. -/
structure Identifier where
  words : List Word
  words_ne_nil : words ≠ []

/-- The text of an identifier. -/
def Identifier.text (i : Identifier) : List Char := ['_'].intercalate (i.words.map Word.text)

/-! ### Names -/

theorem splitUnderscores_eq (cs : List Char) : splitUnderscores cs = partsAt (· == '_') cs := by
  induction cs with
  | nil => rfl
  | cons c cs ih =>
      obtain ⟨part, parts, e⟩ := List.exists_cons_of_ne_nil (partsAt_ne_nil (· == '_') cs)
      rw [splitUnderscores, ih, partsAt, e]

/-- The name of the event runs the words together, each with a capital. -/
theorem eventName_text (i : Identifier) :
    eventName i.text = (i.words.map Word.capital).flatten := by
  have joined : ∀ w ∈ i.words.map Word.text, '_' ∉ w := by
    intro w hw mem
    obtain ⟨word, -, rfl⟩ := List.mem_map.mp hw
    exact (lowerChar_of_isSmall (word.isSmall_text '_' mem)).2.2.2 rfl
  have words : splitUnderscores i.text = i.words.map Word.text := by
    rw [splitUnderscores_eq, Identifier.text,
      partsAt_intercalate (by simpa using i.words_ne_nil) joined]
  rw [eventName, words, List.flatMap_map, List.flatMap_def]
  exact congrArg List.flatten (List.map_congr_left fun w _ => w.capitalise_text)

/-- The parts of a name that begin before each of its capitals. -/
def cutAtCapitals (name : List Char) : List (List Char) := name.splitBy fun _ c => !c.isUpper

/-- The identifier that a name tells: its parts between the capitals in small letters, joined by
underscores. -/
def identifierOf (name : List Char) : List Char :=
  ['_'].intercalate ((cutAtCapitals name).map lower)

/-- A name is cut into the words that were run together. -/
theorem cutAtCapitals_capitals (words : List Word) :
    cutAtCapitals (words.map Word.capital).flatten = words.map Word.capital := by
  refine List.splitBy_flatten (by simp [Word.capital]) ?_ ?_
  · -- no capital stands within a word
    intro part hp
    obtain ⟨w, -, rfl⟩ := List.mem_map.mp hp
    refine List.Pairwise.isChain (List.pairwise_cons.mpr ⟨fun c hc => ?_, ?_⟩)
    · simp [(lowerChar_of_isSmall (w.isSmall_rest c hc)).2.2.1]
    · refine List.pairwise_of_forall_mem_list fun _ _ c hc => ?_
      simp [(lowerChar_of_isSmall (w.isSmall_rest c hc)).2.2.1]
  · -- each word begins with one
    rw [List.isChain_map]
    refine List.Pairwise.isChain (List.pairwise_of_forall fun v w => ?_)
    refine ⟨List.cons_ne_nil _ _, List.cons_ne_nil _ _, ?_⟩
    simp [Word.capital, (capital_of_isLower w.isLower_first).2.1]

/-- **A name tells its identifier.** -/
theorem identifierOf_eventName (i : Identifier) : identifierOf (eventName i.text) = i.text := by
  rw [identifierOf, eventName_text, cutAtCapitals_capitals, List.map_map, Identifier.text]
  exact congrArg _ (List.map_congr_left fun w _ => w.lower_capital)

theorem eventName_eq_iff {a b : Identifier} :
    eventName a.text = eventName b.text ↔ a.text = b.text := by
  refine ⟨fun h => ?_, congrArg eventName⟩
  rw [← identifierOf_eventName a, h, identifierOf_eventName b]

/-- The name under which the listeners of an event are found. -/
def Identifier.name (i : Identifier) : String := String.ofList (eventName i.text)

theorem Identifier.name_eq_iff {a b : Identifier} : a.name = b.name ↔ a.text = b.text :=
  String.ofList_inj.trans eventName_eq_iff

/-- **Different identifiers are those of different events.**  The name of an event is turned back
into its identifier by a cut before every capital, so two identifiers that differ have names that
differ.  An event of a trace is dispatched under the name of its identifier, and a listener for one
identifier is none for the other. -/
theorem name_tells_identifier (a b : Identifier) :
    identifierOf (eventName a.text) = a.text ∧
    (eventName a.text = eventName b.text ↔ a.text = b.text) ∧
    (∀ (text : String) (cut : Cut), cut.lines = lines text.toList →
      ∀ (i j : Nat) (g g' : Group), cut.groups[i]? = some g → cut.groups[j]? = some g' →
        g.marker.identifier = a.text → g'.marker.identifier = b.text →
        ∃ r r', (records text)[i]? = some r ∧ (records text)[j]? = some r' ∧
          r.event.name = a.name ∧ r'.event.name = b.name ∧
          (r.event.name = r'.event.name ↔ a.text = b.text)) ∧
    ∀ (ι : Type) (registry : Registry ι) (listener : ι),
      (registry.on a.name listener).listeners b.name =
        registry.listeners b.name ++ (if b.text = a.text then [listener] else []) := by
  refine ⟨identifierOf_eventName a, eventName_eq_iff, ?_, fun ι registry listener => ?_⟩
  · intro text cut h i j g g' hg hg' ha hb
    have found : ∀ {k : Nat} {g : Group}, cut.groups[k]? = some g →
        (records text)[k]? = some (g.record k) := by
      intro k g hk
      rw [← Array.getElem?_toList, records_of_cut h, List.getElem?_mapIdx, hk]
      rfl
    have first : (g.record i).event.name = a.name := congrArg (String.ofList <| eventName ·) ha
    have second : (g'.record j).event.name = b.name := congrArg (String.ofList <| eventName ·) hb
    refine ⟨_, _, found hg, found hg', first, second, ?_⟩
    rw [first, second]
    exact Identifier.name_eq_iff
  · rw [Registry.listeners_on]
    exact congrArg _ (if_congr Identifier.name_eq_iff rfl rfl)

/-- Two identifiers of the same letters, cut into two words and into one. -/
theorem name_tells_identifier_letters : ∃ (a b : Identifier) (cut : Cut) (g g' : Group),
    a.text = "x_y".toList ∧ b.text = "xy".toList ∧
      cut.lines = lines "(0)@x_y\n(1)@xy".toList ∧ cut.groups = [g, g'] ∧
      g.marker.identifier = a.text ∧ g'.marker.identifier = b.text ∧
      ∃ r r', (records "(0)@x_y\n(1)@xy")[0]? = some r ∧
        (records "(0)@x_y\n(1)@xy")[1]? = some r' ∧
        r.event.name = "XY" ∧ r'.event.name = "Xy" := by
  let x : Word := ⟨'x', [], rfl, List.forall_mem_nil _⟩
  let y : Word := ⟨'y', [], rfl, List.forall_mem_nil _⟩
  let xy : Word := ⟨'x', ['y'], rfl, List.all_eq_true.mp rfl⟩
  let a : Identifier := ⟨[x, y], List.cons_ne_nil _ _⟩
  let b : Identifier := ⟨[xy], List.cons_ne_nil _ _⟩
  let group (number : Char) (identifier : List Char) (digit : isDigit number = true)
      (ne_nil : identifier ≠ []) (word : ∀ c ∈ identifier, isWord c = true) : Group :=
    ⟨⟨[], [number], identifier, [], nofun, List.cons_ne_nil _ _,
      List.forall_mem_singleton.mpr digit, ne_nil, word, nofun⟩, [], List.forall_mem_nil _⟩
  let g := group '0' "x_y".toList rfl (List.cons_ne_nil _ _) (List.all_eq_true.mp (by decide))
  let g' := group '1' "xy".toList rfl (List.cons_ne_nil _ _) (List.all_eq_true.mp (by decide))
  let cut : Cut := ⟨[], [g, g'], List.forall_mem_nil _⟩
  have whole : cut.lines = lines "(0)@x_y\n(1)@xy".toList := rfl
  have first : a.name = "XY" := by
    rw [Identifier.name, eventName_text]
    decide
  have second : b.name = "Xy" := by
    rw [Identifier.name, eventName_text]
    decide
  obtain ⟨-, -, told, -⟩ := name_tells_identifier a b
  obtain ⟨r, r', hr, hr', name, name', -⟩ := told _ cut whole 0 1 g g' rfl rfl rfl rfl
  exact ⟨a, b, cut, g, g', rfl, rfl, whole, rfl, rfl, rfl, r, r', hr, hr', name.trans first,
    name'.trans second⟩

end Trace

end Postprocessor
