import Postprocessor.Config.Reading
import Postprocessor.Proofs.Running
import Postprocessor.Proofs.Text.Trimming

/-!
# Proofs — accepted configurations

A mapping that is accepted gives every key of the configuration a value of its own: what the entry
for the key becomes, or the preset where there is none.  The checks hold of these values, and they
are in normal form, so that a configuration is read back from the mapping of its own values.

* `Key`, `Key.entry?`, `Config.get`: the keys, the entry that a mapping has for a key, and what a
  configuration has under it.
* `Key.read`, `read_entry`: what an entry becomes, and that this is what an accepted mapping gives
  its key.
* `Config.IsValid`: the configurations that pass the checks; `check_eq_ok_iff`.
* `ofValue_value`: a valid configuration is read back from its own values.
* `accepted_normal`: all of this for a mapping that is accepted.
-/

namespace Postprocessor.Config

/-! ### Keys -/

/-- The keys of a configuration. -/
inductive Key where
  | enabled | start | increment
  | main | endWord | mainExtension | subExtension
  | level | json

namespace Key

/-- The section in which a key is given. -/
def part : Key → String
  | .enabled | .start | .increment => "numbering"
  | .main | .endWord | .mainExtension | .subExtension => "files"
  | .level | .json => "logging"

/-- The name of a key in its section. -/
def name : Key → String
  | .enabled => "enabled"
  | .start => "start"
  | .increment => "increment"
  | .main => "main_name"
  | .endWord => "subprogram_end_word"
  | .mainExtension => "main_extension"
  | .subExtension => "subprogram_extension"
  | .level => "level"
  | .json => "json"

/-- The entry that a mapping has for a key.  A section that is missing or is no mapping has none. -/
def entry? (data : Entries) (k : Key) : Option Value :=
  match Value.entry? data (.text k.part) with
  | some (.mapping entries) => Value.entry? entries (.text k.name)
  | _ => none

end Key

/-- What a configuration has under a key. -/
def get (c : Config) : Key → Value
  | .enabled => .bool c.numbering.enabled
  | .start => .int c.numbering.start
  | .increment => .int c.numbering.increment
  | .main => .text c.files.main
  | .endWord => .text c.files.endWord
  | .mainExtension => .text c.files.mainExtension
  | .subExtension => .text c.files.subExtension
  | .level => .text c.logging.level.name
  | .json => .bool c.logging.json

/-- The level that capitals name. -/
def levelNamed (capitals : List CodePoint) : Except Fault Level :=
  match (CodePoint.text? capitals).bind Level.ofName? with
  | some level => .ok level
  | none => .error (.badLevel (CodePoint.quotedForm capitals))

/-- A value as code points. -/
def pointsOf : Value → Except Fault (List CodePoint)
  | .foreign x => .ok x.points
  | v => (v.written.mapError .unwritable).map CodePoint.ofText

/-- What the entry for a key becomes; without one the key has its preset. -/
def Key.read : Key → Option Value → Except Fault Value
  | k, none => .ok (get {} k)
  | .enabled, some v | .json, some v => .ok (.bool v.truthy)
  | .start, some v | .increment, some v => (v.whole.mapError .badNumber).map .int
  | .endWord, some .null => .ok (.text "")
  | .level, some v =>
    (pointsOf v).bind fun cs => (levelNamed (CodePoint.upper cs)).map fun l => .text l.name
  | .main, some v | .endWord, some v | .mainExtension, some v | .subExtension, some v =>
    (v.written.mapError .unwritable).map .text

/-! ### Sections -/

variable {data entries : Entries} {c : Config} {d : Draft}

/-- The entries of a section hold the entries of its keys. -/
theorem entry?_of_entriesOf {k : Key} (h : entriesOf data k.part = .ok entries) :
    k.entry? data = Value.entry? entries (.text k.name) := by
  rw [Key.entry?]
  rw [entriesOf] at h
  split at h
  · next hnone =>
    cases h
    rw [hnone]
    rfl
  · next hnull =>
    cases h
    rw [hnull]
    rfl
  · next hmapping =>
    cases h
    rw [hmapping]
  · cases h

/-- What a draft was converted from. -/
structure Converts (data : Entries) (d : Draft) : Prop where
  numbering : ∃ entries, entriesOf data "numbering" = .ok entries ∧
    numberingOf entries = .ok d.numbering
  files : ∃ entries, entriesOf data "files" = .ok entries ∧ filesOf entries = .ok d.files
  logging : ∃ entries, entriesOf data "logging" = .ok entries ∧
    loggingOf entries = .ok (d.level, d.json)

theorem converts_of_draft (h : draft data = .ok d) : Converts data d := by
  obtain ⟨ns, hns, h⟩ := bind_eq_ok h
  obtain ⟨numbering, hnumbering, h⟩ := bind_eq_ok h
  obtain ⟨fs, hfs, h⟩ := bind_eq_ok h
  obtain ⟨files, hfiles, h⟩ := bind_eq_ok h
  obtain ⟨ls, hls, h⟩ := bind_eq_ok h
  obtain ⟨logging, hlogging, h⟩ := bind_eq_ok h
  cases h
  exact ⟨⟨ns, hns, hnumbering⟩, ⟨fs, hfs, hfiles⟩, ⟨ls, hls, hlogging⟩⟩

/-! ### Levels -/

/-- The name of a level is in capitals. -/
theorem upper_name (l : Level) :
    CodePoint.upper (CodePoint.ofText l.name) = CodePoint.ofText l.name := by
  cases l <;> decide

theorem levelNamed_upper_name (l : Level) :
    levelNamed (CodePoint.upper (CodePoint.ofText l.name)) = .ok l := by
  rw [levelNamed, upper_name, CodePoint.text?_ofText, Option.bind_some, Level.ofName?_name]

/-! ### Entries -/

theorem read_number (key : Key) {preset i : Int} (hk : key = .start ∨ key = .increment)
    (hp : get {} key = .int preset) (h : number entries key.name preset = .ok i) :
    key.read (Value.entry? entries (.text key.name)) = .ok (.int i) := by
  rw [number] at h
  cases he : Value.entry? entries (.text key.name) with
  | none =>
      rw [he] at h
      cases h
      exact congrArg Except.ok hp
  | some v =>
      rw [he] at h
      rcases hk with rfl | rfl <;> exact congrArg (Except.map Value.int) h

theorem read_text (key : Key) {preset s : String}
    (hk : key = .main ∨ key = .mainExtension ∨ key = .subExtension)
    (hp : get {} key = .text preset) (h : text entries key.name preset = .ok s) :
    key.read (Value.entry? entries (.text key.name)) = .ok (.text s) := by
  rw [text] at h
  cases he : Value.entry? entries (.text key.name) with
  | none =>
      rw [he] at h
      cases h
      exact congrArg Except.ok hp
  | some v =>
      rw [he] at h
      rcases hk with rfl | rfl | rfl <;> exact congrArg (Except.map Value.text) h

theorem read_endWord {s : String} (h : textOrEmpty entries "subprogram_end_word" "M17" = .ok s) :
    Key.endWord.read (Value.entry? entries (.text "subprogram_end_word")) = .ok (.text s) := by
  rw [textOrEmpty, text] at h
  cases he : Value.entry? entries (.text "subprogram_end_word") with
  | none =>
      rw [he] at h
      cases h
      rfl
  | some v =>
      rw [he] at h
      cases v with
      | null =>
          cases h
          rfl
      | _ => exact congrArg (Except.map Value.text) h

theorem read_flag {key : Key} {preset : Bool} (hk : key = .enabled ∨ key = .json)
    (hp : get {} key = .bool preset) :
    key.read (Value.entry? entries (.text key.name)) =
      .ok (.bool (flag entries key.name preset)) := by
  rw [flag]
  cases Value.entry? entries (.text key.name) with
  | none => exact congrArg Except.ok hp
  | some v => rcases hk with rfl | rfl <;> rfl

theorem read_level {cs : List CodePoint} {l : Level} (h : points entries "level" "INFO" = .ok cs)
    (hl : levelNamed (CodePoint.upper cs) = .ok l) :
    Key.level.read (Value.entry? entries (.text "level")) = .ok (.text l.name) := by
  rw [points, text] at h
  cases he : Value.entry? entries (.text "level") with
  | none =>
      rw [he] at h
      cases h
      obtain rfl := Except.ok.inj (hl.symm.trans (levelNamed_upper_name .info))
      rfl
  | some v =>
      rw [he] at h
      have points : pointsOf v = .ok cs := by
        cases v <;> exact h
      rw [Key.read, points]
      exact congrArg (Except.map fun l : Level => Value.text l.name) hl

/-! ### Checks -/

/-- What the checks ask of a configuration. -/
structure IsValid (c : Config) : Prop where
  start : 0 ≤ c.numbering.start
  increment : 0 < c.numbering.increment
  main : ∃ char ∈ c.files.main.toList, Text.isBlank char = false
  level : c.logging.level.name ∈ ["DEBUG", "INFO", "WARNING", "ERROR", "CRITICAL"]

/-- A text is empty when it is trimmed, unless some character of it is no blank. -/
theorem isEmpty_trimmed_eq_false {s : String} :
    s.trimmed.isEmpty = false ↔ ∃ char ∈ s.toList, Text.isBlank char = false := by
  have head : (Text.trim s.toList).head? = Text.lead? s.toList := by
    rw [← Text.lead?_of_isTrim (Text.isTrim_trim _), Text.lead?_trim]
  have empty : s.trimmed.isEmpty = (Text.lead? s.toList).isNone := by
    rw [← head, String.trimmed]
    cases Text.trim s.toList <;> simp
  rw [empty, Text.lead?]
  simp

theorem level_mem (l : Level) : l.name ∈ ["DEBUG", "INFO", "WARNING", "ERROR", "CRITICAL"] := by
  cases l <;> decide

theorem check_eq (h : d.numbering.start ≥ 0 ∧ d.numbering.increment > 0 ∧
    d.files.main.trimmed.isEmpty = false) :
    d.check = (levelNamed d.level).map fun l => ⟨d.numbering, d.files, ⟨l, d.json⟩⟩ := by
  obtain ⟨hstart, hincrement, hmain⟩ := h
  rw [Draft.check, if_neg (by omega), if_neg (by omega), hmain, levelNamed]
  cases (CodePoint.text? d.level).bind Level.ofName? <;> rfl

theorem check_eq_ok_iff : d.check = .ok c ↔
    c.IsValid ∧ d.numbering = c.numbering ∧ d.files = c.files ∧
      levelNamed d.level = .ok c.logging.level ∧ d.json = c.logging.json := by
  constructor
  · intro h
    -- the checks come in order, so what is left has passed them all
    have passed : d.numbering.start ≥ 0 ∧ d.numbering.increment > 0 ∧
        d.files.main.trimmed.isEmpty = false := by
      rw [Draft.check] at h
      split at h
      · cases h
      split at h
      · cases h
      split at h
      · cases h
      exact ⟨by omega, by omega, by simpa using ‹¬ d.files.main.trimmed.isEmpty = true›⟩
    rw [check_eq passed] at h
    obtain ⟨l, hl, rfl⟩ := map_eq_ok h
    exact ⟨⟨passed.1, passed.2.1, isEmpty_trimmed_eq_false.mp passed.2.2, level_mem l⟩, rfl, rfl,
      hl, rfl⟩
  · rintro ⟨valid, hnumbering, hfiles, hlevel, hjson⟩
    rw [check_eq, hlevel, hnumbering, hfiles, hjson]
    · rfl
    · rw [hnumbering, hfiles]
      exact ⟨valid.start, valid.increment, isEmpty_trimmed_eq_false.mpr valid.main⟩

/-! ### Accepted mappings -/

theorem read_numberingOf {n : Numbering} (h : numberingOf entries = .ok n) :
    Key.enabled.read (Value.entry? entries (.text "enabled")) = .ok (.bool n.enabled) ∧
      Key.start.read (Value.entry? entries (.text "start")) = .ok (.int n.start) ∧
      Key.increment.read (Value.entry? entries (.text "increment")) = .ok (.int n.increment) := by
  obtain ⟨start, hstart, h⟩ := bind_eq_ok h
  obtain ⟨increment, hincrement, h⟩ := bind_eq_ok h
  cases h
  exact ⟨read_flag (.inl rfl) rfl, read_number .start (.inl rfl) rfl hstart,
    read_number .increment (.inr rfl) rfl hincrement⟩

theorem read_filesOf {f : FileNames} (h : filesOf entries = .ok f) :
    Key.main.read (Value.entry? entries (.text "main_name")) = .ok (.text f.main) ∧
      Key.endWord.read (Value.entry? entries (.text "subprogram_end_word")) =
        .ok (.text f.endWord) ∧
      Key.mainExtension.read (Value.entry? entries (.text "main_extension")) =
        .ok (.text f.mainExtension) ∧
      Key.subExtension.read (Value.entry? entries (.text "subprogram_extension")) =
        .ok (.text f.subExtension) := by
  obtain ⟨main, hmain, h⟩ := bind_eq_ok h
  obtain ⟨endWord, hendWord, h⟩ := bind_eq_ok h
  obtain ⟨mainExtension, hmainExtension, h⟩ := bind_eq_ok h
  obtain ⟨subExtension, hsubExtension, h⟩ := bind_eq_ok h
  cases h
  exact ⟨read_text .main (.inl rfl) rfl hmain, read_endWord hendWord,
    read_text .mainExtension (.inr (.inl rfl)) rfl hmainExtension,
    read_text .subExtension (.inr (.inr rfl)) rfl hsubExtension⟩

theorem read_loggingOf {capitals : List CodePoint} {json : Bool} {l : Level}
    (h : loggingOf entries = .ok (capitals, json)) (hl : levelNamed capitals = .ok l) :
    Key.level.read (Value.entry? entries (.text "level")) = .ok (.text l.name) ∧
      Key.json.read (Value.entry? entries (.text "json")) = .ok (.bool json) := by
  obtain ⟨level, hlevel, h⟩ := bind_eq_ok h
  cases h
  exact ⟨read_level hlevel hl, read_flag (.inr rfl) rfl⟩

/-- **The value of a key** is what its entry becomes. -/
theorem read_entry (h : ofValue (.mapping data) = .ok c) (k : Key) :
    k.read (k.entry? data) = .ok (c.get k) := by
  obtain ⟨d, hd, hc⟩ := bind_eq_ok h
  obtain ⟨-, hnumbering, hfiles, hlevel, hjson⟩ := check_eq_ok_iff.mp hc
  obtain ⟨⟨ns, hns, numbering⟩, ⟨fs, hfs, files⟩, ⟨ls, hls, logging⟩⟩ := converts_of_draft hd
  obtain ⟨enabled, start, increment⟩ := read_numberingOf (hnumbering ▸ numbering)
  obtain ⟨main, endWord, mainExtension, subExtension⟩ := read_filesOf (hfiles ▸ files)
  obtain ⟨level, json⟩ := read_loggingOf (hjson ▸ logging) hlevel
  cases k with
  | enabled => exact (congrArg _ (entry?_of_entriesOf hns)).trans enabled
  | start => exact (congrArg _ (entry?_of_entriesOf hns)).trans start
  | increment => exact (congrArg _ (entry?_of_entriesOf hns)).trans increment
  | main => exact (congrArg _ (entry?_of_entriesOf hfs)).trans main
  | endWord => exact (congrArg _ (entry?_of_entriesOf hfs)).trans endWord
  | mainExtension => exact (congrArg _ (entry?_of_entriesOf hfs)).trans mainExtension
  | subExtension => exact (congrArg _ (entry?_of_entriesOf hfs)).trans subExtension
  | level => exact (congrArg _ (entry?_of_entriesOf hls)).trans level
  | json => exact (congrArg _ (entry?_of_entriesOf hls)).trans json

theorem isValid_of_ofValue {v : Value} (h : ofValue v = .ok c) : c.IsValid := by
  cases v with
  | mapping data =>
      obtain ⟨d, -, hc⟩ := bind_eq_ok h
      exact (check_eq_ok_iff.mp hc).1
  | _ => cases h

/-! ### Reading back -/

theorem entry?_nil (key : String) : Value.entry? [] (.text key) = none := rfl

/-- The first entry of a mapping is found under its own key. -/
theorem entry?_cons (name key : String) (v : Value) (entries : Entries) :
    Value.entry? ((.text name, v) :: entries) (.text key) =
      if name = key then some v else Value.entry? entries (.text key) := by
  have finds : (Value.text name).finds (.text key) = (name == key) := by
    simp [Value.finds, Value.isOne, Value.same_text, Value.sameAtom, Value.int?, Value.text?]
  rw [Value.entry?, List.find?_cons, finds]
  by_cases h : name = key
  · simp [h]
  · simp only [beq_eq_false_iff_ne.mpr h, if_neg h, Value.entry?]

/-- The values of a configuration are of the types of their keys, so no conversion changes them. -/
theorem ofValue_value_eq (c : Config) : ofValue c.value = Draft.check ⟨c.numbering, c.files,
    CodePoint.upper (CodePoint.ofText c.logging.level.name), c.logging.json⟩ := by
  simp [ofValue, value, Value.ofFields, draft, entriesOf, entry?_cons, numberingOf, filesOf,
    loggingOf, number, text, textOrEmpty, flag, points, Value.whole, Value.truthy, Value.written,
    mapError_ok, Except.map, bind, Except.bind, pure, Except.pure]

/-- **A valid configuration** is read back from the mapping of its own values. -/
theorem ofValue_value (h : c.IsValid) : ofValue c.value = .ok c := by
  rw [ofValue_value_eq]
  exact check_eq_ok_iff.mpr ⟨h, rfl, rfl, levelNamed_upper_name _, rfl⟩

/-- **Accepted configurations** are valid and in normal form.  A mapping that is accepted gives a
configuration that passes the checks.  A key without an entry has its preset, and keys with the same
entry have the same value, whatever else the mappings hold.  The configuration is read back as it is
from the mapping of its own values. -/
theorem accepted_normal (h : ofValue (.mapping data) = .ok c) :
    c.IsValid ∧ (∀ k : Key, k.entry? data = none → c.get k = get {} k) ∧
      (∀ data' c', ofValue (.mapping data') = .ok c' →
        ∀ k : Key, k.entry? data' = k.entry? data → c'.get k = c.get k) ∧
      ofValue c.value = .ok c := by
  have valid := isValid_of_ofValue h
  refine ⟨valid, fun k hnone => ?_, fun data' c' h' k hsame => ?_, ofValue_value valid⟩
  · have preset := read_entry h k
    rw [hnone] at preset
    have read : k.read none = .ok (get {} k) := by
      cases k <;> rfl
    exact (Except.ok.inj (read.symm.trans preset)).symm
  · have value' := read_entry h' k
    rw [hsame, read_entry h k] at value'
    exact (Except.ok.inj value').symm

/-- A mapping whose entries are not of the types of their keys. -/
def looseEntries : Entries := [
  (.text "numbering", .ofFields [("start", .text " +2_0 "), ("increment", .bool true)]),
  (.text "files", .ofFields [("main_name", .null), ("subprogram_end_word", .null)]),
  (.text "logging", .ofFields [("level", .text "ınfo"), ("json", .list [.null])]),
  (.int 7, .null)]

/-- The configuration that `looseEntries` describes. -/
def looseConfig : Config := ⟨⟨true, 20, 1⟩, ⟨"None", "", ".MPF", ".SPF"⟩, ⟨.info, true⟩⟩

theorem accepted_normal_loose :
    ofValue (.mapping looseEntries) = .ok looseConfig ∧ looseConfig.IsValid ∧
      looseConfig.get .mainExtension = get {} .mainExtension ∧
      (∀ c', ofValue (.mapping [(.text "numbering", .ofFields [("start", .text " +2_0 ")])]) =
        .ok c' → c'.get .start = .int 20) ∧
      ofValue looseConfig.value = .ok looseConfig := by
  have accepted : ofValue (.mapping looseEntries) = .ok looseConfig :=
    eq_ok_of_toOption (by decide +kernel)
  obtain ⟨valid, presets, entries, same⟩ := accepted_normal accepted
  refine ⟨accepted, valid, presets .mainExtension ?_, fun c' h => entries _ c' h .start ?_, same⟩
  · simp [Key.entry?, Key.part, Key.name, looseEntries, Value.ofFields, entry?_cons, entry?_nil]
  · simp [Key.entry?, Key.part, Key.name, looseEntries, Value.ofFields, entry?_cons]

end Postprocessor.Config
