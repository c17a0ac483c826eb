import Postprocessor.Proofs.Config.Acceptance
import Postprocessor.Proofs.Machine.Values

/-!
# Proofs — refused configurations

A fault of a configuration is reported as one, whether an entry cannot be converted or a check
fails, with two exceptions.  An infinite number is no whole number, which is reported as an
overflow.  A number that a check refuses is part of the report, which cannot be written if the
number has too many digits.

* `kind_of_entriesOf`, `kind_of_filesOf`, `kind_of_loggingOf`: faults of sections and of texts are
  reported as faults of the configuration.
* `Escapes`: the mappings that are refused under another kind.
* `escapes_iff`: there are no others.
-/

namespace Postprocessor.Config

variable {data entries : Entries} {d : Draft} {f : Fault} {kind : String}

/-! ### Kinds of faults -/

theorem kind_badNumber {why : WholeFault} (h : (Fault.badNumber why).kind ≠ Fault.configKind) :
    why = .infinite := by
  cases why with
  | infinite => rfl
  | _ => exact absurd rfl h

/-- A number can be reported unless it has too many digits. -/
theorem withNumber_fst (text : String) (i : Int) :
    (Fault.withNumber text i).1 = if IsPrintable i then Fault.configKind else "ValueError" := by
  rw [Fault.withNumber]
  by_cases hi : IsPrintable i
  · rw [intWritten_of_isPrintable hi, if_pos hi]
  · rw [intWritten_of_not_isPrintable hi, if_neg hi]
    rfl

theorem kind_negativeStart (i : Int) :
    (Fault.negativeStart i).kind = if IsPrintable i then Fault.configKind else "ValueError" :=
  withNumber_fst _ i

theorem kind_badIncrement (i : Int) :
    (Fault.badIncrement i).kind = if IsPrintable i then Fault.configKind else "ValueError" :=
  withNumber_fst _ i

/-! ### Conversions -/

theorem kind_of_entriesOf {part : String} (h : entriesOf data part = .error f) :
    f.kind = Fault.configKind := by
  rw [entriesOf] at h
  split at h <;> cases h
  rfl

theorem kind_of_text {key preset : String} (h : text entries key preset = .error f) :
    f.kind = Fault.configKind := by
  rw [text] at h
  split at h
  · next v _ =>
    cases hv : v.written with
    | error why =>
        rw [hv] at h
        cases h
        rfl
    | ok s =>
        rw [hv] at h
        cases h
  · cases h

theorem kind_of_textOrEmpty {key preset : String} (h : textOrEmpty entries key preset = .error f) :
    f.kind = Fault.configKind := by
  rw [textOrEmpty] at h
  split at h
  · cases h
  · exact kind_of_text h

theorem kind_of_points {key preset : String} (h : points entries key preset = .error f) :
    f.kind = Fault.configKind := by
  rw [points] at h
  split at h
  · cases h
  · exact kind_of_text (map_eq_error h)

theorem kind_of_filesOf (h : filesOf entries = .error f) : f.kind = Fault.configKind := by
  rcases bind_eq_error h with h | ⟨_, -, h⟩
  · exact kind_of_text h
  rcases bind_eq_error h with h | ⟨_, -, h⟩
  · exact kind_of_textOrEmpty h
  rcases bind_eq_error h with h | ⟨_, -, h⟩
  · exact kind_of_text h
  rcases bind_eq_error h with h | ⟨_, -, h⟩
  · exact kind_of_text h
  · cases h

theorem kind_of_loggingOf {why : Fault} (h : loggingOf entries = .error why) :
    why.kind = Fault.configKind := by
  rcases bind_eq_error h with h | ⟨_, -, h⟩
  · exact kind_of_points h
  · cases h

/-! ### Numbers -/

/-- Only an infinite number is refused as infinite. -/
theorem whole_eq_infinite_iff {v : Value} :
    v.whole = .error .infinite ↔ ∃ negative, v = .float (.infinite negative) := by
  constructor
  · intro h
    have texts (s shown : String) : wholeOfText s shown ≠ .error .infinite := by
      rw [wholeOfText]
      split
      · split
        · simp
        · split <;> simp
      · simp
    cases v with
    | float x =>
        cases x with
        | infinite negative => exact ⟨negative, rfl⟩
        | _ => cases h
    | text s => exact absurd h (texts s s.quotedForm)
    | symbol s => exact absurd h (texts s.word s.shown)
    | foreign x =>
        cases x with
        | bytes bs =>
            rw [Value.whole, wholeOfBytes] at h
            exact absurd h (texts _ _)
        | _ => cases h
    | _ => cases h
  · rintro ⟨negative, rfl⟩
    rfl

/-- The number of a key is refused under another kind if it is infinite, and only then. -/
theorem number_eq_error {key : String} {preset : Int}
    (h : number entries key preset = .error f) (hf : f.kind ≠ Fault.configKind) :
    f = .badNumber .infinite ∧
      ∃ negative, Value.entry? entries (.text key) = some (.float (.infinite negative)) := by
  rw [number] at h
  split at h
  · next v hv =>
    cases hw : v.whole with
    | error why =>
        rw [hw] at h
        cases h
        obtain rfl := kind_badNumber hf
        obtain ⟨negative, rfl⟩ := whole_eq_infinite_iff.mp hw
        exact ⟨rfl, negative, hv⟩
    | ok i =>
        rw [hw] at h
        cases h
  · cases h

theorem number_infinite (key : String) {negative : Bool}
    (h : Value.entry? entries (.text key) = some (.float (.infinite negative))) (preset : Int) :
    number entries key preset = .error (.badNumber .infinite) := by
  rw [number, h]
  rfl

/-- The start is converted if its entry can be read. -/
theorem exists_number_start (h : ∃ v, Key.start.read (Value.entry? entries (.text "start")) = .ok v)
    (preset : Int) : ∃ i, number entries "start" preset = .ok i := by
  obtain ⟨v, h⟩ := h
  rw [number]
  cases he : Value.entry? entries (.text "start") with
  | none => exact ⟨preset, rfl⟩
  | some w =>
      rw [he] at h
      obtain ⟨i, hi, -⟩ := map_eq_ok h
      exact ⟨i, hi⟩

/-! ### Refusals -/

/-- A key of a section has an entry only if the section is a mapping. -/
theorem entriesOf_of_entry? {k : Key} {v : Value} (h : k.entry? data = some v) :
    ∃ entries, entriesOf data k.part = .ok entries ∧
      Value.entry? entries (.text k.name) = some v := by
  rw [Key.entry?] at h
  split at h
  · next entries hsection => exact ⟨entries, by rw [entriesOf, hsection], h⟩
  · cases h

/-- The mappings that are refused under a kind other than that of faults of a configuration. -/
inductive Escapes (data : Entries) : String → Prop
  /-- The start is infinite. -/
  | start {negative : Bool} (infinite : Key.start.entry? data = some (.float (.infinite negative))) :
      Escapes data "OverflowError"
  /-- The increment is infinite, and the start is no fault. -/
  | increment {negative : Bool} (start : ∃ v, Key.start.read (Key.start.entry? data) = .ok v)
      (infinite : Key.increment.entry? data = some (.float (.infinite negative))) :
      Escapes data "OverflowError"
  /-- The start is negative and has too many digits. -/
  | longStart {d : Draft} (converted : draft data = .ok d) (negative : d.numbering.start < 0)
      (long : ¬ IsPrintable d.numbering.start) : Escapes data "ValueError"
  /-- The increment is negative and has too many digits, and the start is no fault. -/
  | longIncrement {d : Draft} (converted : draft data = .ok d) (start : 0 ≤ d.numbering.start)
      (negative : d.numbering.increment < 0) (long : ¬ IsPrintable d.numbering.increment) :
      Escapes data "ValueError"

/-- What is refused under another kind before the checks. -/
theorem escapes_of_draft (h : draft data = .error f) (hf : f.kind ≠ Fault.configKind) :
    Escapes data f.kind := by
  rcases bind_eq_error h with h | ⟨entries, hentries, h⟩
  · exact absurd (kind_of_entriesOf h) hf
  rcases bind_eq_error h with h | ⟨_, -, h⟩
  · rcases bind_eq_error h with h | ⟨start, hstart, h⟩
    · obtain ⟨rfl, negative, hv⟩ := number_eq_error h hf
      exact .start ((entry?_of_entriesOf (k := .start) hentries).trans hv)
    rcases bind_eq_error h with h | ⟨_, -, h⟩
    · obtain ⟨rfl, negative, hv⟩ := number_eq_error h hf
      have read := read_number .start (.inl rfl) rfl hstart
      rw [← entry?_of_entriesOf (k := .start) hentries] at read
      exact .increment ⟨_, read⟩ ((entry?_of_entriesOf (k := .increment) hentries).trans hv)
    · cases h
  rcases bind_eq_error h with h | ⟨_, -, h⟩
  · exact absurd (kind_of_entriesOf h) hf
  rcases bind_eq_error h with h | ⟨_, -, h⟩
  · exact absurd (kind_of_filesOf h) hf
  rcases bind_eq_error h with h | ⟨_, -, h⟩
  · exact absurd (kind_of_entriesOf h) hf
  rcases bind_eq_error h with h | ⟨_, -, h⟩
  · exact absurd (kind_of_loggingOf h) hf
  · cases h

/-- What the checks refuse under another kind. -/
theorem escapes_of_check (hd : draft data = .ok d) (h : d.check = .error f)
    (hf : f.kind ≠ Fault.configKind) : Escapes data f.kind := by
  rw [Draft.check] at h
  split at h
  · next negative =>
    cases h
    rw [kind_negativeStart] at hf ⊢
    by_cases hi : IsPrintable d.numbering.start
    · exact absurd (if_pos hi) hf
    · rw [if_neg hi]
      exact .longStart hd negative hi
  split at h
  · next hstart hincrement =>
    cases h
    rw [kind_badIncrement] at hf ⊢
    by_cases hi : IsPrintable d.numbering.increment
    · exact absurd (if_pos hi) hf
    · rw [if_neg hi]
      have nonzero : d.numbering.increment ≠ 0 := fun zero => hi (by rw [zero]; decide)
      exact .longIncrement hd (by omega) (by omega) hi
  split at h
  · cases h
    exact absurd rfl hf
  split at h
  · cases h
  · cases h
    exact absurd rfl hf

/-- The numbering is converted first. -/
theorem ofValue_of_numberingOf (hs : entriesOf data "numbering" = .ok entries)
    (h : numberingOf entries = .error f) : ofValue (.mapping data) = .error f := by
  have refused : draft data = .error f := by
    rw [draft, hs]
    change numberingOf entries >>= _ = _
    rw [h]
    rfl
  rw [ofValue, refused]
  rfl

/-- A mapping that escapes is refused under its kind. -/
theorem Escapes.refused (h : Escapes data kind) :
    ∃ f, ofValue (.mapping data) = .error f ∧ f.kind = kind := by
  cases h with
  | start infinite =>
      obtain ⟨entries, hentries, hv⟩ := entriesOf_of_entry? infinite
      have overflow := number_infinite "start" hv ({} : Numbering).start
      refine ⟨.badNumber .infinite, ofValue_of_numberingOf hentries ?_, rfl⟩
      rw [numberingOf, overflow]
      rfl
  | increment start infinite =>
      obtain ⟨entries, hentries, hv⟩ := entriesOf_of_entry? infinite
      rw [entry?_of_entriesOf (k := .start) hentries] at start
      obtain ⟨i, hi⟩ := exists_number_start start ({} : Numbering).start
      have overflow := number_infinite "increment" hv ({} : Numbering).increment
      refine ⟨.badNumber .infinite, ofValue_of_numberingOf hentries ?_, rfl⟩
      rw [numberingOf, hi, overflow]
      rfl
  | longStart converted negative long =>
      refine ⟨_, ?_, (kind_negativeStart _).trans (if_neg long)⟩
      rw [ofValue, converted]
      exact if_pos negative
  | longIncrement converted start negative long =>
      refine ⟨_, ?_, (kind_badIncrement _).trans (if_neg long)⟩
      rw [ofValue, converted]
      exact (if_neg (by omega)).trans (if_pos (by omega))

/-- **Refused configurations.**  A mapping is refused under another kind than that of faults of a
configuration exactly if its start or its increment is infinite, or is negative and has too many
digits for a report. -/
theorem escapes_iff (data : Entries) (kind : String) :
    (∃ f, ofValue (.mapping data) = .error f ∧ f.kind = kind ∧ kind ≠ Fault.configKind) ↔
      Escapes data kind := by
  constructor
  · rintro ⟨f, h, rfl, hf⟩
    rcases bind_eq_error h with h | ⟨d, hd, h⟩
    · exact escapes_of_draft h hf
    · exact escapes_of_check hd h hf
  · intro h
    obtain ⟨f, hf, hkind⟩ := h.refused
    refine ⟨f, hf, hkind, ?_⟩
    cases h <;> decide

/-- An infinite start overflows. -/
theorem infinite_start_overflows :
    ∃ f, ofValue (.mapping [(.text "numbering", .ofFields [("start", .float (.infinite false))])]) =
      .error f ∧ f.kind = "OverflowError" ∧ f.kind ≠ Fault.configKind := by
  refine ⟨.badNumber .infinite, ?_, rfl, by decide⟩
  simp [ofValue, draft, entriesOf, numberingOf, number, Value.ofFields, entry?_cons, Value.whole,
    mapError_error, bind, Except.bind]

end Postprocessor.Config
