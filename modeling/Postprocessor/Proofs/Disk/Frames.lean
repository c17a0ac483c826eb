import Postprocessor.Proofs.Disk.Identities

/-!
# Proofs — what storing a file leaves alone

A file is written beside its place first, and the name that it has there is made from its own.  So
storing a file is seen at its path, at the path beside it and, where folders are made, at the
folders above it, and at no other place.

* `Storing`: the calls that store a file; `Storing.content`: the bytes that they store.
* `Storing.Stored`, `Storing.Refused`: what a call leaves that goes well, and one that fails.
* `Storing.frames_step`: every call leaves one or the other.
* `FramesAll`, `framesAll_storeAll`: what calls in a row leave alone.
* `storeAll_frames`: both, after any calls.
-/

namespace Postprocessor.Disk
open Step Text

/-- A call that stores a file. -/
inductive Storing where
  | bytes (path : Path) (content : List UInt8)
  | text (path : Path) (content code : String)
  | json (path : Path) (content : Value)

/-- A place on the way to a path, at which the path needs a folder. -/
def IsOnWay (p : Path) (q : Place) : Prop := ∃ n, q = (p.parent.upTo n).place

namespace Storing

/-- The path of the file. -/
def path : Storing → Path
  | .bytes p _ | .text p _ _ | .json p _ => p

/-- What a call does. -/
def step : Storing → Step Unit
  | .bytes p content => store p content
  | .text p content code => storeTextIn p content code
  | .json p content => storeJson p content

/-- The bytes that a call stores, if its content can be written. -/
def content : Storing → Except Fault (List UInt8)
  | .bytes _ content => .ok content
  | .text _ content code =>
    ((Encoding.ofName code).mapError (.badEncoding code)).bind fun encoding =>
      (encoding.encode content.toList).mapError (.unencodable code)
  | .json _ content =>
    ((content.json .indented).mapError .unwritable).map fun text =>
      Utf8.encode (text ++ "\n").toList

/-- What a call that goes well leaves: its content at its path, and no change elsewhere but to a
file beside the path, which is gone. -/
structure Stored (call : Storing) (d d' : Disk) : Prop where
  target : ∃ content, call.content = .ok content ∧ d'.bytes? call.path.place = some content
  files : ∀ {q id bytes}, d.item? q = some (.file id bytes) → q ≠ call.path.place →
    q ≠ call.path.temporary.place → d'.item? q = some (.file id bytes)
  folders : ∀ {q}, d.item? q = some .folder → d'.item? q = some .folder
  beside : d'.item? call.path.temporary.place = none
  made : ∀ {q}, d.item? q = none → d'.item? q ≠ none →
    q = call.path.place ∨ d'.item? q = some .folder ∧ IsOnWay call.path q

/-- What a call that fails leaves: all that there was, but for a file beside the path where no file
can stand at the path, and folders on the way. -/
structure Refused (call : Storing) (d d' : Disk) : Prop where
  files : ∀ {q id bytes}, d.item? q = some (.file id bytes) →
    d'.item? q = some (.file id bytes) ∨
      q = call.path.temporary.place ∧ d'.item? q = none ∧
        (call.path.name = ".." ∨ d'.item? call.path.place = some .folder)
  folders : ∀ {q}, d.item? q = some .folder → d'.item? q = some .folder
  made : ∀ {q}, d.item? q = none → d'.item? q ≠ none →
    d'.item? q = some .folder ∧ IsOnWay call.path q

/-- What a call leaves, with what comes of it. -/
def Frames (call : Storing) (d : Disk) : Except Fault Unit × Disk → Prop
  | (.ok (), d') => call.Stored d d'
  | (.error _, d') => call.Refused d d'

variable {call : Storing} {p : Path} {bytes : List UInt8} {d d' : Disk}

/-- A call whose content cannot be written does nothing. -/
theorem run_step (call : Storing) (d : Disk) : call.step d = match call.content with
    | .ok bytes => store call.path bytes d
    | .error e => (.error e, d) := by
  cases call with
  | bytes p content => rfl
  | text p text code =>
      rw [step, storeTextIn, lift_bind, content]
      rcases Encoding.ofName code with e | encoding
      · rfl
      · simp only [mapError_ok, Except.bind]
        rw [lift_bind]
        rcases encoding.encode text.toList with e | bytes <;> rfl
  | json p v =>
      rw [step, storeJson, lift_bind, content]
      rcases v.json .indented with e | text <;> rfl

/-- A file is stored, or it is refused. -/
theorem frames_of_stores {r : Except Fault Unit × Disk} (hs : Stores call.path bytes d r)
    (hc : call.content = .ok bytes) : call.Frames d r := by
  cases hs with
  | failed hf hi _ =>
      refine ⟨fun {q id bytes} hq => ?_, fun {q} hq => ?_, fun {q} hq hmade => ?_⟩
      · have hq' := hf.item?_eq_file_iff.mpr hq
        rcases hi q with he | ⟨hbeside, hgone, -, hunfit⟩
        · exact .inl (he.trans hq')
        · refine .inr ⟨hbeside, hgone, hunfit.imp_right fun hfolder => ?_⟩
          rcases hi call.path.place with he | ⟨hbeside', -⟩
          · exact he.trans hfolder
          · exact absurd hbeside'.symm call.path.temporary_place_ne
      · have hq' := hf.folder hq
        rcases hi q with he | ⟨-, -, hfile, -⟩
        · exact he.trans hq'
        · exact absurd hq' hfile
      · rcases hi q with he | ⟨-, hgone, -⟩
        · rw [he] at hmade ⊢
          exact hf.made hq hmade
        · exact absurd hgone hmade
  | @stored _ d₁ _ hf hid ht hi _ =>
      have hfile : d₁.item? call.path.temporary.place ≠ some .folder := by
        rcases hid with ⟨old, hold⟩ | ⟨hnone, -⟩
        · simp [hold]
        · simp [hnone]
      refine ⟨⟨bytes, hc, ?_⟩, fun {q id' bytes'} hq hplace hbeside => ?_, fun {q} hq => ?_, ?_,
        fun {q} hq hmade => ?_⟩
      · rw [bytes?, hi, if_neg call.path.temporary_place_ne.symm, if_pos rfl]
      · rw [hi, if_neg hbeside, if_neg hplace]
        exact hf.item?_eq_file_iff.mpr hq
      · have hq' := hf.folder hq
        rw [hi, if_neg, if_neg]
        · exact hq'
        · rintro rfl
          exact ht hq'
        · rintro rfl
          exact hfile hq'
      · rw [hi, if_pos rfl]
      · rw [hi] at hmade ⊢
        split at hmade
        · exact absurd rfl hmade
        · next hbeside =>
          rw [if_neg hbeside]
          split at hmade
          · exact .inl ‹_›
          · next hplace =>
            rw [if_neg hplace]
            exact .inr (hf.made hq hmade)

/-- **What a call leaves alone.** -/
theorem frames_step (call : Storing) (d : Disk) : call.Frames d (call.step d) := by
  rw [run_step]
  rcases hc : call.content with e | bytes
  · exact ⟨fun hq => .inl hq, fun hq => hq, fun hq hmade => absurd hq hmade⟩
  · exact frames_of_stores (stores_store _ _ _) hc

theorem Frames.folders {r : Except Fault Unit × Disk} (h : call.Frames d r) {q : Place}
    (hq : d.item? q = some .folder) : r.2.item? q = some .folder := by
  obtain ⟨_ | _, d'⟩ := r
  · exact Refused.folders h hq
  · exact Stored.folders h hq

/-- A call changes no file but those at its path and beside it. -/
theorem Frames.files {r : Except Fault Unit × Disk} (h : call.Frames d r) {q : Place} {id : Nat}
    (hq : d.item? q = some (.file id bytes)) (hplace : q ≠ call.path.place)
    (hbeside : q ≠ call.path.temporary.place) : r.2.item? q = some (.file id bytes) := by
  obtain ⟨_ | _, d'⟩ := r
  · exact (Refused.files h hq).resolve_right fun ⟨beside, _⟩ => hbeside beside
  · exact Stored.files h hq hplace hbeside

theorem Frames.made {r : Except Fault Unit × Disk} (h : call.Frames d r) {q : Place}
    (hq : d.item? q = none) (hmade : r.2.item? q ≠ none) :
    q = call.path.place ∨ r.2.item? q = some .folder ∧ IsOnWay call.path q := by
  obtain ⟨_ | _, d'⟩ := r
  · exact .inr (Refused.made h hq hmade)
  · exact Stored.made h hq hmade

end Storing

/-! ### Calls in a row -/

/-- The disk after calls in a row, whether they go well or not. -/
def storeAll (d : Disk) (calls : List Storing) : Disk :=
  calls.foldl (fun d call => (call.step d).2) d

/-- What calls in a row leave alone. -/
structure FramesAll (calls : List Storing) (d d' : Disk) : Prop where
  files : ∀ {q id bytes}, d.item? q = some (.file id bytes) →
    (∀ call ∈ calls, q ≠ call.path.place ∧ q ≠ call.path.temporary.place) →
      d'.item? q = some (.file id bytes)
  folders : ∀ {q}, d.item? q = some .folder → d'.item? q = some .folder
  made : ∀ {q}, d.item? q = none → d'.item? q ≠ none → (∃ call ∈ calls, q = call.path.place) ∨
    d'.item? q = some .folder ∧ ∃ call ∈ calls, IsOnWay call.path q

theorem framesAll_storeAll (d : Disk) (calls : List Storing) :
    FramesAll calls d (d.storeAll calls) := by
  induction calls generalizing d with
  | nil => exact ⟨fun hq _ => hq, fun hq => hq, fun hq hmade => absurd hq hmade⟩
  | cons call calls ih =>
      have first := call.frames_step d
      have rest := ih (call.step d).2
      change FramesAll (call :: calls) d ((call.step d).2.storeAll calls)
      refine ⟨fun {q id bytes} hq hother => ?_, fun {q} hq => rest.folders (first.folders hq),
        fun {q} hq hmade => ?_⟩
      · obtain ⟨hplace, hbeside⟩ := hother call List.mem_cons_self
        exact rest.files (first.files hq hplace hbeside) fun call' hmem =>
          hother call' (List.mem_cons_of_mem call hmem)
      · by_cases hnew : (call.step d).2.item? q = none
        · rcases rest.made hnew hmade with ⟨call', hmem, hplace⟩ | ⟨hfolder, call', hmem, hway⟩
          · exact .inl ⟨call', List.mem_cons_of_mem call hmem, hplace⟩
          · exact .inr ⟨hfolder, call', List.mem_cons_of_mem call hmem, hway⟩
        · rcases first.made hq hnew with hplace | ⟨hfolder, hway⟩
          · exact .inl ⟨call, List.mem_cons_self, hplace⟩
          · exact .inr ⟨rest.folders hfolder, call, List.mem_cons_self, hway⟩

end Postprocessor.Disk
