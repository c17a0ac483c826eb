import Postprocessor.Proofs.Disk.Places

/-!
# Proofs — operations on files

What the single operations do is told by what stands at every place before and after.  An operation
that fails changes nothing.

* `located`, `run_locate`: what comes of locating a path; `locate_bind`: what follows it;
  `located_of_temporary`: where the path beside a path leads somewhere.
* `createFolder_cases`, `Writes`, `Moves`, `Unlinks`, `openLog_cases`: what an operation does.
* `FoldersMade`, `foldersMade_ensureFolder`: making a folder with all above it makes folders where
  there is nothing, and does nothing else.
-/

namespace Postprocessor.Disk
open Step

variable {p : Path} {d d' : Disk}

/-! ### What stands where -/

theorem isFixed_of_item?_ne {place : Place} (h : d.item? place ≠ some .folder) :
    isFixed place = false := by
  cases hf : isFixed place with
  | false => rfl
  | true => exact absurd (by simp [item?, hf]) h

theorem item?_drop {place : Place} (h : isFixed place = false) (other : Place) :
    (d.drop place).item? other = if other = place then none else d.item? other := by
  by_cases ho : other = place
  · subst ho
    simp [item?, drop, h]
  · simp [item?, drop, ho, Fields.lookup_drop_of_ne ho]

/-! ### Paths -/

/-- What comes of locating a path. -/
def located (d : Disk) (p : Path) : Except Fault Place :=
  if p.text.toList.contains '\x00' then .error .nullCharacter
  else (d.find p).mapError fun why => .refused why p.text none

theorem run_locate (p : Path) (d : Disk) : locate p d = (d.located p, d) := by
  rw [locate, located]
  split
  · rfl
  · dsimp only
    rw [bind_of_ok (run_get d)]
    rcases d.find p with why | place <;> rfl

theorem located_eq_ok_iff {place : Place} : d.located p = .ok place ↔
    '\x00' ∉ p.text.toList ∧ d.find p = .ok place := by
  rw [located]
  by_cases h : '\x00' ∈ p.text.toList
  · simp [h]
  · rw [if_neg (by simpa using h), mapError_eq_ok_iff, and_iff_right h]

theorem located_eq_place {place : Place} (h : d.located p = .ok place) : place = p.place := by
  rw [located_eq_ok_iff] at h
  exact find_eq_place h.2

theorem located_mono (hd : ∀ q, d.item? q = some .folder → d'.item? q = some .folder)
    {place : Place} (h : d.located p = .ok place) : d'.located p = .ok place := by
  rw [located_eq_ok_iff] at h ⊢
  exact ⟨h.1, find_mono hd h.2⟩

/-- Where the path beside a path leads somewhere, so does the path, if it ends with no step up. -/
theorem located_of_temporary (hp : p.parts ≠ []) (hup : p.name ≠ "..") {place : Place}
    (h : d.located p.temporary = .ok place) : d.located p = .ok p.place := by
  rw [located_eq_ok_iff] at h ⊢
  obtain ⟨hnull, hfind⟩ := h
  rw [Path.text_temporary hp, String.toList_append, List.mem_append, not_or] at hnull
  have found : ∃ place', d.find p = .ok place' := by
    rw [find] at hfind ⊢
    split at hfind
    · cases hfind
    · next hsize =>
      rw [Path.text_temporary hp, String.utf8ByteSize_append] at hsize
      rw [if_neg (by omega), Path.parts_eq hp]
      refine follow_shorter hup (append_tmp_ne p.name) ?_ hfind
      rw [String.utf8ByteSize_append]
      omega
  obtain ⟨place', hplace⟩ := found
  exact ⟨hnull.1, find_eq_place hplace ▸ hplace⟩

/-- What follows a path follows its place. -/
theorem locate_bind {α : Type} (p : Path) (f : Place → Step α) (d : Disk) :
    (locate p >>= f) d = match d.located p with
      | .ok _ => f p.place d
      | .error e => (.error e, d) := by
  rw [run_bind, run_locate]
  rcases hl : d.located p with e | place
  · rfl
  · rw [located_eq_place hl]

theorem run_look_of_located {place : Place} (h : d.located p = .ok place) :
    look? p d = (.ok (d.item? place), d) := by
  rw [located_eq_ok_iff] at h
  obtain ⟨hnull, hfind⟩ := h
  rw [look?, if_neg (by simpa using hnull), bind_of_ok (run_get d)]
  simp only [hfind]
  rfl

theorem snd_look (p : Path) (d : Disk) : (look? p d).2 = d := by
  rw [look?]
  split
  · rfl
  · rw [bind_of_ok (run_get d)]
    rcases d.find p with why | place
    · cases why <;> rfl
    · rfl

/-! ### Single operations -/

theorem createFolder_cases (p : Path) (d : Disk) :
    (createFolder p d).2 = d ∨
      d.item? p.place = none ∧ (createFolder p d).2 = d.put p.place .folder := by
  rw [createFolder, locate_bind]
  rcases d.located p with e | place
  · exact .inl rfl
  · dsimp only
    rw [bind_of_ok (run_get d)]
    rcases hi : d.item? p.place with _ | i
    · exact .inr ⟨rfl, rfl⟩
    · exact .inl rfl

/-- From one disk to another, bytes were written to the file at a path, which has an identity of its
own: a file that was there keeps its identity. -/
structure Written (p : Path) (bytes : List UInt8) (id : Nat) (d d' : Disk) : Prop where
  located : d.located p = .ok p.place
  origin : (∃ old, d.item? p.place = some (.file id old)) ∨
    d.item? p.place = none ∧ id = d.nextId ∧ id < d'.nextId
  item? : ∀ q, d'.item? q = if q = p.place then some (.file id bytes) else d.item? q
  nextId : d.nextId ≤ d'.nextId

/-- What writing a file does, with what comes of it. -/
inductive Writes (p : Path) (bytes : List UInt8) (d : Disk) : Except Fault Unit × Disk → Prop
  /-- The path leads nowhere, or to a folder. -/
  | refused {e : Fault} (h : ∀ place, d.located p = .ok place → d.item? place = some .folder) :
    Writes p bytes d (.error e, d)
  | written {id : Nat} {d' : Disk} (h : Written p bytes id d d') : Writes p bytes d (.ok (), d')

theorem writes_writeBytes (p : Path) (bytes : List UInt8) (d : Disk) :
    Writes p bytes d (writeBytes p bytes d) := by
  rw [writeBytes, locate_bind]
  rcases hl : d.located p with e | place
  · exact .refused (by simp [hl])
  · obtain rfl := located_eq_place hl
    dsimp only
    rw [bind_of_ok (run_get d)]
    by_cases hi : d.item? p.place = some .folder
    · rw [hi]
      exact .refused (by simp [hl, hi])
    have hput := item?_put (d := d) (isFixed_of_item?_ne hi)
    rcases hi' : d.item? p.place with _ | _ | ⟨id, old⟩
    · exact .written ⟨hl, .inr ⟨hi', rfl, Nat.lt_succ_self _⟩, fun q => hput q _, Nat.le_succ _⟩
    · exact absurd hi' hi
    · exact .written ⟨hl, .inl ⟨old, hi'⟩, fun q => hput q _, Nat.le_refl _⟩

/-- What moving a file does, with what comes of it. -/
inductive Moves (source target : Path) (d : Disk) : Except Fault Unit × Disk → Prop
  /-- There is nothing to be moved, or it cannot come to stand at the path. -/
  | refused {e : Fault}
      (h : ∀ i, d.located source = .ok source.place → d.item? source.place = some i →
        d.located target = .ok target.place →
          target.name = ".." ∨ d.item? target.place = some .folder) :
    Moves source target d (.error e, d)
  /-- The path leads to where the file is. -/
  | stays (hs : d.located source = .ok source.place) (hp : source.place = target.place) :
    Moves source target d (.ok (), d)
  /-- The file comes to stand in the place of what was there, which is no folder. -/
  | moved {i : Item} (hs : d.item? source.place = some i) (hp : source.place ≠ target.place)
      (ht : d.item? target.place ≠ some .folder) :
    Moves source target d (.ok (), (d.put target.place i).drop source.place)

theorem moves_move (source target : Path) (d : Disk) :
    Moves source target d (move source target d) := by
  rw [move, locate_bind]
  rcases hs : d.located source with e | place
  · exact .refused (by simp [hs])
  obtain rfl := located_eq_place hs
  dsimp only
  rw [locate_bind]
  rcases ht : d.located target with e | place
  · exact .refused (by simp [ht])
  dsimp only
  split
  · next hup => exact .refused fun _ _ _ _ => .inl (by simpa using hup)
  · rw [bind_of_ok (run_get d), bind_of_ok (run_get d)]
    by_cases hf : d.item? target.place = some .folder
    · rw [hf]
      exact .refused fun _ _ _ _ => .inr hf
    rcases hi : d.item? source.place with _ | i
    · have nothing : ∀ i, d.located source = .ok source.place → d.item? source.place = some i →
          d.located target = .ok target.place →
            target.name = ".." ∨ d.item? target.place = some .folder := by simp [hi]
      rcases hi' : d.item? target.place with _ | _ | ⟨id, old⟩
      · exact .refused nothing
      · exact absurd hi' hf
      · exact .refused nothing
    rcases hi' : d.item? target.place with _ | _ | ⟨id, old⟩
    case some.folder => exact absurd hi' hf
    all_goals
      by_cases hp : source.place = target.place
      · dsimp only
        rw [if_neg (by simpa using hp)]
        exact .stays hs hp
      · dsimp only
        rw [if_pos (by simpa using hp)]
        exact .moved hi hp hf

/-- What taking a file away does, with what comes of it. -/
inductive Unlinks (p : Path) (d : Disk) : Except Fault Unit × Disk → Prop
  /-- There is no file at the path. -/
  | refused {e : Fault}
      (h : ∀ id bytes, d.located p = .ok p.place → d.item? p.place ≠ some (.file id bytes)) :
    Unlinks p d (.error e, d)
  | unlinked {id : Nat} {bytes : List UInt8} (hl : d.located p = .ok p.place)
      (hi : d.item? p.place = some (.file id bytes)) : Unlinks p d (.ok (), d.drop p.place)

theorem unlinks_unlink (p : Path) (d : Disk) : Unlinks p d (unlink p d) := by
  rw [unlink, locate_bind]
  rcases hl : d.located p with e | place
  · exact .refused (by simp [hl])
  · obtain rfl := located_eq_place hl
    dsimp only
    rw [bind_of_ok (run_get d)]
    rcases hi : d.item? p.place with _ | _ | ⟨id, bytes⟩
    · exact .refused (by simp [hi])
    · exact .refused (by simp [hi])
    · exact .unlinked hl hi

theorem openLog_cases (p : Path) (d : Disk) :
    (∃ e, openLog p d = (.error e, d)) ∨
      (∃ id bytes, d.item? p.place = some (.file id bytes) ∧ openLog p d = (.ok id, d)) ∨
      d.item? p.place = none ∧ openLog p d =
        (.ok d.nextId, { d.put p.place (.file d.nextId []) with nextId := d.nextId + 1 }) := by
  rw [openLog, locate_bind]
  rcases d.located p with e | place
  · exact .inl ⟨e, rfl⟩
  · dsimp only
    rw [bind_of_ok (run_get d)]
    rcases hi : d.item? p.place with _ | _ | ⟨id, bytes⟩
    · exact .inr (.inr ⟨rfl, rfl⟩)
    · exact .inl ⟨_, rfl⟩
    · exact .inr (.inl ⟨id, bytes, rfl, rfl⟩)

/-! ### Folders with all that is above them -/

/-- From one disk to another, folders were made on the way of a path where there was nothing, and
nothing else was done. -/
structure FoldersMade (p : Path) (d d' : Disk) : Prop where
  nextId : d'.nextId = d.nextId
  item? : ∀ q, d'.item? q = d.item? q ∨
    d.item? q = none ∧ d'.item? q = some .folder ∧ ∃ n, q = (p.upTo n).place

namespace FoldersMade

theorem refl (p : Path) (d : Disk) : FoldersMade p d d := ⟨rfl, fun _ => .inl rfl⟩

theorem trans {d₁ d₂ d₃ : Disk} (h₁ : FoldersMade p d₁ d₂) (h₂ : FoldersMade p d₂ d₃) :
    FoldersMade p d₁ d₃ := by
  refine ⟨h₂.nextId.trans h₁.nextId, fun q => ?_⟩
  rcases h₂.item? q with h | ⟨hnone, hfolder, hq⟩
  · rw [h]
    exact h₁.item? q
  · rcases h₁.item? q with h | ⟨-, hfolder', -⟩
    · exact .inr ⟨h ▸ hnone, hfolder, hq⟩
    · simp [hnone] at hfolder'

theorem parent (h : FoldersMade p.parent d d') : FoldersMade p d d' :=
  ⟨h.nextId, fun q => (h.item? q).imp_right fun ⟨hnone, hfolder, n, hq⟩ =>
    ⟨hnone, hfolder, _, hq.trans (congrArg Path.place (p.upTo_parent n))⟩⟩

/-- The files are the same. -/
theorem item?_eq_file_iff (h : FoldersMade p d d') {q : Place} {id : Nat} {bytes : List UInt8} :
    d'.item? q = some (.file id bytes) ↔ d.item? q = some (.file id bytes) := by
  rcases h.item? q with h | ⟨hnone, hfolder, -⟩
  · rw [h]
  · simp [hnone, hfolder]

/-- The folders stay. -/
theorem folder (h : FoldersMade p d d') {q : Place} (hq : d.item? q = some .folder) :
    d'.item? q = some .folder := by
  rcases h.item? q with he | ⟨hnone, -⟩
  · rw [he, hq]
  · simp [hnone] at hq

/-- What is new is a folder on the way. -/
theorem made (h : FoldersMade p d d') {q : Place} (hq : d.item? q = none)
    (hq' : d'.item? q ≠ none) : d'.item? q = some .folder ∧ ∃ n, q = (p.upTo n).place := by
  rcases h.item? q with he | ⟨-, hfolder⟩
  · exact absurd (he.trans hq) hq'
  · exact hfolder

end FoldersMade

theorem foldersMade_createFolder (p : Path) (d : Disk) :
    FoldersMade p d (createFolder p d).2 := by
  rcases createFolder_cases p d with h | ⟨hnone, h⟩ <;> rw [h]
  · exact .refl p d
  · have hfixed : isFixed p.place = false := isFixed_of_item?_ne (d := d) (by simp [hnone])
    refine ⟨rfl, fun q => ?_⟩
    rw [item?_put hfixed]
    split
    · next hq =>
      subst hq
      exact .inr ⟨hnone, rfl, p.parts.length, by rw [Path.upTo_length]⟩
    · exact .inl rfl

theorem run_observe {α : Type} (step : Step α) (d : Disk) :
    observe step d = (.ok (step d).1, (step d).2) := rfl

theorem snd_unlessFolder (p : Path) (e : Fault) (d : Disk) : (unlessFolder p e d).2 = d := by
  have hfolder : (isFolder p d).2 = d :=
    (snd_bind (fun _ _ => rfl) (look? p) d).trans (snd_look p d)
  cases e with
  | refused why path target =>
      refine (snd_bind (fun folder d => ?_) (isFolder p) d).trans hfolder
      cases folder <;> rfl
  | _ => rfl

theorem snd_ensureLast (p : Path) (d : Disk) : (ensureLast p d).2 = (createFolder p d).2 := by
  rw [ensureLast, bind_of_ok (run_observe _ d)]
  generalize (createFolder p d).2 = d'
  rcases (createFolder p d).1 with e | _
  · cases e with
    | refused why path target =>
        cases why
        case noEntry => rfl
        all_goals exact snd_unlessFolder p _ d'
    | _ => rfl
  · rfl

theorem foldersMade_ensureUp (p : Path) (depth : Nat) (d : Disk) :
    FoldersMade p d (ensureUp p depth d).2 := by
  induction depth generalizing p d with
  | zero =>
      rw [ensureUp, snd_ensureLast]
      exact foldersMade_createFolder p d
  | succ depth ih =>
      have first := foldersMade_createFolder p d
      rw [ensureUp, bind_of_ok (run_observe _ d)]
      generalize (createFolder p d).2 = d' at first
      rcases (createFolder p d).1 with e | _
      · cases e with
        | refused why path target =>
            cases why
            -- only where there is no way to the folder are the folders above it made
            case noEntry =>
              dsimp only
              split
              · exact first
              · have above := (ih p.parent d').parent
                rcases hup : ensureUp p.parent depth d' with ⟨e | _, d''⟩ <;> rw [hup] at above
                · rw [bind_of_error hup]
                  exact first.trans above
                · rw [bind_of_ok hup, snd_ensureLast]
                  exact (first.trans above).trans (foldersMade_createFolder p d'')
            all_goals
              dsimp only
              rw [snd_unlessFolder]
              exact first
        | _ => exact first
      · exact first

/-- Making a folder with all folders above it makes these folders, as far as there is nothing. -/
theorem foldersMade_ensureFolder (p : Path) (d : Disk) : FoldersMade p d (ensureFolder p d).2 :=
  foldersMade_ensureUp p _ d

end Postprocessor.Disk
