import Postprocessor.Proofs.Disk.Storing

/-!
# Proofs — which file stands where

A file that is added to is known by its identity, so it has to be known where it stands: a file that
is stored carries the file beside it along, and ends the one in its place.

* `StandsAt`: a file stands at a place at most; `Stores.standsAt_failed`, `Stores.standsAt_stored`:
  where it stands after a file was stored.
* `bytes?_append`, `StandsAt.append`: adding to a file changes no other.
* `IsSound`: every file has an identity of its own; `isSound_empty`, `IsSound.writeBytes`,
  `IsSound.append`.
* `content`: the bytes at a place, none if no file is there; `IsSound.content_append`: what adding
  to a file adds to them.
-/

namespace Postprocessor.Disk
open Step

variable {p : Path} {bytes : List UInt8} {d d' : Disk} {id : Nat} {place : Option Place} {q : Place}

theorem bytes?_eq_some_iff : d.bytes? q = some bytes ↔ ∃ id, d.item? q = some (.file id bytes) := by
  rw [bytes?]
  rcases d.item? q with _ | _ | ⟨id, bytes⟩ <;> simp [eq_comm]

theorem bytes?_congr (h : d'.item? q = d.item? q) : d'.bytes? q = d.bytes? q := by
  rw [bytes?, bytes?, h]

theorem FoldersMade.bytes?_eq (h : FoldersMade p d d') (q : Place) : d'.bytes? q = d.bytes? q := by
  ext bytes
  simp only [bytes?_eq_some_iff, h.item?_eq_file_iff]

/-! ### Files by their identity -/

/-- The file with an identity stands at a place, or nowhere. -/
def StandsAt (d : Disk) (id : Nat) (place : Option Place) : Prop :=
  ∀ q bytes, d.item? q = some (.file id bytes) → some q = place

/-- Where a file stands after another one was stored at a path, by where it stood before.  The file
beside the path becomes the one at the path, and what was there is gone. -/
def movedBy (p : Path) (place : Option Place) : Option Place :=
  if place = some p.temporary.place then some p.place
  else if place = some p.place then none
  else place

theorem StandsAt.foldersMade (h : d.StandsAt id place) (hf : FoldersMade p d d') :
    d'.StandsAt id place := fun q bytes hq => h q bytes (hf.item?_eq_file_iff.mp hq)

theorem Stores.standsAt_failed {e : Fault} (hs : Stores p bytes d (.error e, d'))
    (h : d.StandsAt id place) : d'.StandsAt id place := by
  cases hs with
  | failed hf hi _ =>
  intro q bytes hq
  rcases hi q with he | ⟨-, hnone, -⟩
  · exact h.foldersMade hf q bytes (he ▸ hq)
  · simp [hnone] at hq

/-- A file that was made before is not the one that is stored, unless it stands beside the path. -/
theorem Stores.standsAt_stored (hs : Stores p bytes d (.ok (), d')) (hid : id < d.nextId)
    (h : d.StandsAt id place) : d'.StandsAt id (movedBy p place) := by
  cases hs with
  | stored hf hsource ht hi _ =>
  have h := h.foldersMade hf
  intro q bytes' hq
  rw [hi] at hq
  split at hq
  · cases hq
  next hbeside =>
  split at hq
  · next hp =>
    subst hp
    cases hq
    -- the file at the path is the one that stood beside it
    rcases hsource with ⟨old, hold⟩ | ⟨-, hnew, -⟩
    · rw [movedBy, if_pos (h _ _ hold).symm]
    · rw [hf.nextId] at hnew
      omega
  · next hp =>
    have hplace := h q bytes' hq
    subst hplace
    rw [movedBy, if_neg (by simpa using hbeside), if_neg (by simpa using hp)]

/-! ### Adding to a file -/

theorem item?_append (d : Disk) (id : Nat) (more : List UInt8) (q : Place) :
    (d.append id more).item? q = match d.item? q with
      | some (.file i bytes) => some (.file i (if i == id then bytes ++ more else bytes))
      | i => i := by
  rw [item?, item?]
  split
  · rfl
  simp only [append]
  induction d.items with
  | nil => rfl
  | cons e items ih =>
      rw [List.map_cons, List.lookup_cons, List.lookup_cons]
      cases q == e.1 with
      | true => cases e.2 <;> rfl
      | false => exact ih

theorem StandsAt.append (h : d.StandsAt id place) (other : Nat) (more : List UInt8) :
    (d.append other more).StandsAt id place := by
  intro q bytes hq
  rw [item?_append] at hq
  rcases hi : d.item? q with _ | _ | ⟨i, old⟩ <;> rw [hi] at hq <;> cases hq
  exact h q old hi

/-- A file that does not stand at a place is added to without a change there. -/
theorem StandsAt.bytes?_append (h : d.StandsAt id place) (hq : some q ≠ place)
    (more : List UInt8) : (d.append id more).bytes? q = d.bytes? q := by
  refine bytes?_congr ?_
  rw [item?_append]
  rcases hi : d.item? q with _ | _ | ⟨i, old⟩
  · rfl
  · rfl
  · have hne : i ≠ id := by
      rintro rfl
      exact hq (h q old hi)
    simp [hne]

/-! ### Sound disks -/

/-- Every file has an identity of its own, and the next one is new. -/
structure IsSound (d : Disk) : Prop where
  lt_nextId : ∀ {q id bytes}, d.item? q = some (.file id bytes) → id < d.nextId
  place_eq : ∀ {q q' id bytes bytes'}, d.item? q = some (.file id bytes) →
    d.item? q' = some (.file id bytes') → q = q'

theorem isSound_empty : empty.IsSound where
  lt_nextId h := by simp [item?, empty] at h
  place_eq h := by simp [item?, empty] at h

theorem IsSound.standsAt (h : d.IsSound) (hi : d.item? q = some (.file id bytes)) :
    d.StandsAt id (some q) := fun _ _ hq => congrArg some (h.place_eq hq hi)

theorem IsSound.foldersMade (h : d.IsSound) (hf : FoldersMade p d d') : d'.IsSound where
  lt_nextId hq := hf.nextId ▸ h.lt_nextId (hf.item?_eq_file_iff.mp hq)
  place_eq hq hq' := h.place_eq (hf.item?_eq_file_iff.mp hq) (hf.item?_eq_file_iff.mp hq')

theorem IsSound.written (h : d.IsSound) (hw : Written p bytes id d d') : d'.IsSound := by
  -- the identity belonged to the file at the path, or to no file
  have hid : id < d'.nextId ∧ ∀ q bytes, d.item? q = some (.file id bytes) → q = p.place := by
    rcases hw.origin with ⟨old, hold⟩ | ⟨-, hnew, hlt⟩
    · exact ⟨Nat.lt_of_lt_of_le (h.lt_nextId hold) hw.nextId, fun _ _ hq => h.place_eq hq hold⟩
    · exact ⟨hlt, fun _ _ hq => absurd (h.lt_nextId hq) (by omega)⟩
  constructor
  · intro q id' bytes' hq
    rw [hw.item?] at hq
    split at hq
    · cases hq
      exact hid.1
    · exact Nat.lt_of_lt_of_le (h.lt_nextId hq) hw.nextId
  · intro q q' id' bytes₁ bytes₂ hq hq'
    rw [hw.item?] at hq hq'
    split at hq <;> split at hq'
    · next hp hp' => rw [hp, hp']
    · next hp _ =>
      cases hq
      rw [hp, hid.2 _ _ hq']
    · next _ hp =>
      cases hq'
      rw [hp, hid.2 _ _ hq]
    · exact h.place_eq hq hq'

/-- A disk on which a file is written stays sound. -/
theorem IsSound.writeBytes (h : d.IsSound) (p : Path) (bytes : List UInt8) :
    (Disk.writeBytes p bytes d).2.IsSound := by
  have hw := writes_writeBytes p bytes d
  generalize Disk.writeBytes p bytes d = r at hw
  cases hw with
  | refused => exact h
  | written hw => exact h.written hw

/-! ### Adding to a file of a sound disk -/

/-- Adding to a file leaves the files where they are. -/
theorem exists_item?_append_iff {i : Nat} {more : List UInt8} :
    (∃ new, (d.append id more).item? q = some (.file i new)) ↔
      ∃ old, d.item? q = some (.file i old) := by
  rw [item?_append]
  rcases d.item? q with _ | _ | ⟨j, old⟩ <;> simp

theorem IsSound.append (h : d.IsSound) (id : Nat) (more : List UInt8) :
    (d.append id more).IsSound where
  lt_nextId hq :=
    have ⟨_, hold⟩ := exists_item?_append_iff.mp ⟨_, hq⟩
    h.lt_nextId hold
  place_eq hq hq' :=
    have ⟨_, hold⟩ := exists_item?_append_iff.mp ⟨_, hq⟩
    have ⟨_, hold'⟩ := exists_item?_append_iff.mp ⟨_, hq'⟩
    h.place_eq hold hold'

/-- What is added to a file comes after what is there. -/
theorem item?_append_of_file (h : d.item? q = some (.file id bytes)) (more : List UInt8) :
    (d.append id more).item? q = some (.file id (bytes ++ more)) := by
  rw [item?_append, h]
  simp

/-- The bytes of the file at a place; none if there is no file. -/
def content (d : Disk) (q : Place) : List UInt8 := (d.bytes? q).getD []

/-- **Adding to a file** adds to the bytes at its place, and nowhere else. -/
theorem IsSound.content_append (h : d.IsSound) {p : Place} (hp : d.item? p = some (.file id bytes))
    (more : List UInt8) (q : Place) :
    (d.append id more).content q = d.content q ++ if p = q then more else [] := by
  split
  · next same =>
    subst same
    rw [content, content, bytes?, bytes?, item?_append_of_file hp, hp]
    rfl
  · next other =>
    have apart : some q ≠ some p := fun same => other (Option.some.inj same).symm
    rw [content, (h.standsAt hp).bytes?_append apart, content, List.append_nil]

end Postprocessor.Disk
