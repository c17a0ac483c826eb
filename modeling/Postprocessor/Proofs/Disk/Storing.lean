import Postprocessor.Disk.Store
import Postprocessor.Proofs.Disk.Operations

/-!
# Proofs — whole files

A file that is stored is written beside its place and moved there.

* `Stores`, `stores_store`: what storing a file does, if it fails and if it goes well.
-/

namespace Postprocessor.Disk
open Step

variable {p : Path} {bytes : List UInt8} {d d' : Disk}

/-- What storing a file does, with what comes of it. -/
inductive Stores (p : Path) (bytes : List UInt8) (d : Disk) : Except Fault Unit × Disk → Prop
  /-- Folders may have been made, and nothing is left of what was written beside the place.  A file
  that stood there before is gone only if no file can stand at the path. -/
  | failed {e : Fault} {d₁ d' : Disk} (hf : FoldersMade p.parent d d₁)
      (hi : ∀ q, d'.item? q = d₁.item? q ∨ q = p.temporary.place ∧ d'.item? q = none ∧
        d₁.item? q ≠ some .folder ∧ (p.name = ".." ∨ d₁.item? p.place = some .folder))
      (hn : d₁.nextId ≤ d'.nextId) : Stores p bytes d (.error e, d')
  /-- The file that was written beside the place stands there now. -/
  | stored {id : Nat} {d₁ d' : Disk} (hf : FoldersMade p.parent d d₁)
      (hid : (∃ old, d₁.item? p.temporary.place = some (.file id old)) ∨
        d₁.item? p.temporary.place = none ∧ id = d₁.nextId ∧ id < d'.nextId)
      (ht : d₁.item? p.place ≠ some .folder)
      (hi : ∀ q, d'.item? q = if q = p.temporary.place then none
        else if q = p.place then some (.file id bytes) else d₁.item? q)
      (hn : d₁.nextId ≤ d'.nextId) : Stores p bytes d (.ok (), d')

/-- What storing a file does after a failure.  At the end of it stands a failure. -/
def cleanUp (t : Path) (why : Fault) : Step Unit := do
  if ← exists? t then unlink t
  throw why

theorem snd_exists (p : Path) (d : Disk) : (exists? p d).2 = d :=
  (snd_bind (fun _ _ => rfl) (look? p) d).trans (snd_look p d)

theorem Written.not_folder {id : Nat} (h : Written p bytes id d d') :
    d.item? p.place ≠ some .folder := by
  rcases h.origin with ⟨old, ho⟩ | ⟨ho, -⟩ <;> simp [ho]

theorem Written.isFixed {id : Nat} (h : Written p bytes id d d') :
    Disk.isFixed p.place = false :=
  isFixed_of_item?_ne h.not_folder

/-- Where a file was written, its path leads to it. -/
theorem Written.located_after {id : Nat} (h : Written p bytes id d d') :
    d'.located p = .ok p.place := by
  refine located_mono (fun q hq => ?_) h.located
  have hne : q ≠ p.place := by
    rintro rfl
    exact h.not_folder hq
  rw [h.item?, if_neg hne, hq]

/-- Where a file was written, it is found and taken away. -/
theorem Written.unlink_eq {id : Nat} (h : Written p bytes id d d') :
    exists? p d' = (.ok true, d') ∧ unlink p d' = (.ok (), d'.drop p.place) := by
  have hi : d'.item? p.place = some (.file id bytes) := by simp [h.item?]
  constructor
  · rw [exists?, bind_of_ok (run_look_of_located h.located_after), hi]
    rfl
  · rw [unlink, locate_bind, h.located_after]
    dsimp only
    rw [bind_of_ok (run_get d'), hi]
    rfl

/-- Where no file could be written, there is none to be taken away. -/
theorem cleanUp_of_refused {t : Path}
    (h : ∀ place, d.located t = .ok place → d.item? place = some .folder) (why : Fault) :
    ∃ e, cleanUp t why d = (.error e, d) := by
  have hd := snd_exists t d
  rw [cleanUp]
  rcases he : exists? t d with ⟨e | _ | _, d₁⟩ <;> rw [he] at hd <;> obtain rfl := hd
  · exact ⟨_, bind_of_error he _⟩
  · exact ⟨_, bind_of_ok he _⟩
  · rw [bind_of_ok he]
    dsimp only
    rw [if_pos rfl]
    have hu := unlinks_unlink t d₁
    rcases hb : unlink t d₁ with ⟨e | _, d₂⟩ <;> rw [hb] at hu
    · cases hu
      exact ⟨_, bind_of_error hb _⟩
    · cases hu with
      | unlinked hl hi => simp [h _ hl] at hi

theorem Written.cleanUp_eq {id : Nat} (h : Written p bytes id d d') (why : Fault) :
    cleanUp p why d' = (.error why, d'.drop p.place) := by
  obtain ⟨hexists, hunlink⟩ := h.unlink_eq
  rw [cleanUp, bind_of_ok hexists]
  exact bind_of_ok hunlink _

/-- Writes a file beside its place and moves it there. -/
def replace (p : Path) (bytes : List UInt8) : Step Unit := do
  writeBytes p.temporary bytes
  move p.temporary p

theorem store_eq (p : Path) (bytes : List UInt8) (d : Disk) :
    store p bytes d = match ensureFolder p.parent d with
      | (.error e, d₁) => (.error e, d₁)
      | (.ok (), d₁) =>
        if p.name.isEmpty then (.error (.unnamed p.text), d₁)
        else match replace p bytes d₁ with
          | (.ok (), d₂) => (.ok (), d₂)
          | (.error e, d₂) => cleanUp p.temporary (.notWritten p.text e) d₂ := by
  rw [store]
  rcases he : ensureFolder p.parent d with ⟨e | _, d₁⟩
  · rw [bind_of_error he]
  rw [bind_of_ok he, beside]
  split
  · rfl
  · dsimp only
    rw [bind_of_ok (run_pure _ d₁)]
    change (observe (replace p bytes) >>= _) d₁ = _
    rw [bind_of_ok (run_observe _ d₁)]
    rcases replace p bytes d₁ with ⟨e | _, d₂⟩ <;> rfl

theorem stores_store (p : Path) (bytes : List UInt8) (d : Disk) :
    Stores p bytes d (store p bytes d) := by
  have hf := foldersMade_ensureFolder p.parent d
  rw [store_eq]
  rcases he : ensureFolder p.parent d with ⟨e | _, d₁⟩ <;> rw [he] at hf
  · exact .failed hf (fun _ => .inl rfl) (Nat.le_refl _)
  dsimp only
  split
  · exact .failed hf (fun _ => .inl rfl) (Nat.le_refl _)
  next hname =>
  rw [replace]
  have hw := writes_writeBytes p.temporary bytes d₁
  rcases hb : writeBytes p.temporary bytes d₁ with ⟨e | _, d₂⟩ <;> rw [hb] at hw
  · rw [bind_of_error hb]
    cases hw with
    | refused hr =>
    obtain ⟨e', hclean⟩ := cleanUp_of_refused hr (.notWritten p.text e)
    dsimp only
    rw [hclean]
    exact .failed hf (fun _ => .inl rfl) (Nat.le_refl _)
  · rw [bind_of_ok hb]
    cases hw with
    | written hw =>
    have hm := moves_move p.temporary p d₂
    rcases hb : move p.temporary p d₂ with ⟨e | _, d₃⟩ <;> rw [hb] at hm
    · cases hm with
      | refused hr =>
      -- the path leads somewhere, as the one beside it does, so it is a folder that is in the way
      have unfit : p.name = ".." ∨ d₁.item? p.place = some .folder := by
        by_cases hup : p.name = ".."
        · exact .inl hup
        have hl := located_of_temporary (Path.parts_ne_nil (by simpa using hname)) hup
          hw.located_after
        have hfolder := (hr _ hw.located_after ((hw.item? _).trans (if_pos rfl)) hl).resolve_left hup
        rw [hw.item?, if_neg p.temporary_place_ne.symm] at hfolder
        exact .inr hfolder
      -- what was written is found again, so that nothing of it is left
      dsimp only
      rw [hw.cleanUp_eq]
      refine .failed hf (fun q => ?_) hw.nextId
      rw [item?_drop hw.isFixed, hw.item?]
      split
      · next hq =>
        subst hq
        exact .inr ⟨rfl, rfl, hw.not_folder, unfit⟩
      · exact .inl rfl
    · cases hm with
      | stays _ hp => exact absurd hp p.temporary_place_ne
      | moved hs _ ht =>
        obtain rfl := Option.some.inj (hs.symm.trans ((hw.item? _).trans (if_pos rfl)))
        refine .stored hf hw.origin ?_ (fun q => ?_) hw.nextId
        · rwa [hw.item?, if_neg p.temporary_place_ne.symm] at ht
        · rw [item?_drop hw.isFixed, item?_put (isFixed_of_item?_ne ht), hw.item?]
          split <;> rfl

theorem run_lift {α : Type} (r : Except Fault α) (d : Disk) : (lift r : Step α) d = (r, d) := rfl

/-- What follows a result that depends on nothing. -/
theorem lift_bind {α β : Type} (r : Except Fault α) (f : α → Step β) (d : Disk) :
    (lift r >>= f) d = match r with
      | .ok a => f a d
      | .error e => (.error e, d) := by
  rw [run_bind, run_lift]
  cases r <;> rfl

/-- A value that cannot be written is not stored. -/
theorem stores_storeJson (p : Path) (v : Value) (d : Disk) :
    ∃ bytes, Stores p bytes d (storeJson p v d) := by
  rw [storeJson, lift_bind]
  rcases v.json .indented with e | text
  · exact ⟨[], .failed (.refl _ d) (fun _ => .inl rfl) (Nat.le_refl _)⟩
  · exact ⟨_, stores_store p _ d⟩

/-! ### Texts -/

theorem readBytes_cases (p : Path) (d : Disk) : (∃ e, readBytes p d = (.error e, d)) ∨
    ∃ bytes, d.bytes? p.place = some bytes ∧ readBytes p d = (.ok bytes, d) := by
  rw [readBytes, locate_bind]
  rcases d.located p with e | place
  · exact .inl ⟨e, rfl⟩
  · dsimp only
    rw [bind_of_ok (run_get d), bytes?]
    rcases hi : d.item? p.place with _ | _ | ⟨id, bytes⟩
    · exact .inl ⟨_, rfl⟩
    · exact .inl ⟨_, rfl⟩
    · exact .inr ⟨bytes, rfl, rfl⟩

/-- Reading a text changes nothing, and the text is what the bytes are read as. -/
theorem readText_cases (p : Path) (d : Disk) : (∃ e, readText p d = (.error e, d)) ∨
    ∃ bytes text, d.bytes? p.place = some bytes ∧ Text.Utf8.decode bytes = .ok text ∧
      readText p d = (.ok (Text.unifyBreaks text), d) := by
  rw [readText]
  rcases readBytes_cases p d with ⟨e, he⟩ | ⟨bytes, hb, hr⟩
  · exact .inl ⟨e, bind_of_error he _⟩
  · rw [bind_of_ok hr]
    rcases ht : Text.Utf8.decode bytes with why | text
    · exact .inl ⟨_, rfl⟩
    · exact .inr ⟨bytes, text, hb, ht, rfl⟩

end Postprocessor.Disk
