import Postprocessor.Proofs.Session

/-!
# Proofs — places that a session leaves alone

Records are added to the files for the log while a run goes on, and files that are stored may carry
such a file along.  A place stays as it is as long as no file for the log comes to stand there.

* `Session.Keeps`: what stands at a place, while the files for the log stand elsewhere.
* `Keeps.report`: reports leave the place alone.
* `Keeps.foldersMade`, `Keeps.failed`, `Keeps.stored`: so do folders that are made, and files that
  are stored at other places.
* `keeps_setUp`: the place after logging was set up.
-/

namespace Postprocessor
open Step

/-- Records are written to the console, or to the targets of the handlers. -/
theorem Log.target_of_mem_deliveries {l : Log} {time : Log.Moment} {r : Log.Record}
    {t : Log.Target × String} (ht : t ∈ l.deliveries time r) :
    t.1 = .console ∨ ∃ h ∈ l.handlers, h.target = t.1 := by
  rw [deliveries] at ht
  split at ht
  · cases ht
  split at ht
  · rw [lastResort] at ht
    split at ht
    · cases ht
    split at ht
    · obtain rfl := List.mem_singleton.mp ht
      exact .inl rfl
    · cases ht
  · obtain ⟨h, hh, hd⟩ := List.mem_filterMap.mp ht
    rw [Handler.delivery?] at hd
    split at hd
    · cases hd
      exact .inr ⟨h, hh, rfl⟩
    · cases hd

namespace Session

/-- Certain bytes stand at a place, a certain text was printed, and the files for the log stand at
another place, if anywhere. -/
structure Keeps (P : Place) (B : Option (List UInt8)) (O : String) (L : Option Place)
    (s : Session) : Prop where
  bytes : s.disk.bytes? P = B
  output : s.output = O
  apart : some P ≠ L
  logs : ∀ h ∈ s.log.handlers, ∀ id, h.target = .file id →
    id < s.disk.nextId ∧ s.disk.StandsAt id L

namespace Keeps

variable {P : Place} {B : Option (List UInt8)} {O : String} {L : Option Place} {s : Session}
  {p : Path} {bytes : List UInt8} {d : Disk}

theorem deliver (h : Keeps P B O L s) {t : Log.Target × String}
    (ht : t.1 = .console ∨ ∃ h ∈ s.log.handlers, h.target = t.1) : Keeps P B O L (s.deliver t) := by
  obtain ⟨_ | id, line⟩ := t
  · exact ⟨h.bytes, h.output, h.apart, h.logs⟩
  · obtain ⟨g, hg, htarget⟩ := ht.resolve_left (by simp)
    have hid := h.logs g hg id htarget
    exact ⟨(hid.2.bytes?_append h.apart _).trans h.bytes, h.output, h.apart,
      fun g' hg' id' ht' => ⟨(h.logs g' hg' id' ht').1, (h.logs g' hg' id' ht').2.append id _⟩⟩

/-- Reports leave the place alone. -/
theorem report {ε : Type} (h : Keeps P B O L s) (r : Log.Record) :
    Keeps P B O L ((Session.report r : Session.Step ε Unit) s).2 := by
  change Keeps P B O L ((s.log.deliveries s.time r).foldl Session.deliver s)
  have hts : ∀ t ∈ s.log.deliveries s.time r,
      t.1 = .console ∨ ∃ h ∈ s.log.handlers, h.target = t.1 := fun t => Log.target_of_mem_deliveries
  -- a delivery changes no handler, so the rest still goes to the targets of the handlers
  generalize s.log.deliveries s.time r = ts at hts
  induction ts generalizing s with
  | nil => exact h
  | cons t ts ih =>
      obtain ⟨ht, hts⟩ := List.forall_mem_cons.mp hts
      refine ih (h.deliver ht) ?_
      have hlog : (s.deliver t).log = s.log := by
        obtain ⟨_ | _, _⟩ := t <;> rfl
      rwa [hlog]

theorem foldersMade (h : Keeps P B O L s) (hf : Disk.FoldersMade p s.disk d) :
    Keeps P B O L { s with disk := d } where
  bytes := (hf.bytes?_eq P).trans h.bytes
  output := h.output
  apart := h.apart
  logs g hg id hid :=
    ⟨hf.nextId ▸ (h.logs g hg id hid).1, (h.logs g hg id hid).2.foldersMade hf⟩

/-- A file that is not stored leaves the place alone. -/
theorem failed (h : Keeps P B O L s) {e : Disk.Fault}
    (hs : Disk.Stores p bytes s.disk (.error e, d)) (hp : p.temporary.place ≠ P) :
    Keeps P B O L { s with disk := d } where
  bytes := by
    cases hs with
    | failed hf hi _ =>
    rcases hi P with he | ⟨hP, -⟩
    · exact (Disk.bytes?_congr he).trans ((hf.bytes?_eq P).trans h.bytes)
    · exact absurd hP.symm hp
  output := h.output
  apart := h.apart
  logs g hg id hid := by
    refine ⟨?_, hs.standsAt_failed (h.logs g hg id hid).2⟩
    cases hs with
    | failed hf _ hn => exact Nat.lt_of_lt_of_le (hf.nextId ▸ (h.logs g hg id hid).1) hn

/-- A file that is stored leaves the place alone, unless it is the place of the file.  The log may
be carried along, but not to the place. -/
theorem stored (h : Keeps P B O L s) (hs : Disk.Stores p bytes s.disk (.ok (), d))
    (hp : p.temporary.place ≠ P) (hL : p.place = P → L ≠ some p.temporary.place) :
    Keeps P (if p.place = P then some bytes else B) O (Disk.movedBy p L) { s with disk := d } where
  bytes := by
    cases hs with
    | stored hf _ _ hi _ =>
    split
    · next hP =>
      rw [Disk.bytes?, hi, if_neg (Ne.symm hp), if_pos hP.symm]
    · next hP =>
      refine (Disk.bytes?_congr ?_).trans ((hf.bytes?_eq P).trans h.bytes)
      rw [hi, if_neg (Ne.symm hp), if_neg (Ne.symm hP)]
  output := h.output
  apart := by
    rw [Disk.movedBy]
    split
    · next hcarried => exact fun hP => hL (Option.some.inj hP).symm hcarried
    · split
      · exact Option.some_ne_none P
      · exact h.apart
  logs g hg id hid := by
    refine ⟨?_, hs.standsAt_stored (h.logs g hg id hid).1 (h.logs g hg id hid).2⟩
    cases hs with
    | stored hf _ _ _ hn => exact Nat.lt_of_lt_of_le (hf.nextId ▸ (h.logs g hg id hid).1) hn

end Keeps

/-! ### Setting logging up -/

/-- The path of the file to which records are added, if there is to be one. -/
def Setup.path? (u : Setup) : Option Path := (u.file.filter (· ≠ "")).map Path.ofText

theorem Setup.path?_of_named {u : Setup} {path : String} (hu : u.file = some path)
    (hne : path ≠ "") : u.path? = some (Path.ofText path) := by
  rw [Setup.path?, hu, Option.filter_some, if_pos (by simpa using hne)]
  rfl

theorem Setup.path?_of_unnamed {u : Setup} (hu : u.file = none ∨ u.file = some "") :
    u.path? = none := by
  rcases hu with hu | hu <;> rw [path?, hu] <;> rfl

variable {P : Place} {u : Setup} {s s' : Session}

/-- Setting logging up makes an empty file at most. -/
theorem bytes?_setUp {r : Except SetupFault Unit} (hr : setUp u s = (r, s')) (q : Place) :
    s'.disk.bytes? q = s.disk.bytes? q ∨
      u.path?.map Path.place = some q ∧ s.disk.bytes? q = none ∧ s'.disk.bytes? q = some [] := by
  have h := setsUp_setUp u s
  rw [hr] at h
  cases h with
  | unknown | unnamed => exact .inl rfl
  | opened _ hu hne ho | refused _ hu hne ho =>
      have hopens := opens_openFile ho
      rw [Setup.path?_of_named hu hne]
      exact (hopens.bytes?_cases q).imp_right fun ⟨hq, hnone, hempty⟩ =>
        ⟨congrArg some hq.symm, hnone, hempty⟩

/-- With logging set up, a place is kept at which the file for the log does not stand. -/
theorem keeps_setUp (hd : s.disk.IsSound)
    (hP : some P ≠ u.path?.map Path.place) (hr : setUp u s = (.ok (), s')) :
    Keeps P (s.disk.bytes? P) s.output (u.path?.map Path.place) s' := by
  have hbytes := (bytes?_setUp hr P).resolve_right fun hlog => hP hlog.1.symm
  have h := setsUp_setUp u s
  rw [hr] at h
  cases h with
  | unnamed =>
      refine ⟨hbytes, rfl, hP, fun g hg id hid => ?_⟩
      obtain rfl := List.mem_singleton.mp hg
      cases hid
  | @opened _ path id d _ hu hne ho =>
      have hopens := opens_openFile ho
      refine ⟨hbytes, rfl, hP, fun g hg id' hid => ?_⟩
      rw [Setup.path?_of_named hu hne]
      rcases List.mem_cons.mp hg with rfl | hg
      · cases hid
      · obtain rfl := List.mem_singleton.mp hg
        cases hid
        exact hopens.standsAt hd

end Session

end Postprocessor
