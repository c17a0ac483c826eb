import Postprocessor.Disk.Basic
import Postprocessor.Proofs.Running

/-!
# Proofs — places

There are no links on a disk, so the place that a path leads to can be read off the path, and the
disk decides only whether the path leads there.

* `Path.place`: that place; `find_eq_place`: a path leads nowhere else.
* `Path.temporary`: the path beside a path; `temporary_place_ne`: it leads to another place;
  `text_temporary`: it is written as the path with an ending.
* `follow_cons_eq_ok_iff`: what the first of some names leads to.
* `find_mono`: where there are more folders, a path still leads there.
* `follow_shorter`: where names lead somewhere, so they do with a shorter last name.
-/

namespace Postprocessor

/-! ### Places of paths -/

/-- The place to which a name leads from a folder. -/
def Disk.goTo (place : Place) (name : String) : Place :=
  if name == ".." then above place else place ++ [name]

/-- The place that a path leads to, if it leads anywhere. -/
def Path.place (p : Path) : Place := p.parts.foldl Disk.goTo (if p.root == "" then [] else ["/"])

/-- The path to the folder in which the first names of a path end. -/
def Path.upTo (p : Path) (n : Nat) : Path := { p with parts := p.parts.take n }

/-- The path at which the file for a path is written first. -/
def Path.temporary (p : Path) : Path := p.withName (p.name ++ ".tmp")

theorem Path.upTo_length (p : Path) : p.upTo p.parts.length = p := by
  simp [upTo]

theorem Path.upTo_parent (p : Path) (n : Nat) :
    p.parent.upTo n = p.upTo (min n (p.parts.length - 1)) := by
  simp [upTo, parent, List.dropLast_eq_take, List.take_take]

theorem Path.place_withName (p : Path) (name : String) :
    (p.withName name).place = Disk.goTo p.parent.place name := by
  simp [place, withName, parent]

theorem Path.withName_name {p : Path} (h : p.parts ≠ []) : p.withName p.name = p := by
  have hname : p.name = p.parts.getLast h := by
    simp [name, List.getLastD_eq_getLast?, List.getLast?_eq_some_getLast h]
  rw [withName, hname, List.dropLast_concat_getLast h]

theorem Path.parts_ne_nil {p : Path} (h : p.name ≠ "") : p.parts ≠ [] := by
  intro hp
  simp [name, hp] at h

theorem Path.parts_eq {p : Path} (h : p.parts ≠ []) : p.parts = p.parts.dropLast ++ [p.name] :=
  (congrArg parts (withName_name h)).symm

/-- What the last text ends with the joined text ends with. -/
theorem intercalate_ending (between name ending : String) (names : List String) :
    between.intercalate (names ++ [name ++ ending]) =
      between.intercalate (names ++ [name]) ++ ending := by
  induction names with
  | nil => simp
  | cons first names ih =>
      cases names with
      | nil => simp [String.append_assoc]
      | cons second names =>
          simp only [List.cons_append, String.intercalate_cons_cons] at ih ⊢
          rw [ih]
          simp only [String.append_assoc]

/-- The path beside a path is written as the path with an ending. -/
theorem Path.text_temporary {p : Path} (h : p.parts ≠ []) :
    p.temporary.text = p.text ++ ".tmp" := by
  have written (q : Path) (hq : q.parts ≠ []) : q.text = q.root ++ "/".intercalate q.parts := by
    rw [text, if_neg]
    simp [hq]
  rw [written p h, written p.temporary (by simp [temporary, withName]), parts_eq h]
  change p.root ++ "/".intercalate (p.parts.dropLast ++ [p.name ++ ".tmp"]) = _
  rw [intercalate_ending, String.append_assoc]

namespace Disk

/-- A step up from a folder does not lead to a name in it. -/
theorem above_ne_append (place : Place) {name : String} (h : name ≠ "..") :
    above place ≠ place ++ [name] := by
  intro he
  unfold above at he
  split at he
  · simp at he
  · split at he
    · simp_all
    · simp [Ne.symm h] at he
    · have := congrArg List.length he
      simp at this

theorem append_tmp_ne (name : String) : name ++ ".tmp" ≠ ".." := by
  intro h
  have hlength : name.length + ".tmp".length = "..".length := by
    rw [← String.length_append, h]
  simp only [show ".tmp".length = 4 from rfl, show "..".length = 2 from rfl] at hlength
  omega

end Disk

/-- The file that is written first does not stand in the place of the file it is for. -/
theorem Path.temporary_place_ne (p : Path) : p.temporary.place ≠ p.place := by
  rw [temporary, place_withName, Disk.goTo, if_neg (by simpa using Disk.append_tmp_ne p.name)]
  -- a path of no names is its own parent, so the file stands one step down from it
  by_cases hp : p.parts = []
  · have hparent : p.parent = p := by
      obtain ⟨root, parts⟩ := p
      subst hp
      rfl
    rw [hparent]
    simp
  · have hplace : p.place = Disk.goTo p.parent.place p.name := by
      rw [← place_withName, withName_name hp]
    rw [hplace, Disk.goTo]
    split
    · exact (Disk.above_ne_append _ (Disk.append_tmp_ne p.name)).symm
    · intro he
      have := congrArg String.length (List.cons.inj (List.append_cancel_left he)).1
      simp at this

namespace Disk

/-! ### Where paths lead -/

/-- Names lead up, or one step down to the last of them, or down into a folder. -/
theorem follow_cons_eq_ok_iff {d : Disk} {name : String} {rest : List String}
    {place place' : Place} :
    d.follow place (name :: rest) = .ok place' ↔
      name = ".." ∧ d.follow (above place) rest = .ok place' ∨
        name ≠ ".." ∧ name.utf8ByteSize ≤ nameLimit ∧
          (rest = [] ∧ place' = place ++ [name] ∨
            rest ≠ [] ∧ d.item? (place ++ [name]) = some .folder ∧
              d.follow (place ++ [name]) rest = .ok place') := by
  rw [follow]
  by_cases up : name = ".."
  · rw [if_pos (by simpa using up)]
    simp [up]
  rw [if_neg (by simpa using up)]
  by_cases short : name.utf8ByteSize ≤ nameLimit
  · rw [if_neg (Nat.not_lt.mpr short)]
    cases rest with
    | nil => simp [up, short, eq_comm]
    | cons next rest =>
        simp only
        split
        · next folder => simp [up, short, folder]
        · next file => simp [up, file]
        · next none => simp [up, none]
  · rw [if_pos (Nat.not_le.mp short)]
    simp [up, short]

theorem follow_eq_foldl {d : Disk} {place place' : Place} {names : List String}
    (h : d.follow place names = .ok place') : place' = names.foldl goTo place := by
  induction names generalizing place with
  | nil => exact (Except.ok.inj h).symm
  | cons name rest ih =>
      rw [List.foldl_cons, goTo]
      rw [follow_cons_eq_ok_iff] at h
      rcases h with ⟨up, h⟩ | ⟨up, -, ⟨rfl, last⟩ | ⟨-, -, h⟩⟩
      · rw [if_pos (by simpa using up)]
        exact ih h
      · rw [if_neg (by simpa using up)]
        exact last
      · rw [if_neg (by simpa using up)]
        exact ih h

/-- A path leads to its place, or nowhere. -/
theorem find_eq_place {d : Disk} {p : Path} {place : Place} (h : d.find p = .ok place) :
    place = p.place := by
  rw [find] at h
  split at h
  · cases h
  · exact follow_eq_foldl h

theorem follow_mono {d d' : Disk} (hd : ∀ q, d.item? q = some .folder → d'.item? q = some .folder)
    {place place' : Place} {names : List String} (h : d.follow place names = .ok place') :
    d'.follow place names = .ok place' := by
  induction names generalizing place with
  | nil => exact h
  | cons name rest ih =>
      rw [follow_cons_eq_ok_iff] at h ⊢
      rcases h with ⟨up, h⟩ | ⟨up, short, last | ⟨more, folder, h⟩⟩
      · exact .inl ⟨up, ih h⟩
      · exact .inr ⟨up, short, .inl last⟩
      · exact .inr ⟨up, short, .inr ⟨more, hd _ folder, ih h⟩⟩

/-- Where there are more folders, a path still leads to its place. -/
theorem find_mono {d d' : Disk} (hd : ∀ q, d.item? q = some .folder → d'.item? q = some .folder)
    {p : Path} {place : Place} (h : d.find p = .ok place) : d'.find p = .ok place := by
  rw [find] at h ⊢
  split at h
  · cases h
  · next hshort =>
    rw [if_neg hshort]
    exact follow_mono hd h

/-- Where names lead somewhere, so they do with a shorter last name, if that is no step up. -/
theorem follow_shorter {d : Disk} {name name' : String} (hn : name ≠ "..") (hn' : name' ≠ "..")
    (hsize : name.utf8ByteSize ≤ name'.utf8ByteSize) {names : List String} {place place' : Place}
    (h : d.follow place (names ++ [name']) = .ok place') :
    ∃ place'', d.follow place (names ++ [name]) = .ok place'' := by
  induction names generalizing place with
  | nil =>
      rw [List.nil_append, follow_cons_eq_ok_iff] at h
      rcases h with ⟨up, -⟩ | ⟨-, short, -⟩
      · exact absurd up hn'
      · refine ⟨place ++ [name], ?_⟩
        rw [List.nil_append, follow_cons_eq_ok_iff]
        exact .inr ⟨hn, Nat.le_trans hsize short, .inl ⟨rfl, rfl⟩⟩
  | cons first names ih =>
      rw [List.cons_append, follow_cons_eq_ok_iff] at h
      simp only [List.cons_append, follow_cons_eq_ok_iff]
      rcases h with ⟨up, h⟩ | ⟨up, short, ⟨none, -⟩ | ⟨-, folder, h⟩⟩
      · obtain ⟨place'', h⟩ := ih h
        exact ⟨place'', .inl ⟨up, h⟩⟩
      · exact absurd none (by simp)
      · -- a name follows in both cases, so the first one has to be that of a folder
        obtain ⟨place'', h⟩ := ih h
        exact ⟨place'', .inr ⟨up, short, .inr ⟨by simp, folder, h⟩⟩⟩

end Disk

end Postprocessor
