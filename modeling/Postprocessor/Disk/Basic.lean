import Postprocessor.Disk.Fault
import Postprocessor.Disk.Path
import Postprocessor.Fields

/-!
# Folders and files

* `Disk`: what stands under which names.  Every file has an identity of its own, which it keeps when
  it is moved.
* `Disk.Step`: steps on a disk that may fail; what was done before a failure stays done.
* `Disk.locate`: the place that a path leads to.
* `Disk.exists?`, `readBytes`, `createFolder`, `writeBytes`, `openLog`, `move`, `unlink`: the single
  operations, each with the refusals of its own.
* `Disk.ensureFolder`: makes a folder with all folders above it.
-/

namespace Postprocessor

/-- What stands under a name. -/
inductive Item where
  | folder
  | file (id : Nat) (bytes : List UInt8)
  deriving DecidableEq, Repr, Inhabited

/-- The names from the working folder to an item.  A place above the working folder begins with two
points for every step up, and a place that is counted from the root begins with a slash. -/
abbrev Place : Type := List String

/-- The working folder and everything in it, and what is known of the rest of the disk. -/
structure Disk where
  items : List (Place × Item)
  /-- The identity of the next new file. -/
  nextId : Nat
  deriving Repr, Inhabited

namespace Disk

/-- An empty working folder. -/
def empty : Disk := ⟨[], 0⟩

/-- The places that are folders on every disk: the working folder, those above it, and the root. -/
def isFixed (place : Place) : Bool := place == ["/"] || place.all (· == "..")

/-- What stands at a place. -/
def item? (d : Disk) (place : Place) : Option Item :=
  if isFixed place then some .folder else d.items.lookup place

/-- The bytes of the file at a place. -/
def bytes? (d : Disk) (place : Place) : Option (List UInt8) :=
  match d.item? place with
  | some (.file _ bytes) => some bytes
  | _ => none

/-- The disk with an item at a place. -/
def put (d : Disk) (place : Place) (i : Item) : Disk :=
  { d with items := Fields.put d.items place i }

/-- The disk without what stands at a place. -/
def drop (d : Disk) (place : Place) : Disk := { d with items := Fields.drop d.items place }

theorem item?_put {d : Disk} {place : Place} (h : isFixed place = false) (other : Place)
    (i : Item) :
    (d.put place i).item? other = if other = place then some i else d.item? other := by
  by_cases ho : other = place
  · subst ho
    simp [item?, put, h]
  · simp [item?, put, ho, Fields.lookup_put_of_ne ho]

/-! ### Steps -/

/-- A step on a disk. -/
abbrev Step (α : Type) : Type := ExceptT Fault (StateM Disk) α

/-- A result that depends on nothing, or a fault. -/
def lift {α : Type} (r : Except Fault α) : Step α := ExceptT.mk (pure r)

/-- The outcome of a step, which itself never fails. -/
def observe {α : Type} (step : Step α) : Step (Except Fault α) :=
  fun d =>
    let (r, d') := step d
    (.ok r, d')

/-! ### Places -/

/-- The most bytes of a name. -/
abbrev nameLimit : Nat := 255

/-- The most bytes of a path. -/
abbrev pathLimit : Nat := 4095

/-- The place of the folder that holds a place. -/
def above (place : Place) : Place :=
  if place == ["/"] then place
  else match place.getLast? with
    | none | some ".." => place ++ [".."]
    | some _ => place.dropLast

/-- The place that names lead to from a folder.  Every name but the last has to be that of a
folder. -/
def follow (d : Disk) (place : Place) : List String → Except Errno Place
  | [] => .ok place
  | name :: rest =>
    if name == ".." then follow d (above place) rest
    else if nameLimit < name.utf8ByteSize then .error .nameTooLong
    else
      let here := place ++ [name]
      match rest with
      | [] => .ok here
      | _ :: _ =>
        match d.item? here with
        | some .folder => follow d here rest
        | some (.file ..) => .error .notFolder
        | none => .error .noEntry

/-- The place that a path leads to. -/
def find (d : Disk) (p : Path) : Except Errno Place :=
  if pathLimit < p.text.utf8ByteSize then .error .nameTooLong
  else d.follow (if p.root == "" then [] else ["/"]) p.parts

/-- The place that a path leads to. -/
def locate (p : Path) : Step Place := do
  if p.text.toList.contains '\x00' then throw .nullCharacter
  match (← get).find p with
  | .ok place => return place
  | .error why => throw (.refused why p.text none)

/-- What a path leads to, if there is something. -/
def look? (p : Path) : Step (Option Item) := do
  if p.text.toList.contains '\x00' then return none
  let d ← get
  match d.find p with
  | .ok place => return d.item? place
  | .error .nameTooLong => throw (.refused .nameTooLong p.text none)
  | .error _ => return none

/-- Whether a path leads to anything. -/
def exists? (p : Path) : Step Bool := return (← look? p).isSome

/-- Whether a path leads to a folder. -/
def isFolder (p : Path) : Step Bool := return (← look? p) == some .folder

/-! ### Operations -/

/-- The bytes of a file. -/
def readBytes (p : Path) : Step (List UInt8) := do
  let place ← locate p
  match (← get).item? place with
  | some (.file _ bytes) => return bytes
  | some .folder => throw (.refused .isFolder p.text none)
  | none => throw (.refused .noEntry p.text none)

/-- Makes a folder. -/
def createFolder (p : Path) : Step Unit := do
  let place ← locate p
  if ((← get).item? place).isSome then throw (.refused .exists p.text none)
  modify fun d => d.put place .folder

/-- Replaces the bytes of a file, which is made if it is not there. -/
def writeBytes (p : Path) (bytes : List UInt8) : Step Unit := do
  let place ← locate p
  match (← get).item? place with
  | some (.file id _) => modify fun d => d.put place (.file id bytes)
  | some .folder => throw (.refused .isFolder p.text none)
  | none => modify fun d => { d.put place (.file d.nextId bytes) with nextId := d.nextId + 1 }

/-- The identity of a file to be added to, which is made if it is not there. -/
def openLog (p : Path) : Step Nat := do
  let place ← locate p
  match (← get).item? place with
  | some (.file id _) => return id
  | some .folder => throw (.refused .isFolder p.text none)
  | none =>
    let id := (← get).nextId
    modify fun d => { d.put place (.file id []) with nextId := id + 1 }
    return id

/-- The disk with bytes added to the file of an identity, wherever it stands. -/
def append (d : Disk) (id : Nat) (more : List UInt8) : Disk :=
  let add := fun
    | .file i bytes => Item.file i (if i == id then bytes ++ more else bytes)
    | .folder => .folder
  { d with items := d.items.map fun e => (e.1, add e.2) }

/-- Moves a file to a path, in the place of the file that may be there.  A path that ends with a
step up is the path of no file. -/
def move (source target : Path) : Step Unit := do
  let place ← locate source
  let place' ← locate target
  if target.name == ".." then throw (.refused .busy source.text (some target.text))
  match (← get).item? place, (← get).item? place' with
  | _, some .folder => throw (.refused .isFolder source.text (some target.text))
  | some i, _ => if place != place' then modify fun d => (d.put place' i).drop place
  | none, _ => throw (.refused .noEntry source.text (some target.text))

/-- Takes a file away. -/
def unlink (p : Path) : Step Unit := do
  let place ← locate p
  match (← get).item? place with
  | some (.file ..) => modify fun d => d.drop place
  | some .folder => throw (.refused .isFolder p.text none)
  | none => throw (.refused .noEntry p.text none)

/-! ### Folders with all that is above them -/

/-- Passes over a refusal to make a folder, if the folder is there. -/
def unlessFolder (p : Path) (e : Fault) : Step Unit := do
  match e with
  | .refused .. => if !(← isFolder p) then throw e
  | e => throw e

/-- Makes a folder, whose upper folder is there, unless it is there itself. -/
def ensureLast (p : Path) : Step Unit := do
  match ← observe (createFolder p) with
  | .ok () => pure ()
  | .error (.refused .noEntry path target) => throw (.refused .noEntry path target)
  | .error e => unlessFolder p e

/-- Makes a folder and those of the next `depth` folders above it that are not there. -/
def ensureUp (p : Path) : Nat → Step Unit
  | 0 => ensureLast p
  | depth + 1 => do
    match ← observe (createFolder p) with
    | .ok () => pure ()
    | .error (.refused .noEntry path target) =>
      if p.parent == p then throw (.refused .noEntry path target)
      ensureUp p.parent depth
      ensureLast p
    | .error e => unlessFolder p e

/-- Makes a folder with all folders above it. -/
def ensureFolder (p : Path) : Step Unit := ensureUp p p.parts.length

/-! ### Contents -/

/-- Whether a place lies in the working folder. -/
def isInside (place : Place) : Bool :=
  match place.head? with
  | some name => name != "/" && name != ".."
  | none => false

/-- Everything in the working folder with its path, in the order of the paths. -/
def listing (d : Disk) : List (String × Item) :=
  let inside := d.items.filter fun e => isInside e.1
  (inside.map fun e => ("/".intercalate e.1, e.2)).mergeSort fun a b => a.1 ≤ b.1

/-- Runs a step on a disk. -/
def run {α : Type} (d : Disk) (step : Step α) : Except Fault α × Disk := step d

end Disk

end Postprocessor
