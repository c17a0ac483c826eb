import Postprocessor.Disk.Basic
import Postprocessor.Json
import Postprocessor.Text.Lines
import Postprocessor.Yaml.Reading

/-!
# Whole files

A file is written beside its place first and moved there when it is complete, so that nobody finds
half of it.

* `Disk.store`: writes a file as a whole.
* `Disk.storeText`, `Disk.storeTextIn`, `Disk.storeJson`: the same for a text and for a value.
* `Disk.readText`, `Disk.loadYaml`: the text and the value of a file.
-/

namespace Postprocessor.Disk
open Text

/-- The path beside `p` at which the file for `p` is written first. -/
def beside (p : Path) : Step Path := do
  if p.name.isEmpty then throw (.unnamed p.text)
  return p.withName (p.name ++ ".tmp")

/-- Writes a file as a whole.  What was written beside its place is taken away if the file cannot be
moved there. -/
def store (p : Path) (bytes : List UInt8) : Step Unit := do
  ensureFolder p.parent
  let temporary ← beside p
  match ← observe (do writeBytes temporary bytes; move temporary p) with
  | .ok () => pure ()
  | .error e =>
    if ← exists? temporary then unlink temporary
    throw (.notWritten p.text e)

/-- Writes a text as a whole file. -/
def storeText (p : Path) (text : String) : Step Unit := store p (Utf8.encode text.toList)

/-- Writes a text in the code of a given name as a whole file. -/
def storeTextIn (p : Path) (text name : String) : Step Unit := do
  let code ← lift ((Encoding.ofName name).mapError (.badEncoding name))
  store p (← lift ((code.encode text.toList).mapError (.unencodable name)))

/-- Writes a value as a whole file. -/
def storeJson (p : Path) (v : Value) : Step Unit := do
  let text ← lift ((v.json .indented).mapError .unwritable)
  storeText p (text ++ "\n")

/-- The text of a file, with line feeds only. -/
def readText (p : Path) : Step (List Char) := do
  let bytes ← readBytes p
  let text ← lift ((Utf8.decode bytes).mapError .undecodable)
  return unifyBreaks text

/-- A fault in bytes that are read piece by piece.  A character that is cut off at the end is found
only when the rest has been read, so its place is counted from its own first byte. -/
def streamed (f : DecodeFault) : DecodeFault :=
  if f.reason == "unexpected end of data" then { f with start := 0 } else f

/-- The value of a file of which `opened` collections around a value are opened. -/
def loadYaml (opened : Nat) (p : Path) : Step Value := do
  if !(← exists? p) then throw (.missing "YAML file" p.text)
  let bytes ← readBytes p
  let text ← lift ((Utf8.decode bytes).mapError fun f => .undecodable (streamed f))
  lift ((Yaml.load opened (unifyBreaks text)).mapError .yaml)

end Postprocessor.Disk
