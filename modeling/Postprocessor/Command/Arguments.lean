import Postprocessor.Level
import Postprocessor.Text.Digit

/-!
# Command lines

A command line names a trace and has options before and after it.  An option has a long name, which
may be cut short as long as no other option begins the same, and some have a letter.

Every argument is first told apart by itself (`Argument.classify`): it is an option if it begins
with a hyphen, unless it reads as a negative number or holds a space.  After two hyphens there are
no more options.  Then the options are read in order, each with its value (`Draft.read`).

* `Switch`: the options.
* `Argument`: an argument told apart.
* `Cluster`: the options that one argument gives, since letters may be written together.
* `Arguments.ofList`: what a command line asks for, or why the program ends at once.
-/

namespace Postprocessor.Command

/-- An option. -/
inductive Switch where
  | help | config | outputDir | dumpEvents | dryRun | logLevel | logFile | logJson
  deriving DecidableEq, Repr, Inhabited

namespace Switch

/-- All options. -/
def all : List Switch :=
  [.help, .config, .outputDir, .dumpEvents, .dryRun, .logLevel, .logFile, .logJson]

/-- The long name of an option. -/
def long : Switch → String
  | .help => "--help"
  | .config => "--config"
  | .outputDir => "--output-dir"
  | .dumpEvents => "--dump-events"
  | .dryRun => "--dry-run"
  | .logLevel => "--log-level"
  | .logFile => "--log-file"
  | .logJson => "--log-json"

/-- The letter of an option. -/
def letter? : Switch → Option Char
  | .help => some 'h'
  | .config => some 'c'
  | .outputDir => some 'o'
  | _ => none

/-- Whether an option has a value. -/
def takesValue : Switch → Bool
  | .help | .dryRun | .logJson => false
  | _ => true

/-- The option with a given letter. -/
def ofLetter? (c : Char) : Option Switch := all.find? (·.letter? == some c)

/-- The options whose long names begin with a text. -/
def beginning (cs : List Char) : List Switch := all.filter fun s => cs.isPrefixOf s.long.toList

/-- The option with a given long name. -/
def ofLong? (cs : List Char) : Option Switch := all.find? (·.long.toList == cs)

end Switch

/-- Why the program ends at once. -/
inductive Exit where
  /-- Help was asked for. -/
  | help
  /-- The command line cannot be understood. -/
  | usage
  deriving DecidableEq, Repr, Inhabited

/-- The code with which the program ends. -/
def Exit.code : Exit → Nat
  | .help => 0
  | .usage => 2

/-! ### Arguments one by one -/

/-- An argument told apart. -/
inductive Argument where
  /-- A text that is no option. -/
  | plain (text : String)
  /-- Two hyphens. -/
  | stop
  /-- An option with what follows its name in the same argument, and whether the name is its
  letter. -/
  | option (switch : Switch) (byLetter : Bool) (tail : List Char)
  /-- An option that does not exist. -/
  | unknown
  deriving DecidableEq, Repr, Inhabited

/-- A run of digits that is not empty. -/
def isNumber (cs : List Char) : Bool := !cs.isEmpty && cs.all Text.isDigit

/-- A text that reads as a negative number. -/
def isNegativeNumber (cs : List Char) : Bool :=
  let cs := if cs.getLast? == some '\n' then cs.dropLast else cs
  match cs with
  | '-' :: rest =>
    isNumber rest ||
      match rest.dropWhile Text.isDigit with
      | '.' :: fraction => isNumber fraction
      | _ => false
  | _ => false

/-- An argument that begins like an option and is none. -/
def strange (cs : List Char) : Argument :=
  if isNegativeNumber cs || cs.contains ' ' then .plain (String.ofList cs) else .unknown

/-- An argument that begins with two hyphens.  An exact name goes before names that are cut
short. -/
def classifyLong (cs : List Char) : Except Exit Argument :=
  let name := cs.takeWhile (· != '=')
  let tail := cs.dropWhile (· != '=')
  match Switch.ofLong? name with
  | some s => .ok (.option s false tail)
  | none =>
    match Switch.beginning name with
    | [] => .ok (strange cs)
    | [s] => .ok (.option s false tail)
    | _ => .error .usage

/-- Tells an argument apart. -/
def Argument.classify (text : String) : Except Exit Argument :=
  match text.toList with
  | '-' :: '-' :: rest => classifyLong ('-' :: '-' :: rest)
  | '-' :: c :: rest =>
    match Switch.ofLetter? c with
    | some s => .ok (.option s true rest)
    | none => .ok (strange ('-' :: c :: rest))
  | _ => .ok (.plain text)

/-- Tells the arguments of a command line apart. -/
def Argument.classifyAll : List String → Except Exit (List Argument)
  | [] => .ok []
  | text :: rest =>
    if text == "--" then .ok (.stop :: rest.map .plain)
    else do
      let a ← Argument.classify text
      let as ← Argument.classifyAll rest
      .ok (a :: as)

/-! ### Options with their values -/

/-- The value of an option. -/
inductive Given where
  | text (value : String)
  /-- No value.  It is written as two hyphens in the argument of the option itself. -/
  | nothing
  deriving DecidableEq, Repr, Inhabited

namespace Given

/-- A value in the argument of its option. -/
def ofTail (cs : List Char) : Given :=
  if cs == ['-', '-'] then .nothing else .text (String.ofList cs)

/-- The value, if there is one and it is not empty. -/
def text? : Given → Option String
  | .text value => if value.isEmpty then none else some value
  | .nothing => none

end Given

/-- The options that one argument gives. -/
structure Cluster where
  /-- The options that are complete, with their values. -/
  given : List (Switch × Given)
  /-- The last option, if its value is the next argument. -/
  waiting : Option Switch

/-- The options that letters in one argument give.  What follows the letter of an option with a
value is the value, and what follows that of an option without one are more letters. -/
def Cluster.ofLetters (s : Switch) : List Char → Except Exit Cluster
  | [] => .ok (if s.takesValue then ⟨[], some s⟩ else ⟨[(s, .nothing)], none⟩)
  | c :: rest =>
    if s.takesValue then .ok ⟨[(s, .ofTail (c :: rest))], none⟩
    else
      match Switch.ofLetter? c with
      | none => .error .usage
      | some next =>
        (Cluster.ofLetters next rest).map fun k => { k with given := (s, .nothing) :: k.given }

/-- The options that an option and what follows its name give.  What follows the name may begin
with an equals sign. -/
def Cluster.ofTail (s : Switch) (byLetter : Bool) : List Char → Except Exit Cluster
  | '=' :: value =>
    if s.takesValue then .ok ⟨[(s, .ofTail value)], none⟩
    else if byLetter && !value.isEmpty then ofLetters s value
    else .error .usage
  | tail => ofLetters s tail

/-! ### Command lines -/

/-- What a command line asks for. -/
structure Arguments where
  /-- The path of the trace. -/
  trace : String
  /-- The path of the configuration. -/
  config : Option Given := none
  /-- The folder of the files that are written. -/
  outputDir : Given := .text "."
  /-- The path of a dump of the events. -/
  dumpEvents : Option String := none
  /-- Whether the files are printed instead. -/
  dryRun : Bool := false
  logLevel : Option Level := none
  /-- The path of a file for the log. -/
  logFile : Option String := none
  /-- Whether records are written as Json texts. -/
  logJson : Bool := false
  deriving DecidableEq, Repr, Inhabited

/-- What was read of a command line. -/
structure Draft where
  trace : Option String
  /-- The options, with a trace that is not meant. -/
  options : Arguments
  /-- Whether something was too much. -/
  extra : Bool

/-- The levels that a command line can name. -/
def namedLevels : List Level := [.debug, .info, .warning, .error]

namespace Draft

/-- Nothing read. -/
def start : Draft := ⟨none, { trace := "" }, false⟩

/-- The options with one more, which replaces an earlier one. -/
def setOption (a : Arguments) (value : Given) : Switch → Except Exit Arguments
  | .help => .error .help
  | .config => .ok { a with config := some value }
  | .outputDir => .ok { a with outputDir := value }
  | .dumpEvents => .ok { a with dumpEvents := value.text? }
  | .dryRun => .ok { a with dryRun := true }
  | .logLevel =>
    match value with
    | .nothing => .ok { a with logLevel := none }
    | .text name =>
      match namedLevels.find? (·.name == name) with
      | some level => .ok { a with logLevel := some level }
      | none => .error .usage
  | .logFile => .ok { a with logFile := value.text? }
  | .logJson => .ok { a with logJson := true }

/-- Takes options in order. -/
def give (d : Draft) (given : List (Switch × Given)) : Except Exit Draft :=
  (given.foldlM (fun a e => setOption a e.2 e.1) d.options).map fun a => { d with options := a }

/-- Reads arguments.  The trace is the first text that is no option, and two hyphens may stand
before it or after it. -/
def read (d : Draft) : List Argument → Except Exit Draft
  | [] => .ok d
  | .plain text :: .stop :: rest =>
    if d.trace.isNone then read { d with trace := some text } rest
    else read { d with extra := true } rest
  | .plain text :: rest =>
    if d.trace.isNone then read { d with trace := some text } rest
    else read { d with extra := true } rest
  | .stop :: .plain text :: rest =>
    if d.trace.isNone then read { d with trace := some text } rest
    else read { d with extra := true } rest
  | .stop :: rest => read { d with extra := true } rest
  | .unknown :: rest => read { d with extra := true } rest
  | .option s byLetter tail :: rest => do
    let k ← Cluster.ofTail s byLetter tail
    match k.waiting, rest with
    | none, rest => read (← d.give k.given) rest
    | some s, .plain value :: rest => read (← d.give (k.given ++ [(s, .text value)])) rest
    | some _, _ => .error .usage

end Draft

/-- What a command line asks for. -/
def Arguments.ofList (args : List String) : Except Exit Arguments := do
  let d ← Draft.start.read (← Argument.classifyAll args)
  match d.trace with
  | some trace => if d.extra then throw .usage else return { d.options with trace }
  | none => throw .usage

end Postprocessor.Command
