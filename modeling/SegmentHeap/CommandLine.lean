/-
  The command line: `run <trace> [options]`, or `--version`.

  Arguments are read first, from left to right; what makes no call is refused as a whole.  A run
  then reads its trace, replays it, and comes to an exit code and the texts for the two output
  streams.  The reading of files is left to the caller, so all of this is pure.

  An option is written `--name value` or `--name=value`, at most once, and a value that is a word of
  its own does not start with `-` unless it is `-` alone.  The option `--log` may also stand before
  `run`, and counts there if it is not given after it too.  After `--` every word is a trace.
-/
import SegmentHeap.CommandLine.LogFilter
import SegmentHeap.Replay

namespace SegmentHeap.CommandLine

/-! ## Arguments -/

/-- Where a trace comes from. -/
inductive Input where
  | standardInput
  | file (path : String)
deriving DecidableEq, Repr

/-- The name of an input in messages and on the command line. -/
def Input.name : Input → String
  | standardInput => "-"
  | file path => path

/-- What is asked for. -/
structure Options where
  input : Input
  config : Config := {}
  /-- The seed of the key source; without one, keys are drawn from the host. -/
  seed : Option UInt64 := none
  /-- Whether to stop at the first trap. -/
  failFast : Bool := false
  /-- The filter of the log. -/
  log : Option String := none
deriving DecidableEq, Repr

/-- The words of a command line, sorted: values by option, flags, and the rest. -/
structure Words where
  values : List (String × String) := []
  flags : List String := []
  others : List String := []

/-- The options that take a value. -/
def valueOptions : List String :=
  ["initial-capacity", "max-capacity", "max-segment-size", "seed", "log"]

/-- The options that take none. -/
def flagOptions : List String := ["fail-fast"]

/-- A word as an option: its name, and the value behind an equals sign. -/
def splitOption? (word : String) : Option (String × Option String) :=
  match word.toList with
  | '-' :: '-' :: rest =>
    let name := String.ofList (rest.takeWhile (· ≠ '='))
    match rest.dropWhile (· ≠ '=') with
    | [] => some (name, none)
    | _ :: value => some (name, some (String.ofList value))
  | _ => none

/-- Whether a word can be the value of an option or a trace. -/
def isPlain (word : String) : Bool := word = "-" || !"-".toList.isPrefixOf word.toList

namespace Words

/-- Adds the value of an option, which has none so far. -/
def addValue? (words : Words) (name value : String) : Option Words :=
  if (words.values.lookup name).isSome then none
  else some { words with values := (name, value) :: words.values }

/-- Adds a flag, once. -/
def addFlag? (words : Words) (name : String) : Option Words :=
  if words.flags.contains name then none else some { words with flags := name :: words.flags }

def addOther (words : Words) (word : String) : Words :=
  { words with others := words.others ++ [word] }

/-- Sorts the words after `run`. -/
def sort (words : Words) : List String → Option Words
  | [] => some words
  | "--" :: rest => some { words with others := words.others ++ rest }
  | word :: rest =>
    match splitOption? word with
    | none => if isPlain word then sort (words.addOther word) rest else none
    | some (name, value?) =>
      if valueOptions.contains name then
        match value?, rest with
        | some value, rest => (words.addValue? name value).bind (sort · rest)
        | none, value :: rest =>
          if isPlain value then (words.addValue? name value).bind (sort · rest) else none
        | none, [] => none
      else if flagOptions.contains name && value?.isNone then
        (words.addFlag? name).bind (sort · rest)
      else none

end Words

/-- A whole number without a minus sign, up to a limit. -/
def readUnsigned? (limit : Nat) (text : String) : Option Nat :=
  let digits := match text.toList with
    | '+' :: rest => rest
    | cs => cs
  (Numeral.read? 10 digits).filter (· ≤ limit)

/-- A number of bytes.  It is read with its sign, so zero may have a minus in front. -/
def readSize? (text : String) : Option Nat :=
  match text.toList with
  | '-' :: digits => (Numeral.read? 10 digits).filter (· = 0)
  | _ => readUnsigned? (UInt32.size - 1) text

/-- The value of an option, or the default where it is absent. -/
def Words.valueD {α : Type} (words : Words) (name : String) (read : String → Option α)
    (default : α) : Option α :=
  match words.values.lookup name with
  | none => some default
  | some text => read text

/-- The options that sorted words make.  There is exactly one trace, with a name. -/
def Words.options? (words : Words) : Option Options := do
  let trace ← match words.others with
    | [trace] => if trace = "" then none else some trace
    | _ => none
  let wordLimit := UInt64.size - 1
  let defaults : Config := {}
  let initialCapacity ←
    words.valueD "initial-capacity" (readUnsigned? wordLimit) defaults.initialCapacity
  let maxCapacity ← words.valueD "max-capacity" (readUnsigned? wordLimit) defaults.maxCapacity
  let maxSegmentSize ←
    words.valueD "max-segment-size" readSize? defaults.maxSegmentSize.toNat
  let seed ← words.valueD "seed" (fun text => (readUnsigned? wordLimit text).map some) none
  return {
    input := if trace = "-" then .standardInput else .file trace
    config := { initialCapacity, maxCapacity, maxSegmentSize := UInt32.ofNat maxSegmentSize }
    seed := seed.map UInt64.ofNat
    failFast := words.flags.contains "fail-fast"
    log := words.values.lookup "log" }

/-- The options that the words after `run` make.  A filter from before `run` is the default. -/
def parseRun (filter : Option String) (rest : List String) : Option Options := do
  let words ← Words.sort {} rest
  let options ← words.options?
  return { options with log := options.log <|> filter }

/-- What the program is called for. -/
inductive Call where
  | run (options : Options)
  | version
deriving DecidableEq, Repr

/-- Reads the words up to `run`, after those that give a filter.  Asking for the version counts as
    soon as it is read. -/
def parseFrom (filter : Option String) : List String → Option Call
  | [] => none
  | word :: rest =>
    if word = "run" then (parseRun filter rest).map .run
    else
      match splitOption? word, filter, rest with
      | some ("log", some value), none, rest => parseFrom (some value) rest
      | some ("log", none), none, value :: rest =>
        if isPlain value then parseFrom (some value) rest else none
      | some ("version", none), _, _ => some .version
      | some _, _, _ => none
      | none, _, _ => if "-V".toList.isPrefixOf word.toList then some .version else none

/-- The call that the arguments of the program make, if they make one. -/
def parse (args : List String) : Option Call := parseFrom none args

/-! ## Outcomes -/

/-- Why a trace cannot be read. -/
inductive ReadError where
  /-- The host refuses, with its message and the number of its error. -/
  | refused (message : String) (number : Nat)
  | invalidText
deriving DecidableEq, Repr

def ReadError.message : ReadError → String
  | refused message number => s!"{message} (os error {number})"
  | invalidText => "stream did not contain valid UTF-8"

/-- The text that bytes encode. -/
def decode (bytes : ByteArray) : Except ReadError String :=
  match String.fromUTF8? bytes with
  | some text => .ok text
  | none => .error .invalidText

/-- What a run of the program comes to. -/
structure Outcome where
  code : Nat
  stdout : String
  stderr : String
deriving DecidableEq, Repr

/-- Lines of text, each with its line feed. -/
def unlines (lines : List String) : String := String.join (lines.map (· ++ "\n"))

/-- A text with something in front of its first line and of the others. -/
def indent (first others text : String) : String :=
  first ++ ("\n" ++ others).intercalate (text.splitOn "\n")

/-- An error message with its causes, which are indented, and numbered if there are several. -/
def errorText : List String → String
  | [] => ""
  | [message] => unlines ["Error: " ++ message]
  | [message, cause] =>
    unlines ["Error: " ++ message, "", "Caused by:", indent "    " "    " cause]
  | message :: causes =>
    unlines (["Error: " ++ message, "", "Caused by:"] ++
      causes.mapIdx fun i cause => indent s!"    {i}: " "       " cause)

/-- The answer to `--version`. -/
def versionOutcome : Outcome := ⟨0, "mswasm 0.1.0\n", ""⟩

/-- A run that ends with an error. -/
def failed (chain : List String) : Outcome := ⟨1, "", errorText chain⟩

/-- What a report comes to.  It is printed also when the run stopped at a trap. -/
def ofReport (report : Report) : Outcome :=
  let summary := s!"mswasm: {report.executed} commands, {report.traps} traps"
  { code := if report.stoppedEarly then 1 else 0
    stdout := unlines report.output
    stderr := unlines [summary] ++
      if report.stoppedEarly then errorText ["stopped at first trap"] else "" }

/-- The messages of a trace that cannot be read. -/
def Input.unreadable (input : Input) (error : ReadError) : List String :=
  match input with
  | standardInput => ["failed to read trace from stdin", error.message]
  | file path => ["failed to read " ++ path, error.message]

/-- Whether the filter of the log, if there is one, is well formed. -/
def Options.checkLog (options : Options) : Except (List String) Unit :=
  match options.log with
  | none => .ok ()
  | some filter =>
    (LogFilter.check filter).mapError fun error => s!"invalid log filter `{filter}`" :: error.chain

/-- Replays a trace, which is only looked at if the filter of the log is well formed. -/
def Options.run (options : Options) (keys : KeySource) (source : Except ReadError String) :
    Outcome :=
  match options.checkLog, source with
  | .error chain, _ => failed chain
  | .ok (), .error error => failed (options.input.unreadable error)
  | .ok (), .ok text =>
    match (replay options.config keys options.failFast text).1 with
    | .error failure => failed (("failed to replay " ++ options.input.name) :: failure.chain)
    | .ok report => ofReport report

end SegmentHeap.CommandLine
