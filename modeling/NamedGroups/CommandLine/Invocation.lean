import NamedGroups.CommandLine.Config

/-!
# Reading the command line

An invocation names an action, the pattern and the texts that it works on, and
options.  Options stand anywhere among the other arguments.  A short option
takes its value from the rest of its argument, with or without an equals sign,
or from the next argument; several short options may share an argument.  A long
option takes its value behind an equals sign or from the next argument.  Behind
`--`, nothing is an option any more.

The config file is chosen in front of the action only.  The output format may be
chosen in front of it and behind it, and then the second choice counts.
-/

namespace NamedGroups.CommandLine

/-- An option of the command line. -/
inductive Choice where
  | config
  | outputFormat
  | flags
  | literal
deriving DecidableEq

namespace Choice

def ofLetter? : Char → Option Choice
  | 'C' => some config
  | 'o' => some outputFormat
  | 'f' => some flags
  | 'l' => some literal
  | _ => none

def ofName? (name : Text) : Option Choice :=
  if name = "config".toList then some config
  else if name = "output-format".toList then some outputFormat
  else if name = "flags".toList then some flags
  else if name = "literal".toList then some literal
  else none

def hasValue (choice : Choice) : Bool := choice != literal

end Choice

/-- The options that have been given. -/
structure Options where
  config : Option Text
  outputFormat : Option OutputFormat
  flags : Option Text
  literal : Bool
deriving DecidableEq

namespace Options

def empty : Options := ⟨none, none, none, false⟩

/-- Adds an option.  No option may be given twice. -/
def add? (options : Options) : Choice → Text → Option Options
  | .config, value =>
      if options.config.isSome then none
      else some { options with config := some value }
  | .outputFormat, value =>
      if options.outputFormat.isSome then none
      else (OutputFormat.parse? value).map fun format =>
        { options with outputFormat := some format }
  | .flags, value =>
      if options.flags.isSome then none
      else some { options with flags := some value }
  | .literal, _ =>
      if options.literal then none else some { options with literal := true }

end Options

/-- The options of an argument: those that are complete, and one that still
needs its value. -/
structure Cluster where
  complete : List (Choice × Text)
  pending : Option Choice
deriving DecidableEq

namespace Cluster

def attachedValue : Text → Text
  | '=' :: value => value
  | value => value

def short? (allowed : List Choice) : Text → Option Cluster
  | [] => some ⟨[], none⟩
  | letter :: rest => do
      let choice ← (Choice.ofLetter? letter).filter allowed.contains
      if choice.hasValue then
        if rest.isEmpty then some ⟨[], some choice⟩
        else some ⟨[(choice, attachedValue rest)], none⟩
      else
        let cluster ← short? allowed rest
        some { cluster with complete := (choice, []) :: cluster.complete }

def long? (allowed : List Choice) (text : Text) : Option Cluster := do
  let name := text.takeWhile (· != '=')
  let choice ← (Choice.ofName? name).filter allowed.contains
  match text.drop name.length with
  | [] =>
      if choice.hasValue then some ⟨[], some choice⟩
      else some ⟨[(choice, [])], none⟩
  | _ :: value =>
      if choice.hasValue then some ⟨[(choice, value)], none⟩ else none

end Cluster

/-- What kind of argument a text is. -/
inductive Argument where
  | terminator
  | long (text : Text)
  | short (text : Text)
  /-- Anything else.  A lone hyphen is of this kind. -/
  | operand (text : Text)
deriving DecidableEq

def Argument.ofText : Text → Argument
  | ['-', '-'] => .terminator
  | '-' :: '-' :: text => .long text
  | ['-'] => .operand ['-']
  | '-' :: text => .short text
  | text => .operand text

/-- What has been read of the arguments. -/
structure Reading where
  options : Options
  /-- The option that waits for its value. -/
  pending : Option Choice
  /-- The operands, the last one first. -/
  operands : List Text
deriving DecidableEq

namespace Reading

def start : Reading := ⟨.empty, none, []⟩

def addCluster? (reading : Reading) (cluster : Cluster) : Option Reading := do
  let options ← cluster.complete.foldlM
    (fun options given => options.add? given.1 given.2) reading.options
  some { reading with options, pending := cluster.pending }

def addAll? (allowed : List Choice) (reading : Reading) :
    List Text → Option Reading
  | [] => if reading.pending.isNone then some reading else none
  | argument :: arguments =>
      match reading.pending, Argument.ofText argument with
      | some choice, .operand value => do
          let options ← reading.options.add? choice value
          addAll? allowed { reading with options, pending := none } arguments
      | some _, _ => none
      | none, .terminator =>
          some { reading with
            operands := arguments.reverse ++ reading.operands }
      | none, .long text => do
          (← reading.addCluster? (← Cluster.long? allowed text)).addAll? allowed
            arguments
      | none, .short text => do
          (← reading.addCluster? (← Cluster.short? allowed text)).addAll?
            allowed arguments
      | none, .operand text =>
          addAll? allowed { reading with operands := text :: reading.operands }
            arguments

/-- Reads arguments up to the first operand.  Gives the options, the operand and
what follows. -/
def toOperand? (allowed : List Choice) (reading : Reading) :
    List Text → Option (Options × Text × List Text)
  | [] => none
  | argument :: arguments =>
      match reading.pending, Argument.ofText argument with
      | some choice, .operand value => do
          let options ← reading.options.add? choice value
          toOperand? allowed { reading with options, pending := none } arguments
      | some _, _ => none
      | none, .terminator => none
      | none, .long text => do
          (← reading.addCluster? (← Cluster.long? allowed text)).toOperand?
            allowed arguments
      | none, .short text => do
          (← reading.addCluster? (← Cluster.short? allowed text)).toOperand?
            allowed arguments
      | none, .operand text => some (reading.options, text, arguments)

end Reading

/-- What to do with a pattern. -/
inductive Action where
  | compile
  | exec (text : Text)
  | replace (text replacement : Text) (literal : Bool)
  | search (text : Text)
  | split (text : Text)
deriving DecidableEq

/-- A command line that has been read. -/
structure Invocation where
  config : Option Text
  outputFormat : Option OutputFormat
  flags : Option Text
  pattern : Text
  action : Action
deriving DecidableEq

namespace Invocation

/-- The options that may stand in front of the action. -/
def generalChoices : List Choice := [.config, .outputFormat]

def choices (name : Text) : List Choice :=
  if name = "replace".toList then [.outputFormat, .flags, .literal]
  else [.outputFormat, .flags]

/-- The action of a name and operands, and the pattern, which is the first of
the operands. -/
def action? (name : Text) (literal : Bool) : List Text → Option (Text × Action)
  | [pattern] =>
      if name = "compile".toList then some (pattern, .compile) else none
  | [pattern, text] =>
      if name = "exec".toList then some (pattern, .exec text)
      else if name = "search".toList then some (pattern, .search text)
      else if name = "split".toList then some (pattern, .split text)
      else none
  | [pattern, text, replacement] =>
      if name = "replace".toList then
        some (pattern, .replace text replacement literal)
      else none
  | _ => none

def parse? (arguments : List Text) : Option Invocation := do
  let (general, name, rest) ← Reading.start.toOperand? generalChoices arguments
  let reading ← Reading.start.addAll? (choices name) rest
  let (pattern, action) ← action? name reading.options.literal
    reading.operands.reverse
  some
    { config := general.config
      outputFormat := reading.options.outputFormat.or general.outputFormat
      flags := reading.options.flags
      pattern
      action }

end Invocation

end NamedGroups.CommandLine
