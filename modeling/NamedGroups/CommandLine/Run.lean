import NamedGroups.CommandLine.Host
import NamedGroups.CommandLine.Invocation
import NamedGroups.GroupIndex.Json
import NamedGroups.NamedRegex.Compile
import NamedGroups.NamedRegex.Replace
import NamedGroups.NamedRegex.Split

/-!
# Running an action

An action compiles the pattern and answers with lines on the standard output.
The exit code is 0 if there is something to show, 1 if nothing matched, and 2 if
something went wrong; then there is one line on the standard error and none on
the standard output.

A config file that is named on the command line has to be there, which is
checked together with the arguments, and has to be valid.  The one in the home
directory is ignored if it is not.
-/

namespace NamedGroups.CommandLine

/-- Why an action fails. -/
inductive Failure where
  | config (path : Text) (reason : Config.Error)
  | pattern (source : Text) (reason : PatternError)
  | search (reason : EngineError)
deriving DecidableEq

def Failure.message : Failure → Text
  | config path reason =>
      "can not load `".toList ++ path ++ "`: ".toList ++ reason.message
  | pattern source reason =>
      "can not compile `".toList ++ source ++ "`: ".toList ++ reason.message
  | search reason => reason.message

/-- What an action has to say. -/
structure Answer where
  success : Bool
  lines : List Text
  json : Json

namespace Answer

/-- A value in the given format, in lines without their ends. -/
def render (writeJson : Json → Text) (answer : Answer) :
    OutputFormat → List Text
  | .text => answer.lines
  | .json => [writeJson answer.json]

def entryLine (key separator value : Text) : Text :=
  "  ".toList ++ key ++ separator ++ value

def ofRegex {engine : RegexEngine} (regex : NamedRegex engine) : Answer where
  success := true
  lines :=
    regex.display ::
      regex.groups.entries.map (fun entry =>
        entryLine entry.1.text " => ".toList (Text.decimal entry.2)) ++
      regex.named.entries.map (fun entry =>
        entryLine entry.1 ": ".toList entry.2)
  json :=
    .sorted [("source".toList, .string regex.source),
      ("flags".toList, .string regex.flags.text),
      ("groups".toList, .sorted regex.groups.jsonFields),
      ("named".toList,
        .sorted (regex.named.entries.map fun entry =>
          (entry.1, .string entry.2)))]

def ofMatch : Option Match → Answer
  | none => ⟨false, ["no match".toList], .null⟩
  | some found =>
      { success := true
        lines :=
          (found.text ++ " at ".toList ++ Text.decimal found.start) ::
            found.groups.entries.map fun entry =>
              entryLine entry.1.text ": ".toList (entry.2.getD ['-'])
        json :=
          .sorted [("index".toList, .number found.start),
            ("match".toList, .string found.text),
            ("groups".toList,
              .sorted (found.groups.entries.map fun entry =>
                (entry.1.text, .ofText? entry.2)))] }

def ofReplacement (replacement : Replacement) : Answer where
  success := replacement.replaced
  lines := [replacement.text]
  json :=
    .sorted
      [("replaced".toList, .bool replacement.replaced),
        ("result".toList, .string replacement.text)]

def ofOffset : Option Nat → Answer
  | none => ⟨false, ["-1".toList], .sorted [("offset".toList, .null)]⟩
  | some offset =>
      ⟨true, [Text.decimal offset], .sorted [("offset".toList, .number offset)]⟩

def ofPieces (pieces : List (Option Text)) : Answer where
  success := true
  lines := pieces.map fun piece => piece.getD "<none>".toList
  json := .array (pieces.map .ofText?)

end Answer

namespace Action

def run {engine : RegexEngine} (regex : NamedRegex engine) :
    Action → Except EngineError Answer
  | compile => .ok (.ofRegex regex)
  | exec text => (regex.exec text).map .ofMatch
  | replace text replacement literal =>
      let replacer : Replacer Id :=
        if literal then .literal replacement else .ofTemplate replacement
      (regex.replace text replacer).run.map .ofReplacement
  | search text => (regex.search text).map .ofOffset
  | split text => (regex.split text).map .ofPieces

end Action

/-- The files that a command line may need. -/
structure Files where
  read : Text → Option Text
  /-- The content of the config file in the home directory. -/
  homeConfig : Option Text

/-- How a command line ends. -/
inductive Outcome where
  | usage
  | finished (code : Nat) (output errors : Text)
deriving DecidableEq

namespace Outcome

def ofFailure (failure : Failure) : Outcome :=
  .finished 2 [] ("error: ".toList ++ failure.message ++ ['\n'])

def ofAnswer (writeJson : Json → Text) (format : OutputFormat)
    (answer : Answer) : Outcome :=
  .finished (if answer.success then 0 else 1)
    ((answer.render writeJson format).flatMap (· ++ ['\n'])) []

end Outcome

namespace Invocation

/-- The flags text of the command line, or else the one of the config. -/
def flagsWith (invocation : Invocation) (config : Config) : Text :=
  invocation.flags.getD config.defaultFlags

def formatWith (invocation : Invocation) (config : Config) : OutputFormat :=
  invocation.outputFormat.getD config.outputFormat

def answer (engine : RegexEngine) (invocation : Invocation) (config : Config) :
    Except Failure Answer :=
  match NamedRegex.compile engine (.text invocation.pattern)
      (some (invocation.flagsWith config)) with
  | .error reason => .error (.pattern invocation.pattern reason)
  | .ok regex => (invocation.action.run regex).mapError .search

def runWith (host : Host) (invocation : Invocation) (config : Config) :
    Outcome :=
  match invocation.answer host.engine config with
  | .error failure => .ofFailure failure
  | .ok answer =>
      .ofAnswer host.writeJson (invocation.formatWith config) answer

def run (host : Host) (invocation : Invocation) (files : Files) : Outcome :=
  match invocation.config with
  | none =>
      let home :=
        files.homeConfig.bind fun content => (Config.parse content).toOption
      invocation.runWith host (home.getD .standard)
  | some path =>
      match files.read path with
      | none => .usage
      | some content =>
          match Config.parse content with
          | .error reason => .ofFailure (.config path reason)
          | .ok config => invocation.runWith host config

end Invocation

def run (host : Host) (arguments : List Text) (files : Files) : Outcome :=
  match Invocation.parse? arguments with
  | none => .usage
  | some invocation => invocation.run host files

end NamedGroups.CommandLine
