import NamedGroups.CommandLine.Run
import NamedGroups.Proofs.Json.Reading

/-!
# Answers of actions

An action answers with lines of text and with a JSON value, of which the format
chooses.  The value is normal, whatever the action, so that it can be read back
from the line that is written.
-/

namespace NamedGroups.CommandLine

namespace Answer

theorem isNormal_ofRegex {engine : RegexEngine} (regex : NamedRegex engine) :
    (ofRegex regex).json.IsNormal := by
  have groups : (Json.sorted regex.groups.jsonFields).IsNormal := by
    refine Json.isNormal_sorted fun field member => ?_
    obtain ⟨entry, -, rfl⟩ := List.mem_map.mp member
    exact .number entry.2
  have named : (Json.sorted (regex.named.entries.map
      fun entry => (entry.1, .string entry.2))).IsNormal := by
    refine Json.isNormal_sorted fun field member => ?_
    obtain ⟨entry, -, rfl⟩ := List.mem_map.mp member
    exact .string entry.2
  refine Json.isNormal_sorted ?_
  simp only [List.forall_mem_cons]
  exact ⟨.string _, .string _, groups, named, by simp⟩

theorem isNormal_ofMatch (found? : Option Match) :
    (ofMatch found?).json.IsNormal := by
  cases found? with
  | none => exact .null
  | some found =>
      have groups : (Json.sorted (found.groups.entries.map
          fun entry => (entry.1.text, .ofText? entry.2))).IsNormal := by
        refine Json.isNormal_sorted fun field member => ?_
        obtain ⟨entry, -, rfl⟩ := List.mem_map.mp member
        exact Json.isNormal_ofText? entry.2
      refine Json.isNormal_sorted ?_
      simp only [List.forall_mem_cons]
      exact ⟨.number _, .string _, groups, by simp⟩

theorem isNormal_ofOffset (offset? : Option Nat) :
    (ofOffset offset?).json.IsNormal := by
  cases offset? with
  | none => exact Json.isNormal_sorted (by simpa using Json.IsNormal.null)
  | some offset =>
      exact Json.isNormal_sorted (by simpa using Json.IsNormal.number offset)

private theorem isNormal_ofReplacement (replacement : Replacement) :
    (ofReplacement replacement).json.IsNormal := by
  refine Json.isNormal_sorted ?_
  simp only [List.forall_mem_cons]
  exact ⟨.bool _, .string _, by simp⟩

private theorem isNormal_ofPieces (pieces : List (Option Text)) :
    (ofPieces pieces).json.IsNormal := by
  refine .array fun item member => ?_
  obtain ⟨piece, -, rfl⟩ := List.mem_map.mp member
  exact Json.isNormal_ofText? piece

end Answer

private theorem exists_of_map_eq_ok {ε α β : Type} {result : Except ε α}
    {read : α → β} {answer : β} (answered : result.map read = .ok answer) :
    ∃ value, result = .ok value ∧ read value = answer := by
  cases result with
  | error problem => cases answered
  | ok value => exact ⟨value, rfl, Except.ok.inj answered⟩

/-- What an action answers is normal. -/
theorem Action.isNormal_of_run {engine : RegexEngine}
    {regex : NamedRegex engine} {action : Action} {answer : Answer}
    (answered : action.run regex = .ok answer) : answer.json.IsNormal := by
  cases action with
  | compile =>
      cases answered
      exact Answer.isNormal_ofRegex regex
  | exec text =>
      obtain ⟨found?, -, rfl⟩ := exists_of_map_eq_ok answered
      exact Answer.isNormal_ofMatch found?
  | replace text replacement literal =>
      obtain ⟨replaced, -, rfl⟩ := exists_of_map_eq_ok answered
      exact Answer.isNormal_ofReplacement replaced
  | search text =>
      obtain ⟨offset?, -, rfl⟩ := exists_of_map_eq_ok answered
      exact Answer.isNormal_ofOffset offset?
  | split text =>
      obtain ⟨pieces, -, rfl⟩ := exists_of_map_eq_ok answered
      exact Answer.isNormal_ofPieces pieces

/-- Whether an output is one line, from which a value is read. -/
def IsLineOf (read : Text → Option Json) (json : Json) (output : Text) : Prop :=
  ∃ line, output = line ++ ['\n'] ∧ read line = some json

def Answer.output (writeJson : Json → Text) (format : OutputFormat)
    (answer : Answer) : Text :=
  (answer.render writeJson format).flatMap (· ++ ['\n'])

theorem Answer.isLineOf_output {answer : Answer}
    (normal : answer.json.IsNormal) {read : Text → Option Json}
    {writeJson : Json → Text} (readsBack : Json.ReadsBack read writeJson) :
    IsLineOf read answer.json (answer.output writeJson .json) := by
  refine ⟨writeJson answer.json, ?_, readsBack _ normal⟩
  simp [output, render]

namespace Invocation

variable {host : Host} {invocation : Invocation} {config : Config}

theorem runWith_of_ok {regex : NamedRegex host.engine} {answer : Answer}
    (compiled : NamedRegex.compile host.engine (.text invocation.pattern)
      (some (invocation.flagsWith config)) = .ok regex)
    (answered : invocation.action.run regex = .ok answer) :
    invocation.runWith host config =
      .finished (if answer.success then 0 else 1)
        (answer.output host.writeJson (invocation.formatWith config)) [] := by
  simp only [runWith, Invocation.answer, compiled, answered]
  rfl

end Invocation

end NamedGroups.CommandLine
