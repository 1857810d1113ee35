import NamedGroups.Engine.BuiltIn
import NamedGroups.Proofs.CommandLine.Answers
import NamedGroups.Proofs.GroupIndex.KeyTexts
import NamedGroups.Proofs.NamedRegex.Compilation
import NamedGroups.Proofs.NamedRegex.SuccessiveMatches
import NamedGroups.Proofs.Tracker.Recording

/-!
# Groups as they are printed

In JSON the groups of a pattern, or what they have captured, are the members of
an object, named by the texts of their keys.  A JSON object has one member of
each name, so keys with the same text would take each other's place.  The keys
of a pattern have different texts: each of them has a member of its own, which
tells the number of its group or the text that it has captured.
-/

namespace NamedGroups

namespace Json

/-- Whether the members of an object are as many as the keys of an index, and
each key has one of them, which is named by its text and made from the number of
its capture group. -/
structure Represents (members : List (Text × Json)) (index : GroupIndex)
    (value : Nat → Json) : Prop where
  count : members.length = index.size
  member : ∀ key capture, index.get? key = some capture →
    members.lookup key.text = some (value capture)

/-- An object that is made from an index whose keys have different texts. -/
theorem exists_represents {index : GroupIndex}
    (distinct : (index.keys.map GroupKey.text).Nodup) (value : Nat → Json) :
    ∃ members,
      sorted (index.entries.map fun entry => (entry.1.text, value entry.2)) =
        object members ∧ Represents members index value := by
  have names :
      (index.entries.map fun entry => (entry.1.text, value entry.2)).map
        Prod.fst = index.keys.map GroupKey.text := by
    simp [OrderedMap.keys]
  obtain ⟨members, ordered, perm⟩ := exists_sorted (names ▸ distinct)
  refine ⟨members, ordered, ?_, fun key capture found => ?_⟩
  · simpa [OrderedMap.size] using perm.length_eq
  · have listed := List.mem_map_of_mem (f := fun entry : GroupKey × Nat =>
      (entry.1.text, value entry.2)) (OrderedMap.mem_of_get? found)
    exact lookup_of_mem
      ((perm.map Prod.fst).symm.nodup (names ▸ distinct))
      (perm.mem_iff.mpr listed)

end Json

namespace Positional

open GroupSyntax

theorem nodup_keyTexts (pattern : Text) :
    ((ofPattern pattern).groups.keys.map GroupKey.text).Nodup := by
  refine GroupIndex.nodup_keyTexts fun key member => ?_
  cases key with
  | name text =>
      exact isName_of_hasName ((OrderedMap.isSome_get?_iff _ _).mpr member)
  | ordinal _ => trivial

end Positional

namespace CommandLine

def groupsField : Text := "groups".toList

namespace Answer

variable {engine : RegexEngine}

theorem member?_ofRegex (regex : NamedRegex engine) :
    (Answer.ofRegex regex).json.member? groupsField =
      some (.sorted (regex.groups.entries.map
        fun entry => (entry.1.text, .number entry.2))) := by
  rfl

private theorem member?_ofMatch {regex : NamedRegex engine} {text : Text}
    {found : Match} (matched : regex.exec text = .ok (some found)) :
    (Answer.ofMatch (some found)).json.member? groupsField =
      some (.sorted (regex.groups.entries.map fun entry =>
        (entry.1.text, .ofText? (found.get? entry.2)))) := by
  obtain ⟨spans, -, rfl⟩ := Finder.ofSearches_eq_some matched
  have fields :
      (Match.ofSlots text spans regex.groups).groups.entries.map (fun entry =>
        (entry.1.text, Json.ofText? entry.2)) =
        regex.groups.entries.map fun entry =>
          (entry.1.text,
            Json.ofText? ((Match.ofSlots text spans regex.groups).get?
              entry.2)) := by
    simp [Match.ofSlots, OrderedMap.mapValues, Match.get?]
  rw [← fields]
  rfl

end Answer

/-- Whether a line of JSON is printed, and the groups are read from it: a member
for each key of an index, made from the number of its capture group. -/
def PrintsGroups (read : Text → Option Json) (outcome : Outcome)
    (index : GroupIndex) (value : Nat → Json) : Prop :=
  ∃ output answer members, outcome = .finished 0 output [] ∧
    IsLineOf read answer output ∧
    answer.member? groupsField = some (.object members) ∧
    Json.Represents members index value

private theorem Invocation.printsGroups {host : Host}
    {read : Text → Option Json} (readsBack : Json.ReadsBack read host.writeJson)
    {invocation : Invocation} {config : Config}
    (format : invocation.formatWith config = .json)
    {regex : NamedRegex host.engine}
    (compiled :
      NamedRegex.compile host.engine (.text invocation.pattern)
          (some (invocation.flagsWith config)) = .ok regex) {answer : Answer}
    (answered : invocation.action.run regex = .ok answer)
    (success : answer.success = true) {value : Nat → Json}
    (groups :
      answer.json.member? groupsField =
        some (.sorted (regex.groups.entries.map fun entry =>
          (entry.1.text, value entry.2)))) :
    PrintsGroups read (invocation.runWith host config) regex.groups value := by
  have built :
      regex.groups = (Positional.ofPattern invocation.pattern).groups :=
    (NamedRegex.compile_eq_ok_iff.mp compiled).groups
  have distinct := Positional.nodup_keyTexts invocation.pattern
  rw [← built] at distinct
  obtain ⟨members, ordered, represents⟩ :=
    Json.exists_represents distinct value
  refine ⟨_, answer.json, members, ?_,
    Answer.isLineOf_output (Action.isNormal_of_run answered) readsBack, ?_,
    represents⟩
  · rw [runWith_of_ok compiled answered, format, if_pos success]
  · rw [groups, ordered]

/-- The keys of a pattern have different texts, and no name reads like an
ordinal.  So what is read from the line of JSON that is printed of a compiled
pattern and of a match holds an object that has as many members as the pattern
has keys, and for each key the number of its group or the text that it has
captured. -/
theorem run_prints_groups (host : Host) (read : Text → Option Json)
    (readsBack : Json.ReadsBack read host.writeJson) (pattern : Text) :
    ((Positional.ofPattern pattern).groups.keys.map GroupKey.text).Nodup ∧
      (∀ name number, (Positional.ofPattern pattern).groups.hasName name →
        name ≠ Text.decimal number) ∧
      ∀ (invocation : Invocation) (config : Config)
        (regex : NamedRegex host.engine),
        invocation.pattern = pattern → invocation.formatWith config = .json →
        NamedRegex.compile host.engine (.text pattern)
          (some (invocation.flagsWith config)) = .ok regex →
        (invocation.action = .compile →
          PrintsGroups read (invocation.runWith host config)
            (Positional.ofPattern pattern).groups .number) ∧
        ∀ text found, invocation.action = .exec text →
          regex.exec text = .ok (some found) →
          PrintsGroups read (invocation.runWith host config)
            (Positional.ofPattern pattern).groups
            fun number => .ofText? (found.get? number) := by
  refine ⟨Positional.nodup_keyTexts pattern, fun name number known =>
    GroupKey.ne_decimal_of_isName (Positional.isName_of_hasName known) number,
    ?_⟩
  rintro invocation config regex rfl format compiled
  have groups :
      regex.groups = (Positional.ofPattern invocation.pattern).groups :=
    (NamedRegex.compile_eq_ok_iff.mp compiled).groups
  rw [← groups]
  constructor
  · intro action
    have answered : invocation.action.run regex = .ok (.ofRegex regex) := by
      rw [action]
      rfl
    exact invocation.printsGroups readsBack format compiled answered rfl
      (Answer.member?_ofRegex regex)
  · intro text found action matched
    have answered :
        invocation.action.run regex = .ok (.ofMatch (some found)) := by
      rw [action, Action.run, matched]
      rfl
    exact invocation.printsGroups readsBack format compiled answered rfl
      (Answer.member?_ofMatch matched)

/-- A name and an ordinal, of which the first one has taken no part in the
match. -/
theorem run_prints_groups_alternatives : ∃ output answer members,
    Invocation.runWith .standard
        ⟨none, some .json, none,
          ['(', '?', '<', 'n', '>', 'a', ')', '|', '(', 'b', ')'],
          .exec ['b']⟩ .standard = .finished 0 output [] ∧
      IsLineOf Json.read? answer output ∧
      answer.member? groupsField = some (.object members) ∧
      members.length = 2 ∧ members.lookup ['n'] = some .null ∧
      members.lookup ['0'] = some (.string ['b']) := by
  obtain ⟨-, -, prints⟩ := run_prints_groups .standard Json.read?
    Json.readsBack_render
    ['(', '?', '<', 'n', '>', 'a', ')', '|', '(', 'b', ')']
  obtain ⟨regex, compiled, checked⟩ :=
    NamedRegex.exists_of_checked Engine.builtIn
      (.text ['(', '?', '<', 'n', '>', 'a', ')', '|', '(', 'b', ')']) (some [])
      (fun regex => (regex.exec ['b']).toOption.join.any fun (found : Match) =>
        decide (found.get? 1 = none ∧ found.get? 2 = some ['b']))
      (by decide +kernel)
  obtain ⟨found, matched, texts⟩ := (Option.any_eq_true _ _).mp checked
  obtain ⟨first, second⟩ := of_decide_eq_true texts
  obtain ⟨output, answer, members, done, line, member, represents⟩ :=
    (prints ⟨none, some .json, none, _, .exec ['b']⟩ .standard regex rfl rfl
      compiled).2 ['b'] found rfl (eq_ok_of_join matched)
  have named := represents.member (.name ['n']) 1 (by decide +kernel)
  have numbered := represents.member (.ordinal 0) 2 (by decide +kernel)
  rw [first] at named
  rw [second] at numbered
  exact ⟨output, answer, members, done, line, member,
    represents.count.trans (by decide +kernel), named, numbered⟩

end CommandLine

end NamedGroups
