import NamedGroups.Proofs.Fragment.Balance
import NamedGroups.Proofs.Tracker.HeaderErasure

/-!
# The balance of positional patterns

The pass copies the parentheses of a pattern and writes nothing between them
that is not balanced.  What it records is the output between an opening
parenthesis and the one that closes it, so a source that is put in the place of
a reference is balanced too, and the depth of the output is the depth of the
pattern all along.
-/

namespace NamedGroups

open Fragment GroupSyntax Text

namespace Tracker

/-- What has been written for each open group, and every recorded source, can be
put anywhere. -/
structure Sealed (tracker : Tracker) : Prop where
  complete : tracker.output.isComplete
  bodies : ∀ body ∈ tracker.pending.map OpenGroup.body, body.SelfContained
  sources : ∀ source ∈ tracker.named.entries.map Prod.snd, source.SelfContained

theorem sealed_start : Sealed start := ⟨rfl, by simp [start], by
  intro source member
  cases member⟩

theorem bodies_enterCapture (tracker : Tracker) (text : Text) (closes : Bool) :
    (tracker.enterCapture text closes).1.pending.map OpenGroup.body =
      tracker.pending.map OpenGroup.body := by
  unfold enterCapture
  split
  · rfl
  · dsimp only
    split
    · rfl
    · cases pending : tracker.pending <;> simp [addName, pending]

theorem named_read (tracker : Tracker) (opened : Bool) (text : Text)
    (closes : Bool) :
    (tracker.read opened text closes).named = tracker.named := by
  unfold read capture
  split <;> simp

namespace Sealed

variable {tracker : Tracker} {text : Text}

theorem resolved (seals : Sealed tracker) (name : Text) :
    ((tracker.named.get? name).getD []).SelfContained := by
  cases found : tracker.named.get? name with
  | none => exact .nil
  | some source =>
      exact seals.sources source (OrderedMap.value_mem_of_get? found)

/-- What is written for a text leaves the depth as it is, also at the end of a
pattern. -/
theorem depthAfter_written (seals : Sealed tracker) (solid : isSolid text)
    (opened closes : Bool) (depth : Nat) :
    depthAfter depth (tracker.written opened text closes) = some depth := by
  by_cases capturing : opened && isCapturing text
  · obtain ⟨rfl, kind⟩ := Bool.and_eq_true_iff.mp capturing
    rw [written_of_capturing kind, resolve]
    split
    · exact depthAfter_of_isSolid (isSolid_bodyOf solid closes) depth
    · exact (seals.resolved _).depthAfter_eq depth
  · rw [written, if_neg capturing]
    exact depthAfter_of_isSolid solid depth

theorem written (seals : Sealed tracker) (solid : isSolid text)
    (complete : text.isComplete) (opened closes : Bool) :
    (tracker.written opened text closes).SelfContained where
  balanced := seals.depthAfter_written solid opened closes 0
  complete := by
    by_cases capturing : opened && isCapturing text
    · obtain ⟨rfl, kind⟩ := Bool.and_eq_true_iff.mp capturing
      rw [written_of_capturing kind, resolve]
      split
      · exact isComplete_bodyOf complete closes
      · exact (seals.resolved _).complete
    · rw [Tracker.written, if_neg capturing]
      exact complete

theorem forall_bodies_emit
    (bodies : ∀ body ∈ tracker.pending.map OpenGroup.body, body.SelfContained)
    (whole : text.SelfContained) :
    ∀ body ∈ (tracker.emit text).pending.map OpenGroup.body,
      body.SelfContained := by
  unfold Tracker.emit
  split
  · rename_i none
    simp [none]
  · rename_i group outer pending
    simp only [pending, List.map_cons, List.forall_mem_cons] at bodies ⊢
    exact ⟨bodies.1.append whole, bodies.2⟩

theorem emit (seals : Sealed tracker) (whole : text.SelfContained) :
    Sealed (tracker.emit text) where
  complete := by
    rw [output_emit, isComplete_append seals.complete, whole.complete]
  bodies := forall_bodies_emit seals.bodies whole
  sources := by simpa using seals.sources

theorem entered (seals : Sealed tracker) (opened : Bool) (text : Text)
    (closes : Bool) : Sealed (tracker.entered opened text closes) := by
  unfold Tracker.entered
  split
  · exact ⟨by simpa using seals.complete,
      by simpa [bodies_enterCapture] using seals.bodies,
      by simpa using seals.sources⟩
  · exact seals

theorem read (seals : Sealed tracker) (solid : isSolid text)
    (complete : text.isComplete) (opened closes : Bool) :
    Sealed (tracker.read opened text closes) := by
  rw [read_eq_emit]
  exact (seals.entered opened text closes).emit
    (seals.written solid complete opened closes)

theorem openGroup (seals : Sealed tracker) : Sealed tracker.openGroup where
  complete := by
    rw [output_openGroup, isComplete_append seals.complete]
    rfl
  bodies := List.forall_mem_cons.mpr ⟨.nil, seals.bodies⟩
  sources := seals.sources

/-- A group that closes hands its output on, as a whole and within its
parentheses. -/
theorem closeGroup (seals : Sealed tracker) : Sealed tracker.closeGroup := by
  have complete : tracker.closeGroup.output.isComplete := by
    rw [output_closeGroup, isComplete_append seals.complete]
    rfl
  have bodies := seals.bodies
  cases pending : tracker.pending with
  | nil =>
      have copied :
          tracker.closeGroup =
            { tracker with base := tracker.base ++ [')'] } := by
        simp [Tracker.closeGroup, Tracker.emit, pending]
      exact ⟨complete, by simp [copied, pending],
        by simpa [copied] using seals.sources⟩
  | cons group outer =>
      simp only [pending, List.map_cons, List.forall_mem_cons] at bodies
      have closed :
          tracker.closeGroup =
            { tracker with
              pending := outer, named := record tracker.named group }.emit
              ('(' :: group.body ++ [')']) := by
        simp [Tracker.closeGroup, pending]
      refine ⟨complete, ?_, ?_⟩
      · rw [closed]
        exact forall_bodies_emit bodies.2 bodies.1.enclosed
      · rw [closed, named_emit]
        intro source member
        obtain ⟨entry, recorded, rfl⟩ := List.mem_map.mp member
        obtain old | ⟨-, body⟩ := mem_entries_record recorded
        · exact seals.sources entry.2 (List.mem_map_of_mem old)
        · exact body ▸ bodies.1

/-- The pass goes to the depths of the pattern, whatever it writes. -/
theorem run {fragments : List Fragment} (cut : Cut fragments)
    (seals : Sealed tracker) (opened : Bool) :
    (∀ source ∈ (tracker.run opened fragments).named.entries.map Prod.snd,
      source.SelfContained) ∧
      ∀ depth, depthAfter depth (tracker.run opened fragments).output =
        (depthAfter depth tracker.output).bind
          (depthAfter · (renderAll fragments)) := by
  have behind_text : ∀ {tracker : Tracker} {text : Text}, Sealed tracker →
      isSolid text →
      ∀ opened closes depth,
        depthAfter depth (tracker.read opened text closes).output =
          depthAfter depth tracker.output := by
    intro tracker text seals solid opened closes depth
    rw [output_read, depthAfter_append seals.complete]
    cases depthAfter depth tracker.output with
    | none => rfl
    | some reached => exact seals.depthAfter_written solid opened closes reached
  induction cut generalizing tracker opened with
  | last solid =>
      refine ⟨?_, fun depth => ?_⟩
      · rw [run_last, named_read]
        exact seals.sources
      · rw [run_last, behind_text seals solid]
        simp [render, depthAfter_of_isSolid solid]
  | @opening text fragments solid complete _ induction =>
      have seals_read := seals.read solid complete opened false
      obtain ⟨sources, depths⟩ := induction seals_read.openGroup true
      rw [run_opening]
      refine ⟨sources, fun depth => ?_⟩
      rw [depths, output_openGroup, depthAfter_append seals_read.complete,
        behind_text seals solid, Option.bind_assoc]
      simp only [depthAfter_renderAll_opening complete _ solid,
        depthAfter_opening, depthAfter_nil, Option.bind_some]
  | @closing text fragments solid complete _ induction =>
      have seals_read := seals.read solid complete opened true
      obtain ⟨sources, depths⟩ := induction seals_read.closeGroup false
      rw [run_closing]
      refine ⟨sources, fun depth => ?_⟩
      rw [depths, output_closeGroup, depthAfter_append seals_read.complete,
        behind_text seals solid, Option.bind_assoc]
      cases depthAfter depth tracker.output with
      | none => rfl
      | some reached =>
          rw [Option.bind_some, Option.bind_some,
            depthAfter_renderAll_closing complete _ solid]
          cases reached <;> simp

end Sealed

end Tracker

namespace Positional

open Tracker

theorem sources_ofPattern (pattern : Text) :
    ∀ source ∈ (ofPattern pattern).named.entries.map Prod.snd,
      source.SelfContained :=
  (sealed_start.run (Cut.of_split pattern) false).1

/-- The output leads from each depth to the one that the pattern leads to. -/
theorem depthAfter_output (pattern : Text) (depth : Nat) :
    depthAfter depth (start.run false (split pattern)).output =
      depthAfter depth pattern := by
  rw [(sealed_start.run (Cut.of_split pattern) false).2 depth, output_start,
    depthAfter_nil, Option.bind_some, renderAll_split]

private theorem depthAfter_source (pattern : Text) (depth : Nat) :
    depthAfter depth (ofPattern pattern).source = depthAfter depth pattern :=
  (depthAfter_removeEmptyGroups _ depth).trans (depthAfter_output pattern depth)

/-- Recorded sources are balanced, and the source of a pattern is balanced if
the pattern is. -/
theorem balance_ofPattern (pattern : Text) :
    (∀ source ∈ (ofPattern pattern).named.entries.map Prod.snd,
        source.IsBalanced ∧ source.isComplete) ∧
      ((ofPattern pattern).source.IsBalanced ↔ pattern.IsBalanced) := by
  refine ⟨fun source member => ?_, ?_⟩
  · have whole := sources_ofPattern pattern source member
    exact ⟨whole.balanced, whole.complete⟩
  · rw [IsBalanced, IsBalanced, depthAfter_source]

end Positional

end NamedGroups
