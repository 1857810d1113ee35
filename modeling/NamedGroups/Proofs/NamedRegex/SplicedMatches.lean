import NamedGroups.NamedRegex.Replace
import NamedGroups.Proofs.NamedRegex.SuccessiveMatches

/-!
# Replacing is splicing

A replacement is the text between the matches, with what the replacer gives for
each match put in between.  A template is asked for once and any other replacer
is run once for each match, in the order of the matches; this is said for a
replacer with effects of any kind.
-/

namespace NamedGroups

namespace Replacement

variable {m : Type → Type} [Monad m] [LawfulMonad m]

/-- The text from `last` on, with a text in the place of each match. -/
def splice (text : Text) (last : Nat) : List Match → List Text → Text
  | found :: series, inserted :: others =>
      text.slice last found.start ++ inserted ++
        splice text found.stop series others
  | _, _ => text.dropBytes last

def ofSeries (text : Text) (last : Nat) (series : List Match)
    (inserted : List Text) : Replacement :=
  ⟨splice text last series inserted, series.length⟩

/-- The replacement goes through the series of matches. -/
theorem startingAt_eq {find : Finder} {everywhere : Bool} {text : Text}
    (forward : find.Forward text) {offset : Nat} {series : List Match}
    (successive : find.Successive everywhere text offset series)
    (here : offset ≤ text.byteSize → text.Boundary offset)
    (render : Match → m Text) (last : Nat) :
    startingAt find render everywhere text last offset = do
      let inserted ← series.mapM render
      return .ok (ofSeries text last series inserted) := by
  induction successive generalizing last with
  | beyond outside =>
      rw [startingAt, dif_neg (by omega)]
      simp [ofSeries, splice]
  | none inside nothing =>
      rw [startingAt, dif_pos inside, nothing]
      simp [ofSeries, splice]
  | only inside searched single =>
      rw [startingAt, dif_pos inside, searched]
      simp [single, ofSeries, splice, prepend, Except.map]
  | more inside searched all _ induction =>
      subst all
      have within := forward _ _ (here inside) searched
      have further := induction within.boundary_resumeOffset
      rw [startingAt, dif_pos inside, searched]
      simp [within.lt_resumeOffset, further, ofSeries, splice, prepend,
        Except.map]

/-- A match in its own place, with the text on both sides of it. -/
theorem slice_append_text {found : Match} {text : Text} {last offset : Nat}
    (within : found.Within text offset) (boundary : text.Boundary last)
    (passed : last ≤ offset) :
    text.slice last found.start ++ found.text ++ text.dropBytes found.stop =
      text.dropBytes last := by
  rw [Match.text, within.input, List.append_assoc,
    within.starts.slice_append_dropBytes within.stops within.ordered,
    boundary.slice_append_dropBytes within.starts
      (Nat.le_trans passed within.behind)]

private theorem splice_texts {find : Finder} {everywhere : Bool} {text : Text}
    (forward : find.Forward text) {offset : Nat} {series : List Match}
    (successive : find.Successive everywhere text offset series)
    (here : offset ≤ text.byteSize → text.Boundary offset) {last : Nat}
    (boundary : text.Boundary last) (passed : last ≤ offset) :
    splice text last series (series.map Match.text) = text.dropBytes last := by
  induction successive generalizing last with
  | beyond _ => rfl
  | none _ _ => rfl
  | only inside searched _ =>
      exact slice_append_text (forward _ _ (here inside) searched) boundary
        passed
  | more inside searched _ _ induction =>
      have within := forward _ _ (here inside) searched
      have others := induction within.boundary_resumeOffset within.stops
        (Match.Within.stop_le_resumeOffset _ _)
      rw [List.map_cons, splice, others]
      exact slice_append_text within boundary passed

private theorem expandOnce_whole (found : Match) (groups : GroupIndex) :
    Replacer.expandOnce ['$', '&'] found groups = found.text := by
  simp [Replacer.expandOnce, Template.resolve, Template.expand, Template.tokens,
    Template.Token.value]

/-- A template is asked for once and expanded for each match.  Any other
replacer is run on one match after the other. -/
theorem replace_eq_ofSeries {find : Finder} {everywhere : Bool} {text : Text}
    (forward : find.Forward text) {series : List Match}
    (successive : find.Successive everywhere text 0 series)
    (groups : GroupIndex) (replacer : Replacer m) :
    replace find groups everywhere text replacer =
      do match ← replacer.template with
      | some template =>
          return .ok (ofSeries text 0 series (series.map fun found =>
            Replacer.expandOnce template found groups))
      | none =>
          let inserted ← series.mapM fun found => replacer.append found groups
          return .ok (ofSeries text 0 series inserted) := by
  have start : 0 ≤ text.byteSize → text.Boundary 0 := fun _ => .zero text
  refine bind_congr fun template => ?_
  cases template with
  | none => exact startingAt_eq forward successive start _ 0
  | some template =>
      dsimp only
      rw [startingAt_eq forward successive start]
      simp [Replacer.expandOnce]

/-- Where the engine only gets ahead, there is one series of matches, and a
replacement is the text between them with what stands for each: the expansion of
the template, which is asked for once, or what the replacer gives when it is run
on one match after the other.  `NamedRegex.replace` is this for the searches of
its own engine. -/
theorem replace_splices_series (searches : Searches) (text : Text)
    (groups : GroupIndex) (everywhere : Bool) (forward : searches.Forward text)
    (answers : ∀ offset,
      (Finder.ofSearches searches text groups).SearchedFrom everywhere text
        offset → ∃ answer, searches offset = .ok answer) :
    ∃ series : List Match,
      (∀ others,
        (Finder.ofSearches searches text groups).Successive everywhere text 0
          others ↔ others = series) ∧
      (∀ found ∈ series, found.Within text 0) ∧
      (series.Pairwise fun earlier later =>
        earlier.stop ≤ later.start ∧ earlier.start < later.start) ∧
      (∀ inserted,
        (ofSeries text 0 series inserted).replaced = false ↔ series = []) ∧
      (series = [] →
        ∀ inserted, (ofSeries text 0 series inserted).text = text) ∧
      ∀ {m : Type → Type} [Monad m] [LawfulMonad m],
        (∀ replacer : Replacer m,
          replace (Finder.ofSearches searches text groups) groups everywhere
              text replacer = do
            match ← replacer.template with
            | some template =>
                return .ok (ofSeries text 0 series (series.map fun found =>
                  Replacer.expandOnce template found groups))
            | none =>
                let inserted ← series.mapM fun found =>
                  replacer.append found groups
                return .ok (ofSeries text 0 series inserted)) ∧
        (∀ template : Text,
          replace (m := m) (Finder.ofSearches searches text groups) groups
              everywhere text (.ofTemplate template) =
            replace (Finder.ofSearches searches text groups) groups everywhere
              text (.eachTemplate template)) ∧
        replace (m := m) (Finder.ofSearches searches text groups) groups
              everywhere text (.ofTemplate ['$', '&']) =
            pure (.ok ⟨text, series.length⟩) := by
  have finds := Finder.forward_ofSearches forward groups
  have start : 0 ≤ text.byteSize → text.Boundary 0 := fun _ => .zero text
  obtain ⟨series, successive⟩ := Finder.exists_successive finds
    (fun offset searched =>
      Finder.exists_ofSearches (answers offset searched) text groups)
    (fun _ => ⟨.zero text, .start⟩)
  refine ⟨series, fun others => ⟨fun other => other.unique successive, ?_⟩,
    successive.forall_within finds start, successive.pairwise finds start, ?_,
    ?_, ?_⟩
  · rintro rfl
    exact successive
  · simp [ofSeries, replaced]
  · rintro rfl inserted
    simp [ofSeries, splice]
  · intro m _ _
    have replaces := replace_eq_ofSeries (m := m) finds successive groups
    refine ⟨replaces, fun template => ?_, ?_⟩
    · simp [replaces, Replacer.ofTemplate, Replacer.eachTemplate]
    · have whole :=
        splice_texts finds successive start (.zero text) (Nat.le_refl 0)
      simp [replaces, Replacer.ofTemplate, expandOnce_whole, ofSeries, whole]

/-- Two empty matches and one that is not, with an empty match right behind
it. -/
theorem replace_splices_series_repeated :
    ∃ regex series,
      NamedRegex.compile Engine.builtIn (.text ['b', '*']) (some ['g']) =
          .ok regex ∧
        (regex.searchFrom ['é', 'b', 'b']).Successive true ['é', 'b', 'b'] 0
          series ∧
        series.length = 3 ∧
        ∀ replacer : Replacer (StateM Nat), replacer.template = pure none →
          regex.replace ['é', 'b', 'b'] replacer = do
            let inserted ← series.mapM fun found =>
              replacer.append found regex.groups
            return .ok (ofSeries ['é', 'b', 'b'] 0 series inserted) := by
  obtain ⟨regex, compiled, checked⟩ :=
    NamedRegex.exists_of_checked Engine.builtIn (.text ['b', '*']) (some ['g'])
      (fun regex => regex.flags.global &&
        decide ((regex.searches ['é', 'b', 'b']).Forward ['é', 'b', 'b']) &&
        decide (∀ offset : Nat, offset < 5 →
          (regex.searches ['é', 'b', 'b'] offset).toOption.isSome) &&
        decide (Except.toOption
          (regex.replace (m := Id) ['é', 'b', 'b'] (.ofTemplate ['$', '&'])) =
            some ⟨['é', 'b', 'b'], 3⟩)) (by decide +kernel)
  simp only [Bool.and_eq_true, decide_eq_true_eq] at checked
  obtain ⟨⟨⟨everywhere, forward⟩, answered⟩, three⟩ := checked
  obtain ⟨series, unique, -, -, -, -, replaces⟩ := replace_splices_series
    (regex.searches ['é', 'b', 'b']) ['é', 'b', 'b'] regex.groups true forward
    (fun offset searched => by
      have inside : offset ≤ 4 := searched.le_byteSize
      exact exists_eq_ok_of_isSome (answered offset (by omega)))
  refine ⟨regex, series, compiled, (unique series).mpr rfl, ?_,
    fun replacer plain => ?_⟩
  · have whole := (replaces (m := Id)).2.2
    rw [NamedRegex.replace, everywhere] at three
    have same := congrArg Except.toOption whole
    exact congrArg count (Option.some.inj (same.symm.trans three))
  · have run := (replaces (m := StateM Nat)).1 replacer
    rw [plain, pure_bind] at run
    rw [NamedRegex.replace, everywhere]
    exact run

end Replacement

end NamedGroups
