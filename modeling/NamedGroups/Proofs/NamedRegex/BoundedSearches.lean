import NamedGroups.Proofs.NamedRegex.AnchoredSplitting
import NamedGroups.Proofs.NamedRegex.SplicedMatches

/-!
# Few searches and whole slices

The loops that replace matches and split texts are run once more, with nothing
that would keep a bad run alive: each slice fails unless it goes from one
boundary up to another, each search is taken from a budget, and no iteration is
asked whether it has got ahead.  The offsets at which the iterations start are
kept.  An engine that only gets ahead makes them go up from boundary to
boundary.  Then at each search there are fewer characters left than at the one
before, so the characters of the text are budget enough, no slice fails, and the
results are those of the loops themselves.
-/

namespace NamedGroups

namespace Text

def dropBytes? (text : Text) (start : Nat) : Option Text :=
  if text.Boundary start then some (text.dropBytes start) else none

def slice? (text : Text) (start stop : Nat) : Option Text :=
  if start ≤ stop ∧ text.Boundary start ∧ text.Boundary stop then
    some (text.slice start stop)
  else none

def nextOffset? (text : Text) (offset : Nat) : Option Nat := do
  match ← text.dropBytes? offset with
  | [] => return offset + 1
  | character :: _ => return offset + character.utf8Size

namespace Boundary

variable {text : Text} {start stop : Nat}

theorem dropBytes?_eq (here : text.Boundary start) :
    text.dropBytes? start = some (text.dropBytes start) := if_pos here

theorem slice?_eq (first : text.Boundary start) (second : text.Boundary stop)
    (ordered : start ≤ stop) :
    text.slice? start stop = some (text.slice start stop) :=
  if_pos ⟨ordered, first, second⟩

theorem nextOffset?_eq (here : text.Boundary start) :
    text.nextOffset? start = some (text.nextOffset start) := by
  rw [Text.nextOffset?, here.dropBytes?_eq, Text.nextOffset]
  cases text.dropBytes start <;> rfl

theorem length_dropBytes_lt (first : text.Boundary start)
    (second : text.Boundary stop) (ahead : start < stop) :
    (text.dropBytes stop).length < (text.dropBytes start).length := by
  obtain ⟨before, middle, after, rfl, rfl, rfl⟩ :=
    first.between second (Nat.le_of_lt ahead)
  cases middle with
  | nil => simp at ahead
  | cons character middle =>
      rw [← byteSize_append, dropBytes_append, List.append_assoc,
        dropBytes_append]
      simp only [List.cons_append, List.length_cons, List.length_append]
      omega

end Boundary

end Text

namespace Match

/-- The offset of the next search, with the slice that looks for the next
character checked. -/
def resumeOffset? (found : Match) (text : Text) : Option Nat :=
  if found.start = found.stop then text.nextOffset? found.stop
  else some found.stop

namespace Within

variable {found : Match} {text : Text} {offset : Nat}

theorem resumeOffset?_eq (within : found.Within text offset) :
    found.resumeOffset? text = some (found.resumeOffset text) := by
  unfold resumeOffset? resumeOffset
  split
  · exact within.stops.nextOffset?_eq
  · rfl

/-- A match in front of the end of the text leaves the next search in the
text. -/
theorem resumeOffset_le (within : found.Within text offset)
    (before : found.start < text.byteSize) :
    found.resumeOffset text ≤ text.byteSize := by
  by_cases empty : found.start = found.stop
  · rw [resumeOffset_of_empty empty]
    exact (within.starts.nextOffset before).le_byteSize
  · rw [resumeOffset, if_neg empty]
    exact within.stops.le_byteSize

theorem resumeOffset_of_atEnd (within : found.Within text offset)
    (atEnd : text.byteSize ≤ found.start) :
    found.resumeOffset text = text.byteSize + 1 := by
  have ordered := within.ordered
  have bounded := within.stops.le_byteSize
  have last : found.start = text.byteSize := by omega
  rw [resumeOffset_of_empty (by omega), last, Text.nextOffset_byteSize]

end Within

end Match

/-- What holds at the head of an iteration: both offsets are at boundaries, but
for a search offset right behind the end of the text, and fewer characters are
left than searches may be made. -/
structure Head (text : Text) (limit last offset : Nat) : Prop where
  boundary : text.Boundary last
  passed : last ≤ offset
  place : text.Boundary offset ∨ offset = text.byteSize + 1
  enough : offset ≤ text.byteSize → (text.dropBytes offset).length < limit

namespace Head

variable {text : Text} {limit last offset : Nat} {found : Match}

theorem start (text : Text) : Head text (text.length + 1) 0 0 := by
  constructor
  · exact .zero text
  · exact Nat.le_refl 0
  · exact .inl (.zero text)
  · intro _
    rw [Text.dropBytes_zero]
    exact Nat.lt_succ_self _

theorem here (head : Head text limit last offset)
    (inside : offset ≤ text.byteSize) : text.Boundary offset := by
  rcases head.place with boundary | beyond
  · exact boundary
  · omega

theorem next (head : Head text (limit + 1) last offset)
    (inside : offset ≤ text.byteSize) (within : found.Within text offset) :
    Head text limit found.stop (found.resumeOffset text) := by
  constructor
  · exact within.stops
  · exact Match.Within.stop_le_resumeOffset found text
  · rcases Nat.lt_or_ge found.start text.byteSize with before | atEnd
    · exact .inl (within.boundary_resumeOffset (within.resumeOffset_le before))
    · exact .inr (within.resumeOffset_of_atEnd atEnd)
  · intro further
    have fewer :=
      (head.here inside).length_dropBytes_lt
        (within.boundary_resumeOffset further) within.lt_resumeOffset
    have enough := head.enough inside
    omega

end Head

/-- Offsets that go up from a first one, all of them at places of some kind. -/
structure Ascending (place : Nat → Prop) (offset : Nat) (heads : List Nat) :
    Prop where
  first : heads.head? = some offset
  rising : heads.Pairwise (· < ·)
  places : ∀ head ∈ heads, place head

namespace Ascending

variable {place : Nat → Prop} {offset : Nat}

theorem single (here : place offset) : Ascending place offset [offset] := by
  constructor
  · rfl
  · exact List.pairwise_singleton _ offset
  · simpa using here

theorem cons (here : place offset) {resume : Nat} {heads : List Nat}
    (ahead : offset < resume) (ascending : Ascending place resume heads) :
    Ascending place offset (offset :: heads) := by
  obtain ⟨first, rising, places⟩ := ascending
  cases heads with
  | nil => cases first
  | cons head heads =>
      cases first
      constructor
      · rfl
      · refine List.pairwise_cons.mpr ⟨fun later member => ?_, rising⟩
        obtain rfl | among := List.mem_cons.mp member
        · exact ahead
        · exact Nat.lt_trans ahead (List.rel_of_pairwise_cons rising among)
      · exact List.forall_mem_cons.mpr ⟨here, places⟩

end Ascending

namespace Replacement

section Run

variable {m : Type → Type} [Monad m]

/-- The loop that replaces matches, with its slices checked and with a budget of
searches.  It gives the offsets at which its iterations start, and its
result. -/
def run (find : Finder) (render : Match → m Text) (everywhere : Bool)
    (text : Text) (budget last offset : Nat) :
    OptionT m (List Nat × Except EngineError Replacement) :=
  if offset ≤ text.byteSize then
    match budget with
    | 0 => failure
    | budget + 1 =>
        match find offset with
        | .error error => return ([offset], .error error)
        | .ok none => do
            let rest ← (text.dropBytes? last).getM
            return ([offset], .ok ⟨rest, 0⟩)
        | .ok (some found) => do
            let piece ← (text.slice? last found.start).getM
            let inserted ← OptionT.lift (render found)
            if everywhere then
              let resume ← (found.resumeOffset? text).getM
              let (heads, tail) ← run find render everywhere text budget
                found.stop resume
              return (offset :: heads, tail.map (prepend piece inserted))
            else
              let rest ← (text.dropBytes? found.stop).getM
              return ([offset], .ok (prepend piece inserted ⟨rest, 0⟩))
  else do
    let rest ← (text.dropBytes? last).getM
    return ([offset], .ok ⟨rest, 0⟩)

end Run

variable {find : Finder} {everywhere : Bool} {text : Text}
    {budget last offset : Nat}

private theorem run_of_outside {m : Type → Type} [Monad m] [LawfulMonad m]
    (outside : text.byteSize < offset) (boundary : text.Boundary last)
    (render : Match → m Text) :
    (run find render everywhere text budget last offset).run =
      return some
        ([offset], ← startingAt find render everywhere text last offset) := by
  rw [run.eq_def, if_neg (by omega), startingAt, dif_neg (by omega),
    boundary.dropBytes?_eq]
  simp [Option.getM]

/-- With enough searches, the run goes to its end, and each of its iterations
starts further on. -/
theorem exists_run_eq (forward : find.Forward text)
    (head : Head text budget last offset) :
    ∃ heads,
      Ascending (fun place => text.Boundary place ∨ place = text.byteSize + 1)
          offset heads ∧
        ∀ {m : Type → Type} [Monad m] [LawfulMonad m] (render : Match → m Text),
          (run find render everywhere text budget last offset).run =
            return some (heads,
              ← startingAt find render everywhere text last offset) := by
  induction budget generalizing last offset with
  | zero =>
      have outside : text.byteSize < offset := by
        apply Nat.lt_of_not_le
        intro inside
        exact Nat.not_lt_zero _ (head.enough inside)
      exact ⟨[offset], .single head.place, run_of_outside outside head.boundary⟩
  | succ budget induction =>
      by_cases outside : text.byteSize < offset
      · exact ⟨[offset], .single head.place,
          run_of_outside outside head.boundary⟩
      have inside : offset ≤ text.byteSize := by omega
      rcases answered : find offset with error | _ | found
      · refine ⟨[offset], .single head.place, fun render => ?_⟩
        rw [run, if_pos inside, startingAt, dif_pos inside, answered]
        simp
      · refine ⟨[offset], .single head.place, fun render => ?_⟩
        rw [run, if_pos inside, startingAt, dif_pos inside, answered,
          head.boundary.dropBytes?_eq]
        simp [Option.getM]
      have within := forward offset found (head.here inside) answered
      have piece :=
        head.boundary.slice?_eq within.starts
          (Nat.le_trans head.passed within.behind)
      cases all : everywhere with
      | false =>
          refine ⟨[offset], .single head.place, fun render => ?_⟩
          rw [run, if_pos inside, startingAt, dif_pos inside, answered]
          simp [Option.getM, piece, within.stops.dropBytes?_eq, Except.map]
      | true =>
          subst all
          have ahead := within.lt_resumeOffset
          obtain ⟨heads, ascending, runs⟩ := induction (head.next inside within)
          refine ⟨offset :: heads, ascending.cons head.place ahead,
            fun render => ?_⟩
          rw [run, if_pos inside, startingAt, dif_pos inside, answered]
          simp [Option.getM, piece, within.resumeOffset?_eq, ahead, runs]

end Replacement

namespace Splitting

/-- The loop that splits a text, with its slices checked and with a budget of
searches.  It gives the offsets at which its iterations start, and its
result. -/
def run (find : Finder) (text : Text) (budget last offset : Nat) :
    Option (List Nat × Except EngineError (List (Option Text))) :=
  if offset < text.byteSize then
    match budget with
    | 0 => none
    | budget + 1 =>
        match find offset with
        | .error error => some ([offset], .error error)
        | .ok none => do
            let rest ← text.dropBytes? last
            return ([offset], .ok [some rest])
        | .ok (some found) =>
            if text.byteSize ≤ found.start then do
              let rest ← text.dropBytes? last
              return ([offset], .ok [some rest])
            else if found.stop = last then do
              let resume ← text.nextOffset? found.start
              let (heads, tail) ← run find text budget last resume
              return (offset :: heads, tail)
            else do
              let piece ← text.slice? last found.start
              let resume ← found.resumeOffset? text
              let (heads, tail) ← run find text budget found.stop resume
              return (offset :: heads, tail.map fun others =>
                some piece :: (found.captures ++ others))
  else do
    let rest ← text.dropBytes? last
    return ([offset], .ok [some rest])

variable {find : Finder} {text : Text} {budget last offset : Nat}

private theorem run_of_outside (outside : text.byteSize ≤ offset)
    (boundary : text.Boundary last) :
    run find text budget last offset =
      some ([offset], pieces find text last offset) := by
  rw [run.eq_def, if_neg (by omega), pieces_of_outside outside,
    boundary.dropBytes?_eq]
  rfl

/-- With enough searches, the run goes to its end, and each of its iterations
starts further on.  There is no search at the end of the text, so one search
less is enough. -/
theorem exists_run_eq (forward : find.Forward text)
    (head : Head text (budget + 1) last offset)
    (bounded : offset ≤ text.byteSize) :
    ∃ heads, Ascending text.Boundary offset heads ∧
      run find text budget last offset =
        some (heads, pieces find text last offset) := by
  induction budget generalizing last offset with
  | zero =>
      have outside : text.byteSize ≤ offset := by
        apply Nat.le_of_not_lt
        intro inside
        have fewer :=
          (head.here bounded).length_dropBytes_lt (.whole text) inside
        have enough := head.enough bounded
        omega
      exact ⟨[offset], .single (head.here bounded),
        run_of_outside outside head.boundary⟩
  | succ budget induction =>
      have here := head.here bounded
      by_cases outside : text.byteSize ≤ offset
      · exact ⟨[offset], .single here, run_of_outside outside head.boundary⟩
      have inside : offset < text.byteSize := by omega
      rcases answered : find offset with error | _ | found
      · refine ⟨[offset], .single here, ?_⟩
        rw [run, if_pos inside, pieces, dif_pos inside, answered]
      · refine ⟨[offset], .single here, ?_⟩
        rw [run, if_pos inside, pieces_of_none inside answered, answered,
          head.boundary.dropBytes?_eq]
        rfl
      by_cases atEnd : text.byteSize ≤ found.start
      · refine ⟨[offset], .single here, ?_⟩
        rw [run, if_pos inside, pieces_of_atEnd inside answered atEnd, answered]
        simp [atEnd, head.boundary.dropBytes?_eq]
      have before : found.start < text.byteSize := by omega
      have within := forward offset found here answered
      have ahead := within.lt_resumeOffset
      obtain ⟨heads, ascending, runs⟩ :=
        induction (head.next bounded within) (within.resumeOffset_le before)
      refine ⟨offset :: heads, ascending.cons here ahead, ?_⟩
      by_cases again : found.stop = last
      · have ordered := within.ordered
        have passed := head.passed
        have behind := within.behind
        rw [Match.resumeOffset_of_empty (by omega), again] at runs
        rw [run, if_pos inside,
          pieces_of_stop_eq inside answered before again behind, answered]
        simp [atEnd, again, within.starts.nextOffset?_eq, runs]
      · have piece := head.boundary.slice?_eq within.starts
          (Nat.le_trans head.passed within.behind)
        rw [run, if_pos inside,
          pieces_of_separator inside answered before again ahead, answered]
        simp [atEnd, again, piece, within.resumeOffset?_eq, runs]

end Splitting

/-- Where the engine only gets ahead, the loops come to their end with no slice
that fails.  At each iteration the offset is further on, at a boundary of the
text or, when matches are replaced, right behind its end.  Replacing makes at
most one search more than the text has characters, and splitting at most as many
as it has; the empty text is split without the loop, by asking whether it is a
match (`Splitting.split_nil`). -/
theorem loops_within_length (searches : Searches) (text : Text)
    (groups : GroupIndex) (forward : searches.Forward text) :
    (∀ everywhere, ∃ heads,
      Ascending (fun place => text.Boundary place ∨ place = text.byteSize + 1) 0
          heads ∧
        ∀ {m : Type → Type} [Monad m] [LawfulMonad m] (render : Match → m Text),
          (Replacement.run (Finder.ofSearches searches text groups) render
            everywhere text (text.length + 1) 0 0).run =
            return some (heads,
              ← Replacement.startingAt (Finder.ofSearches searches text groups)
                render everywhere text 0 0)) ∧
      (∃ heads, Ascending text.Boundary 0 heads ∧
        Splitting.run (Finder.ofSearches searches text groups) text text.length
            0 0 =
          some (heads,
            Splitting.pieces (Finder.ofSearches searches text groups) text 0
              0)) ∧
      (text ≠ [] →
        ∀ isMatch : Except EngineError Bool,
          Splitting.split isMatch (Finder.ofSearches searches text groups)
              text =
            Splitting.pieces (Finder.ofSearches searches text groups) text 0
              0) := by
  have finds := Finder.forward_ofSearches forward groups
  refine ⟨fun everywhere => ?_, ?_, ?_⟩
  · exact Replacement.exists_run_eq finds (.start text)
  · exact Splitting.exists_run_eq finds (.start text) (Nat.zero_le _)
  · exact Splitting.split_of_ne_nil

/-- Three searches go on from an empty match over a character of two bytes, from
one that is not empty, and from one at the end of the text.  Splitting does
without the last one. -/
theorem loops_within_length_repeated :
    ∃ regex replacing splitting,
      NamedRegex.compile Engine.builtIn (.text ['b', '*']) (some ['g']) =
          .ok regex ∧
        (∀ render : Match → StateM Nat Text,
          (Replacement.run (regex.searchFrom ['é', 'b', 'b']) render true
            ['é', 'b', 'b'] 4 0 0).run =
            return some (replacing,
              ← Replacement.startingAt (regex.searchFrom ['é', 'b', 'b']) render
                true ['é', 'b', 'b'] 0 0)) ∧
        Splitting.run (regex.searchFrom ['é', 'b', 'b']) ['é', 'b', 'b'] 3 0 0 =
          some (splitting, regex.split ['é', 'b', 'b']) ∧
        replacing = [0, 2, 4, 5] ∧ splitting = [0, 2, 4] := by
  obtain ⟨regex, compiled, checked⟩ :=
    NamedRegex.exists_of_checked Engine.builtIn (.text ['b', '*']) (some ['g'])
      (fun regex =>
        decide ((regex.searches ['é', 'b', 'b']).Forward ['é', 'b', 'b']) &&
        decide (Option.map Prod.fst (Id.run (Replacement.run
          (regex.searchFrom ['é', 'b', 'b']) (fun found => pure found.text) true
          ['é', 'b', 'b'] 4 0 0).run) = some [0, 2, 4, 5]) &&
        decide ((Splitting.run (regex.searchFrom ['é', 'b', 'b'])
          ['é', 'b', 'b'] 3 0 0).map Prod.fst = some [0, 2, 4]))
      (by decide +kernel)
  simp only [Bool.and_eq_true, decide_eq_true_eq] at checked
  obtain ⟨⟨forward, places⟩, splits⟩ := checked
  obtain ⟨replaces, ⟨splitting, -, pieces⟩, whole⟩ := loops_within_length
    (regex.searches ['é', 'b', 'b']) ['é', 'b', 'b'] regex.groups forward
  obtain ⟨replacing, -, runs⟩ := replaces true
  refine ⟨regex, replacing, splitting, compiled, runs, ?_, ?_, ?_⟩
  · rw [NamedRegex.split, NamedRegex.searchFrom, whole (by simp) (regex.test _)]
    exact pieces
  · have first := congrArg Id.run (runs (m := Id) fun found => pure found.text)
    have same := (congrArg (Option.map Prod.fst) first).symm.trans places
    simpa using same
  · have same := (congrArg (Option.map Prod.fst) pieces).symm.trans splits
    simpa using same

end NamedGroups
