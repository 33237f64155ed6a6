import Hygiene.Proofs.Python.Interspersed
import Hygiene.Python.Parse
import Mathlib.Data.List.TakeWhile

/-!
# What readings have on their stacks

Whatever is read of a source is put together as the table says. A phrase has a part for each step of
its production, and besides only what was laid aside (`Fits`). A stack is built from such parts, and
the state above each part has gone on, over that part, from the state below it (`Built`). So where a
state has a production under way, the parts that its first steps ask for are those on top of the
stack (`Built.takeParts`), and what is completed is again a part as the table says
(`Built.complete`). All stacks of all readings are built so, those of whole sources as well
(`built_of_mem_run`).
-/

set_option autoImplicit false

namespace Hygiene.Python

open Hygiene.Pointwise

/-- A part that is what a numbered symbol asks for: the token of that number, or a phrase with that
head and a part for each step of its production, with things laid aside between the parts. The
production that makes up a whole source makes no part. -/
inductive Fits (table : Table) : Code → Part → Prop
  | token (number : Nat) (first last : Place) :
      Fits table (.token number) (.token number first last)
  | phrase {production : Nat} {parts : List Part} (weight : Int)
      (inner : production + 1 ≠ table.productions.size)
      (steps : Interspersed (fun (step : CodedStep) part => Fits table step.code part)
        (fun part => part.isAside = true)
        (table.productions.getD production default).steps.toList parts) :
      Fits table (.head (table.productions.getD production default).head)
        (.phrase production weight parts)

/-- Parts that fit some steps one after the other, with things laid aside between them. -/
def FitSteps (table : Table) : List CodedStep → List Part → Prop :=
  Interspersed (fun step part => Fits table step.code part) fun part => part.isAside = true

theorem Fits.isAside {table : Table} {code : Code} {part : Part} (fits : Fits table code part) :
    part.isAside = false := by
  cases fits <;> rfl

/-! ## States -/

namespace Table

variable (table : Table)

theorem kernel_close (kernel : List Item) : (table.close kernel).kernel = kernel := by
  rw [close]
  split <;> rfl

/-- Of what has just begun in a state no step is read. -/
theorem mem_items_close {kernel : List Item} {item : Item}
    (member : item ∈ (table.close kernel).items) : item ∈ kernel ∨ item.dot = 0 := by
  rcases List.mem_append.mp member with inside | inside
  · rw [kernel_close] at inside
    exact .inl inside
  · obtain ⟨opening, -, rfl⟩ := List.mem_map.mp inside
    exact .inr rfl

theorem dot_of_mem_start {item : Item} (member : item ∈ table.start.items) : item.dot = 0 := by
  rcases table.mem_items_close member with inside | zero
  · rw [List.mem_singleton.mp inside]
  · exact zero

/-- What has read a symbol was waiting for it. -/
theorem mem_advanced {state : State} {code : Code} {item : Item}
    (member : item ∈ table.advanced state code) :
    ∃ before ∈ state.items, table.next? before = some code ∧
      item = { before with dot := before.dot + 1 } := by
  obtain ⟨before, inside, found⟩ := List.mem_filterMap.mp member
  split at found
  · rename_i waits
    exact ⟨before, inside, waits, (Option.some.inj found).symm⟩
  · cases found

theorem goto_eq {state next : State} {head : Nat} (goes : table.goto? state head = some next) :
    next = table.close (table.advanced state (.head head)) := by
  rw [goto?] at goes
  split at goes
  · cases goes
  · rename_i item others advanced
    rw [advanced]
    exact (Option.some.inj goes).symm

/-- A decision takes what there was to read, or what there was to complete, or both. -/
theorem decide_cases (state : State) (token : Nat) (reading complete : List Item) :
    ((table.decide state token reading complete).read = [] ∨
        (table.decide state token reading complete).read = reading) ∧
      ((table.decide state token reading complete).complete = [] ∨
        (table.decide state token reading complete).complete = complete.map Item.production) := by
  unfold decide
  dsimp only
  split_ifs <;> simp

/-- What a state reads a token with was waiting for it. -/
theorem moves_read (state : State) (token : Nat) :
    (table.moves state token).read = [] ∨
      (table.moves state token).read = table.advanced state (.token token) := by
  rw [moves]
  split
  · exact .inr rfl
  · exact (table.decide_cases _ _ _ _).1

/-- What a state completes at a token is under way there with all its steps read. -/
theorem mem_moves_complete {state : State} {token production : Nat}
    (member : production ∈ (table.moves state token).complete) :
    ∃ item ∈ state.items, table.isComplete item = true ∧ item.production = production := by
  have listed : production ∈ (table.completions state token).map Item.production := by
    rw [moves] at member
    split at member
    · exact member
    · rcases (table.decide_cases state token (table.advanced state (.token token))
        (table.completions state token)).2 with nothing | all
      · rw [nothing] at member
        cases member
      · rwa [all] at member
  obtain ⟨item, inside, rfl⟩ := List.mem_map.mp listed
  rw [completions, List.mem_filter, List.mem_filter, Bool.and_eq_true] at inside
  exact ⟨item, inside.1.1, inside.1.2.1, rfl⟩

end Table

/-! ## Stacks -/

namespace Reading

variable {table : Table}

/-- A stack on which each part fits what the state below it goes on over, to the state above it.
What is laid aside leaves the state. -/
inductive Built (table : Table) : List Frame → Prop
  | nil : Built table []
  | aside {frames : List Frame} {part : Part} (aside : part.isAside = true)
      (below : Built table frames) : Built table (⟨part, stateOf table frames⟩ :: frames)
  | read {frames : List Frame} {part : Part} {code : Code} (fits : Fits table code part)
      (below : Built table frames) :
      Built table (⟨part, table.close (table.advanced (stateOf table frames) code)⟩ :: frames)

namespace Built

variable {frames : List Frame} (built : Built table frames)
include built

/-- No more steps are read of what is under way than there are. -/
theorem dot_le {item : Item} (member : item ∈ (stateOf table frames).items) :
    item.dot ≤ (table.productionOf item).steps.size := by
  induction built with
  | nil => simp [table.dot_of_mem_start member]
  | aside _ _ ih => exact ih member
  | read _ _ ih =>
    rcases table.mem_items_close member with advanced | zero
    · obtain ⟨before, -, waits, rfl⟩ := table.mem_advanced advanced
      obtain ⟨step, found, -⟩ := Option.map_eq_some_iff.mp waits
      exact (Array.getElem?_eq_some_iff.mp found).1
    · simp [zero]

/-- **Where a production is under way, the parts for its first steps are on top of the stack.** -/
theorem takeParts {item : Item} (member : item ∈ (stateOf table frames).items) {later : List Part}
    (rest : FitSteps table ((table.productionOf item).steps.toList.drop item.dot) later) :
    FitSteps table (table.productionOf item).steps.toList
        (Reading.takeParts item.dot frames later).1 ∧
      Built table (Reading.takeParts item.dot frames later).2 := by
  induction built generalizing item later with
  | nil =>
    rw [table.dot_of_mem_start member] at rest ⊢
    exact ⟨rest, .nil⟩
  | @aside frames part aside below ih =>
    cases dot : item.dot with
    | zero =>
      rw [dot] at rest
      exact ⟨rest, .aside aside below⟩
    | succ count =>
      rw [Reading.takeParts, if_pos aside, ← dot]
      exact ih member (.added aside rest)
  | @read frames part code fits below ih =>
    cases dot : item.dot with
    | zero =>
      rw [dot] at rest
      exact ⟨rest, .read fits below⟩
    | succ count =>
      rcases table.mem_items_close member with advanced | zero
      · obtain ⟨before, inside, waits, rfl⟩ := table.mem_advanced advanced
        obtain rfl : before.dot = count := Nat.succ.inj dot
        obtain ⟨step, found, rfl⟩ := Option.map_eq_some_iff.mp waits
        obtain ⟨listed, rfl⟩ := Array.getElem?_eq_some_iff.mp found
        rw [Reading.takeParts, fits.isAside, if_neg Bool.false_ne_true]
        apply ih inside
        rw [List.drop_eq_getElem_cons (by simpa using listed)]
        exact .kept fits rest
      · rw [zero] at dot
        cases dot

omit built in
/-- Things laid aside on top of a stack leave its state. -/
theorem beneath {above : List Frame} (asides : ∀ frame ∈ above, frame.part.isAside = true)
    (built : Built table (above ++ frames)) :
    Built table frames ∧ stateOf table (above ++ frames) = stateOf table frames := by
  induction above with
  | nil => exact ⟨built, rfl⟩
  | cons frame above ih =>
    rw [List.forall_mem_cons] at asides
    cases built with
    | aside _ below => exact ih asides.2 below
    | read fits _ => exact absurd (fits.isAside.symm.trans asides.1) Bool.false_ne_true

/-- Things can be laid aside on top of a stack. -/
theorem layAside {above : List Frame} (asides : ∀ frame ∈ above, frame.part.isAside = true) :
    Built table
      (above.map (fun frame => { frame with state := stateOf table frames }) ++ frames) := by
  induction above with
  | nil => exact built
  | cons frame above ih =>
    rw [List.forall_mem_cons] at asides
    have same : stateOf table
        (above.map (fun frame => { frame with state := stateOf table frames }) ++ frames) =
          stateOf table frames := by
      cases above <;> rfl
    have placed := Built.aside asides.1 (ih asides.2)
    rwa [same] at placed

/-- What is completed on a stack is a part as the table says. -/
theorem complete {item : Item} (member : item ∈ (stateOf table frames).items)
    (read : table.isComplete item = true) (inner : item.production + 1 ≠ table.productions.size)
    {reached : List Frame} (completed : complete table item.production frames = some reached) :
    Built table reached := by
  have dot : item.dot = (table.productions.getD item.production default).steps.size :=
    Nat.le_antisymm (built.dot_le member) (of_decide_eq_true read)
  rw [Reading.complete] at completed
  dsimp only at completed
  -- What was laid aside on top of the last part stays there.
  generalize apart : (if (table.productions.getD item.production default).steps.isEmpty then [] else
    frames.takeWhile fun frame => frame.part.isAside) = above at completed
  have onTop : above <+: frames ∧ ∀ frame ∈ above, frame.part.isAside = true := by
    rw [← apart]
    split
    · exact ⟨List.nil_prefix, nofun⟩
    · refine ⟨List.takeWhile_prefix _, fun frame inside => ?_⟩
      have aside := List.mem_takeWhile_imp inside
      exact aside
  obtain ⟨⟨frames, rfl⟩, asides⟩ := onTop
  clear apart
  obtain ⟨built, same⟩ := built.beneath asides
  rw [same] at member
  rw [List.drop_left, ← dot] at completed
  have nothing : FitSteps table ((table.productionOf item).steps.toList.drop item.dot) [] := by
    rw [List.drop_of_length_le]
    · exact .nil
    · rw [Array.length_toList, dot]
      exact Nat.le_refl _
  obtain ⟨fits, below⟩ := built.takeParts member nothing
  obtain ⟨state, goes, rfl⟩ := Option.map_eq_some_iff.mp completed
  obtain rfl := table.goto_eq goes
  exact (below.read (.phrase _ inner fits)).layAside asides

end Built

/-! ## Readings -/

/-- All stacks that come of a token are built as the table says, if those are that it is read on. -/
theorem built_extend (token : ReadToken) (bound : Nat) {pending : List (List Frame)}
    {outcome : Outcome} (waiting : ∀ frames ∈ pending, Built table frames)
    (extended : ∀ frames ∈ outcome.extended, Built table frames)
    (whole : ∀ frames ∈ outcome.whole, Built table frames) :
    (∀ frames ∈ (extend table token bound pending outcome).extended, Built table frames) ∧
      ∀ frames ∈ (extend table token bound pending outcome).whole, Built table frames := by
  induction bound generalizing pending outcome with
  | zero => exact ⟨extended, whole⟩
  | succ bound ih =>
    cases pending with
    | nil => exact ⟨extended, whole⟩
    | cons frames pending =>
      rw [List.forall_mem_cons] at waiting
      obtain ⟨built, waiting⟩ := waiting
      rw [extend]
      apply ih
      · rw [List.forall_mem_append]
        refine ⟨fun reached completed => ?_, waiting⟩
        obtain ⟨production, listed, found⟩ := List.mem_filterMap.mp completed
        split at found
        · cases found
        · rename_i inner
          obtain ⟨item, member, read, rfl⟩ := table.mem_moves_complete listed
          exact built.complete member read inner found
      · rw [List.forall_mem_append]
        refine ⟨extended, fun reached read => ?_⟩
        split at read
        · cases read
        · rename_i reads
          rw [List.mem_singleton.mp read]
          rcases table.moves_read (stateOf table frames) token.number with nothing | all
          · rw [nothing] at reads
            exact absurd rfl reads
          · rw [all]
            exact built.read (.token _ _ _)
      · rw [List.forall_mem_append]
        refine ⟨whole, fun reached ended => ?_⟩
        split at ended
        · rwa [List.mem_singleton.mp ended]
        · cases ended

/-- One step of a reading keeps its stacks built as the table says. -/
theorem built_step {reading : Reading} (built : Built table reading.frames) :
    (∀ next ∈ (reading.step table).1, Built table next.frames) ∧
      ∀ frames ∈ (reading.step table).2, Built table frames := by
  rw [step]
  split
  · exact ⟨nofun, nofun⟩
  · rename_i token read
    split
    · refine ⟨fun next only => ?_, nofun⟩
      rw [List.mem_singleton.mp only]
      exact built.aside rfl
    · rw [List.forall_mem_map]
      exact built_extend token _ (List.forall_mem_singleton.mpr built) nofun nofun

theorem mem_insert {reading found : Reading} {readings : List Reading}
    (member : found ∈ insert table reading readings) : found = reading ∨ found ∈ readings := by
  induction readings with
  | nil => exact .inl (List.mem_singleton.mp member)
  | cons other others ih =>
    rw [insert] at member
    split at member
    · split at member
      · exact .inr member
      · rw [List.mem_cons] at member ⊢
        tauto
    · rw [List.mem_cons] at member ⊢
      tauto

theorem mem_of_pickEarliest {readings rest : List Reading} {reading : Reading}
    (picked : pickEarliest readings = some (reading, rest)) :
    reading ∈ readings ∧ rest ⊆ readings := by
  induction readings generalizing reading rest with
  | nil => cases picked
  | cons first others ih =>
    rw [pickEarliest] at picked
    cases found : pickEarliest others with
    | none =>
      rw [found] at picked
      cases picked
      exact ⟨List.mem_cons_self, List.nil_subset _⟩
    | some pair =>
      obtain ⟨earliest, left⟩ := pair
      obtain ⟨inside, kept⟩ := ih found
      rw [found] at picked
      dsimp only at picked
      split at picked
      · cases picked
        exact ⟨List.mem_cons_of_mem _ inside, List.cons_subset_cons _ kept⟩
      · cases picked
        refine ⟨List.mem_cons_self, List.cons_subset.mpr ⟨List.mem_cons_of_mem _ inside, ?_⟩⟩
        exact List.Subset.trans kept (List.subset_cons_self _ _)

/-- **The stacks of whole sources are built as the table says.** -/
theorem built_of_mem_run (bound : Nat) {readings : List Reading} {whole : List (List Frame)}
    (underway : ∀ reading ∈ readings, Built table reading.frames)
    (ended : ∀ frames ∈ whole, Built table frames) :
    ∀ frames ∈ run table bound readings whole, Built table frames := by
  induction bound generalizing readings whole with
  | zero => exact ended
  | succ bound ih =>
    rw [run]
    split
    · exact ended
    · rename_i reading others picked
      obtain ⟨member, rest⟩ := mem_of_pickEarliest picked
      obtain ⟨next, finished⟩ := built_step (underway reading member)
      apply ih
      · refine List.foldlRecOn
          (motive := fun readings => ∀ reading ∈ readings, Built table reading.frames)
          _ _ (fun reading member => underway reading (rest member)) ?_
        intro readings known added inside reading member
        rcases mem_insert member with rfl | before
        · exact next _ inside
        · exact known reading before
      · rw [List.forall_mem_append]
        exact ⟨ended, finished⟩

theorem mem_of_preferred {candidates : List (List Frame)} {frames : List Frame}
    (preferred : preferred? table candidates = some frames) : frames ∈ candidates := by
  induction candidates generalizing frames with
  | nil => cases preferred
  | cons first others ih =>
    rw [preferred?] at preferred
    cases found : preferred? table others with
    | none =>
      rw [found] at preferred
      cases preferred
      exact List.mem_cons_self
    | some best =>
      rw [found] at preferred
      dsimp only at preferred
      split at preferred
      · cases preferred
        exact List.mem_cons_self
      · cases preferred
        exact List.mem_cons_of_mem _ (ih found)

/-- What a source is read by fits what the table asks for, part by part, but for what was laid
aside. -/
theorem fits_of_parts {source : Text} {parts : List Part}
    (read : parts? table source = some parts) :
    ∀ part ∈ parts, part.isAside = true ∨ ∃ code, Fits table code part := by
  rw [parts?] at read
  obtain ⟨frames, preferred, rfl⟩ := Option.map_eq_some_iff.mp read
  have built : Built table frames := by
    apply built_of_mem_run _ _ _ frames (mem_of_preferred preferred)
    · exact List.forall_mem_singleton.mpr .nil
    · exact nofun
  intro part member
  rw [List.mem_reverse] at member
  clear preferred read
  induction built with
  | nil => cases member
  | aside aside _ ih =>
    rcases List.mem_cons.mp member with rfl | inside
    · exact .inl aside
    · exact ih inside
  | read fits _ ih =>
    rcases List.mem_cons.mp member with rfl | inside
    · exact .inr ⟨_, fits⟩
    · exact ih inside

end Reading

end Hygiene.Python
