import Hygiene.Workspace.Replace
import Mathlib.Data.List.Nodup

/-!
# How a replacement ends

While a file is being replaced, the workspace is the one from the beginning with one file more:
a draft, at a location where nothing stood, in a directory whose names may be changed
(`Vacant`). Each step changes the draft at most, and the last one moves it to where the old
file stands. So whatever a step ends with, taking the draft away gives back the workspace from
the beginning (`remove_put`), and the move leaves the new file as the only difference
(`rename_put`).

How an operation ends is said by what holds after it succeeds and what holds after it fails
(`Ends`). The steps are put together by `Ends.bind`, and `replace_ends` says it of the whole.
-/

set_option autoImplicit false

namespace Hygiene.Workspace

/-! ## The workspace with a draft -/

/-- A place for a draft: nothing stands there, and the names in its directory may be changed. -/
structure Vacant (workspace : Workspace) (location : Location) : Prop where
  free : workspace.tree.lookup location = none
  allowed : workspace.mayChangeNames location.dropLast = true

theorem modeAt_eq_ok_iff (workspace : Workspace) (location : Location) (mode : Nat) :
    workspace.modeAt location = .ok mode ↔
      (∃ content, workspace.tree.lookup location = some (.file mode content)) ∨
        workspace.tree.lookup location = some (.directory mode) := by
  rw [modeAt]
  cases stands : workspace.tree.lookup location with
  | none => simp
  | some entry => cases entry <;> simp

theorem mayChangeNames_put {workspace : Workspace} {draft : Location}
    (free : workspace.tree.lookup draft = none) (mode : Nat) (content : ByteArray)
    (directory : Location) :
    (workspace.put draft (.file mode content)).mayChangeNames directory =
      workspace.mayChangeNames directory := by
  simp only [mayChangeNames, put, FileTree.lookup_put]
  by_cases same : draft = directory
  · subst same
    simp [free]
  · rw [if_neg same]

section Draft

variable {workspace : Workspace} {draft location : Location} {mode : Nat} {content : ByteArray}

theorem setMode_put (other : Nat) :
    (workspace.put draft (.file mode content)).setMode draft other =
      .ok (workspace.put draft (.file other content)) := by
  simp only [setMode, put, FileTree.lookup_put_self, FileTree.put_put]

theorem fill_put (other : ByteArray) :
    (workspace.put draft (.file mode content)).fill draft other =
      workspace.put draft (.file mode other) := by
  simp only [fill, put, FileTree.lookup_put_self, FileTree.put_put]

theorem unlink_put (free : workspace.tree.lookup draft = none) (entry : Entry) :
    (workspace.put draft entry).unlink draft = workspace := by
  simp only [unlink, put, FileTree.unlink_put entry free]

/-- Taking the draft away gives back the workspace from the beginning. -/
theorem remove_put (vacant : workspace.Vacant draft) :
    (workspace.put draft (.file mode content)).remove draft = workspace := by
  rw [remove, mayChangeNames_put vacant.free, vacant.allowed, if_pos rfl, unlink_put vacant.free]

section Move

variable (vacant : workspace.Vacant draft)
include vacant

/-- A draft beside a file takes its place, which is the only difference to the workspace from
the beginning. -/
theorem rename_put_file (beside : draft.dropLast = location.dropLast) {bits : Nat}
    {old : ByteArray}
    (stands : workspace.tree.lookup location = some (.file bits old)) :
    (workspace.put draft (.file mode content)).rename draft location =
      .ok (workspace.put location (.file mode content)) := by
  have allowed : workspace.mayChangeNames location.dropLast = true := beside ▸ vacant.allowed
  -- A file at the top would have no directory.
  have below : location ≠ [] := by
    rintro rfl
    simp [mayChangeNames, stands] at allowed
  have apart : draft ≠ location := by
    rintro rfl
    simp [vacant.free] at stands
  have drafted : (workspace.put draft (.file mode content)).tree.lookup draft =
      some (.file mode content) := FileTree.lookup_put_self _ _ _
  have standing : (workspace.put draft (.file mode content)).tree.lookup location =
      some (.file bits old) := (FileTree.lookup_put_of_ne _ _ apart).trans stands
  rw [rename, if_neg below, mayChangeNames_put vacant.free, mayChangeNames_put vacant.free,
    vacant.allowed, allowed, Bool.and_self, if_pos rfl, drafted, standing]
  show Except.ok _ = _
  rw [unlink_put vacant.free]

/-- A draft does not take the place of a directory. -/
theorem rename_put_directory {bits : Nat}
    (stands : workspace.tree.lookup location = some (.directory bits)) :
    ∃ error, (workspace.put draft (.file mode content)).rename draft location = .error error := by
  have apart : draft ≠ location := by
    rintro rfl
    simp [vacant.free] at stands
  have drafted : (workspace.put draft (.file mode content)).tree.lookup draft =
      some (.file mode content) := FileTree.lookup_put_self _ _ _
  have standing : (workspace.put draft (.file mode content)).tree.lookup location =
      some (.directory bits) := (FileTree.lookup_put_of_ne _ _ apart).trans stands
  rw [rename, drafted, standing]
  split
  · exact ⟨_, rfl⟩
  · split
    · exact ⟨_, rfl⟩
    · exact ⟨_, rfl⟩

end Move

end Draft

/-! ## The name of the draft -/

theorem create_eq_ok_iff (workspace after : Workspace) (location : Location) :
    workspace.create location = .ok after ↔
      workspace.Vacant location ∧
        after = workspace.put location (.file temporaryMode ByteArray.empty) := by
  rw [create]
  constructor
  · intro made
    split at made
    · rename_i allowed
      split at made
      · cases made
      · rename_i free
        cases made
        exact ⟨⟨free, allowed⟩, rfl⟩
    · cases made
  · rintro ⟨vacant, rfl⟩
    rw [vacant.allowed, if_pos rfl, vacant.free]

/-- A draft that was made is the only difference to the workspace from the beginning. -/
theorem createAmong_eq_ok {workspace after : Workspace} {directory draft : Location}
    {names : List Text} (made : workspace.createAmong directory names = .ok (draft, after)) :
    workspace.Vacant draft ∧ draft.dropLast = directory ∧
      (∃ name ∈ names, workspace.tree.lookup (directory ++ [name]) = none) ∧
      after = workspace.put draft (.file temporaryMode ByteArray.empty) := by
  induction names with
  | nil => cases made
  | cons name others ih =>
    rw [createAmong] at made
    split at made
    · rename_i created
      cases made
      obtain ⟨vacant, rfl⟩ := (create_eq_ok_iff _ _ _).mp created
      exact ⟨vacant, List.dropLast_concat, ⟨name, List.mem_cons_self, vacant.free⟩, rfl⟩
    · split at made
      · obtain ⟨vacant, inside, ⟨found, member, free⟩, rfl⟩ := ih made
        exact ⟨vacant, inside, ⟨found, List.mem_cons_of_mem _ member, free⟩, rfl⟩
      · cases made

/-- A draft is made as soon as one of the names is free. -/
theorem exists_createAmong_eq_ok {workspace : Workspace} {directory : Location}
    (allowed : workspace.mayChangeNames directory = true) {names : List Text}
    (free : ∃ name ∈ names, workspace.tree.lookup (directory ++ [name]) = none) :
    ∃ draft after, workspace.createAmong directory names = .ok (draft, after) := by
  induction names with
  | nil => simp at free
  | cons name others ih =>
    have inside : workspace.mayChangeNames (directory ++ [name]).dropLast = true := by
      rw [List.dropLast_concat, allowed]
    rw [createAmong, create, inside, if_pos rfl]
    cases here : workspace.tree.lookup (directory ++ [name]) with
    | none => exact ⟨_, _, rfl⟩
    | some entry =>
      obtain ⟨found, member, free⟩ := free
      rcases List.mem_cons.mp member with rfl | member
      · simp [free] at here
      · exact ih ⟨found, member, free⟩

/-! ## How operations end -/

/-- What holds of the workspace after an operation succeeds, and what holds after it fails. -/
def Ends {α : Type} (operation : Operation α) (workspace : Workspace)
    (success : α → Workspace → Prop) (failure : Workspace → Prop) : Prop :=
  match operation.run workspace with
  | .ok value after => success value after
  | .error _ after => failure after

section Ends

variable {α β : Type} {workspace : Workspace} {success : α → Workspace → Prop}
  {failure : Workspace → Prop}

/-- Less can be said of how an operation ends. -/
theorem Ends.mono {operation : Operation α} {more : α → Workspace → Prop}
    {worse : Workspace → Prop} (ends : Ends operation workspace more worse)
    (succeeded : ∀ value after, more value after → success value after)
    (failed : ∀ after, worse after → failure after) :
    Ends operation workspace success failure := by
  rw [Ends] at ends ⊢
  revert ends
  cases operation.run workspace with
  | ok value after => exact succeeded value after
  | error cause after => exact failed after

theorem Ends.bind {first : Operation β} {next : β → Operation α}
    (ends : Ends first workspace (fun value after => Ends (next value) after success failure)
      failure) :
    Ends (first >>= next) workspace success failure := by
  rw [Ends] at ends ⊢
  rw [EStateM.run_bind]
  revert ends
  cases first.run workspace <;> exact id

theorem Ends.pure {value : α} (holds : success value workspace) :
    Ends (pure value) workspace success failure :=
  holds

/-- What fails in the middle of an operation can be taken back. -/
theorem Ends.tryCatch {operation : Operation α} {repair : Workspace → Workspace}
    (ends : Ends operation workspace success fun after => failure (repair after)) :
    Ends (tryCatch operation fun cause => do modify repair; throw cause) workspace success
      failure := by
  rw [Ends, EStateM.run] at ends ⊢
  simp only [MonadExcept.tryCatch, tryCatchThe, MonadExceptOf.tryCatch, EStateM.tryCatch]
  revert ends
  cases operation workspace <;> exact id

/-- A step either fails and changes nothing, or does what is asked of the system. -/
theorem Ends.perform {cause : SystemError → IoCause} {fault : Option SystemError}
    {call : Workspace → Except SystemError (α × Workspace)}
    (called : ∀ value after, fault = none → call workspace = .ok (value, after) →
      success value after)
    (failed : failure workspace) :
    Ends (perform cause fault call) workspace success failure := by
  simp only [Ends, Workspace.perform, EStateM.run]
  cases fault with
  | some error => exact failed
  | none =>
    cases answer : call workspace with
    | error error => exact failed
    | ok answered => exact called answered.1 answered.2 rfl answer

end Ends

/-! ## The whole replacement -/

/-- What it takes to replace the file that a path leads to. -/
structure Replaceable (surroundings : Surroundings) (workspace : Workspace) (path : Path)
    (location : Location) (mode : Nat) (old : ByteArray) : Prop where
  located : workspace.locate path = .ok location
  stands : workspace.tree.lookup location = some (.file mode old)
  allowed : workspace.mayChangeNames location.dropLast = true
  named : ∃ name ∈ surroundings.drawn,
    workspace.tree.lookup (location.dropLast ++ [name]) = none
  calm : ∀ stage, surroundings.fault? stage = none

variable {surroundings : Surroundings} {workspace : Workspace} {path : Path} {location : Location}
  {mode : Nat}

theorem resolve_ends (surroundings : Surroundings) (workspace : Workspace) (path : Path) :
    Ends (resolve surroundings path) workspace
      (fun found after => workspace.locate path = .ok found.1 ∧
        workspace.modeAt found.1 = .ok found.2 ∧ surroundings.fault? .resolve = none ∧
        surroundings.fault? .examine = none ∧ after = workspace)
      (fun after => after = workspace) := by
  refine .bind (.perform ?_ rfl)
  intro location same resolved located
  cases found : workspace.locate path with
  | error error => simp [found, Except.map] at located
  | ok place =>
    obtain ⟨rfl, rfl⟩ : place = location ∧ workspace = same := by
      simpa [found, Except.map] using located
    refine .bind (.perform ?_ rfl)
    intro mode same examined answered
    cases bits : workspace.modeAt place with
    | error error => simp [bits, Except.map] at answered
    | ok held =>
      obtain ⟨rfl, rfl⟩ : held = mode ∧ workspace = same := by
        simpa [bits, Except.map] using answered
      exact .pure ⟨rfl, bits, resolved, examined, rfl⟩

theorem makeTemporary_ends (surroundings : Surroundings) (workspace : Workspace)
    (directory : Location) :
    Ends (makeTemporary surroundings directory) workspace
      (fun draft after => workspace.Vacant draft ∧ draft.dropLast = directory ∧
        (∃ name ∈ surroundings.drawn, workspace.tree.lookup (directory ++ [name]) = none) ∧
        surroundings.fault? .create = none ∧
        after = workspace.put draft (.file temporaryMode ByteArray.empty))
      (fun after => after = workspace) := by
  refine .perform ?_ rfl
  intro draft after created made
  obtain ⟨vacant, inside, named, rfl⟩ := createAmong_eq_ok made
  exact ⟨vacant, inside, named, created, rfl⟩

theorem write_ends (surroundings : Surroundings) (workspace : Workspace) (draft : Location)
    (mode : Nat) (held content : ByteArray) :
    Ends (write surroundings draft content) (workspace.put draft (.file mode held))
      (fun _ after => surroundings.fault? .write = none ∧
        after = workspace.put draft (.file mode content))
      (fun after => ∃ part, after = workspace.put draft (.file mode part)) := by
  simp only [Ends, write, EStateM.run, fill_put]
  cases surroundings.fault? .write with
  | some error => exact ⟨_, rfl⟩
  | none => exact ⟨rfl, rfl⟩

/-- While the draft is written and moved, a failure leaves the draft as the only difference to
the workspace from the beginning. -/
theorem exchange_ends {draft : Location} (vacant : workspace.Vacant draft)
    (beside : draft.dropLast = location.dropLast) (standing : workspace.modeAt location = .ok mode)
    (bits : Nat) (held content : ByteArray) :
    Ends (exchange surroundings location draft mode content)
      (workspace.put draft (.file bits held))
      (fun _ after => (∃ old, workspace.tree.lookup location = some (.file mode old)) ∧
        (∀ stage ∈ [Stage.write, .synchronize, .grant, .rename],
          surroundings.fault? stage = none) ∧
        after = workspace.put location (.file mode content))
      (fun after => ∃ other part, after = workspace.put draft (.file other part)) := by
  refine .bind ((write_ends surroundings workspace draft bits held content).mono ?_ ?_)
  · rintro - - ⟨written, rfl⟩
    refine .bind (.perform ?_ ⟨_, _, rfl⟩)
    rintro ⟨⟩ same synchronized answered
    obtain rfl : workspace.put draft (.file bits content) = same := by simpa using answered
    refine .bind (.perform ?_ ⟨_, _, rfl⟩)
    rintro ⟨⟩ granted grantable answered
    obtain rfl : workspace.put draft (.file mode content) = granted := by
      simpa [setMode_put, Except.map] using answered
    refine .perform ?_ ⟨_, _, rfl⟩
    rintro ⟨⟩ after renamable answered
    rcases (modeAt_eq_ok_iff workspace location mode).mp standing with ⟨old, stands⟩ | stands
    · obtain rfl : workspace.put location (.file mode content) = after := by
        simpa [rename_put_file vacant beside stands, Except.map] using answered
      refine ⟨⟨old, stands⟩, ?_, rfl⟩
      simp [written, synchronized, grantable, renamable]
    · obtain ⟨error, refused⟩ : ∃ error,
          (workspace.put draft (.file mode content)).rename draft location = .error error :=
        rename_put_directory vacant stands
      simp [refused, Except.map] at answered
  · rintro after ⟨part, rfl⟩
    exact ⟨bits, part, rfl⟩

/-- **A replacement succeeds only if nothing is in its way, and then the file is the only
difference. When it fails, the workspace is as it was.** -/
theorem replace_ends (surroundings : Surroundings) (workspace : Workspace) (path : Path)
    (content : ByteArray) :
    Ends (replace surroundings path content) workspace
      (fun _ after => ∃ location mode old,
        Replaceable surroundings workspace path location mode old ∧
        after = workspace.put location (.file mode content))
      (fun after => after = workspace) := by
  refine .bind ((resolve_ends surroundings workspace path).mono ?_ fun _ => id)
  rintro ⟨location, mode⟩ after ⟨located, standing, resolved, examined, same⟩
  subst after
  refine .bind ((makeTemporary_ends surroundings workspace location.dropLast).mono ?_ fun _ => id)
  rintro draft - ⟨vacant, beside, named, created, rfl⟩
  refine .tryCatch ((exchange_ends vacant beside standing _ _ content).mono ?_ ?_)
  · rintro - after ⟨⟨old, stands⟩, calm, rfl⟩
    refine ⟨location, mode, old, ⟨located, stands, beside ▸ vacant.allowed, named, ?_⟩, rfl⟩
    intro stage
    cases stage with
    | resolve => exact resolved
    | examine => exact examined
    | create => exact created
    | write => exact calm .write (by simp)
    | synchronize => exact calm .synchronize (by simp)
    | grant => exact calm .grant (by simp)
    | rename => exact calm .rename (by simp)
  · rintro after ⟨bits, part, rfl⟩
    exact remove_put vacant

/-! ## When nothing is in the way -/

theorem bind_run {α β : Type} {first : Operation α} {next : α → Operation β}
    {before between : Workspace} {value : α} (ran : first.run before = .ok value between) :
    (first >>= next).run before = (next value).run between := by
  rw [EStateM.run_bind, ran]

theorem tryCatch_run {α : Type} {operation : Operation α} {handler : IoCause → Operation α}
    {before after : Workspace} {value : α} (ran : operation.run before = .ok value after) :
    (tryCatch operation handler).run before = .ok value after := by
  rw [EStateM.run] at ran ⊢
  simp only [MonadExcept.tryCatch, tryCatchThe, MonadExceptOf.tryCatch, EStateM.tryCatch, ran]

theorem perform_run {α : Type} {cause : SystemError → IoCause} {fault : Option SystemError}
    {call : Workspace → Except SystemError (α × Workspace)} {before after : Workspace} {value : α}
    (calm : fault = none) (answered : call before = .ok (value, after)) :
    (perform cause fault call).run before = .ok value after := by
  simp only [perform, EStateM.run, calm, answered]

theorem bind_run_error {α β : Type} {first : Operation α} {next : α → Operation β}
    {before between : Workspace} {cause : IoCause}
    (ran : first.run before = .error cause between) :
    (first >>= next).run before = .error cause between := by
  rw [EStateM.run_bind, ran]

theorem perform_run_error {α : Type} {cause : SystemError → IoCause} {fault : Option SystemError}
    {call : Workspace → Except SystemError (α × Workspace)} {before : Workspace}
    {error : SystemError} (calm : fault = none) (answered : call before = .error error) :
    (perform cause fault call).run before = .error (cause error) before := by
  simp only [perform, EStateM.run, calm, answered]

theorem write_run {draft : Location} {held content : ByteArray}
    (calm : surroundings.fault? .write = none) :
    (write surroundings draft content).run (workspace.put draft (.file mode held)) =
      .ok () (workspace.put draft (.file mode content)) := by
  simp only [write, EStateM.run, calm, fill_put]

theorem resolve_run (located : workspace.locate path = .ok location)
    (standing : workspace.modeAt location = .ok mode)
    (resolved : surroundings.fault? .resolve = none)
    (examined : surroundings.fault? .examine = none) :
    (resolve surroundings path).run workspace = .ok (location, mode) workspace := by
  rw [resolve, bind_run (perform_run resolved (by rw [located]; rfl)),
    bind_run (perform_run examined (by rw [standing]; rfl)), EStateM.run_pure]

section Replaceable

variable {old : ByteArray}
  (replaceable : Replaceable surroundings workspace path location mode old)
include replaceable

theorem Replaceable.standing : workspace.modeAt location = .ok mode :=
  (modeAt_eq_ok_iff workspace location mode).mpr (.inl ⟨old, replaceable.stands⟩)

theorem Replaceable.exchange_run {draft : Location} (vacant : workspace.Vacant draft)
    (beside : draft.dropLast = location.dropLast) (bits : Nat) (held content : ByteArray) :
    (exchange surroundings location draft mode content).run
        (workspace.put draft (.file bits held)) =
      .ok () (workspace.put location (.file mode content)) := by
  have granted : (workspace.put draft (.file bits content)).setMode draft mode =
      .ok (workspace.put draft (.file mode content)) := setMode_put mode
  have renamed : (workspace.put draft (.file mode content)).rename draft location =
      .ok (workspace.put location (.file mode content)) :=
    rename_put_file vacant beside replaceable.stands
  rw [exchange, bind_run (write_run (replaceable.calm _)),
    bind_run (perform_run (replaceable.calm _) rfl),
    bind_run (perform_run (replaceable.calm _) (by rw [granted]; rfl)),
    perform_run (replaceable.calm _) (by rw [renamed]; rfl)]

/-- **When nothing is in its way, a replacement succeeds.** -/
theorem Replaceable.replace_run (content : ByteArray) :
    (replace surroundings path content).run workspace =
      .ok () (workspace.put location (.file mode content)) := by
  obtain ⟨draft, drafted, made⟩ := exists_createAmong_eq_ok replaceable.allowed replaceable.named
  obtain ⟨vacant, beside, -, rfl⟩ := createAmong_eq_ok made
  have drafting : (makeTemporary surroundings location.dropLast).run workspace = .ok draft _ :=
    perform_run (replaceable.calm _) made
  have exchanged := replaceable.exchange_run vacant beside temporaryMode ByteArray.empty content
  have resolved := resolve_run replaceable.located replaceable.standing (replaceable.calm _)
    (replaceable.calm _)
  exact (bind_run resolved).trans ((bind_run drafting).trans (tryCatch_run exchanged))

end Replaceable

/-! ## Surroundings in which nothing fails -/

theorem drawnName_injective : Function.Injective drawnName := by
  intro first second same
  have digits : Nat.toDigits 10 (100000 + first) = Nat.toDigits 10 (100000 + second) :=
    List.append_cancel_left same
  have numbers := congrArg (fun read => Nat.ofDigitChars 10 read 0) digits
  simpa using numbers

/-- Among more names than the tree has entries, one is free. -/
theorem exists_free_name (workspace : Workspace) (directory : Location) :
    ∃ name ∈ (Surroundings.quiet workspace).drawn,
      workspace.tree.lookup (directory ++ [name]) = none := by
  by_contra full
  have taken : ∀ name ∈ (Surroundings.quiet workspace).drawn,
      workspace.tree.lookup (directory ++ [name]) ≠ none := by
    simpa using full
  have unlike : ((Surroundings.quiet workspace).drawn.map fun name => directory ++ [name]).Nodup :=
    (List.nodup_range.map drawnName_injective).map fun first second same => by simpa using same
  have within : ((Surroundings.quiet workspace).drawn.map fun name => directory ++ [name]) ⊆
      workspace.tree.entries.map Prod.fst := by
    intro location member
    obtain ⟨name, drawn, rfl⟩ := List.mem_map.mp member
    have held := taken name drawn
    rw [Ne, FileTree.lookup_eq_none_iff] at held
    obtain ⟨placed, inside, same⟩ : ∃ placed ∈ workspace.tree.entries,
        placed.1 = directory ++ [name] := by simpa using held
    exact List.mem_map.mpr ⟨placed, inside, same⟩
  have few := unlike.length_le_of_subset within
  simp only [Surroundings.quiet, List.length_map, List.length_range] at few
  omega

theorem createAmong_of_not_allowed {directory : Location}
    (barred : workspace.mayChangeNames directory = false) {names : List Text}
    (some : names ≠ []) : workspace.createAmong directory names = .error .denied := by
  obtain ⟨name, others, rfl⟩ := List.exists_cons_of_ne_nil some
  have inside : workspace.mayChangeNames (directory ++ [name]).dropLast = false := by
    rw [List.dropLast_concat, barred]
  rw [createAmong, create, inside]
  rfl

section Quiet

variable {old : ByteArray} (located : workspace.locate path = .ok location)
  (stands : workspace.tree.lookup location = some (.file mode old)) (content : ByteArray)
include located stands

theorem quiet_replace_run (allowed : workspace.mayChangeNames location.dropLast = true) :
    (replace (.quiet workspace) path content).run workspace =
      .ok () (workspace.put location (.file mode content)) :=
  Replaceable.replace_run ⟨located, stands, allowed,
    exists_free_name workspace location.dropLast, fun _ => rfl⟩ content

theorem quiet_replace_run_of_not_allowed
    (barred : workspace.mayChangeNames location.dropLast = false) :
    (replace (.quiet workspace) path content).run workspace =
      .error (temporaryCause location.dropLast .denied) workspace := by
  have standing : workspace.modeAt location = .ok mode :=
    (modeAt_eq_ok_iff workspace location mode).mpr (.inl ⟨old, stands⟩)
  have resolved : (resolve (.quiet workspace) path).run workspace =
      .ok (location, mode) workspace := resolve_run located standing rfl rfl
  have refused : workspace.createAmong location.dropLast (Surroundings.quiet workspace).drawn =
      .error .denied := createAmong_of_not_allowed barred (by simp [Surroundings.quiet])
  have barredRun : (makeTemporary (.quiet workspace) location.dropLast).run workspace =
      .error (temporaryCause location.dropLast .denied) workspace :=
    perform_run_error rfl refused
  exact (bind_run resolved).trans (bind_run_error barredRun)

end Quiet

end Hygiene.Workspace
