import Hygiene.Proofs.Check.Alone
import Hygiene.Proofs.Walk.Told

/-!
# The file that was walked is the file that is checked

A walk below a target comes upon a file, and what is told of the file is a path in a spelling of
its own. The check reads this path from the directory of the workspace once more. It has to do
with the file that was walked and with no other one, however the target is spelled and whatever
links it leads through (`toldPath_namesWalked`).

Two facts carry this. The path that is told leads to the file or nowhere (`locate_toldPath_iff`),
and a check has to do with nothing but the location to which its path leads (`checksOnly`).
-/

set_option autoImplicit false

namespace Hygiene.Check

open FileTree (IsName Leads)
open Walk (Options findings toldPath walkedPath)
open Workspace (SameShape)

/-! ## What a check has to do with -/

/-- The check of a path has to do with a location and with no other one. -/
structure ChecksOnly (workspace : Workspace) (plan : Plan) (currentYear : Nat) (path : Path)
    (location : Location) : Prop where
  /-- It comes to the same wherever the same stands at the location. -/
  reads : ∀ other, SameShape workspace other →
    other.tree.lookup location = workspace.tree.lookup location →
      (checkFile other plan currentYear path).record =
        (checkFile workspace plan currentYear path).record
  /-- What it says, it says of the text in the file at the location, and a fix is made of that
  text and put in its place. -/
  judges : ∀ made, (checkFile workspace plan currentYear path).record = .ok (some made) →
    made.path = path ∧ ∃ mode content,
      workspace.tree.lookup location = some (.file mode (Text.encode content)) ∧
        made.status = statusOf plan made.kind content ∧
        (made.fixed = true → ∃ text,
          Header.fix? made.kind plan.notice plan.scanLines currentYear content = some text ∧
            (checkFile workspace plan currentYear path).workspace.tree.lookup location =
              some (.file mode text.encode))
  /-- It leaves everything else as it is. -/
  writes : ∀ elsewhere, elsewhere ≠ location →
    (checkFile workspace plan currentYear path).workspace.tree.lookup elsewhere =
      workspace.tree.lookup elsewhere

variable {workspace : Workspace} {path : Path} {location : Location}

theorem Checked.judges {plan : Plan} {currentYear : Nat} {after : Workspace} {made : Record}
    (checked : Checked workspace plan currentYear path after (.ok (some made)))
    (only : ∀ found, workspace.locate (fullPath workspace path) = .ok found → found = location) :
    made.path = path ∧ ∃ mode content,
      workspace.tree.lookup location = some (.file mode (Text.encode content)) ∧
        made.status = statusOf plan made.kind content ∧
        (made.fixed = true → ∃ text,
          Header.fix? made.kind plan.notice plan.scanLines currentYear content = some text ∧
            after.tree.lookup location = some (.file mode text.encode)) := by
  cases checked with
  | @judged place mode content kind file counts kept =>
    obtain rfl := only place file.located
    exact ⟨rfl, mode, content, file.stands, rfl, nofun⟩
  | @fixed place mode content text kind repair =>
    obtain rfl := only place repair.file.located
    exact ⟨rfl, mode, content, repair.file.stands, rfl,
      fun _ => ⟨text, repair.made, FileTree.lookup_put_self _ _ _⟩⟩

/-- **A check has to do with nothing but the location to which its path leads.** -/
theorem checksOnly (plan : Plan) (currentYear : Nat)
    (only : ∀ found, workspace.locate (fullPath workspace path) = .ok found → found = location) :
    ChecksOnly workspace plan currentYear path location where
  reads _ shape same := (checkFile_congr shape same only).1
  judges made recorded := by
    have checked := checkFile_checked workspace plan currentYear path
    rw [recorded] at checked
    exact checked.judges only
  writes elsewhere differs := by
    apply checkFile_lookup_of_ne
    exact fun located => differs (only elsewhere located)

/-! ## Files that were walked -/

/-- The path that is told of a file names the file: a walk below a target comes upon it, behind
names that lead to it from the location where the walk begins. -/
structure NamesWalked (workspace : Workspace) (root : Path) (names : List Text)
    (start : Location) : Prop where
  /-- The walk begins where the target leads. -/
  begins : workspace.locate (fullPath workspace root) = .ok start
  /-- A file stands behind the names. -/
  file : ∃ mode bytes, workspace.tree.lookup (start ++ names) = some (.file mode bytes)
  /-- The path that is told leads to this file as long as it is not too long and the user may
  follow the names, and otherwise nowhere. -/
  leads : ∀ found,
    workspace.locate (fullPath workspace (toldPath workspace.directoryPath root names)) =
        .ok found ↔
      found = start ++ names ∧
        Text.utf8Size (fullPath workspace (toldPath workspace.directoryPath root names)).spelling ≤
          FileTree.maxPathSize ∧
        Leads workspace.tree workspace.user start (names.map .name) (start ++ names)
  /-- It leads there whenever the path that was walked leads anywhere. -/
  follows : ∀ found, workspace.locate (walkedPath workspace.directoryPath root names) = .ok found →
    workspace.locate (fullPath workspace (toldPath workspace.directoryPath root names)) = .ok found
  /-- The check of the path has to do with this file and no other one, also after other files
  were changed. -/
  checks : ∀ middle, SameShape workspace middle → ∀ plan currentYear,
    ChecksOnly middle plan currentYear (toldPath workspace.directoryPath root names)
      (start ++ names)

/-- A file that a walk comes upon is named by the path that is told of it. -/
theorem namesWalked_of_mem_findings {options : Options} {root : Path} {names : List Text}
    (proper : workspace.tree.Proper)
    (found : .file names ∈ findings workspace options (fullPath workspace root)) :
    (∀ name ∈ names, IsName name) ∧ ∃ start, NamesWalked workspace root names start := by
  have absolute : workspace.directoryPath.isAbsolute = true := rfl
  obtain ⟨start, located, filled, direct, file⟩ :=
    Walk.file_of_mem_findings proper (Path.isAbsolute_join root absolute) found
  have named : ∀ name ∈ names, IsName name :=
    fun name member => direct.named proper name (List.mem_append_right start member)
  have leads : ∀ place,
      workspace.locate (fullPath workspace (toldPath workspace.directoryPath root names)) =
          .ok place ↔ _ :=
    fun _ => Walk.locate_toldPath_iff absolute named filled located direct
  have only : ∀ place, workspace.locate
      (fullPath workspace (toldPath workspace.directoryPath root names)) = .ok place →
        place = start ++ names :=
    fun place there => ((leads place).mp there).2.names_eq
  refine ⟨named, start, located, file, fun place => ⟨fun there => ?_, ?_⟩, fun place walked => ?_,
    fun middle shape plan currentYear => ?_⟩
  · obtain rfl := only place there
    exact ⟨rfl, (leads _).mp there⟩
  · rintro ⟨rfl, fits, along⟩
    exact (leads _).mpr ⟨fits, along⟩
  · obtain ⟨short, along⟩ :=
      (Walk.locate_walkedPath_iff absolute named filled located direct).mp walked
    exact (leads place).mpr
      ⟨Nat.le_trans (Walk.utf8Size_toldPath_le absolute root named) short, along⟩
  · apply checksOnly
    intro place there
    rw [fullPath, shape.directoryPath_eq, shape.locate_eq] at there
    exact only place there

/-- **What is told of a file names the file that was walked.** Take a directory, a target in any
spelling, and the names on the way of a walk below the target. Read from the directory again, the
path that is told has the components of the path that was walked, and it is relative exactly when
the target is. What is listed below the target is spelled from the path that was walked, and the
file that the walk came upon there is the one that the check of the told path reads and rewrites.
And the normal spelling, in which paths are told, is its own normal spelling, has the components
of the path behind the directory, and leads wherever the path leads. -/
theorem toldPath_namesWalked {base : Path} (absolute : base.isAbsolute = true) (root : Path) :
    (∀ names : List Text, (∀ name ∈ names, IsName name) →
      (base.join (toldPath base root names)).components =
          (walkedPath base root names).components ∧
        (toldPath base root names).isAbsolute = root.isAbsolute) ∧
      (∀ (workspace : Workspace) (options : Options), workspace.directoryPath = base →
        workspace.tree.Proper → ∀ listed ∈ (Walk.below workspace options root).1,
          ∃ names start, (∀ name ∈ names, IsName name) ∧
            listed = Walk.asSpelled base root (walkedPath base root names) ∧
            NamesWalked workspace root names start) ∧
      ∀ path : Path, path.normalize.normalize = path.normalize ∧
        (base.join path.normalize).components = (base.join path).components ∧
        ∀ (workspace : Workspace) (location : Location),
          workspace.locate (base.join path) = .ok location →
            workspace.locate (base.join path.normalize) = .ok location := by
  refine ⟨fun names named => ⟨Walk.components_toldPath absolute root named,
    Walk.isAbsolute_toldPath absolute root named⟩, ?_, fun path => ⟨Path.normalize_normalize path,
      Path.components_join_normalize absolute path,
      fun workspace location => FileTree.locate_join_normalize absolute⟩⟩
  rintro workspace options rfl proper listed member
  obtain ⟨names, found, rfl⟩ := Walk.exists_finding_of_mem_below member
  obtain ⟨named, start, walked⟩ := namesWalked_of_mem_findings proper found
  exact ⟨names, start, named, rfl, walked⟩

/-- The theorem at a target that leads through a link and upwards again. -/
theorem toldPath_namesWalked_throughLink :
    let file : Text := ['a', '.', 'p', 'y']
    let tree : FileTree :=
      ⟨[([], .directory 0o755), ([['d']], .directory 0o755), ([['d'], ['e']], .directory 0o755),
        ([['d'], ['f']], .directory 0o755), ([['d'], ['f'], file], .file 0o644 ByteArray.empty),
        ([['w']], .directory 0o755), ([['w'], ['l']], .link ⟨['.', '.', '/', 'd', '/', 'e']⟩)],
        by simp⟩
    let workspace : Workspace := ⟨tree, .owner, [['w']]⟩
    let root : Path := ⟨['.', '/', 'l', '/', '.', '.', '/', 'f']⟩
    let listed : Path := ⟨['l', '/', '.', '.', '/', 'f', '/', 'a', '.', 'p', 'y']⟩
    (workspace.directoryPath.isAbsolute = true ∧ tree.Proper ∧
      (∀ name ∈ [file], IsName name) ∧ listed ∈ (Walk.below workspace .standard root).1) ∧
      toldPath workspace.directoryPath root [file] = listed ∧
      (fullPath workspace (toldPath workspace.directoryPath root [file])).components =
        (walkedPath workspace.directoryPath root [file]).components ∧
      (∃ names start, listed = Walk.asSpelled workspace.directoryPath root
          (walkedPath workspace.directoryPath root names) ∧
        NamesWalked workspace root names start) ∧
      workspace.locate (fullPath workspace listed) = .ok [['d'], ['f'], file] ∧
      workspace.locate (fullPath workspace listed.normalize) = .ok [['d'], ['f'], file] := by
  intro file tree workspace root listed
  have absolute : workspace.directoryPath.isAbsolute = true := rfl
  have proper : tree.Proper := by decide
  have named : ∀ name ∈ [file], IsName name := by decide
  have member : listed ∈ (Walk.below workspace .standard root).1 := by decide +kernel
  have there : workspace.locate (fullPath workspace listed) = .ok [['d'], ['f'], file] := by
    decide +kernel
  obtain ⟨spelled, walked, normal⟩ := toldPath_namesWalked absolute root
  obtain ⟨names, start, -, same, arrived⟩ :=
    walked workspace .standard rfl proper listed member
  exact ⟨⟨absolute, proper, named, member⟩, by decide +kernel, (spelled _ named).1,
    ⟨names, start, same, arrived⟩, there, (normal listed).2.2 workspace _ there⟩

end Hygiene.Check
