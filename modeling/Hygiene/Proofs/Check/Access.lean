import Hygiene.Proofs.Text.Encoding
import Hygiene.Proofs.Tree.Outline
import Hygiene.Proofs.Workspace.Exchange

/-!
# Reading and replacing a file

What is read of a path, and what is written to it, is said in terms of the location that the
path leads to and the file that stands there (`FileAt`). A text that was read is encoded by
the bytes of the file, and a file that was replaced has the new text in the place of the old
bytes, with the permission bits that it had (`writeText_eq_ok`).

Two workspaces of the same shape differ at most in what their files hold. They agree on where
paths lead, so what is read of a path is the same in both as soon as the same stands there
(`readText_congr`, `startsWithShebang_congr`).
-/

set_option autoImplicit false

namespace Hygiene

namespace Workspace

/-- A path leads to a location where a file stands. -/
structure FileAt (workspace : Workspace) (path : Path) (location : Location) (mode : Nat)
    (bytes : ByteArray) : Prop where
  located : workspace.locate path = .ok location
  stands : workspace.tree.lookup location = some (.file mode bytes)

/-- The text in the file that a path leads to, as it is on disk. -/
def text? (workspace : Workspace) (path : Path) : Option Text :=
  match workspace.examine path with
  | .ok (.file _ bytes) => Text.decode? bytes
  | _ => none

theorem examine_eq_ok_iff (workspace : Workspace) (path : Path) (entry : Entry) :
    workspace.examine path = .ok entry ↔
      ∃ location, workspace.locate path = .ok location ∧
        workspace.tree.lookup location = some entry := by
  rw [examine]
  cases located : workspace.locate path with
  | error error => simp [bind, Except.bind]
  | ok location =>
    cases stands : workspace.tree.lookup location with
    | none => simp [bind, Except.bind, stands]
    | some found => simp [bind, Except.bind, stands, pure, Except.pure]

theorem FileAt.examine {workspace : Workspace} {path : Path} {location : Location} {mode : Nat}
    {bytes : ByteArray} (file : workspace.FileAt path location mode bytes) :
    workspace.examine path = .ok (.file mode bytes) :=
  (examine_eq_ok_iff workspace path _).mpr ⟨location, file.located, file.stands⟩

theorem FileAt.isDirectoryAt_eq {workspace : Workspace} {path : Path} {location : Location}
    {mode : Nat} {bytes : ByteArray} (file : workspace.FileAt path location mode bytes) :
    workspace.tree.isDirectoryAt location = false := by
  rw [FileTree.isDirectoryAt, file.stands]

theorem FileAt.unique {workspace : Workspace} {path : Path} {first second : Location}
    {mode bits : Nat} {old new : ByteArray} (left : workspace.FileAt path first mode old)
    (right : workspace.FileAt path second bits new) :
    first = second ∧ mode = bits ∧ old = new := by
  have examined := left.examine
  rw [right.examine, Except.ok.injEq, Entry.file.injEq] at examined
  have located := left.located
  rw [right.located, Except.ok.injEq] at located
  exact ⟨located.symm, examined.1.symm, examined.2.symm⟩

/-- A path that leads to a file leads nowhere else. -/
theorem FileAt.only {workspace : Workspace} {path : Path} {location : Location} {mode : Nat}
    {bytes : ByteArray} (file : workspace.FileAt path location mode bytes) :
    ∀ found, workspace.locate path = .ok found → found = location := by
  intro found located
  rw [file.located, Except.ok.injEq] at located
  exact located.symm

theorem exists_fileAt_of_isFile {workspace : Workspace} {path : Path}
    (file : workspace.isFile path = true) :
    ∃ location mode bytes, workspace.FileAt path location mode bytes := by
  rw [isFile] at file
  split at file
  · rename_i mode bytes examined
    obtain ⟨location, located, stands⟩ := (examine_eq_ok_iff workspace path _).mp examined
    exact ⟨location, mode, bytes, located, stands⟩
  · cases file

/-- A file holds one text only. -/
theorem FileAt.text_eq {workspace : Workspace} {first second : Path} {location : Location}
    {mode bits : Nat} {content text : Text}
    (left : workspace.FileAt first location mode content.encode)
    (right : workspace.FileAt second location bits text.encode) :
    mode = bits ∧ content = text := by
  have same := left.stands
  rw [right.stands, Option.some.injEq, Entry.file.injEq] at same
  exact ⟨same.1.symm, (Text.encode_injective same.2).symm⟩

theorem FileAt.text {workspace : Workspace} {path : Path} {location : Location} {mode : Nat}
    {content : Text} (file : workspace.FileAt path location mode content.encode) :
    workspace.text? path = some content := by
  rw [text?, file.examine]
  exact (Text.decode_eq_some_iff _ content).mpr rfl

/-- A text is on disk at a path when its encoding is the content of a file to which the path
leads. -/
theorem text_eq_some_iff (workspace : Workspace) (path : Path) (content : Text) :
    workspace.text? path = some content ↔
      ∃ location mode, workspace.FileAt path location mode content.encode := by
  constructor
  · intro found
    rw [text?] at found
    split at found
    · rename_i mode bytes examined
      obtain ⟨location, located, stands⟩ := (examine_eq_ok_iff workspace path _).mp examined
      rw [Text.decode_eq_some_iff] at found
      exact ⟨location, mode, located, by rw [stands, found]⟩
    · cases found
  · rintro ⟨location, mode, file⟩
    exact file.text

/-- Two workspaces that differ at most in what their files hold. -/
structure SameShape (first second : Workspace) : Prop where
  user : second.user = first.user
  directory : second.directory = first.directory
  outline : FileTree.SameOutline first.tree second.tree

namespace SameShape

theorem refl (workspace : Workspace) : SameShape workspace workspace :=
  ⟨rfl, rfl, .refl _⟩

variable {first second third : Workspace}

theorem trans (earlier : SameShape first second) (later : SameShape second third) :
    SameShape first third :=
  ⟨later.user.trans earlier.user, later.directory.trans earlier.directory,
    earlier.outline.trans later.outline⟩

theorem symm (shape : SameShape first second) : SameShape second first :=
  ⟨shape.user.symm, shape.directory.symm, shape.outline.symm⟩

theorem directoryPath_eq (shape : SameShape first second) :
    second.directoryPath = first.directoryPath := by
  rw [directoryPath, directoryPath, shape.directory]

/-- Every path leads to the same location in both. -/
theorem locate_eq (shape : SameShape first second) (path : Path) :
    second.locate path = first.locate path := by
  rw [Workspace.locate, Workspace.locate, shape.user, shape.directory]
  exact (shape.outline.locate_congr first.user first.directory path).symm

/-- Where the workspaces agree on a location, they agree on the file there. -/
theorem fileAt_iff (shape : SameShape first second) {location : Location}
    (same : second.tree.lookup location = first.tree.lookup location) (path : Path) (mode : Nat)
    (bytes : ByteArray) :
    second.FileAt path location mode bytes ↔ first.FileAt path location mode bytes := by
  constructor
  · exact fun file => ⟨(shape.locate_eq path).symm.trans file.located, same ▸ file.stands⟩
  · exact fun file => ⟨(shape.locate_eq path).trans file.located, same ▸ file.stands⟩

/-- A file of one workspace is a file of the other, with the same permission bits. -/
theorem exists_file (shape : SameShape first second) {path : Path} {location : Location}
    {mode : Nat} {bytes : ByteArray} (file : second.FileAt path location mode bytes) :
    ∃ old : ByteArray, first.FileAt path location mode old := by
  obtain ⟨old, stands⟩ := shape.outline.symm.file file.stands
  exact ⟨old, (shape.locate_eq path).symm.trans file.located, stands⟩

/-- The workspaces agree on where names may be changed. -/
theorem mayChangeNames_eq (shape : SameShape first second) (directory : Location) :
    second.mayChangeNames directory = first.mayChangeNames directory := by
  rw [mayChangeNames, mayChangeNames, shape.user]
  rcases shape.outline.lookup_cases directory with ⟨here, there⟩ | ⟨mode, old, new, here, there⟩ |
    ⟨mode, here, there⟩ | ⟨target, here, there⟩ <;> rw [here, there]

end SameShape

/-! ## Reading -/

theorem bytes_eq_ok {workspace : Workspace} {path : Path} {bytes : ByteArray}
    (read : workspace.bytes path = .ok bytes) :
    ∃ location mode, workspace.FileAt path location mode bytes := by
  rw [Workspace.bytes, openEntry] at read
  cases examined : workspace.examine path with
  | error error => simp [examined, bind, Except.bind] at read
  | ok entry =>
    obtain ⟨location, located, stands⟩ := (examine_eq_ok_iff workspace path entry).mp examined
    simp only [examined, bind, Except.bind] at read
    cases allowed : workspace.user.may .read entry.mode with
    | false => simp [allowed] at read
    | true =>
      cases entry with
      | file mode content =>
        simp only [allowed, if_true, pure, Except.pure, Except.ok.injEq] at read
        exact ⟨location, mode, located, by rw [stands, read]⟩
      | directory mode => simp [allowed, pure, Except.pure] at read
      | link target => simp [allowed, pure, Except.pure] at read

theorem FileAt.bytes_eq {workspace : Workspace} {path : Path} {location : Location} {mode : Nat}
    {bytes : ByteArray} (file : workspace.FileAt path location mode bytes) :
    workspace.bytes path =
      if workspace.user.may .read mode then .ok bytes else .error .denied := by
  rw [Workspace.bytes, openEntry, file.examine]
  show (if workspace.user.may .read mode then Except.ok _ else Except.error _).bind _ = _
  split <;> rfl

/-! ## Replacing -/

/-- A file is replaced when names may be changed in the directory that holds it. -/
theorem FileAt.writeText_eq {workspace : Workspace} {path : Path} {location : Location}
    {mode : Nat} {old : ByteArray} (file : workspace.FileAt path location mode old)
    (content : Text) :
    workspace.writeText path content =
      if workspace.mayChangeNames location.dropLast then
        .ok { workspace with
          tree := workspace.tree.put location (.file mode content.encode) }
      else .error (.io path (temporaryCause location.dropLast .denied)) := by
  rw [writeText]
  cases allowed : workspace.mayChangeNames location.dropLast with
  | false =>
    rw [quiet_replace_run_of_not_allowed file.located file.stands _ allowed]
    rfl
  | true =>
    rw [quiet_replace_run file.located file.stands _ allowed]
    rfl

/-- A file that was replaced has the new text and its old permission bits, and nothing else
has changed. -/
theorem writeText_eq_ok {workspace after : Workspace} {path : Path} {content : Text}
    (written : workspace.writeText path content = .ok after) :
    ∃ location mode old, workspace.FileAt path location mode old ∧
      after = { workspace with
        tree := workspace.tree.put location (.file mode content.encode) } := by
  have ends := replace_ends (.quiet workspace) workspace path (String.ofList content).toUTF8
  rw [Ends] at ends
  rw [writeText] at written
  split at written
  · rename_i changed ran
    cases written
    rw [ran] at ends
    obtain ⟨location, mode, old, replaceable, made⟩ := ends
    exact ⟨location, mode, old, ⟨replaceable.located, replaceable.stands⟩, made⟩
  · cases written

end Workspace

namespace Content

theorem readBytes_value (workspace : Workspace) (path : Path) :
    (readBytes workspace path).value =
      match workspace.examine path with
      | .error error => .error (failure path error)
      | .ok entry =>
        if maxSize < sizeOf entry then .error (.fileTooLarge path (sizeOf entry) maxSize)
        else (workspace.bytes path).mapError (failure path) := by
  rw [readBytes]
  cases workspace.examine path with
  | error error => rfl
  | ok entry =>
    dsimp only
    split
    · rfl
    · split <;> rfl

theorem readText_value (workspace : Workspace) (path : Path) :
    (readText workspace path).value =
      ((readBytes workspace path).value.bind (decode path)).map String.toList :=
  rfl

theorem decode_eq_ok {path : Path} {bytes : ByteArray} {string : String}
    (read : decode path bytes = .ok string) : bytes = Text.encode string.toList := by
  rw [← Text.decode_eq_some_iff, Text.decode?]
  rw [decode] at read
  split at read
  · rename_i found
    cases read
    rw [found]
    rfl
  · cases read

/-- A text that was read is the one on disk. -/
theorem readText_eq_ok {workspace : Workspace} {path : Path} {content : Text}
    (read : (readText workspace path).value = .ok content) :
    ∃ location mode, workspace.FileAt path location mode content.encode := by
  rw [readText_value, readBytes_value] at read
  split at read
  · cases read
  · split at read
    · cases read
    · cases found : workspace.bytes path with
      | error error =>
        rw [found] at read
        cases read
      | ok bytes =>
        obtain ⟨location, mode, file⟩ := Workspace.bytes_eq_ok found
        rw [found] at read
        change (decode path bytes).map String.toList = .ok content at read
        cases decoded : decode path bytes with
        | error error =>
          rw [decoded] at read
          cases read
        | ok string =>
          rw [decoded] at read
          cases read
          rw [decode_eq_ok decoded] at file
          exact ⟨location, mode, file⟩

theorem startsWithShebang_eq_ok {workspace : Workspace} {path : Path} {script : Bool}
    (looked : startsWithShebang workspace path = .ok script) :
    ∃ location mode bytes, workspace.FileAt path location mode bytes ∧
      script = beginsScript bytes := by
  rw [startsWithShebang] at looked
  cases found : workspace.bytes path with
  | error error =>
    rw [found] at looked
    cases looked
  | ok bytes =>
    obtain ⟨location, mode, file⟩ := Workspace.bytes_eq_ok found
    rw [found] at looked
    cases looked
    exact ⟨location, mode, bytes, file, rfl⟩

/-! ## What reading depends on -/

section Congr

variable {first second : Workspace} {path : Path} (user : second.user = first.user)
  (examined : second.examine path = first.examine path)
include user examined

theorem bytes_congr : second.bytes path = first.bytes path := by
  rw [Workspace.bytes, Workspace.bytes, Workspace.openEntry, Workspace.openEntry, examined, user]

theorem startsWithShebang_congr :
    startsWithShebang second path = startsWithShebang first path := by
  rw [startsWithShebang, startsWithShebang, bytes_congr user examined]

theorem readText_congr : readText second path = readText first path := by
  have same : readBytes second path = readBytes first path := by
    rw [readBytes, readBytes, examined, bytes_congr user examined]
  rw [readText, readText, readString, readString, same]

end Congr

end Content

end Hygiene
