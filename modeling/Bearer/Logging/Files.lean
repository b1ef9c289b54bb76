import Bearer.Logging.Setup
import Bearer.Text.Utf8

/-!
# Log files

Log files lie below a folder; the folders that a path names are made when the file is opened. A file
does not open where a folder is, below another file, outside the folder, or under a name that is too
long; the folders made on the way to it stay. The null device opens, and keeps nothing. A path with
a null character is none at all, and opening breaks off at it. What is written to a file stays in
it.

A file is written to at the place that its path names with all dots resolved, but it is found only
by a path whose every part is there.

* `recordsAt?_addFile`: a file that is added is empty, or holds what it held.
* `place?_of_locate?`: a file that is found lies where its path says.
* `records?_append`: what is written stands behind what was there.
-/
namespace Bearer.Logging

/-- The parts of a path, from the outside in. -/
abbrev Place := List String

/-- The folders and files below a folder. -/
structure Files where
  /-- The folders. -/
  folders : List Place := []
  /-- The files, with what was written to them. -/
  files : List (Place × List Record) := []

namespace Files

/-- The parts of a path between slashes. -/
def segments : List Char → List (List Char)
  | [] => [[]]
  | c :: s =>
    if c = '/' then [] :: segments s
    else match segments s with
      | [] => [[c]]
      | p :: ps => (c :: p) :: ps

/-- A place with dots resolved; absent if it leads outside. -/
def resolve? (done : Place) : List (List Char) → Option Place
  | [] => some done
  | p :: ps =>
    if p = [] || p = ['.'] then resolve? done ps
    else if p = ['.', '.'] then
      match done with
      | [] => none
      | _ => resolve? done.dropLast ps
    else resolve? (done ++ [String.ofList p]) ps

/-- The place that a path names; absent if it lies outside. -/
def place? (path : String) : Option Place :=
  if path.toList.head? = some '/' then none else resolve? [] (segments path.toList)

/-- Whether a name is too long. -/
def isLongName (name : List Char) : Bool :=
  255 < (Text.Utf8.encode name).length

/-- What was written to the file at a place, if there is a file. -/
def recordsAt? (fs : Files) (p : Place) : Option (List Record) :=
  (fs.files.find? fun f => f.1 = p).map (·.2)

/-- A folder more, unless it is there. -/
def addFolder (fs : Files) (p : Place) : Files :=
  if p ∈ fs.folders then fs else { fs with folders := fs.folders ++ [p] }

/-- A file more, with nothing written to it, unless it is there. -/
def addFile (fs : Files) (p : Place) : Files :=
  if (fs.recordsAt? p).isSome then fs else { fs with files := fs.files ++ [(p, [])] }

theorem recordsAt?_addFile (fs : Files) (p q : Place) :
    (fs.addFile p).recordsAt? q = (fs.recordsAt? q).or (if p = q then some [] else none) := by
  unfold addFile
  split
  · rename_i h
    by_cases hq : p = q
    · subst hq
      obtain ⟨rs, hr⟩ := Option.isSome_iff_exists.1 h
      simp [hr]
    · simp [hq]
  · simp only [recordsAt?, List.find?_append]
    cases fs.files.find? fun f => f.1 = q with
    | some f => simp
    | none => by_cases hq : p = q <;> simp [hq]

/-! ## Opening -/

/-- Why a file does not open. -/
inductive OpenFault where
  /-- The files and folders do not permit it. -/
  | refused
  /-- Its path is none. -/
  | notPath
deriving DecidableEq, Repr

/-- Whether a part of a path makes it none: whether it holds a null character. -/
def isNoPart (part : List Char) : Bool :=
  part.contains (Char.ofNat 0)

/-- Why no folder is made below a file; the parts are those behind the file. -/
def belowFile (ps : List (List Char)) : OpenFault :=
  match ps.find? (· ≠ []) with
  | some p => if isNoPart p then .notPath else .refused
  | none => .refused

/-- Goes through the folders that the parts of a path name, making those that are not there, and
tells where that leads, if it leads anywhere. -/
def enter (fs : Files) (here : Place) : List (List Char) → Files × Except OpenFault Place
  | [] => (fs, .ok here)
  | p :: ps =>
    if p = [] || p = ['.'] then enter fs here ps
    else if p = ['.', '.'] then
      if here.isEmpty then (fs, .error .refused) else enter fs here.dropLast ps
    else if isNoPart p then (fs, .error .notPath)
    else
      let there := here ++ [String.ofList p]
      if (fs.recordsAt? there).isSome then (fs, .error (belowFile ps))
      else if isLongName p then (fs, .error .refused)
      else enter (fs.addFolder there) there ps

/-- Opens the file of a name in a folder. -/
def openIn (fs : Files) (folder : Place) (name : List Char) : Files × Except OpenFault Unit :=
  if isNoPart name then (fs, .error .notPath)
  else if name = [] || name = ['.'] || name = ['.', '.'] || isLongName name then
    (fs, .error .refused)
  else
    let file := folder ++ [String.ofList name]
    if file ∈ fs.folders then (fs, .error .refused) else (fs.addFile file, .ok ())

/-- The path of the device that keeps nothing. -/
def nullDevice : String := "/dev/null"

/-- What becomes of opening a file outside the folder. -/
def openOutside (path : String) : Except OpenFault Unit :=
  if path = nullDevice then .ok ()
  else .error (if isNoPart path.toList then .notPath else .refused)

/-- Opens the file at a path. The folders are made first, and stay even if the file does not open.
-/
def openAt (fs : Files) (path : String) : Files × Except OpenFault Unit :=
  let ps := segments path.toList
  if path.toList.head? = some '/' then (fs, openOutside path)
  else match fs.enter [] ps.dropLast with
    | (fs, .error e) => (fs, .error e)
    | (fs, .ok folder) => fs.openIn folder ((ps.getLast?).getD [])

/-! ## Writing -/

/-- The files with a record written to the one at a path. -/
def append (fs : Files) (path : String) (r : Record) : Files :=
  match place? path with
  | none => fs
  | some file =>
    { fs with files := fs.files.map fun f => if f.1 = file then (f.1, f.2 ++ [r]) else f }

/-- The place of the file that the parts of a path lead to, if every part is there. -/
def follow? (fs : Files) (here : Place) : List (List Char) → Option Place
  | [] => none
  | p :: ps =>
    if p = [] || p = ['.'] then follow? fs here ps
    else if p = ['.', '.'] then
      if here.isEmpty then none else follow? fs here.dropLast ps
    else
      let there := here ++ [String.ofList p]
      if (fs.recordsAt? there).isSome then
        if ps.isEmpty then some there else none
      else if there ∈ fs.folders then follow? fs there ps
      else none

/-- The place of the file that a path leads to, if it leads to one. -/
def locate? (fs : Files) (path : String) : Option Place :=
  if path.toList.head? = some '/' then none else fs.follow? [] (segments path.toList)

/-- What was written to the file that a path leads to, if it leads to one. -/
def records? (fs : Files) (path : String) : Option (List Record) :=
  (fs.locate? path).bind fs.recordsAt?

theorem resolve?_of_follow? {fs : Files} {ps : List (List Char)} {here place : Place}
    (h : fs.follow? here ps = some place) : resolve? here ps = some place := by
  induction ps generalizing here with
  | nil => simp [follow?] at h
  | cons p ps ih =>
    unfold follow? at h
    unfold resolve?
    split at h
    · rename_i hp
      rw [if_pos hp]
      exact ih h
    · rename_i hp
      rw [if_neg hp]
      split at h
      · rename_i hd
        rw [if_pos hd]
        split at h
        · cases h
        · cases here with
          | nil => simp at *
          | cons a as => exact ih h
      · rename_i hd
        rw [if_neg hd]
        simp only at h
        split at h
        · split at h
          · rename_i he
            cases h
            rw [List.isEmpty_iff.1 he, resolve?]
          · cases h
        · split at h
          · exact ih h
          · cases h

theorem place?_of_locate? {fs : Files} {path : String} {place : Place}
    (h : fs.locate? path = some place) : place? path = some place := by
  unfold locate? at h
  unfold place?
  split at h
  · cases h
  · rename_i hp
    rw [if_neg hp]
    exact resolve?_of_follow? h

theorem recordsAt?_append {fs : Files} {path : String} {place : Place}
    (hp : place? path = some place) (r : Record) (q : Place) :
    (fs.append path r).recordsAt? q =
      (fs.recordsAt? q).map fun rs => if q = place then rs ++ [r] else rs := by
  unfold append
  simp only [hp, recordsAt?]
  obtain ⟨folders, files⟩ := fs
  simp only
  induction files with
  | nil => rfl
  | cons f files ih =>
    by_cases hf : f.1 = place
    · by_cases hq : place = q
      · simp [hf, hq]
      · have hq' : ¬ f.1 = q := hf ▸ hq
        simpa [hf, hq, hq'] using ih
    · by_cases hq : f.1 = q
      · have hqp : ¬ q = place := hq ▸ hf
        simp [hq, hqp]
      · simpa [hf, hq] using ih

theorem follow?_append (fs : Files) (path : String) (r : Record) (here : Place)
    (ps : List (List Char)) : (fs.append path r).follow? here ps = fs.follow? here ps := by
  have hs : ∀ q, ((fs.append path r).recordsAt? q).isSome = (fs.recordsAt? q).isSome := by
    intro q
    cases hp : place? path with
    | none => simp [append, hp]
    | some place => simp [recordsAt?_append hp]
  have hf : (fs.append path r).folders = fs.folders := by
    unfold append
    split <;> rfl
  induction ps generalizing here with
  | nil => rfl
  | cons p ps ih => simp only [follow?, hs, hf, ih]

theorem records?_append {fs : Files} {path : String} {rs : List Record}
    (h : fs.records? path = some rs) (r : Record) :
    (fs.append path r).records? path = some (rs ++ [r]) := by
  unfold records? at h ⊢
  cases hl : fs.locate? path with
  | none => simp [hl] at h
  | some place =>
    have hl' : (fs.append path r).locate? path = some place := by
      unfold locate? at hl ⊢
      rw [follow?_append, hl]
    rw [hl, Option.bind_some] at h
    rw [hl', Option.bind_some, recordsAt?_append (place?_of_locate? hl), h]
    simp

end Files

/-- A logger with its files. -/
structure Journal where
  /-- The logger. -/
  setup : Setup := {}
  /-- The files. -/
  files : Files := {}

namespace Journal

/-- Writes a record to the files of the logger. -/
def write (j : Journal) (r : Record) : Journal :=
  { j with files := (j.setup.filesFor r).foldl (fun fs path => fs.append path r) j.files }

/-- Sets the log up, opening the file that settings name, and tells whether the set-up came to its
end. It breaks off at a path that is none. -/
def configure (s : Settings) (j : Journal) : Journal × Bool :=
  let (files, opened) :=
    match s.logFile with
    | some path => j.files.openAt path
    | none => (j.files, .error .refused)
  match opened with
  | .error .notPath => (⟨j.setup.breakOff s, files⟩, false)
  | .error .refused => (write ⟨j.setup.configure s fun _ => false, files⟩ (Setup.report s), true)
  | .ok () => (write ⟨j.setup.configure s fun _ => true, files⟩ (Setup.report s), true)

end Journal

end Bearer.Logging
