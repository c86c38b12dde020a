import ScriptCache.Machine.Routine

/-! Routines on whole files and folders. Each closes what it opened, however it ends. -/
namespace ScriptCache.Files

/-- Works on an open file and closes it. -/
def closing {α : Type} (handle : Handle) (work : Routine α) : Routine α := do
  let result ← work
  Routine.perform (.closeFile handle)
  return result

/-- Opens a file, works on it and closes it. -/
def opened {α : Type} (path : String) (mode : OpenMode)
    (work : Handle → Routine (Except SysError α)) : Routine (Except SysError α) := do
  match ← Routine.perform (.openFile path mode) with
  | .error e => return .error e
  | .ok handle => closing handle (work handle)

/-- The content of a file. -/
def read (path : String) : Routine (Except SysError Bytes) :=
  opened path .read fun handle => Routine.perform (.readRest handle)

/-- Gives a file a new content, in place of any it had. -/
def write (path : String) (content : Bytes) : Routine (Except SysError Unit) :=
  opened path .replace fun handle => Routine.perform (.write handle content)

/-- Gives an existing file another length. -/
def truncate (path : String) (length : Nat) : Routine (Except SysError Unit) :=
  opened path .update fun handle => Routine.perform (.setLength handle length)

/-- Copies a regular file, with its permission bits, over whatever file is at the other
path. -/
def copy (path target : String) : Routine (Except SysError Unit) :=
  opened path .read fun source => do
    if ← Routine.perform (.isRegular source) then
      opened target .replace fun copy => do
        match ← Routine.perform (.readRest source) with
        | .error e => return .error e
        | .ok content =>
          if ← Routine.perform (.isRegular copy) then Routine.perform (.copyMode source copy)
          Routine.perform (.write copy content)
    else return .error .notRegular

/-- Changes one byte of a file, counted from its end if the position is negative.
Nothing happens past either end. -/
def flip (path : String) (position : Int) (mask : UInt8) : Routine (Except SysError Unit) := do
  match ← read path with
  | .error e => return .error e
  | .ok content =>
    let at_ := if position < 0 then position + content.length else position
    if at_ < 0 then return .ok ()
    else
      match content[at_.toNat]? with
      | none => return .ok ()
      | some b => write path (content.set at_.toNat (b ^^^ mask))

/-- Whether a folder is there in spite of an error. -/
def folderOr (path : String) (e : SysError) : Routine (Except SysError Unit) := do
  if ← Routine.perform (.folderExists path) then return .ok () else return .error e

/-- Makes the first folder of the list where it is missing, after the ones it lies in. -/
def makeFolderChain : List String → Routine (Except SysError Unit)
  | [] => return .ok ()
  | path :: above => do
    match ← Routine.perform (.makeFolder path) with
    | .ok () => return .ok ()
    | .error .notFound =>
      match ← makeFolderChain above with
      | .error e => return .error e
      | .ok () =>
        match ← Routine.perform (.makeFolder path) with
        | .ok () => return .ok ()
        | .error e => folderOr path e
    | .error e => folderOr path e

/-- Makes a folder and those above it, where they are missing. -/
def makeFolders (path : String) : Routine (Except SysError Unit) :=
  makeFolderChain (Path.ancestors path)

end ScriptCache.Files
