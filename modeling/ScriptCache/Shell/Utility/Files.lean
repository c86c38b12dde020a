import ScriptCache.Shell.Calendar
import ScriptCache.Shell.Mode
import ScriptCache.Shell.Utility.Call
import ScriptCache.Shell.Utility.Tree

/-! Utilities that make, move and remove files and folders. -/
namespace ScriptCache.Shell.Utility

/-- A disk on which everything has a time that is new, and every folder whose entries changed. -/
def stamped (old : Disk) (time : Int) (new : Disk) : Disk :=
  (new.nodes.zipIdx.filter fun (node, id) => old.nodes.length ≤ id || match old.node? id, node with
    | some (.folder before), .folder now => before != now
    | _, _ => false).foldl (fun disk (_, id) => disk.setTime id time) new

/-- Puts a changed disk in the place of the old one. -/
def changeDisk (disk : Disk) : Act Unit :=
  Act.changeWorld fun w => w.withDisk (stamped w.disk w.now disk)

/-- Takes a changed disk over, or complains. -/
def takeDisk (name problem : String) (r : Except SysError Disk) : Act Nat := do
  match r with
  | .ok disk =>
    changeDisk disk
    return 0
  | .error e =>
    complain name (problem ++ ": " ++ e.text)
    return 1

/-- Says what was done, if that is asked for. -/
def report (wanted : Bool) (text : String) : Act Unit :=
  if wanted then Act.say 1 (text ++ "\n") else return ()

/-- A path without the slashes at its end. -/
def withoutSlashes (text : String) : List Char :=
  (text.toList.reverse.dropWhile (· == '/')).reverse

/-- The last part of a path. -/
def baseName (text : String) : String :=
  if text.isEmpty then ""
  else
    match withoutSlashes text with
    | [] => "/"
    | cs => String.ofList (cs.reverse.takeWhile (· != '/')).reverse

/-- The path of an entry of a folder. -/
def below (folder name : String) : String :=
  if folder.endsWith "/" then folder ++ name else folder ++ "/" ++ name

/-! ### Removing -/

/-- Removes what has a path, and everything in it. -/
def removeAll (verbose : Bool) : Nat → String → Act Nat
  | 0, _ => return 1
  | depth + 1, path => do
    let disk ← Act.disk
    let failed (e : SysError) : Act Nat := do
      complain "rm" ("cannot remove " ++ quotedPath path ++ ": " ++ e.text)
      return 1
    match Tree.at? disk (Latin.toName path) with
    | .error e => failed e
    | .ok (id, entry) =>
      let status ← worst ((Tree.names disk id).map fun (name, _) =>
        removeAll verbose depth (below path (Latin.ofName name)))
      match status, entry with
      | 0, some (folder, name) =>
        changeDisk (Tree.withoutEntry (← Act.disk) folder name)
        report verbose ((if Tree.isFolder disk id then "removed directory " else "removed ") ++ quotedPath path)
        return 0
      | 0, none => failed .invalid
      | status, _ => return status

def rmUsage : Usage where
  name := "rm"
  options := [flag 'f' "force", flag 'i' "interactive", flag 'I' "", flag 'r' "recursive", flag 'R' "",
    flag 'd' "dir", flag 'v' "verbose", wordFlag '1' "preserve-root", wordFlag '2' "no-preserve-root",
    wordFlag '3' "one-file-system"]

def rm (args : List String) : Act Nat :=
  withOptions rmUsage args fun found operands => do
    if operands.isEmpty then
      if has found 'f' then return 0 else misused "rm" "missing operand"
    else
      worst (operands.map fun operand => do
        let disk ← Act.disk
        let path := Latin.toName operand
        let recursive := has found 'r' || has found 'R'
        let failed (e : SysError) : Act Nat := do
          if has found 'f' && (e == .notFound || e == .notFolder) then return 0
          else takeDisk "rm" ("cannot remove " ++ quotedPath operand) (.error e)
        let last := (Path.parts path).getLast?
        if recursive && (last == some "." || last == some "..") then
          complain "rm" ("refusing to remove '.' or '..' directory: skipping " ++ quotedPath operand)
          return 1
        else if recursive && !path.isEmpty && last.isNone then
          complain "rm" "it is dangerous to operate recursively on '/'"
          complain "rm" "use --no-preserve-root to override this failsafe"
          return 1
        else
          match Tree.at? disk path with
          | .error e => failed e
          | .ok (id, _) =>
            if recursive then removeAll (has found 'v') (disk.nodes.length + 1) operand
            else if has found 'd' && Tree.isFolder disk id then
              let status ← match Tree.removeFolder disk path with
                | .error e => failed e
                | r => takeDisk "rm" "" r
              if status == 0 then report (has found 'v') ("removed directory " ++ quotedPath operand)
              return status
            else
              match disk.unlink path with
              | .error e => failed e
              | r =>
                report (has found 'v') ("removed " ++ quotedPath operand)
                takeDisk "rm" "" r)

def rmdir (args : List String) : Act Nat :=
  withOptions { name := "rmdir", options := [flag 'p' "parents", flag 'v' "verbose",
      wordFlag '1' "ignore-fail-on-non-empty"] } args fun found operands => do
    let remove (problem path : String) : Act Nat := do
      report (has found 'v') ("rmdir: removing directory, " ++ quotedPath path)
      match Tree.removeFolder (← Act.disk) (Latin.toName path) with
      | .error .notEmpty =>
        if has found '1' then return 0
        else takeDisk "rmdir" (problem ++ quotedPath path) (.error .notEmpty)
      | r => takeDisk "rmdir" (problem ++ quotedPath path) r
    let rec upwards : List String → Act Nat
      | [] => return 0
      | path :: rest => do
        let status ← remove "failed to remove directory " path
        if status == 0 then upwards rest else return status
    if operands.isEmpty then misused "rmdir" "missing operand"
    else
      worst (operands.map fun operand => do
        let status ← remove "failed to remove " operand
        if status == 0 && has found 'p' then
          upwards ((Path.ancestors operand).tail.filter fun path => path != "/" && path != ".")
        else return status)

/-- Removes one name. -/
def unlink (args : List String) : Act Nat := do
  match args with
  | [] => misused "unlink" "missing operand"
  | [path] =>
    takeDisk "unlink" ("cannot unlink " ++ quotedPath path) ((← Act.disk).unlink (Latin.toName path))
  | _ :: extra :: _ => extraOperand "unlink" extra

/-! ### Making -/

/-- The permission bits that a text asks for; those that something new has if there is none. -/
def newMode (kind : Nat) (text : Option String) : Act (Option Nat) := do
  let umask := (← Act.scope).umask
  return match text with
    | none => some (Act.masked umask kind)
    | some text => Mode.changed umask true text kind

/-- Adds a folder with permission bits. -/
def addFolder (disk : Disk) (path : String) (mode : Nat) : Except SysError Disk := do
  let made ← disk.makeFolder path
  return made.setMode disk.nodes.length mode

/-- Makes the missing folders of a list, up to the first that cannot be made; the last has
permission bits of its own. -/
def makeFolders (verbose : Bool) (mode : Nat) : List String → Act Nat
  | [] => return 0
  | path :: below => do
    let disk ← Act.disk
    if disk.isFolder path then makeFolders verbose mode below
    else
      let umask := (← Act.scope).umask
      let own := if below.isEmpty then mode else Act.masked umask 0o777 ||| 0o300
      let problem := "cannot create directory " ++ quotedPath (Latin.ofName path)
      match addFolder disk path own with
      | .error e =>
        let reason := if e == .exists && !below.isEmpty then .notFolder else e
        takeDisk "mkdir" problem (.error reason)
      | .ok disk =>
        let _ ← takeDisk "mkdir" "" (.ok disk)
        report verbose ("mkdir: created directory " ++ quotedPath (Latin.ofName path))
        makeFolders verbose mode below

def mkdir (args : List String) : Act Nat :=
  withOptions { name := "mkdir", options := [flag 'p' "parents", valued 'm' "mode", flag 'v' "verbose"] } args
    fun found operands => do
      let text := valueOf? found 'm'
      match operands, ← newMode 0o777 text with
      | [], _ => misused "mkdir" "missing operand"
      | _, none =>
        complain "mkdir" ("invalid mode " ++ quoted (text.getD ""))
        return 1
      | operands, some mode =>
        worst (operands.map fun operand => do
          let path := Latin.toName operand
          if has found 'p' && !path.isEmpty then
            makeFolders (has found 'v') mode (Path.ancestors path).reverse
          else
            let status ← takeDisk "mkdir" ("cannot create directory " ++ quotedPath operand)
              (addFolder (← Act.disk) path mode)
            if status == 0 then report (has found 'v') ("mkdir: created directory " ++ quotedPath operand)
            return status)

/-- A disk on which a path leads to a file, made empty with permission bits if it is missing. -/
def withFile (disk : Disk) (path : String) (mode : Nat) : Except SysError (NodeId × Disk) := do
  let (id, made) ← disk.ensureFile path
  return (id, if id == disk.nodes.length then made.setMode id mode else made)

def touchUsage : Usage where
  name := "touch"
  options := [flag 'a' "", flag 'c' "no-create", valued 'd' "date", flag 'f' "", flag 'h' "no-dereference",
    flag 'm' "", valued 'r' "reference", valued 't' "", wordValued '1' "time"]

/-- The time that options ask for. What is wrong with them is complained about. -/
def askedTime (found : List (Char × String)) : Act (Except Nat Int) := do
  let w ← Act.world
  let invalid (text : String) : Act (Except Nat Int) := do
    complain "touch" ("invalid date format " ++ quoted text)
    return .error 1
  let described (now : Int) : Act (Except Nat Int) := match valueOf? found 'd' with
    | none => return .ok now
    | some text =>
      match Calendar.read? now text with
      | some time => return .ok time
      | none => invalid text
  match valueOf? found 'r', valueOf? found 't' with
  | some _, some _ => return .error (← misused "touch" "cannot specify times from more than one source")
  | some path, none =>
    match w.disk.existing (Latin.toName path) false with
    | .ok id => described (w.disk.time id)
    | .error e =>
      complain "touch" ("failed to get attributes of " ++ quotedPath path ++ ": " ++ e.text)
      return .error 1
  | none, some text =>
    if has found 'd' then return .error (← misused "touch" "cannot specify times from more than one source")
    else
      match Calendar.stamp? w.now text with
      | some time => return .ok time
      | none => invalid text
  | none, none => described w.now

def touch (args : List String) : Act Nat :=
  withOptions touchUsage args fun found operands => do
    match ← askedTime found with
    | .error status => return status
    | .ok time =>
      if operands.isEmpty then misused "touch" "missing file operand"
      else
        let changes := !has found 'a' || has found 'm'
        worst (operands.map fun operand => do
          let disk ← Act.disk
          let path := Latin.toName operand
          let there := if has found 'h' then (Tree.at? disk path).map Prod.fst else disk.existing path false
          match there with
          | .ok id =>
            if changes then Act.changeWorld fun w => w.marking (·.setTime id time)
            return 0
          | .error _ =>
            if operand == "-" || has found 'c' then return 0
            else
              match withFile disk path (Act.masked (← Act.scope).umask 0o666) with
              | .error .isFolder => takeDisk "touch" ("setting times of " ++ quotedPath operand) (.error .notFound)
              | .error e => takeDisk "touch" ("cannot touch " ++ quotedPath operand) (.error e)
              | .ok (id, disk) =>
                let status ← takeDisk "touch" "" (.ok disk)
                Act.changeWorld fun w => w.marking (·.setTime id time)
                return status)

/-- Cuts files, or fills them up with zeros. -/
def truncate (args : List String) : Act Nat :=
  withOptions { name := "truncate", options := [flag 'c' "no-create", flag 'o' "io-blocks", valued 'r' "reference",
      valued 's' "size"] } args fun found operands => do
    let disk ← Act.disk
    let reference := (valueOf? found 'r').map fun path => disk.find? (Latin.toName path)
    let (sign, digits) := match ((valueOf? found 's').getD "").toList with
      | c :: rest => if "+-<>/%".toList.contains c then (some c, String.ofList rest) else (none, String.ofList (c :: rest))
      | [] => (none, "")
    let asked := match reference with
      | some (some (.file content)) => some content.length
      | some _ => none
      | none => quantity? digits
    let resized (old n : Nat) : Nat := match sign with
      | some '+' => old + n
      | some '-' => old - n
      | some '<' => min old n
      | some '>' => max old n
      | some '/' => old / max n 1 * n
      | some '%' => (old + n - 1) / max n 1 * n
      | _ => n
    match asked with
    | none =>
      if (valueOf? found 's').isNone && reference.isNone then
        misused "truncate" "you must specify either '--size' or '--reference'"
      else if let some path := valueOf? found 'r' then
        complain "truncate" ("cannot stat " ++ quotedPath path ++ ": " ++ SysError.notFound.text)
        return 1
      else
        complain "truncate" ("Invalid number: " ++ quoted digits)
        return 1
    | some n =>
      if operands.isEmpty then misused "truncate" "missing file operand"
      else
        worst (operands.map fun operand => do
          let disk ← Act.disk
          let umask := (← Act.scope).umask
          let path := Latin.toName operand
          if has found 'c' && !disk.exists? path then return 0
          else
            let now := (← Act.world).now
            takeDisk "truncate" ("cannot open " ++ quotedPath operand ++ " for writing") do
              let (id, disk) ← withFile disk path (Act.masked umask 0o666)
              match disk.node? id with
              | some (.file content) =>
                let size := resized content.length n
                return (disk.put id (.file (Machine.resized content size))).setTime id now
              | _ => return disk)

/-! ### Links -/

def lnUsage : Usage where
  name := "ln"
  options := [flag 's' "symbolic", flag 'f' "force", flag 'n' "no-dereference", flag 'T' "no-target-directory",
    flag 'v' "verbose", flag 'r' "relative", valued 't' "target-directory", flag 'L' "logical", flag 'P' "physical",
    flag 'i' "interactive"]

/-- What an operand goes to: a path, or its own name in a folder. -/
inductive Destination where
  | path (text : String)
  | folder (text : String)

/-- The sources among operands, and where they go. `isFolder` says of a target whether it is
a folder that things go into. -/
def destination (name : String) (folder : Option String) (single : Bool) (operands : List String)
    (isFolder : String → Bool) (alone : Option Destination) :
    Act (Except Nat (List String × Destination)) := do
  let disk ← Act.disk
  match folder, operands with
  | _, [] => return .error (← misused name "missing file operand")
  | some folder, sources =>
    if disk.isFolder (Latin.toName folder) then return .ok (sources, .folder folder)
    else
      let reason := if disk.exists? (Latin.toName folder) then SysError.notFolder else .notFound
      complain name ("target directory " ++ quotedPath folder ++ ": " ++ reason.text)
      return .error 1
  | none, [one] =>
    match alone with
    | some d => return .ok ([one], d)
    | none => return .error (← misused name ("missing destination file operand after " ++ quotedPath one))
  | none, operands =>
    let target := operands.getLast?.getD ""
    let sources := operands.dropLast
    if single then
      match sources with
      | _ :: _ :: _ => return .error (← extraOperand name (operands.getD 2 ""))
      | _ => return .ok (sources, .path target)
    else if isFolder target then return .ok (sources, .folder target)
    else if 1 < sources.length then
      let reason := if disk.exists? (Latin.toName target) then SysError.notFolder else .notFound
      complain name ("target " ++ quotedPath target ++ ": " ++ reason.text)
      return .error 1
    else return .ok (sources, .path target)

def Destination.of (d : Destination) (source : String) : String :=
  match d with
  | path text => text
  | folder text => below text (baseName source)

def ln (args : List String) : Act Nat :=
  withOptions lnUsage args fun found operands => do
    let symbolic := has found 's'
    let start ← Act.disk
    let isLink (path : String) : Bool := match Tree.at? start (Latin.toName path) with
      | .ok (id, _) => !Tree.isFolder start id
      | .error _ => false
    let isFolder (path : String) : Bool :=
      start.isFolder (Latin.toName path) && !(has found 'n' && isLink path)
    match ← destination "ln" (valueOf? found 't') (has found 'T') operands isFolder (some (.folder ".")) with
    | .error status => return status
    | .ok (sources, place) =>
      worst (sources.map fun source => do
        let target := place.of source
        let path := Latin.toName target
        let disk ← Act.disk
        let kind := if symbolic then "symbolic" else "hard"
        let there := Tree.at? disk path
        let same := match Tree.at? disk (Latin.toName source), there with
          | .ok (a, _), .ok (b, _) => a == b
          | _, _ => false
        let failed (e : SysError) : Act Nat := do
          let arrow := if symbolic && source.isEmpty then " -> " ++ quotedPath source else ""
          complain "ln" ("failed to create " ++ kind ++ " link " ++ quotedPath target ++ arrow ++ ": " ++ e.text)
          return 1
        let cleared : Except SysError Disk := match has found 'f', there with
          | true, .ok (id, some (folder, name)) =>
            if Tree.isFolder disk id then .ok disk else .ok (Tree.withoutEntry disk folder name)
          | _, _ => .ok disk
        if has found 'f' && same then
          complain "ln" (quotedPath source ++ " and " ++ quotedPath target ++ " are the same file")
          return 1
        else if symbolic then
          match cleared.bind fun disk => disk.makeLink path (Latin.toName source) with
          | .error e => failed e
          | .ok disk =>
            report (has found 'v') (quotedPath target ++ " -> " ++ quotedPath source)
            takeDisk "ln" "" (.ok disk)
        else
          match Tree.at? disk (Latin.toName source) with
          | .error e =>
            complain "ln" ("failed to access " ++ quotedPath source ++ ": " ++ e.text)
            return 1
          | .ok (id, _) =>
            if Tree.isFolder disk id then
              complain "ln" (source ++ ": hard link not allowed for directory")
              return 1
            else
              match cleared.bind fun disk => Tree.link disk id path with
              | .error e => failed e
              | .ok disk =>
                report (has found 'v') (quotedPath target ++ " => " ++ quotedPath source)
                takeDisk "ln" "" (.ok disk))

/-! ### Copying and moving -/

/-- How things are copied. -/
structure Copying where
  recursive : Bool
  /-- Whether links are copied as links: all of them, or those in folders. -/
  links : Bool
  linksBelow : Bool
  /-- Whether permission bits are taken over whatever the mask says. -/
  keep : Bool
  verbose : Bool
  /-- Whether what is there already stays. -/
  noClobber : Bool
  hard : Bool
  symbolic : Bool

/-- Copies what has a path to another path. `top` says that it was named by an operand. -/
def copyTo (c : Copying) : Nat → (top : Bool) → String → String → Act Nat
  | 0, _, _, _ => return 1
  | depth + 1, top, source, target => do
    let s ← get
    let disk := s.world.disk
    let give (problem : String) : Act Nat := do
      complain "cp" problem
      return 1
    let asLink := if top then c.links else c.linksBelow
    let found := if asLink then (Tree.at? disk (Latin.toName source)).map Prod.fst
      else disk.existing (Latin.toName source) false
    match found with
    | .error e => give ("cannot stat " ++ quotedPath source ++ ": " ++ e.text)
    | .ok id =>
      let path := Latin.toName target
      let there := match disk.locate true path with
        | .ok (.taken other _) => some other
        | _ => none
      let node := disk.node? id
      let arrow : Act Unit := report c.verbose (quotedPath source ++ " -> " ++ quotedPath target)
      match node with
      | some (.folder _) =>
        if !c.recursive then give ("-r not specified; omitting directory " ++ quotedPath source)
        else
          let inside := match disk.locateSteps true path (Path.parts path) with
            | .ok (.free folder _) => Tree.contains disk disk.nodes.length id folder
            | .ok (.taken other _) => top && Tree.contains disk disk.nodes.length id other
            | .error _ => false
          if inside then
            give ("cannot copy a directory, " ++ quotedPath source ++ ", into itself, " ++ quotedPath target)
          else if there.any fun other => !Tree.isFolder disk other then
            give ("cannot overwrite non-directory " ++ quotedPath target ++ " with directory " ++ quotedPath source)
          else
            let status ← if there.isSome then pure 0 else do
              let mode := if c.keep then disk.mode id else Act.masked s.scope.umask (disk.mode id)
              let status ← takeDisk "cp" ("cannot create directory " ++ quotedPath target) (addFolder disk path mode)
              if status == 0 then arrow
              pure status
            if status != 0 then return status
            else
              worst ((Tree.names disk id).map fun (name, _) =>
                copyTo c depth false (below source (Latin.ofName name)) (below target (Latin.ofName name)))
      | some (.link text) =>
        if there == some id then give (quotedPath source ++ " and " ++ quotedPath target ++ " are the same file")
        else
          arrow
          let cleared := match Tree.at? disk path with
            | .ok (_, some (folder, name)) => Tree.withoutEntry disk folder name
            | _ => disk
          takeDisk "cp" ("cannot create symbolic link " ++ quotedPath target) (cleared.makeLink path text)
      | node =>
        if there == some id then
          if c.hard then return 0
          else give (quotedPath source ++ " and " ++ quotedPath target ++ " are the same file")
        else if there.any (Tree.isFolder disk) then
          give ("cannot overwrite directory " ++ quotedPath target ++ " with non-directory")
        else if c.noClobber && there.isSome then return 0
        else if c.hard then
          arrow
          takeDisk "cp" ("cannot create hard link " ++ quotedPath target) (Tree.link disk id path)
        else if c.symbolic then
          arrow
          takeDisk "cp" ("cannot create symbolic link " ++ quotedPath target) (disk.makeLink path (Latin.toName source))
        else
          let content := match node with
            | some (.file content) => content
            | _ => []
          let mode := if c.keep then disk.mode id else Act.masked s.scope.umask (disk.mode id)
          let problem := "cannot create regular file " ++ quotedPath target
          match withFile disk path mode with
          | .error .isFolder => takeDisk "cp" problem (.error .notFolder)
          | .error e => takeDisk "cp" problem (.error e)
          | .ok (other, disk) =>
            arrow
            let disk := match disk.node? other with
              | some (.file _) => (disk.put other (.file content)).setTime other s.world.now
              | _ => disk
            let status ← takeDisk "cp" problem (.ok (if c.keep then disk.setMode other mode else disk))
            if c.keep then Act.changeWorld fun w => w.marking (·.setTime other (w.disk.time id))
            return status

def cpUsage : Usage where
  name := "cp"
  options := [flag 'a' "archive", flag 'b' "backup", flag 'd' "", flag 'f' "force", flag 'i' "interactive",
    flag 'H' "", flag 'l' "link", flag 'L' "dereference", flag 'n' "no-clobber", flag 'P' "no-dereference",
    flag 'p' "preserve", flag 'r' "recursive", flag 'R' "", flag 's' "symbolic-link",
    valued 't' "target-directory", flag 'T' "no-target-directory", flag 'u' "update", flag 'v' "verbose",
    flag 'x' "one-file-system", wordValued '1' "no-preserve", wordValued '2' "reflink", wordValued '3' "sparse"]

def cp (args : List String) : Act Nat :=
  withOptions cpUsage args fun found operands => do
    let any (cs : List Char) : Bool := cs.any (has found)
    let recursive := any ['r', 'R', 'a']
    let follows := has found 'L'
    let kept := any ['P', 'd', 'a']
    let c : Copying :=
      { recursive, links := !follows && (kept || (recursive && !has found 'H')), linksBelow := !follows && (kept || recursive)
        keep := any ['p', 'a'], verbose := has found 'v', noClobber := has found 'n', hard := has found 'l'
        symbolic := has found 's' }
    let start ← Act.disk
    match ← destination "cp" (valueOf? found 't') (has found 'T') operands
        (fun path => start.isFolder (Latin.toName path)) none with
    | .error status => return status
    | .ok (sources, place) =>
      worst (sources.map fun source => do
        let disk ← Act.disk
        copyTo c (disk.nodes.length + 1) true source (place.of source))

def mvUsage : Usage where
  name := "mv"
  options := [flag 'b' "backup", flag 'f' "force", flag 'i' "interactive", flag 'n' "no-clobber",
    valued 't' "target-directory", flag 'T' "no-target-directory", flag 'u' "update", flag 'v' "verbose"]

def mv (args : List String) : Act Nat :=
  withOptions mvUsage args fun found operands => do
    let start ← Act.disk
    match ← destination "mv" (valueOf? found 't') (has found 'T') operands
        (fun path => start.isFolder (Latin.toName path)) none with
    | .error status => return status
    | .ok (sources, place) =>
      worst (sources.map fun source => do
        let target := place.of source
        let disk ← Act.disk
        let there := Tree.at? disk (Latin.toName target)
        let give (problem : String) : Act Nat := do
          complain "mv" problem
          return 1
        match Tree.at? disk (Latin.toName source) with
        | .error e => give ("cannot stat " ++ quotedPath source ++ ": " ++ e.text)
        | .ok (id, _) =>
          let taken (test : NodeId → Bool) : Bool := match there with
            | .ok (other, _) => test other
            | .error _ => false
          if taken (· == id) then give (quotedPath source ++ " and " ++ quotedPath target ++ " are the same file")
          else if taken fun other => Tree.isFolder disk id && !Tree.isFolder disk other then
            give ("cannot overwrite non-directory " ++ quotedPath target ++ " with directory " ++ quotedPath source)
          else if taken fun other => !Tree.isFolder disk id && Tree.isFolder disk other then
            give ("cannot overwrite directory " ++ quotedPath target ++ " with non-directory " ++ quotedPath source)
          else if has found 'n' && taken fun _ => true then return 0
          else
            match Tree.rename disk (Latin.toName source) (Latin.toName target) with
            | .error .invalid =>
              give ("cannot move " ++ quotedPath source ++ " to a subdirectory of itself, " ++ quotedPath target)
            | .error .notEmpty => give ("cannot overwrite " ++ quotedPath target ++ ": " ++ SysError.notEmpty.text)
            | .error e => give ("cannot move " ++ quotedPath source ++ " to " ++ quotedPath target ++ ": " ++ e.text)
            | .ok disk =>
              report (has found 'v') ("renamed " ++ quotedPath source ++ " -> " ++ quotedPath target)
              takeDisk "mv" "" (.ok disk))

/-- Copies files and gives them permission bits, or makes folders. -/
def install (args : List String) : Act Nat :=
  withOptions { name := "install", options := [flag 'd' "directory", flag 'D' "", valued 'm' "mode", flag 'v' "verbose",
      flag 'c' "", flag 'p' "preserve-timestamps", flag 's' "strip", valued 'o' "owner", valued 'g' "group",
      valued 't' "target-directory", flag 'T' "no-target-directory"] } args fun found operands => do
    let mode := ((valueOf? found 'm').bind fun text => Mode.changed 0 false text 0).getD 0o755
    let start ← Act.disk
    if has found 'd' then
      worst (operands.map fun operand => makeFolders false mode (Path.ancestors (Latin.toName operand)).reverse)
    else
      match ← destination "install" (valueOf? found 't') (has found 'T') operands
          (fun path => start.isFolder (Latin.toName path)) none with
      | .error status => return status
      | .ok (sources, place) =>
        worst (sources.map fun source => do
          let target := place.of source
          let above := (Path.ancestors (Latin.toName target)).tail.reverse
          let made ← if has found 'D' then makeFolders false 0o755 above else pure 0
          let disk ← Act.disk
          match disk.existing (Latin.toName source) false with
          | .error e =>
            complain "install" ("cannot stat " ++ quotedPath source ++ ": " ++ e.text)
            return 1
          | .ok id =>
            match disk.node? id with
            | some (.file content) =>
              let now := (← Act.world).now
              let status ← takeDisk "install" ("cannot create regular file " ++ quotedPath target) do
                let (other, disk) ← withFile disk (Latin.toName target) mode
                return ((disk.put other (.file content)).setMode other mode).setTime other now
              return max made status
            | _ =>
              complain "install" ("omitting directory " ++ quotedPath source)
              return 1)

/-! ### Permission bits -/

/-- Permission bits as nine letters. -/
def modeText (mode : Nat) : String :=
  let class_ (n special : Nat) (letter : Char) : List Char :=
    let set := special != 0
    let runs := n &&& 1 != 0
    [if n &&& 4 != 0 then 'r' else '-', if n &&& 2 != 0 then 'w' else '-',
      if set then (if runs then letter else letter.toUpper) else if runs then 'x' else '-']
  String.ofList (class_ (mode / 0o100) (mode &&& 0o4000) 's' ++ class_ (mode / 0o10) (mode &&& 0o2000) 's' ++
    class_ mode (mode &&& 0o1000) 't')

/-- Permission bits in octal digits, four at least. -/
def modeDigits (mode : Nat) : String :=
  let digits := Nat.toDigits 8 mode
  String.ofList (List.replicate (4 - digits.length) '0' ++ digits)

/-- Splits the arguments of `chmod` into options and others; a change may start with a dash. -/
def modeArguments (args : List String) : List String × List String :=
  args.partition fun arg => match arg.toList with
    | '-' :: '-' :: _ => true
    | '-' :: c :: _ => !"rwxXstugo,+=".toList.contains c && !c.isDigit
    | _ => false

def chmod (args : List String) : Act Nat :=
  let (flags, others) := modeArguments args
  withOptions { name := "chmod", options := [flag 'R' "recursive", flag 'v' "verbose", flag 'c' "changes",
      flag 'f' "silent", flag 'f' "quiet", wordValued '1' "reference"] } flags fun found _ => do
    let disk ← Act.disk
    let reference := (valueOf? found '1').map fun path => disk.locate true (Latin.toName path)
    let (text, operands) := if reference.isSome then ("", others) else (others.headD "", others.tail)
    let changed (folder : Bool) (mode umask : Nat) : Option Nat := match reference with
      | some (.ok (.taken id _)) => some (disk.mode id)
      | some _ => none
      | none => Mode.changed umask folder text mode
    match others with
    | [] => misused "chmod" "missing operand"
    | _ =>
      if operands.isEmpty then misused "chmod" ("missing operand after " ++ quoted text)
      else if (changed false 0 0).isNone then misused "chmod" ("invalid mode: " ++ quoted text)
      else
        let rec each : Nat → String → Act Nat
          | 0, _ => return 1
          | depth + 1, operand => do
            let s ← get
            let disk := s.world.disk
            match disk.locate true (Latin.toName operand) with
            | .error e =>
              if !has found 'f' then complain "chmod" ("cannot access " ++ quotedPath operand ++ ": " ++ e.text)
              return 1
            | .ok (.free ..) =>
              let dangling := match Tree.at? disk (Latin.toName operand) with
                | .ok _ => true
                | .error _ => false
              if !has found 'f' then
                complain "chmod" (if dangling then "cannot operate on dangling symlink " ++ quotedPath operand
                  else "cannot access " ++ quotedPath operand ++ ": " ++ SysError.notFound.text)
              return 1
            | .ok (.taken id _) =>
              let folder := Tree.isFolder disk id
              let old := disk.mode id
              let mode := (changed folder old s.scope.umask).getD old
              Act.changeWorld fun w => w.marking (·.setMode id mode)
              let shown (mode : Nat) : String := modeDigits mode ++ " (" ++ modeText mode ++ ")"
              if old != mode then
                report (has found 'v' || has found 'c')
                  ("mode of " ++ quotedPath operand ++ " changed from " ++ shown old ++ " to " ++ shown mode)
              else report (has found 'v') ("mode of " ++ quotedPath operand ++ " retained as " ++ shown mode)
              if has found 'R' && folder then
                worst ((Tree.names disk id).filterMap fun (name, other) =>
                  match disk.node? other with
                  | some (.link _) => none
                  | _ => some (each depth (below operand (Latin.ofName name))))
              else return 0
        worst (operands.map (each (disk.nodes.length + 1)))

end ScriptCache.Shell.Utility
