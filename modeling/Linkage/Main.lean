import Linkage.Program

set_option autoImplicit false

/-! # The executable

A run takes the files that its command line is about from disk, is worked out on them, and
writes back the ones that came out different. Links on disk are followed when a path is
looked at. Refusals of the system that only show on disk are passed on in its own words: what
cannot be read is kept as such, and what cannot be written ends the run like any other
failure to write.
-/

namespace Linkage.Executable

open CommandLine (Environment Installation Request)

/-- The paths that make up the two forms of a library at a candidate path. -/
def libraryPaths (candidate : Path) : List Path :=
  match candidate.fileName with
  | none => []
  | some name =>
      [candidate.withFileName (withExtension name), candidate.join (Path.ofString manifestName),
        candidate.join (Path.ofString metadataName)]

/-- The paths that a configuration looks at. -/
def configurationPaths (c : Configuration) : List Path :=
  c.identifiers.flatMap fun identifier =>
    c.resolver.searchRoots.flatMap fun root => libraryPaths (root.join (Path.ofString identifier))

/-- The paths that a request looks at or writes to. -/
def requestPaths (env : Environment) : Request → List Path
  | .load options =>
      match options.configuration env with
      | .error _ => []
      | .ok c => configurationPaths c
  | .pack dir output =>
      [dir.join (Path.ofString manifestName), dir.join (Path.ofString metadataName)]
        ++ (output <|> (defaultOutput dir).toOption).toList

/-- A refusal in the system's words. -/
def refusal : IO.Error → SystemError
  | .alreadyExists _ code details | .otherError code details | .resourceBusy code details
  | .resourceVanished code details | .unsupportedOperation code details
  | .hardwareFault code details | .unsatisfiedConstraints code details
  | .illegalOperation code details | .protocolError code details | .timeExpired code details
  | .interrupted _ code details | .noFileOrDirectory _ code details
  | .invalidArgument _ code details | .permissionDenied _ code details
  | .resourceExhausted _ code details | .inappropriateType _ code details
  | .noSuchThing _ code details =>
      .other (details ++ " (os error " ++ toString code.toNat ++ ")")
  | .unexpectedEof => .other "unexpected end of file"
  | .userError message => .other message

/-- The kind of what a path leads to, if the system tells it. -/
def kindOf (path : String) : IO (Option IO.FS.FileType) := do
  try
    return some (← (System.mkFilePath [path]).metadata).type
  catch _ =>
    return none

/-- What lies on disk at a path. Nothing does if a name is missing or one on the way is no
directory. -/
def look (path : String) : IO (Option Entry) := do
  let kind ← kindOf path
  if kind == some .dir then return some .directory
  try
    let contents ← IO.FS.withFile path .read fun handle => handle.readBinToEnd
    return some (.file contents.toList)
  catch e =>
    match e with
    | .noFileOrDirectory .. => return none
    | .inappropriateType .. => return none
    | _ => return some (.withheld (kind == some .file) (refusal e))

/-- Adds what lies on disk at a path and at the paths above it. -/
def observe (fs : FileSystem) (p : Path) : IO FileSystem := do
  let mut fs := fs
  let mut here := fs.start p
  for (segment, i) in p.segments.zipIdx do
    here :=
      if Path.isBlank segment then here
      else if segment == ['.', '.'] then here.dropLast
      else here ++ [segment]
    if let some entry ← look (Path.ofSegments (p.segments.take (i + 1))).text then
      fs := fs.put here entry
  return fs

/-- Writes back the files at some paths that came out different. The first one that the
system refuses to take breaks this off. -/
def store (paths : List Path) (before after : FileSystem) : IO (Except PackError Unit) := do
  for p in paths do
    if let .ok contents := after.read p then
      if (before.read p).toOption != some contents then
        try
          IO.FS.writeBinFile p.text ⟨contents.toArray⟩
        catch e =>
          return .error (.output p (refusal e))
  return .ok ()

/-- The location that an absolute path text names. -/
def locationOf (text : String) : Location :=
  (Path.ofString text).segments.filter (!Path.isBlank ·)

/-- The installation that the running executable belongs to. -/
def installation : IO Installation := do
  try
    return .ofExecutable (Path.ofString (← IO.appPath).toString)
  catch e =>
    return .unlocated (refusal e).message

/-- What a command line is read against. -/
def environment : IO Environment := do
  return {
    toolchainHome := ← IO.getEnv "MODLINK_HOME"
    localDir := ← IO.getEnv "MODLINK_LOCAL_DIR"
    userHome := ((← IO.getEnv "HOME").filter (· != "")).map Path.ofString
    installation := ← installation }

/-- Shows what a run came to and answers with its exit code. -/
def answer (outcome : Outcome) : IO UInt32 := do
  for entry in outcome.log do
    IO.eprintln entry.line
  IO.print outcome.output
  if let some report := outcome.report then IO.eprintln report.text
  return UInt32.ofNat outcome.exitCode

/-- Carries out a command line and answers with its exit code. -/
def perform (arguments : List String) : IO UInt32 := do
  let env ← environment
  match CommandLine.read env arguments with
  | .error e =>
      IO.print (CommandLine.helpText env e)
      if e.exitCode != 0 then IO.eprintln ("error: " ++ e.message)
      return UInt32.ofNat e.exitCode
  | .ok invocation =>
      let paths := requestPaths env invocation.request
      let before ← paths.foldlM observe (FileSystem.empty (locationOf (← IO.currentDir).toString))
      let outcome := Program.run env before arguments
      match ← store paths before outcome.files with
      | .ok () => answer outcome
      | .error e => answer ⟨1, "", [], some (Program.packReport e), before⟩

end Linkage.Executable

/-- The entry point. -/
def main (arguments : List String) : IO UInt32 := Linkage.Executable.perform arguments
