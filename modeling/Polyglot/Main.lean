import Polyglot.Catalog.Builtin
import Polyglot.CommandLine.Arguments
import Polyglot.CommandLine.Run

/-!
# The program

Finds the files that the arguments name, carries out the invocation, and prints what
comes of it.
-/

namespace Polyglot

/-- The fault that the number of a system error stands for; some calls give the number
negated. -/
def FileFault.ofCode? (code : UInt32) : Option FileFault :=
  match (if code < 0x8000 then code else 0 - code).toNat with
  | 2 => some .notFound
  | 20 => some .notFolder
  | 21 => some .isFolder
  | 36 => some .nameTooLong
  | 40 => some .tooManyLinks
  | _ => none

/-- The fault behind an error of the system. -/
def FileFault.ofError (e : IO.Error) : FileFault :=
  let fault? : Option FileFault := match e with
    | .noFileOrDirectory .. => some .notFound
    | .inappropriateType _ code _ => ofCode? code
    | .invalidArgument _ code _ => ofCode? code
    | .resourceExhausted _ code _ => ofCode? code
    | .otherError code _ => ofCode? code
    | _ => none
  fault?.getD (.other (toString e))

/-- Run an action on a path, and give its error as a fault. -/
def attempt {α : Type} (path : String) (action : IO α) : IO (Except FileFault α) := do
  if path.contains '\x00' then
    return .error .nulByte
  try
    return .ok (← action)
  catch e =>
    return .error (.ofError e)

/-- The tree at an entry of which something is known. What cannot be looked at is neither file
nor folder, and a folder that cannot be listed is empty. -/
partial def treeAt (entry : IO.FS.DirEntry) (info : IO.FS.Metadata) : IO FileTree := do
  match info.type with
  | .file => return .file
  | .dir =>
    let entries ← try entry.path.readDir catch _ => pure #[]
    let trees ← entries.toList.mapM fun e => do
      let tree ← try treeAt e (← e.path.symlinkMetadata) catch _ => pure .other
      return (e.fileName.toUTF8.toList, tree)
    return .folder trees
  | _ => return .other

/-- What a walk from a path goes through. -/
def walkRootAt (path : String) : IO WalkRoot := do
  let entry : IO.FS.DirEntry := ⟨".", path⟩
  let tree ← treeAt entry (← entry.path.metadata)
  match (← entry.path.symlinkMetadata).type with
  | .symlink => return .linked tree
  | _ => return .direct tree

/-- Look at the output and at the variables of the environment that tell of colour. -/
def screen : IO Screen := do
  return {
    isTerminal := ← (← IO.getStdout).isTty
    clicolor? := ← IO.getEnv "CLICOLOR"
    clicolorForce? := ← IO.getEnv "CLICOLOR_FORCE"
    noColor? := ← IO.getEnv "NO_COLOR" }

/-- Look at what an invocation names, and at its screen. -/
def findings (i : Invocation) : IO Findings := do
  let catalog ← match i.catalog? with
    | some path => attempt path (return (← IO.FS.readBinFile path).toList)
    | none => pure (.error .notFound)
  let root ← match i.walkPath? with
    | some path => attempt path (walkRootAt path)
    | none => pure (.error .notFound)
  return { catalog, root, screen := ← screen }

/-- Carry out an invocation and print what comes of it; the answer is the exit status. -/
def perform (i : Invocation) : IO UInt32 := do
  let out := i.run builtinRegistry (← findings i)
  for line in logLines i.logLevel out.events do
    IO.eprintln line
  let outcome := Outcome.ofResult out.value
  IO.print outcome.output
  IO.eprint outcome.complaint
  return outcome.status.code.toUInt32

end Polyglot

open Polyglot in
/-- Understand the arguments and act on them. -/
def main (args : List String) : IO UInt32 := do
  match Invocation.ofArguments args with
  | .ok i => perform i
  | .error .help =>
    IO.print helpText
    return 0
  | .error .version =>
    IO.print versionText
    return 0
  | .error (.fault f) =>
    IO.eprintln ("error: " ++ f.message ++ "\nTry 'langmod --help'")
    return ExitStatus.failure.code.toUInt32
