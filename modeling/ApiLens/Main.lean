import ApiLens.CommandLine
import ApiLens.Session.Connection

/-!
The program: it reads arguments, files and the line to an editor, and prints what the library answers.
-/

namespace ApiLens.Program

def readText? (p : Path) : IO (Option String) := do
  try
    return some (← IO.FS.readFile p.shown)
  catch _ =>
    return none

/-- The part of the file system that some paths name. -/
def snapshot (paths : List Path) : IO FileTree := do
  let current := (Path.ofString (← IO.currentDir).toString).segments.drop 1
  paths.foldlM (fun tree p => do
    match ← readText? p with
    | some text => return tree.record p text
    | none => return tree) (FileTree.bare current)

/-- Without a home directory the tilde stands for itself. -/
def homeDirectory : IO Path := do
  return .ofString ((← IO.getEnv "HOME").getD "~")

/-- The bytes of a text, as far as they come. -/
partial def readBytes (input : IO.FS.Stream) (length : Nat) (got : ByteArray) : IO ByteArray := do
  if length ≤ got.size then return got
  let more ← input.read (length - got.size).toUSize
  if more.isEmpty then return got
  readBytes input length (got ++ more)

/-- The length that a header tells, and nothing at the end of the input. -/
partial def readHeader (input : IO.FS.Stream) (length : Nat) : IO (Option Nat) := do
  let line ← input.getLine
  if line.isEmpty then return none
  if line.trimAscii.isEmpty then return some length
  readHeader input ((contentLength? line).getD length)

partial def serve (home : Path) (input output : IO.FS.Stream) (c : Connection) : IO Unit := do
  let some length ← readHeader input 0 | return
  let text := (String.fromUTF8? (← readBytes input length .empty)).getD ""
  let files ← snapshot (c.candidates home text)
  let exchange := c.receive ⟨files, home⟩ text
  for answer in exchange.written do
    output.putStr (framed answer.compact)
  output.flush
  let some c := exchange.next | return
  serve home input output c

def report (r : ExitReport) : IO UInt32 := do
  (← IO.getStdout).putStr r.output
  (← IO.getStderr).putStr r.complaint
  return r.code.toUInt32

end ApiLens.Program

open ApiLens Program in
def main (args : List String) : IO UInt32 := do
  match Invocation.ofArguments args with
  | .error halt => report (.ofHalt halt)
  | .ok .serve => do
    serve (← homeDirectory) (← IO.getStdin) (← IO.getStdout) {}
    return 0
  | .ok invocation => do
    let text ← match invocation.file? with
      | some file => readText? file
      | none => pure none
    report (.ofPrinted (invocation.printed fun _ => text))
