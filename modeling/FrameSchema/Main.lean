import FrameSchema.CommandLine.Outcome

/-!
# Main — the command line on a disk
-/

namespace FrameSchema

/-- The fault that an error of the system stands for; its code may come negated. -/
def FileFault.ofIOError : IO.Error → FileFault
  | .noFileOrDirectory .. => .notFound
  | error@(.inappropriateType _ code _) =>
    match min code (0 - code) with
    | 20 => .notFolder
    | 21 => .isFolder
    | _ => .other (toString error)
  | error@(.invalidArgument _ code _) =>
    if min code (0 - code) = 36 then .nameTooLong else .other (toString error)
  | error => .other (toString error)

/-- Runs an action on the disk, with its errors as faults. -/
def guardFile {α : Type} (action : IO α) : IO (Except FileFault α) := do
  try return .ok (← action)
  catch error => return .error (.ofIOError error)

instance : Files IO where
  readText path := do
    match ← guardFile (IO.FS.readBinFile path) with
    | .error fault => return .error fault
    | .ok bytes =>
      match String.fromUTF8? bytes with
      | some text => return .ok text
      | none => return .error .notText
  writeText path text := guardFile (IO.FS.writeFile path text)

end FrameSchema

/-- Runs the command line, prints its texts and ends with its code. -/
def main (words : List String) : IO UInt32 := do
  let outcome ← (FrameSchema.CommandLine.run words : IO FrameSchema.CommandLine.Outcome)
  IO.print outcome.stdout
  IO.eprint outcome.stderr
  return outcome.code
