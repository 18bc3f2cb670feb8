import FieldSchema.Command

/-!
# The Program

Reads the file that the arguments name, and prints what the command says.
-/

/-- What reading a file finds. -/
def readContents (path : String) : IO FieldSchema.Contents := do
  try
    return .text (← IO.FS.readFile path)
  catch
    | .noFileOrDirectory .. => return .absent
    | _ => return .unreadable

/-- Runs the command that the arguments describe. -/
def main (arguments : List String) : IO UInt32 := do
  let path := (FieldSchema.Command.parse? arguments).bind FieldSchema.Command.configPath
  let contents ←
    match path with
    | some path => readContents path
    | none => pure .absent
  let output := FieldSchema.runArguments (fun _ => contents) arguments
  IO.print output.stdout
  IO.eprint output.stderr
  return output.exit.toUInt32
