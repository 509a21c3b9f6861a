import MailSearch.CommandLine.Run

/-!
# The command line

Reads the words of the command line and the environment, runs the command, and writes what it comes to.
-/

open MailSearch in
/-- Runs the command line; the exit code is the command's. -/
def main (words : List String) : IO UInt32 := do
  let values ← Setting.all.mapM fun setting => do
    return (setting, ← IO.getEnv setting.name)
  let environment : Environment := fun setting => (values.lookup setting).join
  let outcome := CommandLine.run environment words
  outcome.log.forM fun line => IO.eprintln line
  IO.print outcome.stdout
  return outcome.exitCode.toUInt32
