import Gatekeeper.CommandLine

set_option autoImplicit false

namespace Gatekeeper.Program

def reason : IO.Error → String
  | .alreadyExists _ code details => numbered details code
  | .noFileOrDirectory _ code details => numbered details code
  | .permissionDenied _ code details => numbered details code
  | .inappropriateType _ code details => numbered details code
  | .invalidArgument _ code details => numbered details code
  | .resourceExhausted _ code details => numbered details code
  | .resourceBusy code details => numbered details code
  | .hardwareFault code details => numbered details code
  | .otherError code details => numbered details code
  | e => toString e
where
  numbered (details : String) (code : UInt32) : String :=
    s!"{details} (os error {code.toNat})"

def attempt {α : Type} (act : IO α) : IO (Except String α) := do
  match ← act.toBaseIO with
  | .ok a => return .ok a
  | .error e => return .error (reason e)

def finish (o : CommandLine.Outcome) : IO UInt32 := do
  let stdout ← IO.getStdout
  stdout.write ⟨o.stdout⟩
  stdout.flush
  IO.eprint o.stderr
  return o.exitCode.toUInt32

def contents (path : String) : IO ByteArray := do
  let handle ← IO.FS.Handle.mk path .read
  handle.readBinToEnd

def run (options : CommandLine.Options) : IO UInt32 := do
  match CommandLine.plan options (← attempt (contents options.scenario)) with
  | .error e => finish (CommandLine.failure e)
  | .ok plan =>
    match plan.file? with
    | none => finish plan.carryOut
    | some path =>
      match ← attempt (IO.FS.Handle.mk path .write) with
      | .error why => finish (CommandLine.failure (CommandLine.Plan.uncreated path why))
      | .ok handle =>
        let o := plan.carryOut
        handle.write ⟨o.file⟩
        handle.flush
        finish o

end Gatekeeper.Program

def main (arguments : List String) : IO UInt32 := do
  match Gatekeeper.CommandLine.Options.ofArguments? (← IO.getEnv "WARDEN_SCENARIO") arguments with
  | some options => Gatekeeper.Program.run options
  | none =>
    IO.eprintln "usage: warden replay --scenario <SCENARIO> [--json] [--sink <SINK>]"
    return 2
