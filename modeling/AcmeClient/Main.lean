import AcmeClient.CommandLine.Run

/-!
The program, where no peer can be reached: command lines and settings are dealt with as always, and
every request fails.
-/

open AcmeClient

/-- The file that a command line names as its configuration, if it can be read. -/
def configurationOf (arguments : List String) : IO FileTree := do
  match CommandLine.Invocation.read arguments with
  | .error _ => return .empty
  | .ok invocation =>
    let place := Location.ofString invocation.config
    let content ← (IO.FS.readBinFile place.toString).toBaseIO
    match content with
    | .error _ => return .empty
    | .ok content =>
      let onTheWay := place.way.dropLast.foldl
        (fun tree path => tree.put path .directory) FileTree.empty
      return onTheWay.put place.path (.file FileTree.publicMode content.toList)

/-- A run with given files, in which keys are made from random bytes. -/
def worldOf (files : FileTree) (seed : Bytes) : World where
  replies := []
  silence := .fault (.reported .transport "no peer can be reached" true)
  calls := []
  storage := { Storage.inMemory with files }
  keySource := fun number =>
    let scalar := Bytes.toNat (Sha256.digest (Bytes.ofNat 8 number ++ seed))
    (P256.PrivateKey.ofNat? scalar).getD ⟨1, Nat.one_pos, P256.one_lt_order⟩
  generated := 0
  records := []
  clock := .whole 0
  transports := []

def main (arguments : List String) : IO UInt32 := do
  let seed ← IO.getRandomBytes 32
  let report := CommandLine.run (worldOf (← configurationOf arguments) seed.toList) arguments
  IO.print report.output
  IO.eprint report.errors
  match report.ending with
  | .status code => return UInt32.ofNat code
  | .failed failure =>
    IO.eprintln failure.message
    return 1
