import AcmeClient.Client.Account
import AcmeClient.CommandLine.Invocation
import AcmeClient.Logging.Logger
import AcmeClient.Settings.File

namespace AcmeClient.CommandLine

/-- A run ends with a status, or with a failure that nothing stops. -/
inductive Ending where
  | status (code : Nat)
  | failed (failure : Failure)
deriving Repr

structure Report where
  ending : Ending
  output : String
  errors : String
  world : World

/-- What a command prints, and its status. -/
structure Answer where
  output : String
  status : Nat
deriving DecidableEq, Repr

def orderJson (order : Order) : Json :=
  .obj [
    ("url", .str order.url),
    ("status", match order.resource.status with
      | some status => .str status.text
      | none => .null),
    ("identifiers", .arr (order.resource.identifiers.map Resource.Identifier.toJson)),
    ("authorizations", .arr order.resource.authorizations),
    ("finalize", order.resource.finalize)]

def carryOut (account : Account) : Command → Client Answer
  | .certificate name => do
    match ← account.certificate name with
    | none => return ⟨s!"no certificate persisted for {name}\n", 2⟩
    | some certificate => return ⟨certificate.chain, 0⟩
  | .account showKey =>
    return ⟨account.url ++ "\n" ++ (if showKey then String.ofList account.privateKeyText else ""), 0⟩
  | .order primary others => do
    let order ← account.order (.str primary) (.arr (others.map .str))
    return ⟨String.ofList (Json.write .indented (orderJson order)) ++ "\n", 0⟩

/-- Every command is for the account of an owner, which is registered first. -/
def perform (settings : Settings) (invocation : Invocation) : Client Answer := do
  Provider.setUp settings
  let provider ← Provider.ofSettings settings
  let account ← provider.account invocation.email
  carryOut account invocation.command

def earlyLevel (debug : Bool) : Int := if debug then Logging.Level.debug else Logging.Level.warning

def earlyLines (debug : Bool) (place : Location) : String :=
  if earlyLevel debug ≤ Logging.Level.debug then
    s!"{Logging.Level.name Logging.Level.debug}: Loaded configuration from {place.toString}\n"
  else ""

def logLines (logger : Logging.Logger) (parentLevel : Int) (records : List Logging.Record) : String :=
  let admitted := records.filter fun record => logger.admits parentLevel record.level
  String.join (admitted.flatMap fun record => logger.handlers.map fun format =>
    match Logging.line format record with
    | .ok line => line ++ "\n"
    | .error _ => "")

def errorLine (message : String) : String := s!"error: {message}\n"

/-- Runs a command with the settings that were read. A failure is told in one line, except where
everything about it is asked for. -/
def runWith (world : World) (invocation : Invocation) (settings : Settings) (early : String) : Report :=
  match Logging.Logger.initial.configure settings.logging with
  | .error defect => ⟨.failed (.defect defect), "", early, world⟩
  | .ok logger =>
    let (outcome, after) := (perform settings invocation).run.run world
    let log := early ++ logLines logger (earlyLevel invocation.debug) after.records
    match outcome with
    | .ok answer => ⟨.status answer.status, answer.output, log, after⟩
    | .error (.fault fault) =>
      if invocation.debug then ⟨.failed (.fault fault), "", log, after⟩
      else ⟨.status 1, "", log ++ errorLine fault.message, after⟩
    | .error failure => ⟨.failed failure, "", log, after⟩

/-- What it comes to that a path may not be looked at. -/
def unseen (place : Location) : FileError → Defect
  | .longName => .longFileName (Text.quotedString place.toString)
  | e => .unsearchable e.message

def runInvocation (world : World) (invocation : Invocation) : Report :=
  let place := Location.ofString invocation.config
  match world.storage.files.hasFile place with
  | .error e => ⟨.failed (.defect (unseen place e)), "", "", world⟩
  | .ok false =>
    ⟨.status 1, "", errorLine s!"configuration file not found: {place.toString}", world⟩
  | .ok true =>
    match Settings.load world.storage.files place world.loader with
    | .error (.fault fault) => ⟨.status 1, "", errorLine fault.message, world⟩
    | .error failure => ⟨.failed failure, "", "", world⟩
    | .ok settings => runWith world invocation settings (earlyLines invocation.debug place)

def run (world : World) (arguments : List String) : Report :=
  match Invocation.read arguments with
  | .error (.help program) => ⟨.status 0, s!"usage: {program}\n", "", world⟩
  | .error .version => ⟨.status 0, s!"{Invocation.program} {Transport.version}\n", "", world⟩
  | .error (.misuse program reason) => ⟨.status 2, "", s!"{program}: error: {reason}\n", world⟩
  | .ok invocation => runInvocation world invocation

end AcmeClient.CommandLine
