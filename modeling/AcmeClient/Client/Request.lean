import AcmeClient.Client.World
import AcmeClient.Envelope
import AcmeClient.Resource.Directory

/-!
Signed requests. Each attempt fetches a number that is used once, and seals it into an envelope of its
own. Only a rejection of that number leads to another attempt, and there are no more attempts than
allowed.
-/

namespace AcmeClient

/-- A provider whose directory is known, and the attempts that each signed request may take. -/
structure Provider where
  endpoints : Resource.Directory
  attempts : Int
deriving Repr, Inhabited

/-- Makes an address and a body for a number that is used once. -/
abbrev Builder := String → Client (Json × Bytes)

namespace Provider

def check (response : Response) : Client Response := ofExcept response.check

def expectHeader (name : String) (response : Response) : Client String :=
  ofExcept (response.expectHeader name)

def newNonce (provider : Provider) : Client String := do
  let response ← Client.send (.head provider.endpoints.newNonce)
  expectHeader "Replay-Nonce" (← check response)

def isNonceRejection : Failure → Bool
  | .fault (.rejected problem) => problem.isBadNonce
  | _ => false

/-- One attempt: where the request went, and what came of it. Failures before the reply end the whole
request. -/
def attempt (provider : Provider) (build : Builder) (number total : Int) :
    Client (Json × Except Failure Response) := do
  let nonce ← provider.newNonce
  let (url, body) ← build nonce
  Client.debug "acmelib.request" s!"POST {url.asText} (attempt {number}/{total})"
  let response ← Client.send (.post url Envelope.mediaType body)
  return (url, response.check)

/-- Attempts a request that may be attempted `more` times again. -/
def attemptFrom (provider : Provider) (build : Builder) (total : Int) :
    (more : Nat) → Client Response
  | 0 => do
    let (_, outcome) ← provider.attempt build total total
    ofExcept outcome
  | more + 1 => do
    let number := total - (more + 1 : Nat)
    let (url, outcome) ← provider.attempt build number total
    match outcome with
    | .ok response => return response
    | .error failure =>
      if isNonceRejection failure then
        Client.info "acmelib.request"
          s!"Provider rejected nonce for {url.asText}, retrying (attempt {number}/{total})"
        attemptFrom provider build total more
      else throw failure

/-- Sends a request until it is accepted, at most as often as allowed. -/
def request (provider : Provider) (build : Builder) (attempts : Option Int) : Client Response := do
  let total := attempts.getD provider.attempts
  if total < 1 then throw (.defect (.tooFewAttempts total))
  provider.attemptFrom build total (total.toNat - 1)

end Provider

end AcmeClient
