import AcmeClient.Calendar
import AcmeClient.Http.Response
import AcmeClient.Text.Space

namespace AcmeClient

inductive Method where
  | get
  | head
  | post
deriving DecidableEq, Repr

def Method.text : Method → String
  | .get => "GET"
  | .head => "HEAD"
  | .post => "POST"

structure Transport where
  timeout : Seconds
  userAgent : String
deriving DecidableEq, Repr

namespace Transport

def version : String := "1.0.0"
def defaultUserAgent : String := "acmelib/" ++ version
def defaultTimeout : Seconds := .exact (.ofRatio false 30 1)
def default : Transport := ⟨defaultTimeout, defaultUserAgent⟩

end Transport

structure Request where
  method : Method
  url : String
  headers : List (String × String)
  body : Option Bytes
  timeout : Seconds
deriving DecidableEq, Repr

/-- What comes of a request over the web: an answer, or a reason why there is none. An answer with an error status
may lack its headers, and any answer's body may fail to be read. An exchange is garbled where the
request cannot be put as a message, or the answer is none: its first line makes no sense, or it ends
before its body does. -/
inductive Outcome where
  | answered (status : Int) (headers : List (String × String)) (body : Except String Bytes)
  | refused (status : Int) (headers : Option (List (String × String))) (body : Except String Bytes)
  | unreachable (reason : String)
  | broken (reason : String)
  | garbled (reason : String)

/-- An address, with what stands after its last number sign apart. -/
structure Url where
  base : List Char
  fragment : List Char
deriving DecidableEq, Repr

namespace Url

/-- Without angle brackets around it. -/
def unbracket (text : List Char) : List Char :=
  match text with
  | '<' :: rest => if rest.getLast? = some '>' then Text.trim Text.isSpace rest.dropLast else text
  | _ => text

/-- Without the mark of an address in front of it. -/
def unmark (text : List Char) : List Char :=
  if "URL:".toList.isPrefixOf text then Text.trim Text.isSpace (text.drop 4) else text

def unwrap (text : List Char) : List Char := unmark (unbracket (Text.trim Text.isSpace text))

def ofString (s : String) : Url :=
  let text := unwrap s.toList
  let fragment := (text.reverse.takeWhile (· != '#')).reverse
  if fragment.length = text.length then ⟨text, []⟩
  else ⟨text.take (text.length - fragment.length - 1), fragment⟩

def toString (url : Url) : String :=
  String.ofList (if url.fragment.isEmpty then url.base else url.base ++ '#' :: url.fragment)

/-- Whether a kind of address is named: at least one character before the first colon or slash,
which is a colon. -/
def hasKind (url : Url) : Bool :=
  let kind := url.base.takeWhile fun c => c != '/' && c != ':'
  !kind.isEmpty && (url.base.drop kind.length).head? == some ':'

end Url

namespace Transport

/-- The request for an address; a body goes with its media type. -/
def request (t : Transport) (method : Method) (url : String) (body : Option (Bytes × String)) :
    Except Failure Request :=
  let address := Url.ofString url
  if !address.hasKind then
    .error (.defect (.unknownUrlKind (Text.quotedString address.toString)))
  else .ok {
    method
    url := address.toString
    headers := ("User-Agent", t.userAgent) ::
      (match body with
        | some (_, mediaType) => [("Content-Type", mediaType)]
        | none => [])
    body := body.map Prod.fst
    timeout := t.timeout }

/-- Every answer is a response; anything else means that there was none. Only an exchange that is
garbled is not foreseen. -/
def receive (method : Method) (url : String) (outcome : Outcome) : Except Failure Response :=
  let none (reason : String) : Except Failure Response :=
    .error (.fault (.noResponse method.text url reason))
  match outcome with
  | .answered status headers (.ok body) => .ok ⟨status, Assoc.ofList headers, body⟩
  | .answered _ _ (.error reason) => none reason
  | .refused status headers body =>
    .ok ⟨status, Assoc.ofList (headers.getD []), body.toOption.getD []⟩
  | .unreachable reason => none s!"<urlopen error {reason}>"
  | .broken reason => none reason
  | .garbled reason => .error (.defect (.garbledExchange reason))

/-- What the log says of an answer with an error status. -/
def refusalLine (method : Method) (url : Json) (status : Int) : String :=
  s!"{method.text} {url.asText} returned HTTP {status}"

end Transport

/-- The request that went out, if one did, and what came of it. -/
structure Exchange where
  sent : Option Request
  result : Except Failure Response

namespace Transport

/-- One exchange with a peer. Nothing goes out to an address of no kind, and otherwise one request. -/
def exchange (t : Transport) (method : Method) (url : String)
    (body : Option (Bytes × String)) (peer : Request → Outcome) : Exchange :=
  match t.request method url body with
  | .error failure => ⟨none, .error failure⟩
  | .ok request => ⟨some request, receive method url (peer request)⟩

def get (t : Transport) (url : String) (peer : Request → Outcome) : Exchange :=
  t.exchange .get url none peer

def head (t : Transport) (url : String) (peer : Request → Outcome) : Exchange :=
  t.exchange .head url none peer

def post (t : Transport) (url : String) (content : Bytes) (mediaType : String)
    (peer : Request → Outcome) : Exchange :=
  t.exchange .post url (some (content, mediaType)) peer

end Transport

end AcmeClient
