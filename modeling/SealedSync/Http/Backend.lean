import SealedSync.Config
import SealedSync.Http.Status
import SealedSync.Http.Url
import SealedSync.Request

/-!
# The server over HTTP

Each of the four calls is one request with basic authentication. A status of success is needed, and
a missing record or an account without storage are answers as well. Refused credentials are an error
of their own; any other status, and any failure of the connection, means that the server cannot be
reached. What a body says must make sense, or the record is malformed.
-/
namespace SealedSync.Http

structure BackendConfig where
  baseUrl : String
  requestTimeoutSecs : Nat
  deriving DecidableEq, Repr

namespace BackendConfig

def ofBase (baseUrl : String) : BackendConfig := ⟨baseUrl, 30⟩

def toJson (c : BackendConfig) : Json :=
  .fields [("base_url", .text c.baseUrl), ("request_timeout_secs", .nat c.requestTimeoutSecs)]

/-- The fields read so far. -/
structure Draft where
  baseUrl : Option String := none
  requestTimeoutSecs : Option Nat := none

def Draft.read (d : Draft) (name : String) (value : Json) : Except DecodeError Draft :=
  match name with
  | "base_url" => do
      return { d with baseUrl := ← Json.readField name d.baseUrl Json.decodeString value }
  | "request_timeout_secs" => do
      return { d with
        requestTimeoutSecs := ← Json.readField name d.requestTimeoutSecs Json.decodeNat64 value }
  | _ => do
      value.skip
      return d

def ofMembers (members : Json.Members) : Except DecodeError BackendConfig := do
  let d ← members.fold Draft.read {}
  return ⟨← Json.requireField "base_url" d.baseUrl,
    ← Json.requireField "request_timeout_secs" d.requestTimeoutSecs⟩

def ofItems (items : Json.Items) : Except DecodeError BackendConfig := do
  let expected := "struct HttpBackendConfig with 2 elements"
  let (baseUrl, items) ← items.next 0 expected Json.decodeString
  let (requestTimeoutSecs, items) ← items.next 1 expected Json.decodeNat64
  items.finish
  return ⟨baseUrl, requestTimeoutSecs⟩

def decode : Decoder BackendConfig := Json.decodeRecord "HttpBackendConfig" ofMembers ofItems

end BackendConfig

structure Backend where
  /-- The URL of the account. -/
  root : String
  username : String
  credential : String
  deriving DecidableEq, Repr

inductive Method where
  | get
  | put
  | delete
  deriving DecidableEq, Repr

def Method.text : Method → String
  | .get => "GET"
  | .put => "PUT"
  | .delete => "DELETE"

structure HttpRequest where
  method : Method
  url : String
  authorization : String
  contentType : Option String
  body : String
  deriving DecidableEq, Repr

structure HttpReply where
  status : Nat
  body : List UInt8
  /-- The body arrived as long as it was announced. -/
  isComplete : Bool
  deriving DecidableEq, Repr

/-- What becomes of a request. -/
inductive Exchange where
  | invalidUrl
  | unsupportedUrl (url : String)
  | noConnection (url : String)
  | answered (reply : HttpReply)
  deriving DecidableEq, Repr

namespace Backend

/-- A base URL without the slashes at its end. -/
def trimBase (base : String) : String :=
  String.ofList (base.toList.reverse.dropWhile (· == '/')).reverse

def rootOf (base account : String) : String :=
  trimBase base ++ "/1.1/" ++ Percent.encode account

def ofConfig (config : BackendConfig) (credentials : Credentials) : Except SyncError Backend :=
  if config.baseUrl.isEmpty then .error (.config "base_url must not be empty")
  else
    .ok ⟨rootOf config.baseUrl credentials.account, credentials.account, credentials.credential⟩

def infoUrl (root : String) : String := root ++ "/info/collections"

def storageUrl (root : String) : String := root ++ "/storage"

def recordUrl (root collection id : String) : String :=
  storageUrl root ++ "/" ++ Percent.encode collection ++ "/" ++ Percent.encode id

def authorization (b : Backend) : String :=
  "Basic " ++ Base64.encode (Utf8.encode (b.username ++ ":" ++ b.credential))

/-- The name of a call in messages. -/
def operation : RemoteCall → String
  | .index => "GET info/collections"
  | .fetch .. => "GET record"
  | .store .. => "PUT record"
  | .wipe => "DELETE storage"

/-- The request that makes a call. -/
def request (b : Backend) : RemoteCall → HttpRequest
  | .index => ⟨.get, infoUrl b.root, b.authorization, none, ""⟩
  | .fetch collection id => ⟨.get, recordUrl b.root collection id, b.authorization, none, ""⟩
  | .store collection record =>
      ⟨.put, recordUrl b.root collection record.id, b.authorization, some "application/json",
        record.toJson.render⟩
  | .wipe => ⟨.delete, storageUrl b.root, b.authorization, none, ""⟩

/-- Sends a request to where its URL points; `connect` is the network. -/
def send (connect : Url → HttpRequest → Option HttpReply) (r : HttpRequest) : Exchange :=
  match Url.parse r.url with
  | none => .invalidUrl
  | some url =>
      let url := url.withoutUserInfo
      if url.isRequestable then
        match connect url r with
        | some reply => .answered reply
        | none => .noConnection url.text
      else .unsupportedUrl url.text

/-- The reply, if there is one. -/
def replyOf (operation : String) : Exchange → Except SyncError HttpReply
  | .answered reply => .ok reply
  | .invalidUrl => .error (.unreachable s!"{operation}: builder error")
  | .unsupportedUrl url => .error (.unreachable s!"{operation}: builder error for url ({url})")
  | .noConnection url =>
      .error (.unreachable s!"{operation}: error sending request for url ({url})")

def checkStatus (operation : String) (reply : HttpReply) : Except SyncError Unit :=
  let text := s!"{operation} returned HTTP {statusText reply.status}"
  if isSuccess reply.status then .ok ()
  else if reply.status = 401 ∨ reply.status = 403 then .error (.authFailed text)
  else .error (.unreachable text)

def bodyText (operation : String) (reply : HttpReply) : Except SyncError String :=
  if reply.isComplete then .ok (Utf8.decodeLossy reply.body)
  else
    .error (.unreachable s!"{operation}: reading body failed: error decoding response body")

/-- The body of a reply of success. -/
def successBody (operation : String) (reply : HttpReply) : Except SyncError String := do
  checkStatus operation reply
  bodyText operation reply

def decodeIndex (body : String) : Except SyncError CollectionIndex :=
  (Json.decodeText CollectionIndex.decode body).mapError fun e =>
    .malformed s!"info/collections: {e.message}"

def decodeRecord (collection id body : String) : Except SyncError RemoteRecord :=
  (Json.decodeText RemoteRecord.decode body).mapError fun e =>
    .malformed s!"{collection}/{id}: {e.message}"

def decodeTime (collection id body : String) : Except SyncError Binary64 :=
  (Binary64.read (Blank.trim body.toList)).mapError fun e =>
    .malformed (s!"{collection}/{id}: bad timestamp " ++ Quoted.quote body ++ ": " ++ e.message)

/-- What a call returns when its request comes to this. -/
def answer : (call : RemoteCall) → Exchange → Except SyncError call.Answer
  | .index, exchange => do
      let reply ← replyOf (operation .index) exchange
      decodeIndex (← successBody (operation .index) reply)
  | .fetch collection id, exchange => do
      let operation := operation (.fetch collection id)
      let reply ← replyOf operation exchange
      if reply.status = 404 then return none
      return some (← decodeRecord collection id (← successBody operation reply))
  | .store collection record, exchange => do
      let operation := operation (.store collection record)
      let reply ← replyOf operation exchange
      decodeTime collection record.id (← successBody operation reply)
  | .wipe, exchange => do
      let reply ← replyOf (operation .wipe) exchange
      if reply.status = 404 then return ()
      checkStatus (operation .wipe) reply

/-- Makes a call over a network. -/
def call (b : Backend) (connect : Url → HttpRequest → Option HttpReply) (c : RemoteCall) :
    Except SyncError c.Answer :=
  answer c (send connect (b.request c))

end Backend

end SealedSync.Http
