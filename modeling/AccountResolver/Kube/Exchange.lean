import AccountResolver.Kube.Endpoint
import AccountResolver.Resource.Decode

/-!
# Exchanges with the API

How a request to the API came out, and what that says of a resource or of the
collection. Only the status 404 says that a resource does not exist; every other
failure says nothing of it.
-/

namespace AccountResolver.Kube

open Resource (Key Snapshot FetchFailure Fetched)

inductive Exchange where
  | noToken (detail : String)
  | failed (detail : String)
  | answered (status : Nat) (body : List UInt8)
deriving DecidableEq, Repr, Inhabited

def isSuccess (status : Nat) : Bool := decide (200 ≤ status) && decide (status < 300)

def reason : Nat → String
  | 100 => "Continue"
  | 101 => "Switching Protocols"
  | 102 => "Processing"
  | 103 => "Early Hints"
  | 200 => "OK"
  | 201 => "Created"
  | 202 => "Accepted"
  | 203 => "Non Authoritative Information"
  | 204 => "No Content"
  | 205 => "Reset Content"
  | 206 => "Partial Content"
  | 207 => "Multi-Status"
  | 208 => "Already Reported"
  | 226 => "IM Used"
  | 300 => "Multiple Choices"
  | 301 => "Moved Permanently"
  | 302 => "Found"
  | 303 => "See Other"
  | 304 => "Not Modified"
  | 305 => "Use Proxy"
  | 307 => "Temporary Redirect"
  | 308 => "Permanent Redirect"
  | 400 => "Bad Request"
  | 401 => "Unauthorized"
  | 402 => "Payment Required"
  | 403 => "Forbidden"
  | 404 => "Not Found"
  | 405 => "Method Not Allowed"
  | 406 => "Not Acceptable"
  | 407 => "Proxy Authentication Required"
  | 408 => "Request Timeout"
  | 409 => "Conflict"
  | 410 => "Gone"
  | 411 => "Length Required"
  | 412 => "Precondition Failed"
  | 413 => "Payload Too Large"
  | 414 => "URI Too Long"
  | 415 => "Unsupported Media Type"
  | 416 => "Range Not Satisfiable"
  | 417 => "Expectation Failed"
  | 418 => "I'm a teapot"
  | 421 => "Misdirected Request"
  | 422 => "Unprocessable Entity"
  | 423 => "Locked"
  | 424 => "Failed Dependency"
  | 425 => "Too Early"
  | 426 => "Upgrade Required"
  | 428 => "Precondition Required"
  | 429 => "Too Many Requests"
  | 431 => "Request Header Fields Too Large"
  | 451 => "Unavailable For Legal Reasons"
  | 500 => "Internal Server Error"
  | 501 => "Not Implemented"
  | 502 => "Bad Gateway"
  | 503 => "Service Unavailable"
  | 504 => "Gateway Timeout"
  | 505 => "HTTP Version Not Supported"
  | 506 => "Variant Also Negotiates"
  | 507 => "Insufficient Storage"
  | 508 => "Loop Detected"
  | 510 => "Not Extended"
  | 511 => "Network Authentication Required"
  | _ => "<unknown status code>"

def statusText (status : Nat) : String := Decimal.text status ++ " " ++ reason status

def undecodable : String := "error decoding response body"

namespace Exchange

def fetched (k : Key) (x : Exchange) : Fetched :=
  match x with
  | noToken detail => .error (.api detail)
  | failed detail => .error (.api detail)
  | answered status body =>
    if status = 404 then .error (.notFound k.text)
    else if isSuccess status then
      match Snapshot.read (Text.Glyph.ofBytes body) with
      | .ok s => .ok s
      | .error _ => .error (.api undecodable)
    else .error (.api ("GET " ++ k.text ++ " returned " ++ statusText status))

def listed (x : Exchange) : Except FetchFailure (List Snapshot) :=
  match x with
  | noToken detail => .error (.api detail)
  | failed detail => .error (.api detail)
  | answered status body =>
    if isSuccess status then
      match Resource.readList (Text.Glyph.ofBytes body) with
      | .ok ss => .ok ss
      | .error _ => .error (.api undecodable)
    else .error (.api ("LIST " ++ plural ++ " returned " ++ statusText status))

end Exchange

end AccountResolver.Kube
