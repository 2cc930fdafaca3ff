/-!
# Response statuses

A status is a number of three digits, or up to 999. The registered ones have a reason phrase, and some
failures have a kind of their own.
-/

namespace Courier

structure Status where
  code : Nat
  inRange : 100 ≤ code ∧ code ≤ 999
  deriving DecidableEq

namespace Status

/-- The status of a number in the range of statuses. -/
def ofNat? (n : Nat) : Option Status :=
  if h : 100 ≤ n ∧ n ≤ 999 then some ⟨n, h⟩ else none

def reasons : List (Nat × String) :=
  [(100, "Continue"), (101, "Switching Protocols"), (102, "Processing"), (103, "Early Hints"),
    (200, "OK"), (201, "Created"), (202, "Accepted"), (203, "Non Authoritative Information"),
    (204, "No Content"), (205, "Reset Content"), (206, "Partial Content"), (207, "Multi-Status"),
    (208, "Already Reported"), (226, "IM Used"),
    (300, "Multiple Choices"), (301, "Moved Permanently"), (302, "Found"), (303, "See Other"),
    (304, "Not Modified"), (305, "Use Proxy"), (307, "Temporary Redirect"),
    (308, "Permanent Redirect"),
    (400, "Bad Request"), (401, "Unauthorized"), (402, "Payment Required"), (403, "Forbidden"),
    (404, "Not Found"), (405, "Method Not Allowed"), (406, "Not Acceptable"),
    (407, "Proxy Authentication Required"), (408, "Request Timeout"), (409, "Conflict"),
    (410, "Gone"), (411, "Length Required"), (412, "Precondition Failed"),
    (413, "Payload Too Large"), (414, "URI Too Long"), (415, "Unsupported Media Type"),
    (416, "Range Not Satisfiable"), (417, "Expectation Failed"), (418, "I'm a teapot"),
    (421, "Misdirected Request"), (422, "Unprocessable Entity"), (423, "Locked"),
    (424, "Failed Dependency"), (425, "Too Early"), (426, "Upgrade Required"),
    (428, "Precondition Required"), (429, "Too Many Requests"),
    (431, "Request Header Fields Too Large"), (451, "Unavailable For Legal Reasons"),
    (500, "Internal Server Error"), (501, "Not Implemented"), (502, "Bad Gateway"),
    (503, "Service Unavailable"), (504, "Gateway Timeout"), (505, "HTTP Version Not Supported"),
    (506, "Variant Also Negotiates"), (507, "Insufficient Storage"), (508, "Loop Detected"),
    (510, "Not Extended"), (511, "Network Authentication Required")]

def reason? (s : Status) : Option String := reasons.lookup s.code

def text (s : Status) : String :=
  toString s.code ++ " " ++ s.reason?.getD "<unknown status code>"

def isSuccess (s : Status) : Bool := 200 ≤ s.code && s.code ≤ 299

end Status

inductive FailureKind
  | badRequest
  | unauthorized
  | forbidden
  | notFound
  | conflict
  | requestTooLarge
  | unsupportedMediaType
  | tooManyRequests
  | internalServerError
  | serviceUnavailable
  | other
  deriving DecidableEq, Repr

namespace FailureKind

def ofStatus (s : Status) : FailureKind :=
  match s.code with
  | 400 => badRequest
  | 401 => unauthorized
  | 403 => forbidden
  | 404 => notFound
  | 409 => conflict
  | 413 => requestTooLarge
  | 415 => unsupportedMediaType
  | 429 => tooManyRequests
  | 500 => internalServerError
  | 503 => serviceUnavailable
  | _ => other

def text : FailureKind → String
  | badRequest => "bad request"
  | unauthorized => "unauthorized"
  | forbidden => "forbidden"
  | notFound => "not found"
  | conflict => "conflict"
  | requestTooLarge => "request too large"
  | unsupportedMediaType => "unsupported media type"
  | tooManyRequests => "too many requests"
  | internalServerError => "internal server error"
  | serviceUnavailable => "service unavailable"
  | other => "service error"

end FailureKind

end Courier
