/-!
# Status codes

## Main definitions

* `Status` — a status code of three digits
* `Status.ofCode?`, `Status.isSuccess`
* `Status.reason`, `Status.text` — the reason phrase, and the code with it
-/

namespace MethodRoutes

/-- A status code between 100 and 999. -/
structure Status where
  /-- The code. -/
  code : UInt16
  /-- The code has three digits. -/
  valid : 100 ≤ code ∧ code ≤ 999
  deriving DecidableEq, Repr

namespace Status

/-- The status with a code, if the code has three digits. -/
def ofCode? (code : UInt16) : Option Status :=
  if h : 100 ≤ code ∧ code ≤ 999 then some ⟨code, h⟩ else none

/-- Whether a code stands for success. -/
def isSuccessCode (code : UInt16) : Bool := 200 ≤ code && code < 300

/-- Whether a code blames the client. -/
def isClientErrorCode (code : UInt16) : Bool := 400 ≤ code && code < 500

/-- Whether a code blames the server. -/
def isServerErrorCode (code : UInt16) : Bool := 500 ≤ code && code < 600

/-- Whether the status stands for success. -/
def isSuccess (s : Status) : Bool := isSuccessCode s.code

/-- The registered reason phrases. -/
def reasons : List (UInt16 × String) := [
  (100, "Continue"),
  (101, "Switching Protocols"),
  (102, "Processing"),
  (103, "Early Hints"),
  (200, "OK"),
  (201, "Created"),
  (202, "Accepted"),
  (203, "Non Authoritative Information"),
  (204, "No Content"),
  (205, "Reset Content"),
  (206, "Partial Content"),
  (207, "Multi-Status"),
  (208, "Already Reported"),
  (226, "IM Used"),
  (300, "Multiple Choices"),
  (301, "Moved Permanently"),
  (302, "Found"),
  (303, "See Other"),
  (304, "Not Modified"),
  (305, "Use Proxy"),
  (307, "Temporary Redirect"),
  (308, "Permanent Redirect"),
  (400, "Bad Request"),
  (401, "Unauthorized"),
  (402, "Payment Required"),
  (403, "Forbidden"),
  (404, "Not Found"),
  (405, "Method Not Allowed"),
  (406, "Not Acceptable"),
  (407, "Proxy Authentication Required"),
  (408, "Request Timeout"),
  (409, "Conflict"),
  (410, "Gone"),
  (411, "Length Required"),
  (412, "Precondition Failed"),
  (413, "Payload Too Large"),
  (414, "URI Too Long"),
  (415, "Unsupported Media Type"),
  (416, "Range Not Satisfiable"),
  (417, "Expectation Failed"),
  (418, "I'm a teapot"),
  (421, "Misdirected Request"),
  (422, "Unprocessable Entity"),
  (423, "Locked"),
  (424, "Failed Dependency"),
  (425, "Too Early"),
  (426, "Upgrade Required"),
  (428, "Precondition Required"),
  (429, "Too Many Requests"),
  (431, "Request Header Fields Too Large"),
  (451, "Unavailable For Legal Reasons"),
  (500, "Internal Server Error"),
  (501, "Not Implemented"),
  (502, "Bad Gateway"),
  (503, "Service Unavailable"),
  (504, "Gateway Timeout"),
  (505, "HTTP Version Not Supported"),
  (506, "Variant Also Negotiates"),
  (507, "Insufficient Storage"),
  (508, "Loop Detected"),
  (510, "Not Extended"),
  (511, "Network Authentication Required")]

/-- The reason phrase of a status. -/
def reason (s : Status) : String := (reasons.lookup s.code).getD "<unknown status code>"

/-- The code with its reason phrase. -/
def text (s : Status) : String := toString s.code.toNat ++ " " ++ s.reason

end Status

end MethodRoutes
