/-
  File:      OpenerPolicy/Http/Response.lean
  Subject:   HTTP RESPONSES AND THEIR HEADER LINES.

  A response is a status, header lines in order and a body. The name of a line is in lowercase, and
  names and values hold characters of Latin-1 only: a line that does not is a fault.

  * `Response.plain`, `Response.text`, `Response.refusal` -- responses with the lines that their
    status and content call for;
  * `Response.append`, `Response.remove` -- adds a line; takes out all lines of a name;
  * `Response.apply` -- puts the headers of a writer in place of the response's own.
-/
import OpenerPolicy.Response.Writer

namespace OpenerPolicy.Http

open Text (utf8Bytes)

/-- A response. -/
structure Response where
  status : Int
  lines : List (String × String)
  body : List UInt8
  deriving DecidableEq, Repr

/-! ## 1. Header lines -/

/-- Text as it can be sent. -/
def sendable (s : String) : Except Fault String := (Text.Latin1.encodable s).mapError .unencodable

/-- The name of a line, as it is sent. -/
def lineName (name : String) : Except Fault String := sendable (headerKey name)

namespace Response

/-- **Adds a line at the end.** -/
def append (r : Response) (name value : String) : Except Fault Response := do
  let name ← lineName name
  let value ← sendable value
  return { r with lines := r.lines ++ [(name, value)] }

/-- **Takes out all lines of a name.** -/
def remove (r : Response) (name : String) : Except Fault Response := do
  let name ← lineName name
  return { r with lines := r.lines.filter (·.1 ≠ name) }

def appendAll (r : Response) (name : String) (values : List String) : Except Fault Response :=
  values.foldlM (fun r value => r.append name value) r

/-- **Puts the headers of a writer in place of the response's own.** The lines of claimed headers go
    first; then each header that is emitted takes the place of the lines with its name. -/
def apply (r : Response) (h : Header) : Except Fault Response := do
  let r ← h.claimed.foldlM remove r
  h.items.foldlM (fun r e => do appendAll (← r.remove e.name) e.name e.values) r

/-! ## 2. Responses -/

/-- Whether a response of a status has a body, as far as its header lines go. -/
def hasLength (status : Int) : Bool := !(status < 200 || status = 204 || status = 304)

/-- The line with the length of the body, if the status calls for it. -/
def lengthLines (status : Int) (body : List UInt8) : List (String × String) :=
  if hasLength status then [("content-length", toString body.length)] else []

/-- Whether some part of the text starts with the word. -/
def mentions (word : List Char) : List Char → Bool
  | [] => word.isEmpty
  | c :: rest => word.isPrefixOf (c :: rest) || mentions word rest

/-- A media type as it is sent: one of text names its character set. -/
def contentType (mediaType : String) : String :=
  if "text/".toList.isPrefixOf mediaType.toList
      && !mentions "charset=".toList (Text.lowercase mediaType).toList then
    mediaType ++ "; charset=utf-8"
  else mediaType

/-- **A response without a media type.** -/
def plain (status : Int) (body : List UInt8) : Response := ⟨status, lengthLines status body, body⟩

/-- A response with a media type. -/
def typed (status : Int) (body : List UInt8) (mediaType : String) : Except Fault Response := do
  let value ← sendable (contentType mediaType)
  return ⟨status, lengthLines status body ++ [("content-type", value)], body⟩

/-- **A response of plain text**, after further lines. -/
def text (status : Int) (content : String) (first : List (String × String)) : Response :=
  let body := utf8Bytes content
  ⟨status, first ++ lengthLines status body ++ [("content-type", "text/plain; charset=utf-8")], body⟩

/-- The standard phrases of statuses. -/
def phrases : List (Int × String) :=
  [(100, "Continue"), (101, "Switching Protocols"), (102, "Processing"), (103, "Early Hints"),
   (200, "OK"), (201, "Created"), (202, "Accepted"), (203, "Non-Authoritative Information"),
   (204, "No Content"), (205, "Reset Content"), (206, "Partial Content"), (207, "Multi-Status"),
   (208, "Already Reported"), (226, "IM Used"), (300, "Multiple Choices"),
   (301, "Moved Permanently"), (302, "Found"), (303, "See Other"), (304, "Not Modified"),
   (305, "Use Proxy"), (307, "Temporary Redirect"), (308, "Permanent Redirect"),
   (400, "Bad Request"), (401, "Unauthorized"), (402, "Payment Required"), (403, "Forbidden"),
   (404, "Not Found"), (405, "Method Not Allowed"), (406, "Not Acceptable"),
   (407, "Proxy Authentication Required"), (408, "Request Timeout"), (409, "Conflict"),
   (410, "Gone"), (411, "Length Required"), (412, "Precondition Failed"),
   (413, "Request Entity Too Large"), (414, "Request-URI Too Long"),
   (415, "Unsupported Media Type"), (416, "Requested Range Not Satisfiable"),
   (417, "Expectation Failed"), (418, "I'm a Teapot"), (421, "Misdirected Request"),
   (422, "Unprocessable Entity"), (423, "Locked"), (424, "Failed Dependency"),
   (425, "Too Early"), (426, "Upgrade Required"), (428, "Precondition Required"),
   (429, "Too Many Requests"), (431, "Request Header Fields Too Large"),
   (451, "Unavailable For Legal Reasons"), (500, "Internal Server Error"),
   (501, "Not Implemented"), (502, "Bad Gateway"), (503, "Service Unavailable"),
   (504, "Gateway Timeout"), (505, "HTTP Version Not Supported"),
   (506, "Variant Also Negotiates"), (507, "Insufficient Storage"), (508, "Loop Detected"),
   (510, "Not Extended"), (511, "Network Authentication Required")]

/-- **A handler's refusal**: its text is the detail given, or the standard phrase of the status if
    it has one. -/
def refusal (status : Int) (detail : Option String) : Response :=
  if status = 204 ∨ status = 304 then plain status []
  else text status ((detail.or (phrases.lookup status)).getD "") []

/-- The answer where something failed that nobody answers for. -/
def serverError : Response := text 500 "Internal Server Error" []

def notFound : Response := text 404 "Not Found" []

/-- The answer to a method that a path does not have. -/
def methodNotAllowed (methods : List String) : Except Fault Response := do
  let value ← sendable (", ".intercalate methods)
  return text 405 "Method Not Allowed" [("allow", value)]

/-- The response that was written by an interceptor. A status of zero stands for none. -/
def ofWriter (w : Writer) : Response :=
  plain (match w.status with
    | none => 200
    | some status => if status = 0 then 200 else status) w.body

end Response

end OpenerPolicy.Http
