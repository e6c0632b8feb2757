import Stencil.Api.Document
import Stencil.Source.Address
import Stencil.Source.Format

/-!
# Loading documents

A document comes from a file or from the web.  The web is a function from
addresses to replies, so loading is a function as well.
-/

namespace Stencil.Source

/-- A reply from the web. -/
structure Reply where
  status : Nat
  contentType? : Option String
  body : String
deriving DecidableEq, Repr, Inhabited

/-- What each address answers; a text says why there is no answer. -/
abbrev Web := String → Except String Reply

def noWeb : Web := fun _ => .error "no connection"

/-- The usual words for a status. -/
def reasons : List (Nat × String) :=
  [(100, "Continue"), (101, "Switching Protocols"), (102, "Processing"), (103, "Early Hints"),
   (200, "OK"), (201, "Created"), (202, "Accepted"), (203, "Non Authoritative Information"),
   (204, "No Content"), (205, "Reset Content"), (206, "Partial Content"), (207, "Multi-Status"),
   (208, "Already Reported"), (226, "IM Used"), (300, "Multiple Choices"),
   (301, "Moved Permanently"), (302, "Found"), (303, "See Other"), (304, "Not Modified"),
   (305, "Use Proxy"), (307, "Temporary Redirect"), (308, "Permanent Redirect"),
   (400, "Bad Request"), (401, "Unauthorized"), (402, "Payment Required"), (403, "Forbidden"),
   (404, "Not Found"), (405, "Method Not Allowed"), (406, "Not Acceptable"),
   (407, "Proxy Authentication Required"), (408, "Request Timeout"), (409, "Conflict"),
   (410, "Gone"), (411, "Length Required"), (412, "Precondition Failed"),
   (413, "Payload Too Large"), (414, "URI Too Long"), (415, "Unsupported Media Type"),
   (416, "Range Not Satisfiable"), (417, "Expectation Failed"), (418, "I'm a teapot"),
   (421, "Misdirected Request"), (422, "Unprocessable Entity"), (423, "Locked"),
   (424, "Failed Dependency"), (425, "Too Early"), (426, "Upgrade Required"),
   (428, "Precondition Required"), (429, "Too Many Requests"),
   (431, "Request Header Fields Too Large"), (451, "Unavailable For Legal Reasons"),
   (500, "Internal Server Error"), (501, "Not Implemented"), (502, "Bad Gateway"),
   (503, "Service Unavailable"), (504, "Gateway Timeout"), (505, "HTTP Version Not Supported"),
   (506, "Variant Also Negotiates"), (507, "Insufficient Storage"), (508, "Loop Detected"),
   (510, "Not Extended"), (511, "Network Authentication Required")]

def statusText (status : Nat) : String :=
  toString status ++ " " ++ (reasons.lookup status).getD "<unknown status code>"

/-- The part of an address in front of its query and its fragment. -/
def pathPart (source : String) : Path :=
  ⟨String.ofList (source.toList.takeWhile fun char => char ≠ '?' && char ≠ '#')⟩

def parseDocument (format : Format) (content : String) : Except Error Api.Document := do
  let raw ← format.decode content
  match Api.Document.ofValue raw with
  | .ok document => .ok document
  | .error fault => .error fault.toError

def loadFile (disk : Disk) (source : String) : Except Error Api.Document :=
  match disk.readText ⟨source⟩ with
  | .ok content => parseDocument (.ofPath ⟨source⟩) content
  | .error fault =>
      .error (.document ("Failed to read specification " ++ source ++ ": " ++ fault.message))

def loadRemote (web : Web) (source : String) : Except Error Api.Document :=
  if !isRemote source then
    .error (.document ("HttpSpecLoader only handles HTTP(S) URLs, got: " ++ source))
  else
    match web source with
    | .error detail => .error (.network detail)
    | .ok reply =>
        if reply.status < 200 ∨ 300 ≤ reply.status then
          .error (.document ("HTTP " ++ statusText reply.status ++ " when fetching " ++ source))
        else
          let format := (Format.ofContentType (reply.contentType?.getD "")).orElse
            (.ofPath (pathPart source))
          parseDocument format reply.body

/-- Loads a document from the web when the source is an address there, else from
a file. -/
def load (disk : Disk) (web : Web) (source : String) : Except Error Api.Document :=
  if isRemote source then loadRemote web source else loadFile disk source

end Stencil.Source
