import StubServer.Text.Utf8

namespace StubServer.Http

def tokenSigns : List Char := "!#$%&'*+-.^_|~\x60".toList

def isTokenByte (b : UInt8) : Bool :=
  let c := Char.ofNat b.toNat
  c.isAlphanum || tokenSigns.contains c

def asciiText (bytes : Bytes) : String := String.ofList (bytes.map fun b => Char.ofNat b.toNat)

def method? (bytes : Bytes) : Option String :=
  if !bytes.isEmpty && bytes.all isTokenByte then some (asciiText bytes) else none

def nameLimit : Nat := 1 <<< 16 - 1

def headerName? (bytes : Bytes) : Option String :=
  if !bytes.isEmpty && bytes.length ≤ nameLimit && bytes.all isTokenByte then
    some (String.ofList (bytes.map fun b => (Char.ofNat b.toNat).toLower))
  else none

def headerNamed? (name : String) : Option String := headerName? (Text.Utf8.encode name)

def isValueByte (b : UInt8) : Bool := (0x20 ≤ b && b != 0x7f) || b == 9

def headerValue? (bytes : Bytes) : Option Bytes := if bytes.all isValueByte then some bytes else none

def headerValued? (value : String) : Option Bytes := headerValue? (Text.Utf8.encode value)

def visibleText? (value : Bytes) : Option String :=
  if value.all fun b => (0x20 ≤ b && b < 0x7f) || b == 9 then some (asciiText value) else none

def isStatus (code : Nat) : Bool := 100 ≤ code && code ≤ 999

def reasonTable : List (Nat × String) := [
  (100, "Continue"), (101, "Switching Protocols"), (102, "Processing"), (103, "Early Hints"),
  (200, "OK"), (201, "Created"), (202, "Accepted"), (203, "Non Authoritative Information"),
  (204, "No Content"), (205, "Reset Content"), (206, "Partial Content"), (207, "Multi-Status"),
  (208, "Already Reported"), (226, "IM Used"),
  (300, "Multiple Choices"), (301, "Moved Permanently"), (302, "Found"), (303, "See Other"),
  (304, "Not Modified"), (305, "Use Proxy"), (307, "Temporary Redirect"),
  (308, "Permanent Redirect"),
  (400, "Bad Request"), (401, "Unauthorized"), (402, "Payment Required"), (403, "Forbidden"),
  (404, "Not Found"), (405, "Method Not Allowed"), (406, "Not Acceptable"),
  (407, "Proxy Authentication Required"), (408, "Request Timeout"), (409, "Conflict"),
  (410, "Gone"), (411, "Length Required"), (412, "Precondition Failed"),
  (413, "Payload Too Large"), (414, "URI Too Long"), (415, "Unsupported Media Type"),
  (416, "Range Not Satisfiable"), (417, "Expectation Failed"), (418, "I'm a teapot"),
  (421, "Misdirected Request"), (422, "Unprocessable Entity"), (423, "Locked"),
  (424, "Failed Dependency"), (425, "Too Early"), (426, "Upgrade Required"),
  (428, "Precondition Required"), (429, "Too Many Requests"),
  (431, "Request Header Fields Too Large"), (451, "Unavailable For Legal Reasons"),
  (500, "Internal Server Error"), (501, "Not Implemented"), (502, "Bad Gateway"),
  (503, "Service Unavailable"), (504, "Gateway Timeout"), (505, "HTTP Version Not Supported"),
  (506, "Variant Also Negotiates"), (507, "Insufficient Storage"), (508, "Loop Detected"),
  (510, "Not Extended"), (511, "Network Authentication Required")]

def reason (code : Nat) : String := (reasonTable.lookup code).getD ""

end StubServer.Http
