/-
  WeblogDesk.Http.Wire

  Requests and replies as bytes.

  `requestBytes` writes a request that asks for one reply and the end of the
  connection.  `readAnswer` reads all that came back: its body ends where the
  reply says, or with the connection if the reply does not say.
-/

import WeblogDesk.Http.Exchange

namespace WeblogDesk
namespace Http
namespace Wire

/-- The bytes of a text. -/
def bytes (s : String) : List UInt8 := s.toUTF8.data.toList

/-- The bytes that end a line. -/
def lineEnd : List UInt8 := [0x0D, 0x0A]

/-! ## Requests -/

/-- The digits of base 64. -/
def base64Digits : List Char :=
  "ABCDEFGHIJKLMNOPQRSTUVWXYZabcdefghijklmnopqrstuvwxyz0123456789+/".toList

/-- The digit of a number below 64. -/
def base64Digit (n : Nat) : Char := base64Digits.getD n '='

/-- Bytes in base 64, three of them in four digits. -/
def base64 : List UInt8 → List Char
  | a :: b :: c :: rest =>
    let n := (a.toNat * 256 + b.toNat) * 256 + c.toNat
    base64Digit (n / 0x40000) :: base64Digit (n / 0x1000 % 64) :: base64Digit (n / 64 % 64) ::
      base64Digit (n % 64) :: base64 rest
  | [a, b] =>
    let n := (a.toNat * 256 + b.toNat) * 4
    [base64Digit (n / 0x1000), base64Digit (n / 64 % 64), base64Digit (n % 64), '=']
  | [a] =>
    let n := a.toNat * 16
    [base64Digit (n / 64), base64Digit (n % 64), '=', '=']
  | [] => []

/-- The host and port that a URL names. -/
def hostText (url : Url) : String :=
  match url.lead with
  | .authority a => String.ofList { a with userinfo := [] }.text
  | _ => ""

/-- The path and query that a URL names. -/
def pathText (url : Url) : String :=
  String.ofList (url.path.text ++ Url.tailText url.query none)

/-- A header line. -/
def header (name value : String) : List UInt8 :=
  bytes (name ++ ": " ++ value) ++ lineEnd

/-- The headers about the body. -/
def bodyHeaders (r : Request) : List UInt8 :=
  match r.body with
  | some body =>
    header "Content-Type" "application/json" ++
      header "Content-Length" (toString body.utf8ByteSize)
  | none => if r.method = .post then header "Content-Length" "0" else []

/-- A request as bytes. -/
def requestBytes (r : Request) : ByteArray :=
  let head :=
    bytes (r.method.name ++ " " ++ pathText r.url ++ " HTTP/1.1") ++ lineEnd ++
      header "Host" (hostText r.url) ++ header "Accept" "*/*" ++ header "Connection" "close" ++
      (r.cookie.elim [] (header "Cookie")) ++
      (r.credentials.elim [] fun c =>
        header "Authorization" ("Basic " ++ String.ofList (base64 c))) ++
      bodyHeaders r ++ lineEnd
  ⟨(head ++ bytes (r.body.getD "")).toArray⟩

/-! ## Replies -/

/-- The first line, without its end, and what follows it. -/
def splitLine : List UInt8 → Option (List UInt8 × List UInt8)
  | 0x0D :: 0x0A :: rest => some ([], rest)
  | b :: rest => (splitLine rest).map fun (line, tail) => (b :: line, tail)
  | [] => none

/-- The text of a line in lower case, without blanks around it. -/
def plain (line : List UInt8) : String :=
  let s := line.map fun b => (Char.ofNat b.toNat).toLower
  String.ofList ((s.dropWhile (·.isWhitespace)).reverse.dropWhile (·.isWhitespace)).reverse

/-- The header lines up to the empty line, and what follows it.  Each takes a byte, so
    `fuel` is the number of bytes. -/
def readHeaders : Nat → List UInt8 → Option (List (String × String) × List UInt8)
  | 0, _ => none
  | fuel + 1, s => do
    let (line, rest) ← splitLine s
    if line.isEmpty then return ([], rest)
    let entry := (plain (line.takeWhile (· != 0x3A)), plain ((line.dropWhile (· != 0x3A)).drop 1))
    let (entries, rest) ← readHeaders fuel rest
    return (entry :: entries, rest)

/-- The number that hexadecimal digits give, up to the first other character. -/
def hexNumber (line : List UInt8) : Option Nat :=
  match line.map (fun b => Text.hexValue? (Char.ofNat b.toNat)) with
  | some d :: more => some (((some d :: more).takeWhile Option.isSome).foldl
      (fun n d => n * 16 + d.getD 0) 0)
  | _ => none

/-- The bytes of a body in chunks, and whether it arrived in full.  Each chunk takes a
    byte, so `fuel` is the number of bytes. -/
def readChunks : Nat → List UInt8 → List UInt8 × Bool
  | 0, _ => ([], false)
  | fuel + 1, s =>
    match splitLine s with
    | none => ([], false)
    | some (line, rest) =>
      match hexNumber line with
      | none => ([], false)
      | some 0 => ([], true)
      | some size =>
        let chunk := rest.take size
        if chunk.length < size then (chunk, false)
        else
          match splitLine (rest.drop size) with
          | some ([], rest) =>
            let (more, complete) := readChunks fuel rest
            (chunk ++ more, complete)
          | _ => (chunk, false)

/-- The body that follows the headers, and whether it arrived in full. -/
def readBody (status : Nat) (headers : List (String × String)) (s : List UInt8) :
    List UInt8 × Bool :=
  if status = 204 || status = 304 then ([], true)
  else if headers.lookup "transfer-encoding" = some "chunked" then readChunks (s.length + 1) s
  else
    match (headers.lookup "content-length").bind String.toNat? with
    | some size => (s.take size, size ≤ s.length)
    | none => (s, true)

/-- The status that the first line of a reply gives. -/
def statusOf (line : List UInt8) : Option Nat :=
  match (plain line).splitOn " " with
  | version :: status :: _ => if version.startsWith "http/1." then status.toNat? else none
  | _ => none

/-- The answer that bytes write; provisional replies in front are passed over.  Each takes
    a byte, so `fuel` is the number of bytes. -/
def readAnswerFrom : Nat → List UInt8 → Answer
  | 0, _ => .dropped
  | fuel + 1, s =>
    match splitLine s with
    | none => .dropped
    | some (line, rest) =>
      match statusOf line, readHeaders (rest.length + 1) rest with
      | some status, some (headers, rest) =>
        if status < 200 then readAnswerFrom fuel rest
        else
          let (body, complete) := readBody status headers rest
          .reply ⟨status, ⟨body.toArray⟩, complete⟩
      | _, _ => .dropped

/-- The answer that all the bytes that came back write. -/
def readAnswer (s : ByteArray) : Answer :=
  readAnswerFrom (s.size + 1) s.data.toList

end Wire
end Http
end WeblogDesk
