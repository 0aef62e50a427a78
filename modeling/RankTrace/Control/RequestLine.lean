import RankTrace.Text.Form

/-!
# Request lines

The method and the target of a request. A target is a path with an optional query, and may have a
scheme and an authority in front; an asterisk and a bare authority are targets without a path. What
follows a hash sign does not count. Nothing at all behind a scheme counts as no target.
-/

namespace RankTrace

inductive Method
  | get
  | head
  | other
  deriving DecidableEq, Repr

inductive RequestLineFault
  | method
  | empty
  | tooLong
  | character
  | format
  | authority
  | schemeTooLong
  deriving DecidableEq, Repr

namespace RequestLineFault

def message : RequestLineFault → String
  | method => "invalid HTTP method"
  | empty => "empty string"
  | tooLong => "uri too long"
  | character => "invalid uri character"
  | format => "invalid format"
  | authority => "invalid authority"
  | schemeTooLong => "scheme too long"

end RequestLineFault

structure RequestTarget where
  path : List UInt8
  query : List UInt8 := []
  deriving DecidableEq, Repr

def isAlphanumericByte (b : UInt8) : Bool :=
  (0x30 ≤ b && b ≤ 0x39) || (0x41 ≤ b && b ≤ 0x5a) || (0x61 ≤ b && b ≤ 0x7a)

namespace Method

def marks : List UInt8 := Utf8.bytes "!#$%&'*+-.^_`|~"

/-- Names are case-sensitive; any other token is a method too. -/
def ofName (name : String) : Except RequestLineFault Method :=
  if name.isEmpty then .error .method
  else if !(Utf8.bytes name).all fun b => isAlphanumericByte b || marks.contains b then
    .error .method
  else if name = "GET" then .ok .get
  else if name = "HEAD" then .ok .head
  else .ok .other

end Method

namespace RequestTarget

def slash : UInt8 := 0x2f
def question : UInt8 := 0x3f
def hash : UInt8 := 0x23
def colon : UInt8 := 0x3a
def openBracket : UInt8 := 0x5b
def closeBracket : UInt8 := 0x5d
def atSign : UInt8 := 0x40
def percent : UInt8 := 0x25
def asterisk : UInt8 := 0x2a

def maxLength : Nat := 65534

def maxSchemeLength : Nat := 64

def maxColons : Nat := 8

/-- A path may hold all but blanks, controls and a few delimiters; bytes beyond ASCII pass. -/
def isPathByte (b : UInt8) : Bool :=
  b = 0x21 || b = 0x22 || (0x24 ≤ b && b ≤ 0x3b) || b = 0x3d || (0x40 ≤ b && b ≤ 0x5f) ||
    (0x61 ≤ b && b ≤ 0x7e) || 0x80 ≤ b

def isQueryByte (b : UInt8) : Bool :=
  b = 0x21 || (0x24 ≤ b && b ≤ 0x3b) || b = 0x3d || (0x3f ≤ b && b ≤ 0x7e) || 0x80 ≤ b

def ofPathAndQuery (bytes : List UInt8) : Except RequestLineFault RequestTarget :=
  let shown := bytes.takeWhile (· != hash)
  let path := shown.takeWhile (· != question)
  let query := (shown.dropWhile (· != question)).drop 1
  if path.all isPathByte && query.all isQueryByte then .ok ⟨path, query⟩
  else .error .character

structure AuthorityScan where
  colons : Nat := 0
  opened : Bool := false
  closed : Bool := false
  escaped : Bool := false

def authorityMarks : List UInt8 := Utf8.bytes "!$&'()*+,-.;=_~"

/-- One byte of an authority. Colons and escapes before an at sign belong to the user, and those
between brackets to the address; neither counts afterwards. -/
def AuthorityScan.step (s : AuthorityScan) (b : UInt8) : Except RequestLineFault AuthorityScan :=
  if b = colon then
    if maxColons ≤ s.colons then .error .authority else .ok { s with colons := s.colons + 1 }
  else if b = openBracket then
    if s.escaped || s.opened then .error .authority else .ok { s with opened := true }
  else if b = closeBracket then
    if !s.opened || s.closed then .error .authority
    else .ok { s with closed := true, colons := 0, escaped := false }
  else if b = atSign then .ok { s with colons := 0, escaped := false }
  else if b = percent then .ok { s with escaped := true }
  else if isAlphanumericByte b || authorityMarks.contains b then .ok s
  else .error .character

def splitAuthority (bytes : List UInt8) :
    Except RequestLineFault (List UInt8 × List UInt8) := do
  let inside := fun b => b != slash && b != question && b != hash
  let authority := bytes.takeWhile inside
  let scan ← authority.foldlM AuthorityScan.step {}
  if scan.opened != scan.closed || 1 < scan.colons || scan.escaped ||
      authority.getLast? = some atSign then
    .error .authority
  else .ok (authority, bytes.dropWhile inside)

def lower (bytes : List UInt8) : List UInt8 :=
  bytes.map fun b => if 0x41 ≤ b && b ≤ 0x5a then b + 0x20 else b

def schemeMarks : List UInt8 := Utf8.bytes "+-.~"

def isSchemeByte (b : UInt8) : Bool := isAlphanumericByte b || schemeMarks.contains b

def afterScheme? (bytes : List UInt8) : Except RequestLineFault (Option (List UInt8)) :=
  if lower (bytes.take 7) = Utf8.bytes "http://" then .ok (some (bytes.drop 7))
  else if lower (bytes.take 8) = Utf8.bytes "https://" then .ok (some (bytes.drop 8))
  else
    let scheme := bytes.takeWhile isSchemeByte
    let rest := bytes.drop scheme.length
    if 3 < bytes.length ∧ rest.take 3 = Utf8.bytes "://" then
      if maxSchemeLength < scheme.length then .error .schemeTooLong
      else .ok (some (rest.drop 3))
    else .ok none

def ofAbsolute (bytes : List UInt8) : Except RequestLineFault RequestTarget := do
  match ← afterScheme? bytes with
  | none =>
    let (_, rest) ← splitAuthority bytes
    if rest.isEmpty then .ok ⟨[], []⟩
    else .error (if bytes.length = 1 then .character else .format)
  | some rest =>
    let (authority, rest) ← splitAuthority rest
    if authority.isEmpty then .error (if rest.isEmpty then .empty else .format)
    else
      let target ← ofPathAndQuery rest
      .ok (if target.path.isEmpty then { target with path := [slash] } else target)

def parse (text : String) : Except RequestLineFault RequestTarget :=
  let bytes := Utf8.bytes text
  if maxLength < bytes.length then .error .tooLong
  else
    match bytes with
    | [] => .error .empty
    | first :: rest =>
      if first = slash then ofPathAndQuery bytes
      else if first = asterisk ∧ rest = [] then .ok ⟨bytes, []⟩
      else ofAbsolute bytes

end RequestTarget

end RankTrace
