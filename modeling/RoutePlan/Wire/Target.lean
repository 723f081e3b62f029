/-!
# Request targets

The target of a request: a path with perhaps a query, an absolute address, of
which only path and query count, a bare authority, which has an empty path, or an
asterisk.  A fragment is dropped.  The path is not decoded.
-/

namespace RoutePlan.Wire

/-- The path and the query of a target. -/
structure Target where
  path : String
  query : Option String
deriving DecidableEq

namespace Target

/-- The greatest length of a target in octets. -/
def maxLength : Nat := 65534

/-- The characters of a path. -/
def isPathChar (c : Char) : Bool :=
  let code := c.toNat
  code == 0x21 || code == 0x22 || (0x24 ≤ code && code ≤ 0x3B) || code == 0x3D
    || (0x40 ≤ code && code ≤ 0x5F) || 0x61 ≤ code

/-- The characters of a query. -/
def isQueryChar (c : Char) : Bool :=
  let code := c.toNat
  code == 0x21 || (0x24 ≤ code && code ≤ 0x3B) || code == 0x3D || 0x3F ≤ code

/-- The characters of an authority, besides percent signs. -/
def isAuthorityChar (c : Char) : Bool :=
  c.isAlphanum || "!$&'()*+,-.:;=@[]_~".toList.contains c

/-- The characters of a scheme. -/
def isSchemeChar (c : Char) : Bool :=
  c.isAlphanum || c == '+' || c == '-' || c == '.' || c == '~'

/-- Read a path and a query up to a fragment. -/
def readPath? (text : List Char) : Option Target :=
  let (path, rest) := text.span fun c => c != '?' && c != '#'
  if path.all isPathChar then
    let shown := if path = [] then "/" else String.ofList path
    match rest with
    | '?' :: behind =>
        let query := behind.takeWhile (· != '#')
        if query.all isQueryChar then some ⟨shown, some (String.ofList query)⟩ else none
    | _ => some ⟨shown, none⟩
  else none

/-- What was seen of an authority. -/
structure Authority where
  /-- Colons since the user name or the bracketed host. -/
  colons : Nat := 0
  opened : Bool := false
  closed : Bool := false
  /-- Whether a percent sign was seen since then. -/
  percent : Bool := false
  /-- Whether the last character was an at sign. -/
  atSign : Bool := false

/-- Read one more character of an authority. -/
def Authority.step (authority : Authority) (c : Char) : Option Authority :=
  let authority := { authority with atSign := false }
  if c = '%' then some { authority with percent := true }
  else if isAuthorityChar c = false then none
  else if c = ':' then
    if 8 ≤ authority.colons then none
    else some { authority with colons := authority.colons + 1 }
  else if c = '[' then
    if authority.percent || authority.opened then none else some { authority with opened := true }
  else if c = ']' then
    if !authority.opened || authority.closed then none
    else some { authority with closed := true, colons := 0, percent := false }
  else if c = '@' then some { authority with colons := 0, percent := false, atSign := true }
  else some authority

/-- Whether some characters are an authority. -/
def isAuthority (text : List Char) : Bool :=
  match text.foldlM Authority.step {} with
  | none => false
  | some authority =>
      authority.opened == authority.closed && decide (authority.colons ≤ 1)
        && !authority.atSign && !authority.percent

/-- Take a scheme off the front, if there is one.  A scheme of more than 64
characters is malformed. -/
def splitScheme (text : List Char) : Option (Bool × List Char) :=
  let (scheme, rest) := text.span isSchemeChar
  match rest with
  | ':' :: '/' :: '/' :: behind =>
      if 64 < scheme.length then none else some (true, behind)
  | _ => some (false, text)

/-- Read a target. -/
def read? (text : String) : Option Target :=
  let chars := text.toList
  if text.utf8ByteSize > maxLength then none
  else
    match chars with
    | [] => none
    | ['*'] => some ⟨"*", none⟩
    | '/' :: _ => readPath? chars
    | _ => do
        let (absolute, behind) ← splitScheme chars
        let authority := behind.takeWhile fun c => c != '/' && c != '?' && c != '#'
        let rest := behind.drop authority.length
        if isAuthority authority then
          if absolute then
            if authority = [] then none else readPath? rest
          else if rest = [] then some ⟨"", none⟩
          else none
        else none

end Target

end RoutePlan.Wire
