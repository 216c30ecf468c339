import Stepwise.Request.Host

/-!
# Addresses of requests

An address says how and where something is found: by which scheme, at which host, under which path, with
which query. Reading one escapes the characters that must not stand in it, and settles the steps of the path
that lead nowhere or back up. The web's schemes are read with some leniency: their addresses have a host,
however many slashes stand before it, and a backslash is a slash.
-/

set_option autoImplicit false

namespace Stepwise

/-- Who asks: a name and perhaps a password, both escaped. -/
structure Credentials where
  user : List Char
  password : Option (List Char)
deriving DecidableEq, Repr

/-- Who is asked, and by whom. -/
structure Authority where
  credentials : Option Credentials
  host : Host
  /-- The number after the host, unless it is the usual one. -/
  number : Option Nat
deriving DecidableEq, Repr

/-- What is asked for. -/
inductive AddressPath where
  /-- Steps that lead somewhere, each escaped. -/
  | steps (steps : List (List Char))
  /-- A text that is taken as a whole. -/
  | whole (text : List Char)
deriving DecidableEq, Repr

/-- Where something is found. -/
structure Address where
  scheme : String
  authority : Option Authority
  path : AddressPath
  /-- The query, escaped. -/
  query : Option (List Char)
  /-- The part of what is found, escaped. -/
  fragment : Option (List Char)
deriving DecidableEq, Repr

/-- How the addresses of a scheme are read. -/
inductive SchemeKind where
  | web
  | files
  | foreign
deriving DecidableEq, Repr

namespace SchemeKind

/-- The kind of a scheme. -/
def ofScheme (scheme : String) : SchemeKind :=
  if ["http", "https", "ws", "wss", "ftp"].contains scheme then .web
  else if scheme == "file" then .files
  else .foreign

/-- A character that parts the steps of a path. -/
def isSlash (kind : SchemeKind) (c : Char) : Bool := c == '/' || (kind != .foreign && c == '\\')

/-- A character that ends the host. -/
def endsHost (kind : SchemeKind) (c : Char) : Bool := kind.isSlash c || c == '?' || c == '#'

end SchemeKind

namespace Address

/-- The usual number after a host. -/
def usualNumber? (scheme : String) : Option Nat :=
  match scheme with
  | "http" => some 80
  | "ws" => some 80
  | "https" => some 443
  | "wss" => some 443
  | "ftp" => some 21
  | _ => none

/-- The greatest number after a host. -/
def greatestNumber : Nat := 65535

/-- A step that leads nowhere. -/
def isHere (step : List Char) : Bool :=
  [".", "%2e"].contains (String.ofList (step.map Char.toLower))

/-- A step that leads back up. -/
def isAbove (step : List Char) : Bool :=
  ["..", ".%2e", "%2e.", "%2e%2e"].contains (String.ofList (step.map Char.toLower))

/-- The steps that are left when those that lead nowhere or back up are taken. The steps so far are last
first; nothing lies above the first. -/
def settle (done : List (List Char)) : List (List Char) → List (List Char)
  | [] => done.reverse
  | step :: rest =>
    let done :=
      if isAbove step then done.drop 1
      else if isHere step then done
      else step :: done
    let stays := !isAbove step && !isHere step
    settle (if rest.isEmpty && !stays then [] :: done else done) rest

/-- The parts of a path between its slashes, escaped. A slash before the first counts for nothing. -/
def rawSteps (kind : SchemeKind) (text : List Char) : List (List Char) :=
  let slashed := text.map fun c => if kind.isSlash c then '/' else c
  let whole := match slashed with
    | '/' :: rest => rest
    | rest => rest
  (Text.split ['/'] whole).map (Escape.text Escape.unfitForPath)

/-- The steps that a text says. -/
def readSteps (kind : SchemeKind) (text : List Char) : List (List Char) := settle [] (rawSteps kind text)

/-- The letter of a drive, with the colon or the bar after it. -/
def driveLetter? : List Char → Option Char
  | [c, d] => if c.isAlpha && (d == ':' || d == '|') then some c else none
  | _ => none

/-- The steps of the path to a file. No empty step comes first, and nothing lies above a drive. -/
def readFileSteps (text : List Char) : List (List Char) :=
  match rawSteps .files text with
  | first :: rest =>
    match driveLetter? first with
    | some c => [c, ':'] :: (if rest.isEmpty then [] else settle [] rest)
    | none =>
      match (settle [] (first :: rest)).dropWhile List.isEmpty with
      | [] => [[]]
      | steps => steps
  | [] => [[]]

/-- The text before and the text from the last at sign on, which has been taken away. -/
def breakAtUser (text : List Char) : Option (List Char × List Char) :=
  let host := (text.reverse.takeWhile (· != '@')).reverse
  if host.length < text.length then some (text.take (text.length - host.length - 1), host) else none

/-- The credentials that a text says, if it says anything. -/
def readCredentials? (text : List Char) : Option Credentials :=
  let user := text.takeWhile (· != ':')
  let password := text.drop (user.length + 1)
  if user.isEmpty && password.isEmpty then none
  else
    some ⟨Escape.text Escape.unfitForUser user,
      if password.isEmpty then none else some (Escape.text Escape.unfitForUser password)⟩

/-- The text of a host, up to a colon that is in no brackets, and what comes after it. -/
def breakAtNumber (inBrackets : Bool) : List Char → List Char × List Char
  | [] => ([], [])
  | c :: rest =>
    if c == ':' && !inBrackets then ([], c :: rest)
    else
      let inBrackets := c == '[' || (inBrackets && c != ']')
      let (host, more) := breakAtNumber inBrackets rest
      (c :: host, more)

/-- The number after a host, unless it is the usual one, and what follows it. -/
def readNumber? (scheme : String) (text : List Char) : Option (Option Nat × List Char) :=
  match text with
  | [] => some (none, [])
  | _ :: rest =>
    let digits := rest.takeWhile Char.isDigit
    let more := rest.dropWhile Char.isDigit
    let number := Text.digits? digits
    if more.head?.any (· != '\\') || number.any (greatestNumber < ·) then none
    else some (number.filter fun n => some n != usualNumber? scheme, more)

/-- The host that a text says, by the rules of a kind of schemes. -/
def readHost? (kind : SchemeKind) (text : List Char) : Option Host :=
  if kind == .foreign then Host.ofForeign? text else Host.ofText? text

/-- The authority that a text says, up to where the host ends, and what follows it. -/
def readAuthority? (scheme : String) (text : List Char) : Option (Authority × List Char) := do
  let kind := SchemeKind.ofScheme scheme
  let whole := text.takeWhile (!kind.endsHost ·)
  let asked := text.dropWhile (!kind.endsHost ·)
  let (user, place) := (breakAtUser whole).getD ([], whole)
  let credentials := readCredentials? user
  let (name, rest) := breakAtNumber false place
  let host ← readHost? kind name
  let isNameless := host == .named ""
  let (number, more) ← readNumber? scheme rest
  let isBroken := credentials.isSome || !rest.isEmpty || (whole == ['@'] && !asked.isEmpty)
  if isNameless && isBroken then none else some (⟨credentials, host, number⟩, more ++ asked)

/-- The host of a file, and what follows it. A drive is no host, and has none. -/
def readFileHost? (text : List Char) : Option (Host × List Char) :=
  match text with
  | a :: b :: rest =>
    let isSlash := SchemeKind.files.isSlash
    let name := rest.takeWhile (!SchemeKind.files.endsHost ·)
    let path := rest.drop name.length
    if !isSlash a || !isSlash b then some (.named "", text)
    else if (driveLetter? name).isSome then some (.named "", rest)
    else if name.isEmpty then some (.named "", path)
    else
      (Host.ofText? name).map fun host =>
        let onDrive := ((rawSteps .files path).head?.bind driveLetter?).isSome
        (if host == .named "localhost" || onDrive then .named "" else host, path)
  | _ => some (.named "", text)

/-- The text without the characters that an address passes over. -/
def tidied (text : List Char) : List Char :=
  let blank (c : Char) : Bool := c.toNat ≤ 0x20
  let inner := ((text.dropWhile blank).reverse.dropWhile blank).reverse
  inner.filter fun c => c != '\t' && c != '\n' && c != '\r'

/-- A character of a scheme after its first. -/
def isSchemeChar (c : Char) : Bool := c.isAlphanum || c == '+' || c == '-' || c == '.'

/-- The scheme that a text starts with, in lower case, and what follows its colon. -/
def readScheme? (text : List Char) : Option (String × List Char) := do
  let (scheme, rest) ← Text.breakAt [':'] text
  if (scheme.head?.map Char.isAlpha) == some true && scheme.all isSchemeChar then
    some (String.ofList (scheme.map Char.toLower), rest)
  else none

/-- What is asked for: everything before a query and a fragment. -/
def askedOf (text : List Char) : List Char := text.takeWhile fun c => c != '?' && c != '#'

/-- The authority and the path that the rest of an address says, by its scheme. -/
def readPlace? (scheme : String) (text : List Char) : Option (Option Authority × AddressPath) := do
  match SchemeKind.ofScheme scheme with
  | .web =>
    let (authority, asked) ← readAuthority? scheme (text.dropWhile SchemeKind.web.isSlash)
    return (some authority, .steps (readSteps .web (askedOf asked)))
  | .files =>
    let (host, asked) ← readFileHost? (askedOf text)
    return (some ⟨none, host, none⟩, .steps (readFileSteps asked))
  | .foreign =>
    match text with
    | '/' :: '/' :: rest =>
      let (authority, asked) ← readAuthority? scheme rest
      let path := askedOf asked
      return (some authority, .steps (if path.isEmpty then [] else readSteps .foreign path))
    | '/' :: rest => return (none, .steps (readSteps .foreign (askedOf rest)))
    | _ => return (none, .whole (Escape.text Escape.unfitAnywhere (askedOf text)))

/-- The address that a text says, if it says one. -/
def ofText? (text : String) : Option Address := do
  let (scheme, rest) ← readScheme? (tidied text.toList)
  let place := rest.takeWhile (· != '#')
  let (authority, path) ← readPlace? scheme place
  let unfit :=
    if SchemeKind.ofScheme scheme == .foreign then Escape.unfitForQuery else Escape.unfitForWebQuery
  let query := match place.dropWhile (· != '?') with
    | [] => none
    | _ :: query => some (Escape.text unfit query)
  let fragment := match rest.dropWhile (· != '#') with
    | [] => none
    | _ :: fragment => some (Escape.text Escape.unfitForFragment fragment)
  return ⟨scheme, authority, path, query, fragment⟩

/-- Adds a named value to the query. -/
def withField (address : Address) (name value : String) : Address :=
  let field := Escape.field name.toList ++ ['='] ++ Escape.field value.toList
  let before := match address.query.filter (!·.isEmpty) with
    | some query => query ++ ['&']
    | none => []
  { address with query := some (before ++ field) }

/-- The host, if there is one. -/
def host? (address : Address) : Option Host :=
  (address.authority.map Authority.host).filter (· != .named "")

/-- The text of a path. -/
def pathText : AddressPath → List Char
  | .steps steps => steps.flatMap ('/' :: ·)
  | .whole text => text

/-- A mark and a text after it, if there is one. -/
def marked (mark : Char) : Option (List Char) → List Char
  | some text => mark :: text
  | none => []

/-- What is asked of the host: the path and the query. -/
def target (address : Address) : String :=
  String.ofList (pathText address.path ++ marked '?' address.query)

/-- The text of an authority. -/
def authorityText (authority : Authority) : List Char :=
  let user := match authority.credentials with
    | some credentials => credentials.user ++ marked ':' credentials.password ++ ['@']
    | none => []
  let number := marked ':' (authority.number.map fun n => (toString n).toList)
  "//".toList ++ user ++ authority.host.text.toList ++ number

/-- The text before the path. A path that would be taken for a host is kept apart with a point. -/
def front (address : Address) : List Char :=
  match address.authority, address.path with
  | some authority, _ => authorityText authority
  | none, .steps ([] :: _ :: _) => "/.".toList
  | none, _ => []

/-- The text of an address. -/
def text (address : Address) : String :=
  address.scheme ++ ":" ++ String.ofList (address.front ++ address.target.toList ++ marked '#' address.fragment)

end Address

end Stepwise
