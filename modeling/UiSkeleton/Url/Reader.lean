/-
Reading URLs. Blanks and controls around a URL and line breaks inside it do not count. What follows
the scheme depends on it: special schemes have a host and treat a backslash as a slash, files have a
host only between two slashes and the path, and any other URL has a host behind two slashes, or a
path, or a text without structure.
-/
import UiSkeleton.Url.Basic

namespace UiSkeleton
namespace Url

/-- The characters of a URL that count. -/
def significant (cs : List Char) : List Char :=
  let isOuter (c : Char) : Bool := c.toNat ≤ 0x20
  let inner := ((cs.dropWhile isOuter).reverse.dropWhile isOuter).reverse
  inner.filter fun c => c != '\t' && c != '\n' && c != '\r'

/-- Whether a character may stand behind the first one of a scheme. -/
def isSchemeChar (c : Char) : Bool := c.isAlphanum || c == '+' || c == '-' || c == '.'

/-- The scheme in lowercase, and the text behind its colon. -/
def cutScheme (cs : List Char) : Option (List Char × List Char) :=
  let (name, rest) := cs.span isSchemeChar
  match name, rest with
  | first :: _, ':' :: rest => if first.isAlpha then some (name.map Char.toLower, rest) else none
  | _, _ => none

/-- The text up to the first of a mark, and the text behind it. -/
def cutAt (mark : Char) (cs : List Char) : List Char × Option (List Char) :=
  match cs.span (· != mark) with
  | (before, []) => (before, none)
  | (before, _ :: behind) => (before, some behind)

/-- What stands between the scheme and the end. -/
structure Body where
  /-- The host and the path. -/
  main : List Char
  query : Option (List Char)
  fragment : Option (List Char)

/-- Cuts off the query and the fragment. -/
def Body.ofText (cs : List Char) : Body :=
  let (rest, fragment) := cutAt '#' cs
  let (main, query) := cutAt '?' rest
  ⟨main, query, fragment⟩

/-- The encoded query of a scheme. -/
def Body.queryFor (body : Body) (special : Bool) : Option (List Char) :=
  body.query.map (Percent.encode (if special then Percent.inSpecialQuery else Percent.inQuery))

/-- The encoded fragment. -/
def Body.encodedFragment (body : Body) : Option (List Char) :=
  body.fragment.map (Percent.encode Percent.inFragment)

/-- Whether a segment stands for the directory itself. -/
def isSingleDot (segment : List Char) : Bool :=
  ["." , "%2e"].contains (String.ofList (segment.map Char.toLower))

/-- Whether a segment stands for the directory above. -/
def isDoubleDot (segment : List Char) : Bool :=
  ["..", "%2e.", ".%2e", "%2e%2e"].contains (String.ofList (segment.map Char.toLower))

/-- Whether a segment is the letter of a drive. -/
def isDrive : List Char → Bool
  | [letter, mark] => letter.isAlpha && (mark == ':' || mark == '|')
  | _ => false

/-- Adds a segment to a path whose last segment comes first. In a file's path the letter of a drive
stands first, with a colon, and nothing leads above it. -/
def addSegment (isFile : Bool) (done : List (List Char)) (segment : List Char) (isLast : Bool) :
    List (List Char) :=
  let close (path : List (List Char)) := if isLast then [] :: path else path
  if isDoubleDot segment then
    close (if isFile && done.length = 1 && done.head?.any isDrive then done else done.tail)
  else if isSingleDot segment then close done
  else if isFile && done.isEmpty && isDrive segment then [segment.take 1 ++ [':']]
  else Percent.encode Percent.inPath segment :: done

/-- The segments of a path, resolved, with the last segment first. -/
def resolve (isFile : Bool) (done : List (List Char)) : List (List Char) → List (List Char)
  | [] => done
  | segment :: more => resolve isFile (addSegment isFile done segment more.isEmpty) more

/-- Whether a character is a slash in a special scheme. -/
def isAnySlash (c : Char) : Bool := c == '/' || c == '\\'

/-- Whether a character is a slash in a scheme. -/
def isSlashIn (special : Bool) (c : Char) : Bool := c == '/' || (special && c == '\\')

/-- The segments of the text behind a path's first slash. -/
def segmentsOf (special isFile : Bool) (cs : List Char) : List (List Char) :=
  (resolve isFile [] (Text.cutWhere (isSlashIn special) cs)).reverse

/-- The segments of a path behind a host. A special scheme always has one. -/
def pathAfterHost (special : Bool) (cs : List Char) : List (List Char) :=
  match cs with
  | [] => if special then [[]] else []
  | c :: rest => segmentsOf special false (if isSlashIn special c then rest else c :: rest)

/-- The texts before and behind the last at sign. -/
def cutUser (authority : List Char) : Option (List Char × List Char) :=
  let host := (authority.reverse.takeWhile (· != '@')).reverse
  if host.length = authority.length then none
  else some (authority.take (authority.length - host.length - 1), host)

/-- The host at the start of a text, and the text behind it. A colon between brackets belongs to the
host. -/
def cutHost (bracketed : Bool) : List Char → List Char × List Char
  | [] => ([], [])
  | c :: rest =>
    if c = ':' && !bracketed then ([], c :: rest)
    else
      let bracketed := if c = '[' then true else if c = ']' then false else bracketed
      let (host, behind) := cutHost bracketed rest
      (c :: host, behind)

/-- The greatest number behind a host. -/
def maxPortNumber : Nat := Nat.pow 2 16 - 1

/-- The number behind a host and a colon, and the text behind it. -/
def readPortNumber (scheme cs : List Char) : Except UrlError (Option Nat × List Char) :=
  match cs with
  | ':' :: rest =>
    let (digits, rest) := rest.span Char.isDigit
    let number := Address.valueIn 10 digits
    if maxPortNumber < number || (!rest.isEmpty && rest.head? != some '\\') then
      .error .invalidPortNumber
    else if digits.isEmpty || usualPortNumber? scheme = some number then .ok (none, rest)
    else .ok (some number, rest)
  | rest => .ok (none, rest)

/-- The user and the password in the text before the at sign. -/
def readUser (cs : List Char) : List Char × List Char :=
  let (user, password) := cutAt ':' cs
  (Percent.encode Percent.inUserInfo user, Percent.encode Percent.inUserInfo (password.getD []))

/-- Reads what follows two slashes: the user, the host with its number, and the path. -/
def readAuthority (scheme : List Char) (special : Bool) (body : Body) : Except UrlError Url := do
  let (authority, path) := body.main.span fun c => !isSlashIn special c
  let (userText, hostText) := (cutUser authority).getD ([], authority)
  let ended := path.isEmpty && body.query.isNone && body.fragment.isNone
  if userText.isEmpty && hostText.length < authority.length && hostText.isEmpty && !ended then
    throw .emptyHost
  let (user, password) := readUser userText
  let (hostText, behind) := cutHost false hostText
  if special && hostText.isEmpty then throw .emptyHost
  let host ← if special then UrlHost.ofDomain hostText else UrlHost.ofText hostText
  if hostText.isEmpty && !behind.isEmpty then throw .emptyHost
  let (portNumber, behind) ← readPortNumber scheme behind
  if hostText.isEmpty && !(user.isEmpty && password.isEmpty) then throw .emptyHost
  return { scheme, user, password, host := some host, portNumber,
           path := .segments (pathAfterHost special (behind ++ path)),
           query := body.queryFor special, fragment := body.encodedFragment }

/-- The host and the path of a file. -/
def readFilePlace (cs : List Char) : Except UrlError (UrlHost × List Char) :=
  match cs with
  | a :: b :: rest =>
    if isAnySlash a && isAnySlash b then
      let (hostText, path) := rest.span fun c => !isAnySlash c
      if isDrive hostText then .ok (.empty, rest)
      else if hostText.isEmpty then .ok (.empty, path.drop 1)
      else (UrlHost.ofDomain hostText).map fun host =>
        (if host = .name "localhost".toList then .empty else host, path.drop 1)
    else .ok (.empty, if isAnySlash a then b :: rest else cs)
  | [a] => .ok (.empty, if isAnySlash a then [] else [a])
  | [] => .ok (.empty, [])

/-- The segments without the empty ones in front of the last. -/
def dropEmptyFirst : List (List Char) → List (List Char)
  | [] :: second :: more => dropEmptyFirst (second :: more)
  | segments => segments

/-- Reads what follows the scheme of files. A path with a drive has no host. -/
def readFile (scheme : List Char) (body : Body) : Except UrlError Url := do
  let (host, path) ← readFilePlace body.main
  let segments := segmentsOf true true path
  return { scheme, user := [], password := [],
           host := some (if segments.head?.any isDrive then .empty else host), portNumber := none,
           path := .segments (dropEmptyFirst segments),
           query := body.queryFor true, fragment := body.encodedFragment }

/-- Reads what follows any other scheme: a host, a path or a plain text. -/
def readOther (scheme : List Char) (body : Body) : Except UrlError Url :=
  match body.main with
  | '/' :: '/' :: main => readAuthority scheme false { body with main := main }
  | main =>
    let path := match main with
      | '/' :: rest => UrlPath.segments (segmentsOf false false rest)
      | text => .plain (Percent.encode Percent.isControl text)
    .ok { scheme, user := [], password := [], host := none, portNumber := none, path,
          query := body.queryFor false, fragment := body.encodedFragment }

/-- The URL that a text stands for. -/
def read (s : String) : Except UrlError Url :=
  match cutScheme (significant s.toList) with
  | none => .error .noScheme
  | some (scheme, rest) =>
    let body := Body.ofText rest
    if scheme = "file".toList then readFile scheme body
    else if (usualPortNumber? scheme).isSome then
      readAuthority scheme true { body with main := body.main.dropWhile isAnySlash }
    else readOther scheme body

end Url
end UiSkeleton
