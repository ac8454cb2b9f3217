/-
URLs in their parts, each kept in its encoded form, and their text.
-/
import UiSkeleton.Url.Host

namespace UiSkeleton

/-- The path of a URL: segments behind slashes, or one text without any structure. -/
inductive UrlPath where
  | segments (parts : List (List Char))
  | plain (text : List Char)
  deriving DecidableEq, Repr

/-- A URL. -/
structure Url where
  scheme : List Char
  user : List Char
  password : List Char
  /-- The host; `none` if the URL has no place for one. -/
  host : Option UrlHost
  /-- The number behind the host, unless it is the usual one of the scheme. -/
  portNumber : Option Nat
  path : UrlPath
  query : Option (List Char)
  fragment : Option (List Char)
  deriving DecidableEq, Repr

namespace Url

/-- The usual number behind a host in a special scheme that is reached over a network. -/
def usualPortNumber? (scheme : List Char) : Option Nat :=
  match String.ofList scheme with
  | "http" | "ws" => some 80
  | "https" | "wss" => some 443
  | "ftp" => some 21
  | _ => none

/-- The user and the password in front of the host, if there are any. -/
def userText (url : Url) : List Char :=
  if url.user.isEmpty && url.password.isEmpty then []
  else url.user ++ (if url.password.isEmpty then [] else ':' :: url.password) ++ ['@']

/-- The number behind the host, if there is one. -/
def portNumberText (url : Url) : List Char :=
  match url.portNumber with
  | none => []
  | some number => ':' :: (toString number).toList

/-- The path. A first empty segment is not mistaken for the start of a host. -/
def pathText (url : Url) : List Char :=
  match url.path with
  | .plain text => text
  | .segments parts =>
    let guarded := url.host.isNone && parts.head? = some [] && 1 < parts.length
    (if guarded then ['/', '.'] else []) ++ parts.flatMap ('/' :: ·)

/-- A part that follows a mark, if there is one. -/
def markedText (mark : Char) : Option (List Char) → List Char
  | none => []
  | some part => mark :: part

/-- The text of a URL. -/
def text (url : Url) : List Char :=
  let authority := match url.host with
    | none => []
    | some host => ['/', '/'] ++ url.userText ++ host.text ++ url.portNumberText
  url.scheme ++ [':'] ++ authority ++ url.pathText ++ markedText '?' url.query ++
    markedText '#' url.fragment

/-- The URL without its user and password. They stay if what they stand for is no text. -/
def withoutUser (url : Url) : Url :=
  let known := (Percent.decodeText? url.user).isSome &&
    (!url.user.isEmpty || (Percent.decodeText? url.password).isSome)
  if known then { url with user := [], password := [] } else url

end Url
end UiSkeleton
