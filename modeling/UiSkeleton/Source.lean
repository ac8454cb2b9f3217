/-
Sources of examples. A source lists the names of its examples and hands out their texts; both may
fail. One kind of source holds its examples itself, the other asks for them over a network.
-/
import UiSkeleton.ExampleName
import UiSkeleton.Json.Record
import UiSkeleton.Log
import UiSkeleton.SortedSet
import UiSkeleton.Url.Reader

namespace UiSkeleton

/-- What comes of a request, and what it leaves in the log. -/
structure Reply (α : Type) where
  log : List LogLine
  result : Except SourceError α

/-- A source of examples. -/
structure ExampleSource where
  /-- The names of the examples. -/
  list : Reply (List String)
  /-- The text of the example with a name. -/
  fetch : String → Reply String
  /-- Where the example with a name is found. -/
  location : String → String

/-- Examples that are held in memory. -/
structure StoredExamples where
  /-- Whether requests are answered at all. -/
  reachable : Bool
  /-- The texts of the examples under their names; the first of a name counts. -/
  texts : List (String × String)

namespace StoredExamples

/-- Where an example is found. -/
def location (name : String) : String := "mock://examples/" ++ name ++ sourceExtension

/-- The names of the examples in order. -/
def names (examples : StoredExamples) : SortedSet String := .ofList (examples.texts.map Prod.fst)

/-- The answer to a request, unless none is answered. -/
def answer {α : Type} (examples : StoredExamples) (result : Except SourceError α) : Reply α :=
  ⟨[], if examples.reachable then result
    else .error (.requestFailed "Simulated connection failure")⟩

/-- The source of the examples. -/
def source (examples : StoredExamples) : ExampleSource where
  list := examples.answer (.ok examples.names.toList)
  fetch name := examples.answer (match examples.texts.lookup name with
    | some text => .ok text
    | none => .error (.badStatus 404 (location name)))
  location := location

end StoredExamples

/-- What is behind a URL on the network: a text, or the reason why there is none. -/
abbrev Network := Url → Except SourceError String

namespace Network

/-- The schemes that a request may have. -/
def schemes : List (List Char) := ["http".toList, "https".toList]

/-- The text behind a URL. Only parsable URLs of the known schemes reach the network, and their user
and password stay out of the URL. -/
def get (network : Network) (url : String) : Reply String where
  log := [⟨.debug, "GET " ++ url⟩]
  result := match Url.read url with
    | .error e => .error (.requestFailed ("builder error: " ++ e.message))
    | .ok parsed =>
      let parsed := parsed.withoutUser
      if schemes.contains parsed.scheme then network parsed
      else .error (.requestFailed ("builder error for url (" ++ String.ofList parsed.text ++
        "): URL scheme is not allowed"))

/-- The network without any connection. -/
def unreachable : Network := fun url =>
  .error (.requestFailed ("error sending request for url (" ++ String.ofList url.text ++ ")"))

end Network

namespace Listing

/-- The fields of an entry in JSON: what it is called and what it is. -/
def form : RecordForm where
  name := "struct ListingEntry"
  fields := [("name", .text), ("type", .text)]
  required := true

/-- The name of the example that an entry is, if it is the file of one. -/
def exampleName? (entry : FieldValues) : Option String :=
  let name := ((entry.lookup "name").getD "").toList
  let ending := sourceExtension.toList
  if entry.lookup "type" = some "file" && ending.isSuffixOf name then
    some (String.ofList (ExampleName.dropEnding ending name))
  else none

/-- The names of the examples among the entries of a directory, in order. -/
def exampleNames (entries : List FieldValues) : List String :=
  (entries.filterMap exampleName?).mergeSort fun a b => decide (a ≤ b)

/-- The names of the examples in the listing that a text holds. -/
def read (text : String) : Except JsonError (List String) :=
  (JsonReader.readAll false (JsonReader.expectRecords form) (Text.toBytes text)).map exampleNames

end Listing

/-- Examples behind URLs. -/
structure RemoteExamples where
  /-- Where the sources lie, without slashes at the end. -/
  base : List Char
  /-- What answers with the listing. -/
  listingUrl : String

namespace RemoteExamples

/-- The examples below one URL that another one lists. -/
def ofUrls (examplesUrl listingUrl : String) : RemoteExamples :=
  ⟨(examplesUrl.toList.reverse.dropWhile (· == '/')).reverse, listingUrl⟩

/-- The URL of an example's text. -/
def url (examples : RemoteExamples) (name : String) : String :=
  String.ofList examples.base ++ "/" ++ name ++ sourceExtension

/-- The names in the answer to a request for the listing. -/
def namesOf (answer : String) : Except SourceError (List String) :=
  (Listing.read answer).mapError fun e => .malformedListing e.message

/-- The text in the answer to a request for an example. -/
def textOf (name answer : String) : Except SourceError String :=
  if (Text.trim answer.toList).isEmpty then .error (.emptyExample name) else .ok answer

/-- The source of the examples on a network. -/
def source (examples : RemoteExamples) (network : Network) : ExampleSource where
  list :=
    let reply := network.get examples.listingUrl
    ⟨reply.log, reply.result.bind namesOf⟩
  fetch name :=
    let reply := network.get (examples.url name)
    ⟨reply.log, reply.result.bind (textOf name)⟩
  location := examples.url

end RemoteExamples
end UiSkeleton
