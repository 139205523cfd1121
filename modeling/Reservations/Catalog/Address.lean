import Reservations.Settings
import Reservations.Ulid.Uuid

namespace Reservations.Catalog

/-! ## Addresses

Every resource has an address under the base address of the catalog. Only what stands
behind the host is kept here. -/

/-- The address of a resource. Slashes at the end of the base do not count. -/
def resourceAddress (base : String) (id : Ulid) : String :=
  String.ofList (dropSlashes base.toList) ++ "/api/resources/" ++ id.toUuid

/-! ### What a request names

A request names the path and the query of an address, but not its fragment. -/

/-- Whether a character is passed over wherever it stands in an address. -/
def isPassedOver (c : Char) : Bool :=
  c = '\t' || c = '\n' || c = '\r'

/-- Whether a character may be written as it is, unless it is one of some others. -/
def isPlain (others : List Char) (c : Char) : Bool :=
  0x21 ≤ c.toNat && c.toNat ≤ 0x7e && !others.contains c

/-- The visible characters that may not stand in a path. -/
def barredFromPath : List Char :=
  "\"<>`\x7b\x7d^".toList

/-- The visible characters that may not stand in a query. -/
def barredFromQuery : List Char :=
  "\"'<>".toList

/-- A character as the percent-encoded bytes of its UTF-8 form. -/
def percentEncoded (c : Char) : List Char :=
  (String.utf8EncodeChar c).flatMap fun byte =>
    ['%', (Text.hexDigit (byte.toNat / 16)).toUpper,
      (Text.hexDigit (byte.toNat % 16)).toUpper]

/-- A text with every character encoded that may not stand in it. -/
def encodeUnless (barred : List Char) (cs : List Char) : List Char :=
  cs.flatMap fun c => if isPlain barred c then [c] else percentEncoded c

/-- The segments of a path, between slashes of either kind. -/
def segments : List Char → List (List Char)
  | [] => [[]]
  | c :: cs =>
      if c = '/' ∨ c = '\\' then [] :: segments cs
      else (segments cs).modifyHead (c :: ·)

/-- A text with its percent-encoded points written as points. -/
def decodePoints : List Char → List Char
  | '%' :: '2' :: 'e' :: cs => '.' :: decodePoints cs
  | '%' :: '2' :: 'E' :: cs => '.' :: decodePoints cs
  | c :: cs => c :: decodePoints cs
  | [] => []

/-- Whether a segment is made of so many points. -/
def isPoints (count : Nat) (segment : List Char) : Bool :=
  decodePoints segment = List.replicate count '.'

/-- The segments that are left of a path, behind those that were kept before, last one
first. A single point stands for nothing, two points take the segment before them away. At
the end of a path both leave an empty segment. -/
def settle (kept : List (List Char)) : List (List Char) → List (List Char)
  | [] => kept.reverse
  | segment :: rest =>
      if isPoints 1 segment || isPoints 2 segment then
        let left := if isPoints 2 segment then kept.tail else kept
        settle (if rest.isEmpty then [] :: left else left) rest
      else settle (segment :: kept) rest

/-- What a request names of an address. -/
def requestTarget (address : List Char) : List Char :=
  let named := (address.filter (!isPassedOver ·)).takeWhile (· ≠ '#')
  let path := settle [] (segments (named.takeWhile (· ≠ '?'))).tail
  let query := named.dropWhile (· ≠ '?')
  '/' :: ['/'].intercalate (path.map (encodeUnless barredFromPath))
    ++ encodeUnless barredFromQuery query

/-- What the request for a resource names. -/
def resourceTarget (base : String) (id : Ulid) : String :=
  String.ofList (requestTarget (resourceAddress base id).toList)

/-- The first line of the request for a resource. -/
def requestLine (base : String) (id : Ulid) : String :=
  s!"GET {resourceTarget base id} HTTP/1.1"

end Reservations.Catalog
