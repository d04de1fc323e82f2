import ContentClasses.Json.Reader
import ContentClasses.Schema.ContentType

/-! Reading content types and listings of them from JSON. -/

namespace ContentClasses

open Json

/-- Reads an element, whose codename is the key it stands under. -/
def readElement (codename : String) : Scan Element :=
  Scan.record "WireElement" [
      .of "type" .required Scan.text fun tag element => { element with tag },
      .of "name" .optional (Scan.optional Scan.text) fun name element => { element with name }]
    { codename, tag := "" }

/-- Reads one member of the elements of a content type, which must not repeat a codename. -/
def elementMember (codename : String) (elements : List Element) : Scan (List Element) := do
  Scan.colon
  let element ← readElement codename
  -- A repetition counts only once its value has been read.
  if elements.any (·.codename = codename) then Scan.fail (.duplicateElement codename)
  else pure (elements ++ [element])

/-- Reads the elements of a content type in the order of the text. -/
def readElements : Scan (List Element) :=
  Scan.object "a map of element codenames to elements" elementMember [] pure

/-- Reads the codename and the display name of a content type. -/
def readSystem : Scan (String × Option String) :=
  Scan.record "WireSystem" [
      .of "codename" .required Scan.text fun codename system => (codename, system.2),
      .of "name" .optional (Scan.optional Scan.text) fun name system => (system.1, name)]
    ("", none)

/-- Reads a content type. -/
def readContentType : Scan ContentType :=
  Scan.record "WireContentType" [
      .of "system" .required readSystem fun system type =>
        { type with codename := system.1, name := system.2 },
      .of "elements" .optional readElements fun elements type => { type with elements }]
    { codename := "" }

/-- Reads the paging block of a listing. -/
def readPagination : Scan Pagination :=
  Scan.record "Pagination" [
      .of "skip" .optional Scan.natural32 fun skip page => { page with skip },
      .of "limit" .optional Scan.natural32 fun limit page => { page with limit },
      .of "count" .optional Scan.natural32 fun count page => { page with count },
      .of "next_page" .optional Scan.text fun nextPage page => { page with nextPage }]
    {}

/-- Reads a listing with its paging block. -/
def readListing : Scan Listing :=
  Scan.record "TypesResponse" [
      .of "types" .required (Scan.list readContentType) fun types listing => { listing with types },
      .of "pagination" .optional (Scan.optional readPagination) fun pagination listing =>
        { listing with pagination }]
    {}

/-- Whether a character is white space in the sense of Unicode. -/
def isSpace (c : Char) : Bool :=
  let code := c.toNat
  (0x9 ≤ code && code ≤ 0xD) || code = 0x20 || code = 0x85 || code = 0xA0 || code = 0x1680 ||
    (0x2000 ≤ code && code ≤ 0x200A) || code = 0x2028 || code = 0x2029 || code = 0x202F ||
    code = 0x205F || code = 0x3000

/-- The content types of a text that is either a listing or a bare list of content types. -/
def parseTypeListing (text : String) : Except Json.Error (List ContentType) :=
  -- The first visible character tells the two forms apart.
  if (text.toList.dropWhile isSpace).head? = some '[' then
    readDocument (Scan.list readContentType) text
  else (readDocument readListing text).map (·.types)

end ContentClasses
