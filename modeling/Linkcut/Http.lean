import Linkcut.Json
import Linkcut.Names

/-!
Requests and responses of the web interface, and the quoting of addresses.
-/

set_option autoImplicit false

namespace Linkcut.Http

structure Request where
  method : String
  path : String
  query : String := ""
  headers : List (String × String) := []
  deriving DecidableEq, Repr, Inhabited

inductive Body where
  | json (tree : Json)
  | text (s : String)
  deriving Repr, Inhabited

def Body.content : Body → String
  | json tree => tree.render .compact
  | text s => s

structure Response where
  status : Nat
  headers : List (String × String)
  body : Body
  /-- The fault that left the program after an answer that says nothing of it. -/
  raised : Option Fault := none
  deriving Repr, Inhabited

def lengthHeader (b : Body) : String × String := ("content-length", toString b.content.utf8ByteSize)

def typeHeader (type : String) : String × String := ("content-type", type)

def jsonResponse (status : Nat) (tree : Json) (more : List (String × String) := []) : Response :=
  ⟨status, [typeHeader "application/json", lengthHeader (.json tree)] ++ more, .json tree, none⟩

def textResponse (status : Nat) (type : String) (s : String) : Response :=
  ⟨status, [typeHeader type, lengthHeader (.text s)], .text s, none⟩

def detail (s : String) : Json := .object [("detail", .str s)]

def notFound : Response := jsonResponse 404 (detail "Not Found")

def notAllowed (methods : String) : Response :=
  jsonResponse 405 (detail "Method Not Allowed") [("allow", methods)]

def internalError (f : Fault) : Response :=
  { textResponse 500 "text/plain; charset=utf-8" "Internal Server Error" with raised := some f }

/-- The bytes that stand for themselves in an address. -/
def isAddressByte (b : UInt8) : Bool :=
  let c := Char.ofNat b.toNat
  c.isAlphanum || "_.-~:/%#?=@[]!$&'()*+,;".toList.contains c

def upperHex (b : UInt8) : List Char := (Text.hex 2 b.toNat).map Char.toUpper

/-- An address with every other byte of its UTF-8 form written as two digits. -/
def quoteAddress (s : String) : String :=
  String.ofList (s.toUTF8.toList.flatMap fun b =>
    if isAddressByte b then [Char.ofNat b.toNat] else '%' :: upperHex b)

/-- A redirection that keeps the method. -/
def redirect (address : String) : Response :=
  ⟨307, [("content-length", "0"), ("location", quoteAddress address)], .text "", none⟩

/-- The values of a header, joined if there are several. -/
def Request.header? (r : Request) (name : String) : Option String :=
  match (r.headers.filter fun h => h.1.toLower == name).map Prod.snd with
  | [] => none
  | vs => some (",".intercalate vs)

end Linkcut.Http
