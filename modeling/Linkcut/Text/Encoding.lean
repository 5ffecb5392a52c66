import Linkcut.Text.CodePage

/-!
Encodings: how bytes stand for text. An encoding is found by its name or by one of its other names;
`Encoding.decode` gives the text of bytes, or the first of them that stand for none.
-/

set_option autoImplicit false

namespace Linkcut.Text

/-- Which byte of a unit comes first. -/
inductive ByteOrder where
  | little
  | big
  deriving DecidableEq, Repr, Inhabited

inductive Encoding where
  /-- With a mark, one that stands first says nothing. -/
  | utf8 (marked : Bool)
  | ascii
  | latin1
  | page (p : CodePage)
  /-- Without an order, a mark at the start must tell it. -/
  | utf16 (order : Option ByteOrder)
  | utf32 (order : Option ByteOrder)
  deriving DecidableEq, Repr, Inhabited

inductive DecodingError where
  | unknownName (name : String)
  /-- The name is one of a transformation that is no encoding of text. -/
  | noTextEncoding (name : String)
  /-- `count` bytes from a position on are no text; `first` is the first of them. -/
  | undecodable (encoding : String) (position : Nat) (first : UInt8) (count : Nat) (why : String)
  /-- Nothing tells the order of the bytes. -/
  | unordered (encoding : String)
  deriving DecidableEq, Repr, Inhabited

def DecodingError.message : DecodingError → String
  | unknownName n => s!"unknown encoding: {n}"
  | noTextEncoding n =>
    s!"'{n}' is not a text encoding; use codecs.open() to handle arbitrary codecs"
  | undecodable e i b count why =>
    if count = 1 then
      let digits := String.ofList (Nat.toDigits 16 b.toNat)
      let padding := if b < 16 then "0" else ""
      s!"'{e}' codec can't decode byte 0x{padding}{digits} in position {i}: {why}"
    else s!"'{e}' codec can't decode bytes in position {i}-{i + count - 1}: {why}"
  | unordered e => s!"{e} stream does not start with BOM"

namespace Encoding

structure Known where
  encoding : Encoding
  name : String
  aliases : List String := []
  deriving Repr, Inhabited

def known : List Known :=
  [⟨utf8 false, "utf_8", ["cp65001", "u8", "utf", "utf8", "utf8_ucs2", "utf8_ucs4"]⟩,
   ⟨utf8 true, "utf_8_sig", []⟩,
   ⟨utf8 false, "locale", []⟩,
   ⟨ascii, "ascii", ["646", "ansi_x3.4_1968", "ansi_x3.4_1986", "ansi_x3_4_1968", "cp367",
     "csascii", "ibm367", "iso646_us", "iso_646.irv_1991", "iso_ir_6", "us", "us_ascii"]⟩,
   ⟨latin1, "latin_1", ["8859", "cp819", "csisolatin1", "ibm819", "iso8859", "iso8859_1",
     "iso_8859_1", "iso_8859_1_1987", "iso_ir_100", "l1", "latin", "latin1"]⟩,
   ⟨utf16 none, "utf_16", ["u16", "utf16"]⟩,
   ⟨utf16 (some .little), "utf_16_le", ["unicodelittleunmarked", "utf_16le"]⟩,
   ⟨utf16 (some .big), "utf_16_be", ["unicodebigunmarked", "utf_16be"]⟩,
   ⟨utf32 none, "utf_32", ["u32", "utf32"]⟩,
   ⟨utf32 (some .little), "utf_32_le", ["utf_32le"]⟩,
   ⟨utf32 (some .big), "utf_32_be", ["utf_32be"]⟩,
   ⟨page .cp437, "cp437", ["437", "cspc8codepage437", "ibm437"]⟩,
   ⟨page .cp850, "cp850", ["850", "cspc850multilingual", "ibm850"]⟩,
   ⟨page .cp866, "cp866", ["866", "csibm866", "ibm866"]⟩,
   ⟨page .cp1250, "cp1250", ["1250", "windows_1250"]⟩,
   ⟨page .cp1251, "cp1251", ["1251", "windows_1251"]⟩,
   ⟨page .cp1252, "cp1252", ["1252", "windows_1252"]⟩,
   ⟨page .cp1253, "cp1253", ["1253", "windows_1253"]⟩,
   ⟨page .cp1254, "cp1254", ["1254", "windows_1254"]⟩,
   ⟨page .cp1257, "cp1257", ["1257", "windows_1257"]⟩,
   ⟨page .iso2, "iso8859_2", ["csisolatin2", "iso_8859_2", "iso_8859_2_1987", "iso_ir_101", "l2",
     "latin2"]⟩,
   ⟨page .iso5, "iso8859_5", ["csisolatincyrillic", "cyrillic", "iso_8859_5", "iso_8859_5_1988",
     "iso_ir_144"]⟩,
   ⟨page .iso7, "iso8859_7", ["csisolatingreek", "ecma_118", "elot_928", "greek", "greek8",
     "iso_8859_7", "iso_8859_7_1987", "iso_ir_126"]⟩,
   ⟨page .iso9, "iso8859_9", ["csisolatin5", "iso_8859_9", "iso_8859_9_1989", "iso_ir_148", "l5",
     "latin5"]⟩,
   ⟨page .iso15, "iso8859_15", ["iso_8859_15", "l9", "latin9"]⟩,
   ⟨page .koi8R, "koi8_r", ["cskoi8r"]⟩,
   ⟨page .macRoman, "mac_roman", ["macintosh", "macroman"]⟩]

def transformations : List String :=
  ["base64", "base64_codec", "base_64", "bz2", "bz2_codec", "hex", "hex_codec", "quopri",
   "quopri_codec", "quoted_printable", "quotedprintable", "rot13", "rot_13", "uu", "uu_codec",
   "zip", "zlib", "zlib_codec"]

/-- Letters, digits and points of a name, in small letters; one underscore for all that stands
between two of them. -/
def plainName (s : String) : String :=
  let isKept (c : Char) : Bool := c.isAlphanum || c == '.'
  let words := (s.toList.map fun c => if isKept c then c.toLower else ' ').splitBy
    fun a b => (a == ' ') == (b == ' ')
  "_".intercalate ((words.filter fun w => w.head? != some ' ').map String.ofList)

/-- A point in another name may stand for an underscore. -/
def ofName (name : String) : Except DecodingError Encoding :=
  let plain := plainName name
  let unpointed := plain.map fun c => if c = '.' then '_' else c
  match known.find? fun k =>
    k.aliases.contains plain || k.aliases.contains unpointed || k.name == plain with
  | some k => .ok k.encoding
  | none =>
    .error (if transformations.contains plain then .noTextEncoding name else .unknownName name)

/-- Reads one character: it and how many bytes it takes beyond the first, or how many bytes are
wrong and why. -/
abbrev CharReader := UInt8 → List UInt8 → Except (Nat × String) (Char × Nat)

/-- What follows the first byte of a character of several: how many bytes, and the bounds of the
next one. -/
def continuation? (b : UInt8) : Option (Nat × UInt8 × UInt8) :=
  if b < 0xc2 then none
  else if b < 0xe0 then some (1, 0x80, 0xbf)
  else if b = 0xe0 then some (2, 0xa0, 0xbf)
  else if b = 0xed then some (2, 0x80, 0x9f)
  else if b < 0xf0 then some (2, 0x80, 0xbf)
  else if b = 0xf0 then some (3, 0x90, 0xbf)
  else if b < 0xf4 then some (3, 0x80, 0xbf)
  else if b = 0xf4 then some (3, 0x80, 0x8f)
  else none

/-- Adds the bits of `count` more bytes to a number; `read` bytes were read before. -/
def readBits (count read n : Nat) (low high : UInt8) : List UInt8 → Except (Nat × String) Nat
  | bs =>
    match count, bs with
    | 0, _ => .ok n
    | _ + 1, [] => .error (read, "unexpected end of data")
    | count + 1, b :: bs =>
      if low ≤ b ∧ b ≤ high then
        readBits count (read + 1) (64 * n + b.toNat % 64) 0x80 0xbf bs
      else .error (read, "invalid continuation byte")

def readUtf8 : CharReader := fun b bs =>
  if b < 0x80 then .ok (Char.ofNat b.toNat, 0)
  else match continuation? b with
    | none => .error (1, "invalid start byte")
    | some (count, low, high) =>
      let bits := b.toNat % Nat.pow 2 (6 - count)
      (readBits count 1 bits low high bs).map fun n => (Char.ofNat n, count)

def readAscii : CharReader := fun b _ =>
  if b < 0x80 then .ok (Char.ofNat b.toNat, 0) else .error (1, "ordinal not in range(128)")

def readLatin1 : CharReader := fun b _ => .ok (Char.ofNat b.toNat, 0)

def readPage (p : CodePage) : CharReader := fun b _ =>
  match p.char? b with
  | some c => .ok (c, 0)
  | none => .error (1, "character maps to <undefined>")

def number (order : ByteOrder) (bs : List UInt8) : Nat :=
  let highFirst := match order with
    | .little => bs.reverse
    | .big => bs
  highFirst.foldl (fun n b => 256 * n + b.toNat) 0

def isHighSurrogate (n : Nat) : Bool := 0xd800 ≤ n && n < 0xdc00

def isLowSurrogate (n : Nat) : Bool := 0xdc00 ≤ n && n < 0xe000

def readUtf16 (order : ByteOrder) : CharReader := fun a bs =>
  match bs with
  | [] => .error (1, "truncated data")
  | b :: bs =>
    let unit := number order [a, b]
    if isLowSurrogate unit then .error (2, "illegal encoding")
    else if isHighSurrogate unit then
      match bs with
      | c :: d :: _ =>
        let next := number order [c, d]
        if isLowSurrogate next then
          .ok (Char.ofNat (0x10000 + (unit - 0xd800) * 0x400 + (next - 0xdc00)), 3)
        else .error (2, "illegal UTF-16 surrogate")
      | _ => .error (2 + bs.length, "unexpected end of data")
    else .ok (Char.ofNat unit, 1)

def readUtf32 (order : ByteOrder) : CharReader := fun a bs =>
  match bs with
  | b :: c :: d :: _ =>
    let n := number order [a, b, c, d]
    if 0x110000 ≤ n then .error (4, "code point not in range(0x110000)")
    else if isHighSurrogate n || isLowSurrogate n then
      .error (4, "code point in surrogate code point range(0xd800, 0xe000)")
    else .ok (Char.ofNat n, 3)
  | _ => .error (1 + bs.length, "truncated data")

/-- Reads characters to the end of the bytes, from a position on. -/
def readAll (label : String) (read : CharReader) (position : Nat) :
    List UInt8 → Except DecodingError (List Char)
  | [] => .ok []
  | b :: bs =>
    match read b bs with
    | .ok (c, more) =>
      (readAll label read (position + 1 + more) (bs.drop more)).map (c :: ·)
    | .error (count, why) => .error (.undecodable label position b count why)
termination_by bs => bs.length
decreasing_by simp only [List.length_drop, List.length_cons]; omega

/-- The byte order that a mark tells, and the rest. -/
def readMark (size : Nat) (bs : List UInt8) : Option ByteOrder × List UInt8 :=
  let start := bs.take size
  if start.length < size then (none, bs)
  else if number .little start = 0xfeff then (some .little, bs.drop size)
  else if number .big start = 0xfeff then (some .big, bs.drop size)
  else (none, bs)

/-- The ending of an encoding's name that tells its byte order. -/
def orderLabel : ByteOrder → String
  | .little => "le"
  | .big => "be"

/-- Reads units of `size` bytes, in an order that is given or told by a mark. Without either they
are read as if the low byte came first, and are refused if that succeeds. -/
def decodeUnits (bits size : Nat) (read : ByteOrder → CharReader) (order : Option ByteOrder)
    (bs : List UInt8) : Except DecodingError (List Char) :=
  let label (o : ByteOrder) : String := s!"utf-{bits}-" ++ orderLabel o
  match order with
  | some o => readAll (label o) (read o) 0 bs
  | none =>
    match readMark size bs with
    | (some o, rest) => readAll (label o) (read o) size rest
    | (none, []) => .ok []
    | (none, rest) => do
      let _ ← readAll (label .little) (read .little) 0 rest
      throw (.unordered s!"UTF-{bits}")

def dropMark (bs : List UInt8) : List UInt8 :=
  if bs.take 3 = [0xef, 0xbb, 0xbf] then bs.drop 3 else bs

def decode (e : Encoding) (bs : List UInt8) : Except DecodingError String :=
  String.ofList <$> match e with
  | utf8 false => readAll "utf-8" readUtf8 0 bs
  | utf8 true => readAll "utf-8" readUtf8 0 (dropMark bs)
  | ascii => readAll "ascii" readAscii 0 bs
  | latin1 => readAll "latin-1" readLatin1 0 bs
  | page p => readAll "charmap" (readPage p) 0 bs
  | utf16 order => decodeUnits 16 2 readUtf16 order bs
  | utf32 order => decodeUnits 32 4 readUtf32 order bs

end Encoding
end Linkcut.Text
