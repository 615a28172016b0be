import DocPath.Charset.Chinese
import DocPath.Charset.CodePage
import DocPath.Charset.Japanese
import DocPath.Charset.Korean

/-!
Charsets by their labels, and the text that bytes stand for in them. A byte order mark at the
start names the encoding, whatever charset was asked for.
-/

namespace DocPath

structure Charset.Multibyte where
  labels : List String
  decode : List UInt8 → List Char

inductive Charset where
  | utf8
  | utf16 (bigEndian : Bool)
  | codePage (page : Charset.CodePage)
  | multibyte (charset : Charset.Multibyte)
  /-- Bytes from 80 on stand for private characters. -/
  | userDefined
  /-- Any bytes at all are one replacement character. -/
  | undecodable

namespace Charset

def utf8Labels : List String :=
  ["unicode-1-1-utf-8", "unicode11utf8", "unicode20utf8", "utf-8", "utf8", "x-unicode20utf8"]

def utf16LittleLabels : List String :=
  ["csunicode", "iso-10646-ucs-2", "ucs-2", "unicode", "unicodefeff", "utf-16", "utf-16le"]

def utf16BigLabels : List String := ["unicodefffe", "utf-16be"]

def undecodableLabels : List String :=
  ["csiso2022kr", "hz-gb-2312", "iso-2022-cn", "iso-2022-cn-ext", "iso-2022-kr", "replacement"]

def multibyteCharsets : List Multibyte := [
  ⟨wordsOf "big5 big5-hkscs cn-big5 csbig5 x-x-big5", decodeBig5⟩,
  ⟨wordsOf "cseucpkdfmtjapanese euc-jp x-euc-jp", decodeEucJp⟩,
  ⟨wordsOf "cseuckr csksc56011987 euc-kr iso-ir-149 korean ks_c_5601-1987 ks_c_5601-1989
      ksc5601 ksc_5601 windows-949", decodeEucKr⟩,
  ⟨wordsOf "chinese csgb2312 csiso58gb231280 gb18030 gb2312 gb_2312 gb_2312-80 gbk iso-ir-58
      x-gbk", decodeGb18030⟩,
  ⟨wordsOf "csiso2022jp iso-2022-jp", decodeIso2022Jp⟩,
  ⟨wordsOf "csshiftjis ms932 ms_kanji shift-jis shift_jis sjis windows-31j x-sjis",
    decodeShiftJis⟩]

/-- The charset of a label, which may have white space around it and be written in any case. -/
def named? (label : String) : Option Charset :=
  let label := String.ofList ((trimChars label.toList).map Char.toLower)
  if utf8Labels.contains label then some .utf8
  else if utf16LittleLabels.contains label then some (.utf16 false)
  else if utf16BigLabels.contains label then some (.utf16 true)
  else if label = "x-user-defined" then some .userDefined
  else if undecodableLabels.contains label then some .undecodable
  else match multibyteCharsets.find? fun charset => charset.labels.contains label with
    | some charset => some (.multibyte charset)
    | none => (codePages.find? fun page => page.labels.contains label).map .codePage

def decodePlain : Charset → List UInt8 → List Char
  | .utf8, bs => decodeUtf8 bs
  | .utf16 bigEndian, bs => decodeUtf16 bigEndian bs
  | .codePage page, bs => bs.map page.char
  | .multibyte charset, bs => charset.decode bs
  | .userDefined, bs =>
    bs.map fun b => Char.ofNat (if b.toNat < 128 then b.toNat else 0xF700 + b.toNat)
  | .undecodable, bs => if bs.isEmpty then [] else [replacement]

def decode (charset : Charset) (bytes : List UInt8) : String :=
  String.ofList <|
    match bytes with
    | 0xEF :: 0xBB :: 0xBF :: rest => decodeUtf8 rest
    | 0xFE :: 0xFF :: rest => decodeUtf16 true rest
    | 0xFF :: 0xFE :: rest => decodeUtf16 false rest
    | bytes => charset.decodePlain bytes

end Charset
end DocPath
