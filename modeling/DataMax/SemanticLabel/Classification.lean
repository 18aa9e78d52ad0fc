import DataMax.Domain.Text
import DataMax.Library.Sorting
import DataMax.SemanticUnderstanding.Records

/-! What a text looks like: a business label, a technical name or something that
must not be shown. -/

namespace DataMax.SemanticLabel

open Domain Library
open SemanticUnderstanding (maxExamples)

inductive SemanticPrimaryLabelClass where
  | business
  | safeGenericFallback
  | empty
  | rawRow
  | sqlOrMime
  | numericIdentifier
  | strategy
  | operationalInstruction
  | pathOrConnection
  | technicalFilename
  | technicalIdentifier
  deriving DecidableEq

structure SemanticPrimaryLabelQuality where
  labelClass : SemanticPrimaryLabelClass
  businessLabel : Bool
  chineseBusinessLabel : Bool
  deriving DecidableEq

def SemanticPrimaryLabelQuality.new (labelClass : SemanticPrimaryLabelClass) (businessLabel chinese : Bool) :
    SemanticPrimaryLabelQuality :=
  ⟨labelClass, businessLabel, businessLabel && chinese⟩

inductive SemanticRole where
  | identifier
  | name
  | date
  | amount
  | quantity
  | category
  | status
  | location
  | text
  | unknown
  deriving DecidableEq

/-- The Unicode tables of the standard library. -/
structure CharClasses where
  isAlphabetic : Char → Bool
  isAlphanumeric : Char → Bool

def safeGenericFieldLabel : String := "待解释字段"
def safeGenericObjectLabel : String := "待解释对象"

def isHanCharacter (character : Char) : Bool :=
  let code := character.toNat
  (0x3400 ≤ code && code ≤ 0x4dbf) || (0x4e00 ≤ code && code ≤ 0x9fff)

def containsAny (text : String) (markers : List String) : Bool := markers.any (contains text)

def startsWithAny (text : String) (starts : List String) : Bool := starts.any (startsWith text)

def digits (text : String) : List Char := text.toList.filter Char.isDigit

/-- A drive letter, a colon and a slash, by their bytes. -/
def looksLikeDrive (value : String) : Bool :=
  let bytes := utf8 value
  bytes[1]? == some 0x3a && (bytes[2]? == some 0x5c || bytes[2]? == some 0x2f)

def looksLikeRawRow (value : String) : Bool :=
  if value.toList.contains '\t' then true
  else 2 ≤ (value.toList.filter fun character => [',', '，', ';', '；', '|'].contains character).length

def looksLikeSqlOrMime (lower : String) : Bool :=
  let mimePrefix := startsWithAny lower ["application/", "audio/", "font/", "image/", "message/", "model/",
    "multipart/", "text/", "video/"] && !lower.toList.any isWhitespace
  let sqlStart := startsWithAny (trimStart lower) ["select ", "with ", "insert ", "update ", "delete ", "merge "]
  mimePrefix || sqlStart || contains lower "/*" || contains lower "*/" || startsWith lower "--" ||
    containsAny lower [" from ", " where ", "case when", "date_add(", "datediff("]

def looksLikeStrategy (lower : String) : Bool :=
  containsAny lower ["paragraph_aware", "noun_terms", "parse_strategy", "understanding_strategy", "parser_profile"]

def looksLikeOperationalInstruction (value lower : String) : Bool :=
  let credentialInstruction := contains value "凭据" && containsAny value ["下载", "读取", "记录", "环境", "请求"]
  let environmentInstruction := containsAny value ["进程环境", "环境变量"]
  let englishInstruction := (contains lower "credential" &&
    containsAny lower ["download", "read", "record", "environment", "request"]) ||
    contains lower "process environment" || contains lower "environment variable"
  credentialInstruction || environmentInstruction || englishInstruction

def looksLikePathOrConnection (value lower : String) : Bool :=
  let connection := containsAny lower ["postgres://", "postgresql://", "mysql://", "oracle://", "jdbc:", "redis://",
    "mongodb://"]
  let networkPath := startsWith value "\\\\"
  let unixPath := startsWithAny lower ["/home/", "/users/", "/etc/", "/var/", "/root/", "/srv/"]
  connection || looksLikeDrive value || networkPath || unixPath

def looksLikeTechnicalFilename (lower : String) : Bool :=
  [".tar.gz", ".xlsx", ".xlsm", ".xls", ".csv", ".zip", ".pdf", ".docx", ".doc", ".pptx", ".ppt", ".json", ".html",
    ".htm", ".txt", ".md"].any (endsWith lower)

def looksLikeNumericIdentifier (classes : CharClasses) (value : String) : Bool :=
  let compact := (trim value).toList
  let digitCount := (compact.filter Char.isDigit).length
  let alphanumeric := (compact.filter classes.isAlphanumeric).length
  let pureNumeric := 0 < digitCount && compact.all fun character =>
    character.isDigit || isWhitespace character || ['.', ',', ':', '/', '_', '+', '-'].contains character
  let compactCode := 6 ≤ compact.length && 2 ≤ digitCount && compact.any Char.isAlpha &&
    !compact.any isWhitespace &&
    compact.all fun character => character.isAlphanum || ['-', '_', '.', '/'].contains character
  pureNumeric || compactCode || (4 ≤ digitCount && 0 < alphanumeric && 55 ≤ digitCount * 100 / alphanumeric)

def looksSensitive (value : String) : Bool :=
  let lower := asciiLower value
  let compactDigits := digits value
  let credentialMarker := containsAny lower ["password=", "passwd=", "token=", "secret=", "api_key=", "apikey=",
    "bearer "]
  let databaseUrl := containsAny lower ["postgres://", "postgresql://", "mysql://", "oracle://", "jdbc:", "redis://"]
  let email := !value.toList.any isWhitespace && value.toList.contains '@' && value.toList.contains '.'
  let phone := compactDigits.length == 11 && compactDigits.head? == some '1'
  let identity := compactDigits.length == 15 || compactDigits.length == 18 ||
    (value.toList.length == 18 && compactDigits.length == 17 && (endsWith value "X" || endsWith value "x"))
  let windowsPath := 3 < value.utf8ByteSize && looksLikeDrive value
  let unixPath := startsWithAny lower ["/home/", "/users/", "/etc/", "/var/", "/root/"]
  let token := startsWith lower "sk-" || startsWith lower "eyj" ||
    (32 ≤ value.utf8ByteSize && value.toList.all fun character =>
      character.isAlphanum || ['-', '_', '.'].contains character)
  credentialMarker || databaseUrl || email || phone || identity || windowsPath || unixPath || token

def classifySemanticPrimaryLabel (classes : CharClasses) (text : String) : SemanticPrimaryLabelQuality :=
  let value := trim text
  let lower := asciiLower value
  let chineseCount := (value.toList.filter isHanCharacter).length
  let wordCount := ((words value).filter fun word => word.toList.any classes.isAlphabetic).length
  if value = "" then .new .empty false false
  else if value ∈ [safeGenericFieldLabel, safeGenericObjectLabel, "表格数据", "待解释内容"] then
    .new .safeGenericFallback false true
  else if looksLikeOperationalInstruction value lower then .new .operationalInstruction false false
  else if looksLikeSqlOrMime lower then .new .sqlOrMime false false
  else if looksLikeRawRow value then .new .rawRow false false
  else if looksLikeStrategy lower then .new .strategy false false
  else if looksLikePathOrConnection value lower then .new .pathOrConnection false false
  else if looksLikeTechnicalFilename lower && decide (chineseCount < 2) then .new .technicalFilename false false
  else if looksLikeNumericIdentifier classes value then .new .numericIdentifier false false
  else if 2 ≤ chineseCount then .new .business true true
  else if 2 ≤ wordCount ∧ value.toList.all fun character =>
      classes.isAlphanumeric character || [' ', '-', '&'].contains character then .new .business true false
  else .new .technicalIdentifier false false

/-- The classes of texts that are not shown as examples. -/
def hiddenClasses : List SemanticPrimaryLabelClass :=
  [.rawRow, .sqlOrMime, .strategy, .operationalInstruction, .pathOrConnection, .technicalFilename]

def safePublicExamples (classes : CharClasses) (values : List String) : List String :=
  let shown := (values.map trim).filter fun value =>
    decide (value ≠ "") && decide (value.toList.length ≤ 80) && !looksSensitive value &&
      !hiddenClasses.contains (classifySemanticPrimaryLabel classes value).labelClass
  (distinctBy id shown).take maxExamples

end DataMax.SemanticLabel
