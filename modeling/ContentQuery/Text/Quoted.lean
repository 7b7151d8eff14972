/-!
# Blanks, quotes and escapes

The characters that separate clauses in query text are those with the Unicode property
`White_Space`. A literal text stands bare unless the engine would split or interpret it. Then it is
put between single quotes, with a backslash before each quote and each backslash. The fixed part of
a wildcard pattern cannot be quoted, so each special character in it, and a minus sign in front, is
escaped on its own.
-/

namespace ContentQuery.Text

/-! ## Blank characters -/

/-- The class of the 25 code points with the Unicode property `White_Space`. -/
def isBlank (char : Char) : Bool :=
  let code := char.toNat
  (0x09 ≤ code && code ≤ 0x0D) || code == 0x20 || code == 0x85 || code == 0xA0 ||
    code == 0x1680 || (0x2000 ≤ code && code ≤ 0x200A) || code == 0x2028 || code == 0x2029 ||
    code == 0x202F || code == 0x205F || code == 0x3000

/-- The characters without the blanks at either end. -/
def trimChars (chars : List Char) : List Char :=
  ((chars.dropWhile isBlank).reverse.dropWhile isBlank).reverse

/-- The text without the blanks at either end. -/
def trim (text : String) : String :=
  String.ofList (trimChars text.toList)

/-- A text is blank when trimming leaves nothing of it. -/
def isBlankText (text : String) : Bool :=
  text.toList.all isBlank

/-! ## Quoted texts -/

/-- Characters with a meaning of their own in query text. -/
def reservedChars : List Char :=
  [':', '+', '!', '(', ')', '[', ']', '\x7b', '\x7d', '^', '\x22', '\x27', '~', '*', '?', '&', '|',
    '\\']

/-- A character that cannot stand bare inside a literal. -/
def isSpecial (char : Char) : Bool :=
  isBlank char || reservedChars.contains char

/-- A text needs quotes when it opens with a minus sign or holds a special character. -/
def needsQuotes (chars : List Char) : Bool :=
  chars.head? == some '-' || chars.any isSpecial

/-- Inside quotes, a quote and a backslash are written with a backslash in front. -/
def escapeQuoted (char : Char) : List Char :=
  if char = '\x27' ∨ char = '\\' then ['\\', char] else [char]

/-- The written form of literal characters; nothing is written as a pair of quotes. -/
def quoteChars (chars : List Char) : List Char :=
  if chars.isEmpty || needsQuotes chars then
    '\x27' :: chars.flatMap escapeQuoted ++ ['\x27']
  else chars

/-- The written form of a literal text. -/
def quote (text : String) : String :=
  String.ofList (quoteChars text.toList)

/-! ## Wildcard bodies -/

/-- Inside a pattern, a special character is written with a backslash in front. -/
def escapeSpecial (char : Char) : List Char :=
  if isSpecial char then ['\\', char] else [char]

/-- The written form of the fixed characters of a pattern. -/
def wildcardChars : List Char → List Char
  | [] => []
  | first :: rest =>
    (if first = '-' then ['\\', first] else escapeSpecial first) ++ rest.flatMap escapeSpecial

/-- The written form of the fixed part of a pattern. -/
def wildcardBody (text : String) : String :=
  String.ofList (wildcardChars text.toList)

end ContentQuery.Text
