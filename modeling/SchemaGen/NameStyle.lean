import SchemaGen.Text.Case
import SchemaGen.Text.Cluster

/-!
# Name styles

A name is cut into words, and the words are put together again in another style.  The cuts are
made between extended grapheme clusters, so a letter is never torn from its marks.

* `words`: the words of a name.  A separator stands between two words and is dropped; a change of
  letter case or between letters and digits, and the last capital of an acronym, begin a new word.
  A name with separators at an end, or next to each other, has empty words.
* `NameStyle.apply`: a name in a style.
* `NameStyle.ofText`: the style that a configuration names.
-/

namespace SchemaGen

open Text

/-! ## Words -/

/-- A cluster that stands between words. -/
def isSeparatorCluster (k : List Char) : Bool :=
  k = ['_'] || k = ['-'] || k = [' ']

/-- A cluster of capital letters. -/
def isUpperCluster (k : List Char) : Bool :=
  upper k != lower k && k = upper k

/-- A cluster of small letters. -/
def isLowerCluster (k : List Char) : Bool :=
  upper k != lower k && k = lower k

/-- A cluster of ASCII digits. -/
def isDigitCluster (k : List Char) : Bool :=
  k.all isAsciiDigit

/-- Whether a word ends between the clusters `a` and `b`, where `rest` follows `b`. -/
def endsWord (a b : List Char) (rest : List (List Char)) : Bool :=
  (isLowerCluster a && (isUpperCluster b || isDigitCluster b)) ||
    (isUpperCluster a && isDigitCluster b) ||
    (isDigitCluster a && (isLowerCluster b || isUpperCluster b)) ||
    (isUpperCluster a && isUpperCluster b && (rest.head?.map isLowerCluster).getD false)

/-- The words of the clusters, the first of which continues a word. -/
def wordsFrom : List (List Char) → List (List Char)
  | [] => [[]]
  | a :: rest =>
    if isSeparatorCluster a then [] :: wordsFrom rest
    else
      match rest, wordsFrom rest with
      | _, [] => [a]
      | [], word :: others => (a ++ word) :: others
      | b :: after, word :: others =>
        if endsWord a b after then a :: word :: others else (a ++ word) :: others

/-- The words of a name; the empty name has none. -/
def words (name : List Char) : List (List Char) :=
  if name.isEmpty then [] else wordsFrom (clusters name)

/-! ## Styles -/

/-- The styles that property names can be written in. -/
inductive NameStyle where
  | camel
  | snake
  | pascal
  | screamingSnake
  | kebab
  deriving DecidableEq, Repr

/-- A text that names no style. -/
structure UnknownNameStyle where
  /-- The text. -/
  text : String
  deriving DecidableEq, Repr

/-- A word with its first character in upper case and the others in lower case. -/
def capitalize : List Char → List Char
  | [] => []
  | c :: rest => upperChar c ++ lower rest

namespace NameStyle

/-- The styles by the names that configurations use. -/
def byName : List (String × NameStyle) :=
  [("camelCase", .camel), ("snake_case", .snake), ("PascalCase", .pascal),
    ("SCREAMING_SNAKE_CASE", .screamingSnake), ("kebab-case", .kebab)]

/-- The style of that name. -/
def ofText (text : String) : Except UnknownNameStyle NameStyle :=
  match byName.lookup text with
  | some style => .ok style
  | none => .error ⟨text⟩

end NameStyle

/-- The text of the error: it lists the names that there are. -/
def UnknownNameStyle.message (error : UnknownNameStyle) : String :=
  "unknown variant \x60" ++ error.text ++ "\x60, expected one of " ++
    ", ".intercalate (NameStyle.byName.map fun (name, _) => "\x60" ++ name ++ "\x60")

namespace NameStyle

/-- Words put together in a style. -/
def join (style : NameStyle) (ws : List (List Char)) : List Char :=
  match style with
  | .snake => ['_'].intercalate (ws.map lower)
  | .screamingSnake => ['_'].intercalate (ws.map upper)
  | .kebab => ['-'].intercalate (ws.map lower)
  | .pascal => ws.flatMap capitalize
  | .camel =>
    match ws with
    | [] => []
    | first :: others => lower first ++ others.flatMap capitalize

/-- A name in a style. -/
def apply (style : NameStyle) (name : String) : String :=
  String.ofList (style.join (words name.toList))

end NameStyle

end SchemaGen
