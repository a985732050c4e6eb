import SchemaGen.Json.Error
import SchemaGen.Text.Hex

/-!
# String literals

A literal is read once, into characters and code units written in hexadecimal, and is then used
in one of two ways.  Where its text is wanted, the code units have to form characters; where a
value is skipped, they need not.

* `Literal.read`: the literal that follows an opening quote, and what follows the literal.
* `Literal.decode`: its text.  Faults are found from left to right, so a code unit without its
  partner counts before a fault further on.
* `Literal.skip`: whether it can be skipped.
-/

namespace SchemaGen.Json

open Text

/-- A part of a literal. -/
inductive Part where
  /-- A character, as itself or by a short escape. -/
  | plain (c : Char)
  /-- A code unit written in hexadecimal. -/
  | code (n : Nat)
  deriving DecidableEq, Repr

/-- How a literal ends. -/
inductive LiteralEnd where
  | closed
  | endOfInput
  | controlCharacter
  | unknownEscape
  | badHex
  deriving DecidableEq, Repr

/-- A string literal. -/
structure Literal where
  parts : List Part
  stop : LiteralEnd
  deriving DecidableEq, Repr

/-- The character that a short escape stands for. -/
def shortEscape? (c : Char) : Option Char :=
  if c = '"' || c = '\\' || c = '/' then some c
  else if c = 'b' then some '\x08'
  else if c = 'f' then some '\x0c'
  else if c = 'n' then some '\n'
  else if c = 'r' then some '\r'
  else if c = 't' then some '\t'
  else none

namespace Literal

/-- The literal with one more part in front. -/
def cons (p : Part) (l : Literal × List Char) : Literal × List Char :=
  (⟨p :: l.1.parts, l.1.stop⟩, l.2)

/-- A literal that breaks off. -/
def broken (stop : LiteralEnd) : Literal × List Char :=
  (⟨[], stop⟩, [])

/-- What is wrong with a hexadecimal escape of fewer than four characters: four bytes are read
before any of them is looked at. -/
def shortHex (s : List Char) : LiteralEnd :=
  if (String.ofList s).utf8ByteSize < 4 then .endOfInput else .badHex

/-- The literal that follows an opening quote, and what follows the literal. -/
def read : List Char → Literal × List Char
  | [] => broken .endOfInput
  | '\\' :: 'u' :: a :: b :: c :: d :: s =>
    match readHex? [a, b, c, d] with
    | some n => cons (.code n) (read s)
    | none => broken .badHex
  | '\\' :: 'u' :: s => broken (shortHex s)
  | '\\' :: c :: s =>
    match shortEscape? c with
    | some x => cons (.plain x) (read s)
    | none => broken .unknownEscape
  | c :: s =>
    if c = '\\' then broken .endOfInput
    else if c = '"' then (⟨[], .closed⟩, s)
    else if c < ' ' then broken .controlCharacter
    else cons (.plain c) (read s)

/-- What follows a literal is no longer than what follows its opening quote. -/
theorem length_read (s : List Char) : (read s).2.length ≤ s.length := by
  fun_induction read s <;> simp_all [cons, broken] <;> omega

/-- The fault at the end of a literal, if it is broken. -/
def fault? (l : Literal) : Option Error :=
  match l.stop with
  | .closed => none
  | .endOfInput => some .endInText
  | .controlCharacter => some .controlInText
  | .unknownEscape | .badHex => some .invalidEscape

/-- Whether the literal can be skipped. -/
def skip (l : Literal) : Except Error Unit :=
  match l.fault? with
  | none => .ok ()
  | some e => .error e

/-- A code unit that begins a pair. -/
def isLeading (n : Nat) : Bool :=
  0xd800 ≤ n && n < 0xdc00

/-- A code unit that ends a pair. -/
def isTrailing (n : Nat) : Bool :=
  0xdc00 ≤ n && n < 0xe000

/-- The character of a pair. -/
def pair (leading trailing : Nat) : Char :=
  Char.ofNat ((leading - 0xd800) * 0x400 + (trailing - 0xdc00) + 0x10000)

/-- What is wrong when a literal ends after the first half of a pair.  Only a hexadecimal escape
could be the second half, so the literal has to go on, and nothing but such an escape is read any
further. -/
def faultInPair : LiteralEnd → Error
  | .endOfInput => .endInText
  | .badHex => .invalidEscape
  | .closed | .controlCharacter | .unknownEscape => .unfinishedPair

/-- The characters of the parts of a literal. -/
def decodeParts (stop : LiteralEnd) : List Part → Except Error (List Char)
  | [] => (skip ⟨[], stop⟩).map fun _ => []
  | .plain c :: ps => (decodeParts stop ps).map (c :: ·)
  | .code n :: ps =>
    if isTrailing n then .error .unpairedSurrogate
    else if isLeading n then
      match ps with
      | [] => .error (faultInPair stop)
      | .plain _ :: _ => .error .unfinishedPair
      | .code m :: ps =>
        if isTrailing m then (decodeParts stop ps).map (pair n m :: ·)
        else .error .unpairedSurrogate
    else (decodeParts stop ps).map (Char.ofNat n :: ·)

/-- The text of the literal. -/
def decode (l : Literal) : Except Error String :=
  (decodeParts l.stop l.parts).map String.ofList

end Literal

end SchemaGen.Json
