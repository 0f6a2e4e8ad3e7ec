import Ruleset.Ron.Cursor

/-!
# RON string, byte and character literals

* A quoted string `"…"` takes escapes after a backslash: `\'`, `\"`, `\\`, `\n`, `\r`, `\t`,
  `\0`, a byte `\xHH`, and a code point `\u{H…}` of one to six hexadecimal digits. In a text
  several byte escapes may spell one character in UTF-8; a backslash before a line break
  joins the next line, leaving out the spaces, tabs and line breaks that follow. A closing
  quote must stand somewhere after the opening one, even if it is escaped.
* A raw string `r#…#"…"#…#` has no escapes and ends at a quote followed by as many hashes as
  it started with.
* A byte string `b"…"` or `br#"…"#` is written the same way, and a byte escape in it stands
  for any byte.
* A character literal `'c'` holds one character or one escape; its byte escapes must be
  ASCII.

This module stands in for the `ron` library (0.12) that options and features are read with.
That library's code is not part of this source, so what is described here is checked only by
tests, never proved of it, and no theorem rests on these details; statements added later
should stay independent of them.
-/

namespace Ruleset

namespace Ron

/-- The value of a hexadecimal digit. -/
def hexValue (c : Char) : Option Nat :=
  if c.isDigit then some (c.toNat - '0'.toNat)
  else if 'a' ≤ c ∧ c ≤ 'f' then some (c.toNat - 'a'.toNat + 10)
  else if 'A' ≤ c ∧ c ≤ 'F' then some (c.toNat - 'A'.toNat + 10)
  else none

/-- Reads one hexadecimal digit within the current step. -/
def hexDigit : Reader Nat := do
  match hexValue (← nextChar) with
  | some d => pure d
  | none => fail (.invalidEscape "Non-hex digit found")

/-- Reads the two hexadecimal digits of a byte escape. -/
def escapedByte : Reader Nat := do
  let hi ← hexDigit
  let lo ← hexDigit
  pure (hi * 16 + lo)

/-- Up to six hexadecimal digits of a `\u{…}` escape; the code so far and how many digits. -/
def unicodeDigits : Nat → Nat → Nat → Reader (Nat × Nat)
  | 0, code, n => pure (code, n)
  | fuel + 1, code, n => do
    match (← get).rest with
    | [] => fail .eof
    | c :: _ =>
      if c == '\x7d' then pure (code, n)
      else
        let d ← hexDigit
        unicodeDigits fuel (code * 16 + d) (n + 1)

/-- The character that UTF-8 bytes encode, when they are exactly one. -/
def utf8Char? (bytes : List Nat) : Option Char :=
  match String.fromUTF8? (ByteArray.mk (bytes.map Nat.toUInt8).toArray) with
  | some s => match s.toList with
    | [c] => some c
    | _ => none
  | none => none

/-- Further byte escapes `\xHH` after a first byte at or above 0x80, until the bytes encode
one character; at most four bytes in all. -/
def moreBytes : Nat → List Nat → Reader Char
  | 0, _ => fail (.invalidEscape "Not a valid byte-escaped Unicode character")
  | fuel + 1, bytes => do
    if !(← consumeStr "\\x") then
      fail (.invalidEscape "Not a valid byte-escaped Unicode character")
    let bytes := bytes ++ [← escapedByte]
    match utf8Char? bytes with
    | some c => pure c
    | none => moreBytes fuel bytes

/-- What an escape stands for: a byte of the simple escapes and of byte escapes in binary
text, or a character. -/
inductive Escape where
  | byte (b : Nat)
  | char (c : Char)

/-- The character of an escape in text; a byte escape there is ASCII. -/
def Escape.toChar : Escape → Char
  | .byte b => Char.ofNat b
  | .char c => c

/-- The escape after a backslash. In binary text (`binary`) a byte escape stands for any
byte; in text a byte escape at or above 0x80 starts a character spelled in UTF-8 by several
byte escapes, which a character literal (`inChar`) refuses. -/
def readEscape (binary inChar : Bool) : Reader Escape := do
  match ← nextChar with
  | '\'' => pure (.byte 0x27)
  | '"' => pure (.byte 0x22)
  | '\\' => pure (.byte 0x5C)
  | 'n' => pure (.byte 0x0A)
  | 'r' => pure (.byte 0x0D)
  | 't' => pure (.byte 0x09)
  | '0' => pure (.byte 0)
  | 'x' =>
    let b ← escapedByte
    if binary then pure (.byte b)
    else if b < 0x80 then pure (.char (Char.ofNat b))
    else if inChar then fail (.invalidEscape "Not a valid byte-escaped Unicode character")
    else pure (.char (← moreBytes 3 [b]))
  | 'u' =>
    if !(← consumeChar '\x7b') then fail (.invalidEscape "Missing \x7b in Unicode escape")
    let (code, n) ← unicodeDigits 6 0 0
    if n = 0 then fail (.invalidEscape "Expected 1-6 digits, got 0 digits in Unicode escape")
    if !(← consumeChar '\x7d') then fail (.invalidEscape "No \x7d at the end of Unicode escape")
    if code.isValidChar then pure (.char (Char.ofNat code))
    else fail (.invalidEscape "Not a valid Unicode-escaped character")
  | _ => fail (.invalidEscape "Unknown escape character")

/-- The blanks that a line continuation leaves out: spaces, tabs and line breaks. -/
def isContinuationBlank (c : Char) : Bool := c == ' ' || c == '\t' || c == '\n' || c == '\r'

/-- A line continuation after a backslash: a line break (`\n` or `\r\n`) and the blanks that
follow it, which the text leaves out; whether one stands here. -/
def lineContinuation : Reader Bool := do
  match (← get).rest with
  | '\n' :: _ => discard nextChar
  | '\r' :: '\n' :: _ =>
    discard nextChar
    discard nextChar
  | _ => return false
  advance (← runLength isContinuationBlank)
  pure true

/-- The body of a quoted string after its opening quote, with escapes: stretches of plain
characters, each ended by the closing quote or by an escape. Byte strings (`binary`) are read
only to be skipped, so a byte above 0x7F stands in as the character of that code. -/
def escapedBody (binary : Bool) : Nat → List Char → Reader String
  | 0, acc => pure (String.ofList acc.reverse)
  | fuel + 1, acc => do
    let rest := (← get).rest
    let plain := rest.takeWhile fun c => c != '"' && c != '\\'
    match rest.drop plain.length with
    | '"' :: _ =>
      advance (plain.length + 1)
      pure (String.ofList (acc.reverse ++ plain))
    | '\\' :: _ =>
      advance (plain.length + 1)
      if ← lineContinuation then escapedBody binary fuel (plain.reverse ++ acc)
      else
        let e ← readEscape binary false
        escapedBody binary fuel (e.toChar :: plain.reverse ++ acc)
    | _ => fail .expectedStringEnd

/-- A quoted string after its opening quote; a closing quote must lie somewhere ahead before
the body is read. -/
def quotedBody (binary : Bool) : Reader String := do
  let s ← get
  if !s.rest.contains '"' then fail .expectedStringEnd
  escapedBody binary (s.left + 1) []

/-- The position of the first occurrence of `ending` in a text. -/
def findEnding (ending : List Char) : Nat → List Char → Option Nat
  | _, [] => if ending.isEmpty then some 0 else none
  | i, c :: r => if ending.isPrefixOf (c :: r) then some i else findEnding ending (i + 1) r

/-- A raw string after its `r`: hashes, a quote, the text, a quote and as many hashes. A
missing quote fails with `missing`. -/
def rawBody (missing : Cause) : Reader String := do
  let hashes ← runLength (· == '#')
  advance hashes
  if !(← consumeChar '"') then fail missing
  let rest := (← get).rest
  match findEnding ('"' :: List.replicate hashes '#') 0 rest with
  | some i =>
    advance (i + hashes + 1)
    pure (String.ofList (rest.take i))
  | none => fail .expectedStringEnd

/-- A string: quoted with escapes, or raw. -/
def readString : Reader String := do
  if ← consumeChar '"' then quotedBody false
  else if ← consumeChar 'r' then rawBody .expectedString
  else fail .expectedString

/-- Skips a byte string: quoted after `b`, or raw after `br`. -/
def skipByteString : Reader Unit := do
  if ← consumeStr "b\"" then discard (quotedBody true)
  else if ← consumeStr "br" then discard (rawBody .expectedByteString)
  else fail .expectedByteString

/-- Skips a character literal. -/
def skipChar : Reader Unit := do
  if !(← consumeChar '\'') then fail .expectedChar
  let c ← nextChar
  if c == '\\' then discard (readEscape false true)
  if !(← consumeChar '\'') then fail .expectedChar

end Ron

end Ruleset
