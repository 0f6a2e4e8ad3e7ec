import Ruleset.Ron.Literal
import Ruleset.Binary32.Text

/-!
# RON numbers

* An integer has an optional sign, an optional base prefix (`0b`, `0o`, `0x`), digits that
  may be separated by `_` (not at the start), and an optional suffix naming its type (`u8`
  … `u64`, `i8` … `i64`). Without a suffix it is read in the type that is expected; with one,
  in the suffix's type, and a type other than the one expected is refused. A byte literal
  `b'c'` is an integer of type `u8`.
* A float is `inf`, `NaN` (each with an optional sign), or a decimal of digits, `.`, `e`,
  `E`, signs and `_`, with an optional suffix `f32` or `f64`; a range operator `..` ends it.
  A `f64` float is refused where a single-precision one is expected.
* Where any number may stand, the longer reading wins: a float when its characters run
  further than an integer's, and a float also when the integer reading fails but a float
  reading gets at least as far.

This module stands in for the `ron` library (0.12) that options and features are read with.
That library's code is not part of this source, so what is described here is checked only by
tests, never proved of it, and no theorem rests on these details; statements added later
should stay independent of them.
-/

namespace Ruleset

namespace Ron

/-- An integer type: signed or not, and its width in bits. -/
structure IntegerType where
  signed : Bool
  bits : Nat
  deriving DecidableEq, Repr

namespace IntegerType

def u8 : IntegerType := ⟨false, 8⟩
def u32 : IntegerType := ⟨false, 32⟩
def i32 : IntegerType := ⟨true, 32⟩

/-- The integer types a number may be marked with, by their suffixes. -/
def all : List IntegerType :=
  [⟨true, 8⟩, ⟨true, 16⟩, ⟨true, 32⟩, ⟨true, 64⟩, u8, ⟨false, 16⟩, u32, ⟨false, 64⟩]

/-- The suffix that marks the type: `i` or `u` and the width. -/
def suffix (t : IntegerType) : String := (if t.signed then "i" else "u") ++ toString t.bits

/-- The least value of the type. -/
def least (t : IntegerType) : Int := if t.signed then -((Nat.pow 2 (t.bits - 1) : Nat) : Int) else 0

/-- The greatest value of the type. -/
def greatest (t : IntegerType) : Int :=
  if t.signed then ((Nat.pow 2 (t.bits - 1) - 1 : Nat) : Int)
  else ((Nat.pow 2 t.bits - 1 : Nat) : Int)

/-- How the type is named when a number of another type is found: "an 32-bit unsigned
integer". -/
def expected (t : IntegerType) : String :=
  "an " ++ toString t.bits ++ "-bit " ++ (if t.signed then "" else "un") ++ "signed integer"

end IntegerType

/-- How a float of single precision is named when a double is found. -/
def singleExpected : String := "a 32-bit floating point number"

/-- The integer expected: of one type, or of any type. -/
inductive IntegerTarget where
  | exactly (t : IntegerType)
  | any

/-- Characters that may appear in an integer: hexadecimal digits and `_`. -/
def isIntChar (c : Char) : Bool := (hexValue c).isSome || c == '_'

/-- Accumulates the digits of an integer from `n`, negatively for a negative number. Errors
carry the number of characters to move over before failing: all of them when the number
leaves `lo..hi`, up to the digit when a digit does not belong to the base. -/
def integerDigits (lo hi : Int) (base : Nat) (negative : Bool) (total : Nat) :
    Nat → Int → List Char → Except (Nat × Cause) Int
  | _, n, [] => .ok n
  | i, n, '_' :: r => integerDigits lo hi base negative total (i + 1) n r
  | i, n, c :: r =>
    let m := n * base
    if m < lo || hi < m then .error (total, .integerOutOfBounds)
    else
      let d := (hexValue c).getD 0
      if base ≤ d then .error (i, .invalidIntegerDigit c base)
      else
        let m := if negative then m - d else m + d
        if m < lo || hi < m then .error (total, .integerOutOfBounds)
        else integerDigits lo hi base negative total (i + 1) m r

/-- Moves over a base prefix `0b`, `0o` or `0x` if one stands here; the base of the digits. -/
def basePrefix : Reader Nat := do
  if ← consumeStr "0b" then pure 2
  else if ← consumeStr "0o" then pure 8
  else if ← consumeStr "0x" then pure 16
  else pure 10

/-- The digits of an integer in `base` from here, between `lo` and `hi`. -/
def digitsIn (lo hi : Int) (base : Nat) (negative : Bool) : Reader Int := do
  let digits := (← get).rest.takeWhile isIntChar
  if digits.isEmpty then fail .expectedInteger
  if digits.head? == some '_' then fail .underscoreAtBeginning
  match integerDigits lo hi base negative digits.length 0 0 digits with
  | .ok n =>
    advance digits.length
    pure n
  | .error (moved, cause) =>
    advance moved
    fail cause

/-- Accepts an integer of type `t`, written as `found`, where `target` is expected. -/
def acceptInteger (target : IntegerTarget) (t : IntegerType) (found : String) (n : Int) :
    Reader Int :=
  match target with
  | .any => pure n
  | .exactly e => if e = t then pure n else fail (.invalidValueForType e.expected found)

/-- Moves over the type suffix that stands here, if one does; the type it names. -/
def integerSuffix : Reader (Option IntegerType) :=
  IntegerType.all.foldlM (fun found t => do
    match found with
    | some t => pure (some t)
    | none => if ← consumeIdent t.suffix then pure (some t) else pure none) none

/-- A byte literal `b'c'`, read from its start `start`: one ASCII character or one escape of
a byte. -/
def byteLiteral (target : IntegerTarget) (start : Cursor) : Reader Int := do
  advance 2
  let c ← nextChar
  let b ←
    if c == '\\' then
      match ← readEscape true true with
      | .byte b => pure b
      | .char _ => fail (.invalidEscape "Unexpected Unicode escape in byte literal")
    else if c.toNat < 0x80 then pure c.toNat
    else fail .expectedByteLiteral
  if !(← consumeChar '\'') then fail .expectedByteLiteral
  acceptInteger target .u8 (← readSince start) b

/-- Reads an integer where `target` is expected: a sign, a base prefix, then the digits. When
a type suffix follows the digits, the reader moves over the digits and the suffix and back
again before it reads the digits in the suffix's type. -/
def readInteger (target : IntegerTarget) : Reader Int := do
  let start ← get
  match start.rest with
  | [] => fail .eof
  | 'b' :: '\'' :: _ => byteLiteral target start
  | c :: _ =>
    let negative := c == '-'
    if c == '+' || c == '-' then discard nextChar
    let base ← basePrefix
    let digitsStart ← get
    -- without a suffix, the number is read in the expected type, or in 64 bits
    let plain : Reader Int := match target with
      | .exactly t => digitsIn t.least t.greatest base negative
      | .any =>
        if negative then digitsIn (-Int.pow 2 63) (Int.pow 2 63 - 1) base true
        else digitsIn 0 (Int.pow 2 64 - 1) base false
    let length := (digitsStart.rest.takeWhile isIntChar).length
    match (digitsStart.rest.drop length).head? with
    | some 'i' | some 'u' =>
      advance length
      match ← integerSuffix with
      | some t =>
        let afterSuffix ← get
        restore digitsStart
        let outcome ← attempt (digitsIn t.least t.greatest base negative)
        match outcome with
        | .error .underscoreAtBeginning | .error (.invalidIntegerDigit _ _) => pure ()
        | _ => discard skipIdentifier
        let found :=
          String.ofList (start.rest.take (start.left - afterSuffix.left))
        match outcome with
        | .ok n => acceptInteger target t found n
        | .error e => fail e
      | none =>
        restore digitsStart
        plain
    | _ => plain

/-- Characters that may appear in a decimal number. -/
def isFloatChar (c : Char) : Bool :=
  c.isDigit || c == 'e' || c == 'E' || c == '.' || c == '+' || c == '-' || c == '_'

/-- The length of the decimal number at the start: float characters up to a range operator
`..`. -/
def floatLength : List Char → Nat
  | '.' :: '.' :: _ => 0
  | c :: r => if isFloatChar c then floatLength r + 1 else 0
  | [] => 0

/-- Drops the underscores of a number. An underscore may follow a digit or an exponent mark,
possibly with signs between; not the start or a point. The index of the first one that may
not stand where it does, when there is one. -/
def dropUnderscores : Nat → Bool → List Char → Except Nat (List Char)
  | _, _, [] => .ok []
  | i, allow, '_' :: r => if allow then dropUnderscores (i + 1) allow r else .error i
  | i, allow, c :: r =>
    let allow := if c.isDigit || c == 'e' || c == 'E' then true else if c == '.' then false else allow
    (dropUnderscores (i + 1) allow r).map (c :: ·)

/-- The written floats that are not decimals, with their values. -/
def floatWords : List (String × Binary32) :=
  [("inf", .infinity false), ("+inf", .infinity false), ("-inf", .infinity true),
   ("NaN", .nan), ("+NaN", .nan), ("-NaN", .nan)]

/-- Reads a float. Where a single-precision number is expected (`single`), a `f64` float is
refused; elsewhere its value is not kept, and a double stands in as the nearest single. -/
def readFloat (single : Bool) : Reader Binary32 := do
  for (word, value) in floatWords do
    if ← consumeIdent word then return value
    let rest := (← get).rest
    let marked (suffix : String) : Bool :=
      (word ++ suffix).toList.isPrefixOf rest &&
        !((rest.drop (word.length + 3)).head?.any isIdentContinue)
    if marked "f32" then
      advance (word.length + 3)
      return value
    if marked "f64" then
      advance (word.length + 3)
      if single then fail (.invalidValueForType singleExpected (word ++ "f64"))
      return value
  let rest := (← get).rest
  let length := floatLength rest
  if length = 0 then fail .expectedFloat
  if rest.head? == some '_' then fail .underscoreAtBeginning
  match dropUnderscores 0 false (rest.take length) with
  | .error i =>
    advance i
    fail .floatUnderscore
  | .ok digits =>
    let value := Binary32.ofText? (String.ofList digits)
    if (rest.drop length).head? == some 'f' then
      let start ← get
      advance length
      if ← consumeIdent "f32" then
        match value with
        | some x => return x
        | none =>
          restore start
          fail .expectedFloat
      if ← consumeIdent "f64" then
        match value with
        | some x =>
          if single then fail (.invalidValueForType singleExpected (← readSince start))
          return x
        | none =>
          restore start
          fail .expectedFloat
      restore start
    match value with
    | some x =>
      advance length
      pure x
    | none => fail .expectedFloat

/-- Whether the number here reads further as a float than as an integer. -/
def floatAhead : Reader Bool := do
  let rest := (← get).rest
  let body := match rest with
    | c :: r => if c == '+' || c == '-' then r else rest
    | [] => []
  pure (floatLength body > (body.takeWhile isIntChar).length)

/-- Skips a number of any kind: a float when its characters run further, otherwise an
integer, or a float when the integer fails and the float gets at least as far. -/
def skipNumber : Reader Unit := do
  if ← floatAhead then
    discard (readFloat false)
    return
  let start ← get
  match ← attempt (readInteger .any) with
  | .ok _ => pure ()
  | .error e =>
    let reached ← get
    restore start
    match ← attempt (readFloat false) with
    | .ok _ => if (← get).left ≤ reached.left then pure () else
        restore reached
        fail e
    | .error _ =>
      restore reached
      fail e

end Ron

end Ruleset
