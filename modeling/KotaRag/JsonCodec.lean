import KotaRag.Json

/-!
# `json.dumps` and `json.loads`

The pipeline reaches JSON through two calls of the world: `json.dumps`, which writes a chunk's
metadata into its `metadata:` tag, and `json.loads`, which reads a tag back. This module
writes both after CPython's `json` module with its default arguments, for the worlds of the
examples, so that what an example stores is what its retrieval reads.

* `dumps` — `json.dumps(value)`: `", "` and `": "` between items, and `ensure_ascii`, which
  writes every code point outside printable ASCII as `\uXXXX` (a surrogate pair above
  `U+FFFF`). A float is written by `float.__repr__`, a parameter: the kernel cannot read a
  float's digits.
* `loads` — `json.loads(text)`: one value with whitespace around it. Numbers without
  fraction or exponent are `int`s, the others `float`s rounded by `Float.ofScientific`;
  `NaN`, `Infinity` and `-Infinity` are read as floats; strings take the escapes of JSON,
  a high and a low surrogate escape making one code point; an object whose key repeats keeps
  its first place and its last value. What is left out is rejected with `JSONDecodeError`:
  a lone surrogate escape, which a Lean `Char` cannot hold, among it.
-/

namespace KotaRag

namespace JsonCodec

/-! ## `json.dumps` -/

/-- A hexadecimal digit, lower case as `json` writes it. -/
def hexDigit (n : Nat) : Char := if n < 10 then Char.ofNat (48 + n) else Char.ofNat (87 + n)

/-- `\uXXXX` for a code unit below `0x10000`. -/
def uEscape (n : Nat) : PyStr :=
  ['\\', 'u', hexDigit (n / 4096 % 16), hexDigit (n / 256 % 16), hexDigit (n / 16 % 16),
    hexDigit (n % 16)]

/-- One code point as `ensure_ascii` writes it in a string: `\"`, `\\` and the five short
escapes, printable ASCII as itself, and every other code point as `\uXXXX`, or as a surrogate
pair above `U+FFFF`. -/
def escapeChar (c : Char) : PyStr :=
  if c = '"' ∨ c = '\\' then ['\\', c]
  else if c = '\n' then ['\\', 'n']
  else if c = '\r' then ['\\', 'r']
  else if c = '\t' then ['\\', 't']
  else if c.toNat = 8 then ['\\', 'b']
  else if c.toNat = 12 then ['\\', 'f']
  else if 0x20 ≤ c.toNat ∧ c.toNat ≤ 0x7e then [c]
  else if c.toNat < 0x10000 then uEscape c.toNat
  else uEscape (0xd800 + (c.toNat - 0x10000) / 1024) ++ uEscape (0xdc00 + (c.toNat - 0x10000) % 1024)

/-- A `str` as `json.dumps` writes it. -/
def dumpsStr (s : PyStr) : PyStr := '"' :: s.flatMap escapeChar ++ ['"']

/-- An `int` in decimal. -/
def intDigits (n : Int) : PyStr :=
  if n < 0 then '-' :: Nat.toDigits 10 n.natAbs else Nat.toDigits 10 n.toNat

mutual

/-- `json.dumps(value)` with its default arguments, `float.__repr__` given as `floatRepr`. -/
def dumps (floatRepr : Float → PyStr) : JsonVal → PyStr
  | .null => "null".toList
  | .bool b => if b then "true".toList else "false".toList
  | .int n => intDigits n
  | .float x => floatRepr x
  | .str s => dumpsStr s
  | .arr xs => '[' :: dumpsItems floatRepr xs ++ [']']
  | .obj items => '{' :: dumpsMembers floatRepr items ++ ['}']

/-- The items of a list, separated by `", "`. -/
def dumpsItems (floatRepr : Float → PyStr) : List JsonVal → PyStr
  | [] => []
  | [x] => dumps floatRepr x
  | x :: xs => dumps floatRepr x ++ ", ".toList ++ dumpsItems floatRepr xs

/-- The items of a dict, `key: value`, separated by `", "`. -/
def dumpsMembers (floatRepr : Float → PyStr) : List (PyStr × JsonVal) → PyStr
  | [] => []
  | [(key, v)] => dumpsStr key ++ ": ".toList ++ dumps floatRepr v
  | (key, v) :: items =>
    dumpsStr key ++ ": ".toList ++ dumps floatRepr v ++ ", ".toList ++ dumpsMembers floatRepr items

end

/-! ## `json.loads` -/

/-- `json.JSONDecodeError`, a `ValueError`. -/
def decodeError : PyErr := ⟨"JSONDecodeError".toList⟩

/-- The whitespace `json` skips between tokens. -/
def isJsonSpace (c : Char) : Bool := c == ' ' || c == '\t' || c == '\n' || c == '\r'

/-- The text after the whitespace at its head. -/
def skipSpace (s : PyStr) : PyStr := s.dropWhile isJsonSpace

/-- A hexadecimal digit's value. -/
def hexValue (c : Char) : Option Nat :=
  if c.isDigit then some (c.toNat - 48)
  else if 'a' ≤ c ∧ c ≤ 'f' then some (c.toNat - 87)
  else if 'A' ≤ c ∧ c ≤ 'F' then some (c.toNat - 55)
  else none

/-- The code unit of the four hexadecimal digits of a `\u` escape. -/
def hex4Value (a b c d : Char) : Option Nat := do
  return (((← hexValue a) * 16 + (← hexValue b)) * 16 + (← hexValue c)) * 16 + (← hexValue d)

/-- The code point of a short escape `\x`, for the `x` after the backslash. -/
def shortEscape (c : Char) : Option Char :=
  if c = '"' ∨ c = '\\' ∨ c = '/' then some c
  else if c = 'n' then some '\n'
  else if c = 'r' then some '\r'
  else if c = 't' then some '\t'
  else if c = 'b' then some (Char.ofNat 8)
  else if c = 'f' then some (Char.ofNat 12)
  else none

/-- Whether a code unit is a surrogate, high or low. -/
def isSurrogate (n : Nat) : Bool := 0xd800 ≤ n && n ≤ 0xdfff

/-- Puts a code point in front of what the rest of a string body read. -/
def consChar (c : Char) (r : Except PyErr (PyStr × PyStr)) : Except PyErr (PyStr × PyStr) :=
  r.map fun (s, rest) => (c :: s, rest)

/-- The body of a string after its opening quote: its code points, and the text after the
closing quote. A control character must be escaped. -/
def parseStrBody : PyStr → Except PyErr (PyStr × PyStr)
  | [] => .error decodeError
  | c :: rest =>
    if c = '"' then .ok ([], rest)
    else if c = '\\' then
      match rest with
      | 'u' :: a :: b :: c' :: d :: rest' =>
        match hex4Value a b c' d with
        | none => .error decodeError
        | some n =>
          if 0xd800 ≤ n ∧ n ≤ 0xdbff then
            match rest' with
            | '\\' :: 'u' :: e :: f :: g :: h :: rest'' =>
              match hex4Value e f g h with
              | some m =>
                if 0xdc00 ≤ m ∧ m ≤ 0xdfff then
                  consChar (Char.ofNat (0x10000 + (n - 0xd800) * 1024 + (m - 0xdc00)))
                    (parseStrBody rest'')
                else .error decodeError
              | none => .error decodeError
            | _ => .error decodeError
          else if isSurrogate n then .error decodeError
          else consChar (Char.ofNat n) (parseStrBody rest')
      | e :: rest' =>
        match shortEscape e with
        | some c' => consChar c' (parseStrBody rest')
        | none => .error decodeError
      | [] => .error decodeError
    else if c.toNat < 0x20 then .error decodeError
    else consChar c (parseStrBody rest)

/-- The integer part of a number: `0`, or a digit from `1` to `9` and the digits after it. -/
def intPart : PyStr → Option (PyStr × PyStr)
  | '0' :: rest => some (['0'], rest)
  | c :: rest => if c.isDigit then some (c :: rest.takeWhile Char.isDigit,
      rest.dropWhile Char.isDigit) else none
  | [] => none

/-- The fraction of a number: `.` and at least one digit, or nothing. -/
def fracPart : PyStr → PyStr × PyStr
  | '.' :: d :: rest => if d.isDigit then (d :: rest.takeWhile Char.isDigit,
      rest.dropWhile Char.isDigit) else ([], '.' :: d :: rest)
  | s => ([], s)

/-- The exponent of a number: `e` or `E`, a sign, and at least one digit, or nothing. -/
def expPart (s : PyStr) : Option Int × PyStr :=
  match s with
  | e :: rest =>
    if e = 'e' ∨ e = 'E' then
      let (neg, rest') := match rest with
        | '-' :: r => (true, r)
        | '+' :: r => (false, r)
        | r => (false, r)
      match rest' with
      | d :: _ =>
        if d.isDigit then
          let n : Int := digitsValue (rest'.takeWhile Char.isDigit)
          (some (if neg then -n else n), rest'.dropWhile Char.isDigit)
        else (none, s)
      | [] => (none, s)
    else (none, s)
  | [] => (none, s)

/-- The value of a number from its parts: an `int` without fraction and exponent, a `float`
otherwise. -/
def numberValue (neg : Bool) (whole frac : PyStr) (exp : Option Int) : JsonVal :=
  if frac.isEmpty ∧ exp.isNone then
    .int (if neg then -(digitsValue whole : Int) else digitsValue whole)
  else
    let e : Int := exp.getD 0 - frac.length
    let x : Float := if e < 0 then OfScientific.ofScientific (digitsValue (whole ++ frac)) true
      e.natAbs else OfScientific.ofScientific (digitsValue (whole ++ frac)) false e.toNat
    .float (if neg then -x else x)

/-- A number at the head of the text, and the text after it. -/
def parseNumber (s : PyStr) : Except PyErr (JsonVal × PyStr) :=
  let (neg, s) := match s with
    | '-' :: rest => (true, rest)
    | _ => (false, s)
  match intPart s with
  | none => .error decodeError
  | some (whole, rest) =>
    let (frac, rest) := fracPart rest
    let (exp, rest) := expPart rest
    .ok (numberValue neg whole frac exp, rest)

/-- The float `NaN`. -/
def nan : Float := 0.0 / 0.0

/-- The float `inf`. -/
def inf : Float := 1.0 / 0.0

/-- The literal at the head of the text, and the text after it. -/
def parseLiteral (s : PyStr) : Option (JsonVal × PyStr) :=
  [("null", JsonVal.null), ("true", .bool true), ("false", .bool false), ("NaN", .float nan),
      ("Infinity", .float inf), ("-Infinity", .float (-inf))].findSome? fun (word, v) =>
    if word.toList.isPrefixOf s then some (v, s.drop word.length) else none

/-- `dict(pairs)`: a repeated key keeps its first place and takes its last value. -/
def toDict (pairs : List (PyStr × JsonVal)) : PyDict JsonVal :=
  pairs.foldl (fun d kv => dictSet d kv.1 kv.2) []

mutual

/-- One value after whitespace, and the text after it; `fuel` bounds the values read. -/
def parseValue : Nat → PyStr → Except PyErr (JsonVal × PyStr)
  | 0, _ => .error decodeError
  | fuel + 1, s =>
    match skipSpace s with
    | '"' :: rest => (parseStrBody rest).map fun (t, r) => (.str t, r)
    | '[' :: rest =>
      match skipSpace rest with
      | ']' :: r => .ok (.arr [], r)
      | _ => (parseItems fuel [] rest).map fun (xs, r) => (.arr xs, r)
    | '{' :: rest =>
      match skipSpace rest with
      | '}' :: r => .ok (.obj [], r)
      | _ => (parseMembers fuel [] rest).map fun (kvs, r) => (.obj (toDict kvs), r)
    | s' =>
      match parseLiteral s' with
      | some r => .ok r
      | none => parseNumber s'

/-- The items of an array after `[`, up to its `]`; `acc` holds the items read so far, the
last first. -/
def parseItems : Nat → List JsonVal → PyStr → Except PyErr (List JsonVal × PyStr)
  | 0, _, _ => .error decodeError
  | fuel + 1, acc, s =>
    match parseValue fuel s with
    | .error e => .error e
    | .ok (v, rest) =>
      match skipSpace rest with
      | ',' :: rest' => parseItems fuel (v :: acc) rest'
      | ']' :: rest' => .ok ((v :: acc).reverse, rest')
      | _ => .error decodeError

/-- The items of an object after `{`, up to its `}`; `acc` holds the items read so far, the
last first. -/
def parseMembers : Nat → List (PyStr × JsonVal) → PyStr →
    Except PyErr (List (PyStr × JsonVal) × PyStr)
  | 0, _, _ => .error decodeError
  | fuel + 1, acc, s =>
    match skipSpace s with
    | '"' :: rest =>
      match parseStrBody rest with
      | .error e => .error e
      | .ok (key, rest) =>
        match skipSpace rest with
        | ':' :: rest =>
          match parseValue fuel rest with
          | .error e => .error e
          | .ok (v, rest) =>
            match skipSpace rest with
            | ',' :: rest' => parseMembers fuel ((key, v) :: acc) rest'
            | '}' :: rest' => .ok (((key, v) :: acc).reverse, rest')
            | _ => .error decodeError
        | _ => .error decodeError
    | _ => .error decodeError

end

/-- `json.loads(text)`: one value, with only whitespace around it. The fuel bounds the values
read at `2 ^ 32` = 4294967296, far beyond what a metadata tag holds. -/
def loads (s : PyStr) : Except PyErr JsonVal :=
  match parseValue 4294967296 s with
  | .ok (v, rest) => if (skipSpace rest).isEmpty then .ok v else .error decodeError
  | .error e => .error e

end JsonCodec

end KotaRag
