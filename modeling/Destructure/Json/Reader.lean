import Destructure.Json.Basic
import Destructure.Number.Rounding

set_option autoImplicit false

/-! # Reading data trees

A reader for data texts: one value with blanks around it. Two dialects share the grammar and differ
in how a number's digits are understood (`NumberText.resolve`) and in how deep a text may nest. The
reader keeps repeated keys; what they mean is for the caller to say (`Json.settled`, or a
configuration that refuses them).

Reading is total: every step passes on less fuel, and the length of the text is fuel enough. -/

namespace Destructure.Json

/-- Why a text is not a data tree. -/
inductive ReadError where
  | endOfText
  | unexpected (c : Char)
  | badEscape
  | loneSurrogate
  | controlCharacter
  | numberOutOfRange
  | tooDeep
  | trailing (c : Char)
  /-- There should be one document. -/
  | documentCount (count : Nat)
deriving DecidableEq

def ReadError.message : ReadError → String
  | .endOfText => "the text ends too early"
  | .unexpected c => "unexpected character " ++ c.toString
  | .badEscape => "invalid escape"
  | .loneSurrogate => "lone surrogate in an escape"
  | .controlCharacter => "control character in a text"
  | .numberOutOfRange => "number out of range"
  | .tooDeep => "nested too deeply"
  | .trailing c => "trailing character " ++ c.toString
  | .documentCount count => "found " ++ toString count ++ " documents instead of one"

/-- The two notations that configurations are written in. -/
inductive Dialect where
  | json
  | yaml
deriving DecidableEq

/-- How many arrays and objects may stand inside one another. -/
def Dialect.depthLimit : Dialect → Nat
  | .json => 127
  | .yaml => 128

def isBlank (c : Char) : Bool := c == ' ' || c == '\n' || c == '\t' || c == '\r'

def skipBlanks (cs : List Char) : List Char := cs.dropWhile isBlank

/-! ## Numbers -/

/-- A number as it is written. -/
structure NumberText where
  negative : Bool
  whole : List Char
  fraction : List Char
  /-- The exponent, `none` when there is none. -/
  exponent : Option Int
  /-- The characters of the number. -/
  source : String

def digitValue (c : Char) : Nat := c.toNat - 48

def digitsValue (cs : List Char) : Nat := cs.foldl (fun n c => n * 10 + digitValue c) 0

/-- The bound of the leading digits that are kept: 64 bits. -/
def significandBound : Nat := Nat.pow 2 64

/-- Append digits to a significand until one does not fit; how many were appended. -/
def appendDigits (significand taken : Nat) : List Char → Nat × Nat
  | [] => (significand, taken)
  | c :: rest =>
    let next := significand * 10 + digitValue c
    if next < significandBound then appendDigits next (taken + 1) rest else (significand, taken)

namespace NumberText

/-- The leading digits that fit 64 bits and the power of ten they stand for. -/
def scaled (t : NumberText) : Nat × Int :=
  let (wholePart, kept) := appendDigits 0 0 t.whole
  let (significand, taken) := appendDigits wholePart 0 t.fraction
  (significand, ((t.whole.length - kept : Nat) : Int) - taken + t.exponent.getD 0)

/-- Whether the number is written without fraction and exponent. -/
def isWhole (t : NumberText) : Bool := t.fraction.isEmpty && t.exponent.isNone

/-- The integer of a whole number, if it fits 64 bits with its sign. -/
def int? (t : NumberText) : Option Int :=
  let n := digitsValue t.whole
  if t.isWhole then
    if t.negative then (if n ≤ Nat.pow 2 63 then some (-(n : Int)) else none)
    else if n < significandBound then some (n : Int) else none
  else none

/-- The number of a text, rounded as plain data is. -/
def float? (t : NumberText) : Option Number :=
  let (significand, exponent) := t.scaled
  (Number.ofScaledDecimal? significand exponent).map fun x => if t.negative then x.negate else x

/-- The number nearest to what is written. -/
def nearest (t : NumberText) : Number :=
  let digits := digitsValue (t.whole ++ t.fraction)
  let x := Number.ofDecimal digits (t.exponent.getD 0 - t.fraction.length)
  if t.negative then x.negate else x

/-- Whether a whole number fits 128 bits with its sign. -/
def fits128 (t : NumberText) : Bool :=
  let n := digitsValue t.whole
  if t.negative then n ≤ Nat.pow 2 127 else n < Nat.pow 2 128

/-- What a written number means. In the first dialect a negative zero and an integer beyond 64 bits
are floating point, and a number that is too large is refused. In the second an integer beyond 64 bits
is refused up to 128 bits and floating point from there on, and a number that is too large is a
text. -/
def resolve (t : NumberText) : Dialect → Except ReadError Json
  | .json =>
    match t.int? with
    | some n =>
      if n = 0 && t.negative then .ok (.float (Number.ofMagnitude true 0)) else .ok (.int n)
    | none =>
      match t.float? with
      | some x => .ok (.float x)
      | none => .error .numberOutOfRange
  | .yaml =>
    match t.int? with
    | some n => .ok (.int n)
    | none =>
      if t.isWhole && t.fits128 then .error .numberOutOfRange
      else
        let x := t.nearest
        if x.isFinite then .ok (.float x) else .ok (.text t.source)

end NumberText

def takeDigits (cs : List Char) : List Char × List Char := cs.span Char.isDigit

/-- The exponent after its mark: an optional sign and at least one digit. -/
def readExponent (cs : List Char) : Except ReadError (Int × List Char) :=
  let (negative, digits) := match cs with
    | '+' :: rest => (false, rest)
    | '-' :: rest => (true, rest)
    | _ => (false, cs)
  match takeDigits digits with
  | ([], c :: _) => .error (.unexpected c)
  | ([], []) => .error .endOfText
  | (ds, rest) => .ok (if negative then -(digitsValue ds : Int) else digitsValue ds, rest)

/-- The fraction after its point: at least one digit. -/
def readFraction (cs : List Char) : Except ReadError (List Char × List Char) :=
  match takeDigits cs with
  | ([], c :: _) => .error (.unexpected c)
  | ([], []) => .error .endOfText
  | (ds, rest) => .ok (ds, rest)

/-- The whole part: one zero, or digits that do not start with one. -/
def readWhole (cs : List Char) : Except ReadError (List Char × List Char) :=
  match takeDigits cs with
  | ([], c :: _) => .error (.unexpected c)
  | ([], []) => .error .endOfText
  | (ds@('0' :: _ :: _), _) => .error (.unexpected (ds.getD 1 '0'))
  | (ds, rest) => .ok (ds, rest)

/-- A number; `cs` starts with a digit or a minus sign. -/
def readNumber (dialect : Dialect) (cs : List Char) : Except ReadError (Json × List Char) := do
  let (negative, unsigned) := match cs with
    | '-' :: rest => (true, rest)
    | _ => (false, cs)
  let (whole, afterWhole) ← readWhole unsigned
  let (fraction, afterFraction) ← match afterWhole with
    | '.' :: rest => readFraction rest
    | _ => pure ([], afterWhole)
  let (exponent, rest) ← match afterFraction with
    | 'e' :: rest | 'E' :: rest => (fun r => (some r.1, r.2)) <$> readExponent rest
    | _ => pure (none, afterFraction)
  let source := String.ofList (cs.take (cs.length - rest.length))
  let value ← NumberText.resolve ⟨negative, whole, fraction, exponent, source⟩ dialect
  pure (value, rest)

/-! ## Texts -/

def hexValue? (c : Char) : Option Nat :=
  if '0' ≤ c ∧ c ≤ '9' then some (c.toNat - 48)
  else if 'a' ≤ c ∧ c ≤ 'f' then some (c.toNat - 87)
  else if 'A' ≤ c ∧ c ≤ 'F' then some (c.toNat - 55)
  else none

/-- Four hexadecimal digits. -/
def readHex4 : List Char → Except ReadError (Nat × List Char)
  | a :: b :: c :: d :: rest =>
    match hexValue? a, hexValue? b, hexValue? c, hexValue? d with
    | some a, some b, some c, some d => .ok (((a * 16 + b) * 16 + c) * 16 + d, rest)
    | _, _, _, _ => .error .badEscape
  | _ => .error .endOfText

def isLeadingSurrogate (n : Nat) : Bool := 0xD800 ≤ n && n ≤ 0xDBFF

def isTrailingSurrogate (n : Nat) : Bool := 0xDC00 ≤ n && n ≤ 0xDFFF

/-- The character of a code escape: one code, or in the first dialect a surrogate pair. -/
def readCode (dialect : Dialect) (cs : List Char) : Except ReadError (Char × List Char) := do
  let (first, rest) ← readHex4 cs
  if isTrailingSurrogate first then .error .loneSurrogate
  else if isLeadingSurrogate first then
    match dialect, rest with
    | .json, '\\' :: 'u' :: rest =>
      let (second, rest) ← readHex4 rest
      if isTrailingSurrogate second then
        pure (Char.ofNat (0x10000 + (first - 0xD800) * 0x400 + (second - 0xDC00)), rest)
      else .error .loneSurrogate
    | _, _ => .error .loneSurrogate
  else pure (Char.ofNat first, rest)

/-- The character of an escape, after its backslash. -/
def readEscape (dialect : Dialect) : List Char → Except ReadError (Char × List Char)
  | '"' :: rest => .ok ('"', rest)
  | '\\' :: rest => .ok ('\\', rest)
  | '/' :: rest => .ok ('/', rest)
  | 'b' :: rest => .ok ('\x08', rest)
  | 'f' :: rest => .ok ('\x0c', rest)
  | 'n' :: rest => .ok ('\n', rest)
  | 'r' :: rest => .ok ('\r', rest)
  | 't' :: rest => .ok ('\t', rest)
  | 'u' :: rest => readCode dialect rest
  | [] => .error .endOfText
  | _ :: _ => .error .badEscape

/-- A text up to its closing quote; `done` holds what was read, last character first. -/
def readText (dialect : Dialect) : Nat → List Char → List Char → Except ReadError (String × List Char)
  | 0, _, _ => .error .endOfText
  | fuel + 1, done, cs =>
    match cs with
    | [] => .error .endOfText
    | '"' :: rest => .ok (String.ofList done.reverse, rest)
    | '\\' :: rest =>
      match readEscape dialect rest with
      | .ok (c, rest) => readText dialect fuel (c :: done) rest
      | .error e => .error e
    | c :: rest =>
      if c.toNat < 0x20 then .error .controlCharacter else readText dialect fuel (c :: done) rest

/-- A text with its opening quote. -/
def readQuoted (dialect : Dialect) (cs : List Char) : Except ReadError (String × List Char) :=
  match cs with
  | '"' :: rest => readText dialect (rest.length + 1) [] rest
  | [] => .error .endOfText
  | c :: _ => .error (.unexpected c)

/-! ## Values -/

/-- The word `word` standing for `value`. -/
def readWord (word : String) (value : Json) (cs : List Char) :
    Except ReadError (Json × List Char) :=
  let letters := word.toList
  if cs.take letters.length = letters then .ok (value, cs.drop letters.length)
  else match cs.dropWhile letters.contains with
    | [] => .error .endOfText
    | c :: _ => .error (.unexpected c)

mutual

/-- A value, with the blanks before it. -/
def readValue (dialect : Dialect) : Nat → Nat → List Char → Except ReadError (Json × List Char)
  | 0, _, _ => .error .endOfText
  | fuel + 1, depth, cs =>
    match skipBlanks cs with
    | [] => .error .endOfText
    | '[' :: rest =>
      match depth with
      | 0 => .error .tooDeep
      | depth + 1 =>
        match skipBlanks rest with
        | ']' :: rest => .ok (.array [], rest)
        | rest => do
          let (items, rest) ← readItems dialect fuel depth rest
          pure (.array items, rest)
    | '\x7b' :: rest =>
      match depth with
      | 0 => .error .tooDeep
      | depth + 1 =>
        match skipBlanks rest with
        | '\x7d' :: rest => .ok (.object [], rest)
        | rest => do
          let (entries, rest) ← readEntries dialect fuel depth rest
          pure (.object entries, rest)
    | '"' :: rest => do
      let (s, rest) ← readText dialect (rest.length + 1) [] rest
      pure (.text s, rest)
    | 't' :: rest => readWord "rue" (.bool true) rest
    | 'f' :: rest => readWord "alse" (.bool false) rest
    | 'n' :: rest => readWord "ull" .null rest
    | c :: rest =>
      if c.isDigit || c == '-' then readNumber dialect (c :: rest) else .error (.unexpected c)

/-- The items of an array that is not empty, up to its closing bracket. -/
def readItems (dialect : Dialect) : Nat → Nat → List Char → Except ReadError (List Json × List Char)
  | 0, _, _ => .error .endOfText
  | fuel + 1, depth, cs => do
    let (item, rest) ← readValue dialect fuel depth cs
    match skipBlanks rest with
    | ',' :: rest =>
      let (items, rest) ← readItems dialect fuel depth rest
      pure (item :: items, rest)
    | ']' :: rest => pure ([item], rest)
    | [] => .error .endOfText
    | c :: _ => .error (.unexpected c)

/-- The entries of an object that is not empty, up to its closing brace. -/
def readEntries (dialect : Dialect) :
    Nat → Nat → List Char → Except ReadError (List (String × Json) × List Char)
  | 0, _, _ => .error .endOfText
  | fuel + 1, depth, cs => do
    let (key, rest) ← readQuoted dialect (skipBlanks cs)
    match skipBlanks rest with
    | ':' :: rest =>
      let (value, rest) ← readValue dialect fuel depth rest
      match skipBlanks rest with
      | ',' :: rest =>
        let (entries, rest) ← readEntries dialect fuel depth rest
        pure ((key, value) :: entries, rest)
      | '\x7d' :: rest => pure ([(key, value)], rest)
      | [] => .error .endOfText
      | c :: _ => .error (.unexpected c)
    | [] => .error .endOfText
    | c :: _ => .error (.unexpected c)

end

/-- The one value of a text, nested at most `depth` deep. -/
def readWithin (depth : Nat) (dialect : Dialect) (text : String) : Except ReadError Json := do
  let cs := text.toList
  let (value, rest) ← readValue dialect (2 * cs.length + 2) depth cs
  match skipBlanks rest with
  | [] => pure value
  | c :: _ => .error (.trailing c)

/-- The one value of a text, keys as they are written. -/
def read (dialect : Dialect) (text : String) : Except ReadError Json :=
  readWithin dialect.depthLimit dialect text

/-- The one value of a text, repeated keys settled. -/
def readSettled (dialect : Dialect) (text : String) : Except ReadError Json :=
  settled <$> read dialect text

/-! ## Texts of several documents -/

/-- Whether a line parts two documents: three dashes, with blanks after them. -/
def isSeparator (line : List Char) : Bool :=
  line.take 3 = ['-', '-', '-'] && (line.drop 3).all isBlank

/-- The stretches of lines between separators; `current` holds the lines of the stretch so far, last
line first. -/
def stretches (current : List String) : List String → List String
  | [] => ["\n".intercalate current.reverse]
  | line :: rest =>
    if isSeparator line.toList then "\n".intercalate current.reverse :: stretches [] rest
    else stretches (line :: current) rest

/-- The documents of a text in the second dialect. A separator may stand before the first one; a text
of blanks has none. -/
def documents (text : String) : List String :=
  match stretches [] (text.splitOn "\n") with
  | [] => []
  | first :: rest => if first.toList.all isBlank then rest else first :: rest

/-- The text of the one document in a text. -/
def soleDocument (dialect : Dialect) (text : String) : Except ReadError String :=
  match dialect, documents text with
  | .json, _ => .ok text
  | .yaml, [document] => .ok document
  | .yaml, documents => .error (.documentCount documents.length)

end Destructure.Json
