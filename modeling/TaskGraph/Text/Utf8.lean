/-
Module: TaskGraph.Text.Utf8
Purpose: Reading bytes as UTF-8 text, with the place and the kind of a fault, and
  writing text as bytes.
Main exports:
  Utf8.Fault, Utf8.decode, Utf8.decodePortions, Utf8.encode, Utf8.unencodable?
-/
import TaskGraph.Text.Quoted

namespace TaskGraph.Utf8

/-- What is wrong with bytes that are not UTF-8. -/
inductive Problem where
  | startByte
  | continuationByte
  | endOfData
deriving DecidableEq, Repr, Inhabited

/-- The wording of a problem. -/
def Problem.message : Problem → String
  | .startByte => "invalid start byte"
  | .continuationByte => "invalid continuation byte"
  | .endOfData => "unexpected end of data"

/-- A run of bytes that is not text: the bytes and the position of the first. -/
structure Fault where
  what : Problem
  position : Nat
  bytes : List UInt8
deriving DecidableEq, Repr, Inhabited

/-- What a message says about bytes that are not text. -/
def Fault.message (fault : Fault) : String :=
  let place :=
    match fault.bytes with
    | [b] =>
      s!"byte 0x{String.ofList (Text.hexDigits 2 b.toNat)} in position {fault.position}"
    | bytes => s!"bytes in position {fault.position}-{fault.position + bytes.length - 1}"
  s!"'utf-8' codec can't decode {place}: {fault.what.message}"

/-- How the bytes at some place go on: a character that takes up `size` bytes, the
start of a character whose end is missing, or a fault of `size` bytes. -/
inductive Piece where
  | char (c : Char) (size : Nat)
  | incomplete
  | fault (what : Problem) (size : Nat)
deriving DecidableEq, Repr, Inhabited

/-- A byte that can only follow another one. -/
def isContinuation (b : UInt8) : Bool :=
  0x80 ≤ b && b ≤ 0xbf

/-- The second byte of a character is in range: no character has two spellings,
none is a half of a code point, and none lies beyond the last code point. -/
def secondFits (first second : UInt8) : Bool :=
  isContinuation second &&
    !(first == 0xe0 && second < 0xa0) && !(first == 0xed && 0xa0 ≤ second) &&
    !(first == 0xf0 && second < 0x90) && !(first == 0xf4 && 0x90 ≤ second)

/-- The character whose bits are spread over a lead byte and continuation bytes. -/
def assemble (lead : Nat) (rest : List UInt8) : Char :=
  Char.ofNat (rest.foldl (fun n b => n * 64 + (b.toNat - 0x80)) lead)

/-- The character, or its part, that starts with the byte `first`. -/
def piece (first : UInt8) (rest : List UInt8) : Piece :=
  let n := first.toNat
  if n < 0x80 then .char (Char.ofNat n) 1
  else if n < 0xc2 ∨ 0xf4 < n then .fault .startByte 1
  else
    match rest with
    | [] => .incomplete
    | b :: rest =>
      if !secondFits first b then .fault .continuationByte 1
      else if n < 0xe0 then .char (assemble (n - 0xc0) [b]) 2
      else
        match rest with
        | [] => .incomplete
        | c :: rest =>
          if !isContinuation c then .fault .continuationByte 2
          else if n < 0xf0 then .char (assemble (n - 0xe0) [b, c]) 3
          else
            match rest with
            | [] => .incomplete
            | d :: _ =>
              if !isContinuation d then .fault .continuationByte 3
              else .char (assemble (n - 0xf0) [b, c, d]) 4

/-- Read bytes as text.  `position` counts the bytes read, `taken` those still to
be passed over as parts of a character already read, and `found` holds the
characters in reverse.  A part of a character at the end is returned for what may
follow. -/
def decodeFrom (position taken : Nat) (found : List Char) :
    List UInt8 → Except Fault (List Char × List UInt8)
  | [] => .ok (found.reverse, [])
  | b :: rest =>
    if taken ≠ 0 then decodeFrom (position + 1) (taken - 1) found rest
    else
      match piece b rest with
      | .char c size => decodeFrom (position + 1) (size - 1) (c :: found) rest
      | .incomplete => .ok (found.reverse, b :: rest)
      | .fault what size => .error ⟨what, position, (b :: rest).take size⟩

/-- Read all bytes as one text. -/
def decode (bytes : List UInt8) : Except Fault (List Char) :=
  match decodeFrom 0 0 [] bytes with
  | .error fault => .error fault
  | .ok (cs, []) => .ok cs
  | .ok (_, rest) => .error ⟨.endOfData, bytes.length - rest.length, rest⟩

/-- Read bytes portion by portion.  `pending` are the bytes of an unfinished
character before the portion; positions count from there, and a character that
never ends is found when nothing more comes.  The recursion takes a portion of
`size + 1` bytes at every step, so the number of bytes is fuel enough. -/
def decodeInPortions (size : Nat) : Nat → List UInt8 → List UInt8 → Except Fault (List Char)
  | _, pending, [] =>
    if pending.isEmpty then .ok [] else .error ⟨.endOfData, 0, pending⟩
  | 0, _, _ :: _ => .ok []
  | fuel + 1, pending, b :: rest =>
    match decodeFrom 0 0 [] (pending ++ b :: rest.take size) with
    | .error fault => .error fault
    | .ok (cs, pending) => (decodeInPortions size fuel pending (rest.drop size)).map (cs ++ ·)

/-- Read all bytes, in portions of eight thousand one hundred and ninety-two. -/
def decodePortions (bytes : List UInt8) : Except Fault (List Char) :=
  decodeInPortions 8191 bytes.length [] bytes

/-- The bytes of a string. -/
def encode (text : String) : List UInt8 :=
  text.toUTF8.toList

/-! ### Halves of characters

A half of a character has no bytes in UTF-8.  In the names of files one hundred and
twenty-eight of the second halves stand for single bytes that are no text. -/

/-- Symbols that have no bytes: the first of them, by its number, and the positions of the
first and of the last one after each other. -/
structure Unencodable where
  code : Nat
  first : Nat
  last : Nat
deriving DecidableEq, Repr, Inhabited

/-- What a message says about symbols that have no bytes. -/
def Unencodable.message (fault : Unencodable) : Text :=
  let place :=
    if fault.first = fault.last then
      s!"character '\\u{String.ofList (Text.hexDigits 4 fault.code)}' in position {fault.first}"
    else s!"characters in position {fault.first}-{fault.last}"
  s!"'utf-8' codec can't encode {place}: surrogates not allowed"

/-- Half of a character. -/
def isHalf : Symbol → Bool
  | .char _ => false
  | .half _ => true

/-- Half of a character that does not stand for a byte. -/
def isBareHalf (c : Symbol) : Bool :=
  isHalf c && !(0xdc80 ≤ c.code && c.code ≤ 0xdcff)

/-- The first symbols without bytes, where `position` is that of the first symbol. -/
def unencodableFrom (position : Nat) : List Symbol → Option Unencodable
  | [] => none
  | c :: rest =>
    if isBareHalf c then
      some ⟨c.code, position, position + (rest.takeWhile isHalf).length⟩
    else unencodableFrom (position + 1) rest

/-- The first symbols of the name of a file that have no bytes. -/
def unencodable? (name : Text) : Option Unencodable :=
  unencodableFrom 0 name.toList

/-- The number of bytes of a symbol in the name of a file. -/
def symbolSize : Symbol → Nat
  | .char c => c.utf8Size
  | .half _ => 1

/-- The number of bytes of the name of a file. -/
def size (name : Text) : Nat :=
  name.toList.foldl (fun size s => size + symbolSize s) 0

end TaskGraph.Utf8
