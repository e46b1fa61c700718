import War3VK.Japi.TypedTransaction
import War3VK.Lib.Decimal

/-!
# The string plane of the script interface

A request is a text `warvk:v1;command;tag:value;…` (`src/d3d9/war3/japi/war3_japi_v1.cpp`,
`ParseInt32`, `IsStrictRealSyntax`, `ParseReal`, `ParseArgument`, `ParseRequest`). What the standard
library reads as a float is a parameter.
-/

namespace War3VK.Japi

open Lib

def byte (c : Char) : UInt8 := c.toNat.toUInt8

/-- `kProtocolPrefix`. -/
def kProtocolPrefix : List UInt8 := bytes "warvk:"

/-- `kCanonicalVersion`. -/
def kCanonicalVersion : List UInt8 := bytes "v1"

/-- `kMaximumMessageBytes`. -/
def kMaximumMessageBytes : ℕ := 512

/-- `IsAsciiLetter`. -/
def isAsciiLetter (c : UInt8) : Bool :=
  (byte 'A' ≤ c && c ≤ byte 'Z') || (byte 'a' ≤ c && c ≤ byte 'z')

/-- `IsAsciiDigit`. -/
def isAsciiDigit (c : UInt8) : Bool := byte '0' ≤ c && c ≤ byte '9'

/-- `IsCommandName`. -/
def isCommandName : List UInt8 → Bool
  | [] => false
  | first :: rest =>
    isAsciiLetter first && rest.all fun c =>
      isAsciiLetter c || isAsciiDigit c || c = byte '.' || c = byte '_' || c = byte '-'

/-- A `NumberStatus`, with the number where it is `Ok`. -/
inductive Number (α : Type)
  | ok (value : α)
  | invalid
  | outOfRange
  deriving DecidableEq, Repr

/-- The loop of `ParseInt32`. -/
def parseDigits (limit : ℕ) : ℕ → List UInt8 → Number ℕ
  | value, [] => .ok value
  | value, c :: rest =>
    if !isAsciiDigit c then .invalid
    else
      let value := value * 10 + (c.toNat - (byte '0').toNat)
      if limit < value then .outOfRange else parseDigits limit value rest

/-- The end of `ParseInt32`: the sign of what was read. -/
def signed (negative : Bool) : Number ℕ → Number Int32
  | .ok value =>
    if negative then
      if value = 2147483648 then .ok Int32.minValue else .ok (-Int32.ofNat value)
    else .ok (Int32.ofNat value)
  | .invalid => .invalid
  | .outOfRange => .outOfRange

/-- `ParseInt32` after the sign. -/
def parseUnsigned (negative : Bool) (digits : List UInt8) : Number Int32 :=
  match digits with
  | [] => .invalid
  | first :: rest =>
    if first = byte '0' then
      if negative || !rest.isEmpty then .invalid else .ok 0
    else if first < byte '1' || byte '9' < first then .invalid
    else signed negative (parseDigits (if negative then 2147483648 else 2147483647) 0 digits)

/-- `ParseInt32`. -/
def parseInt32 (text : List UInt8) : Number Int32 :=
  match text with
  | [] => .invalid
  | first :: rest => if first = byte '-' then parseUnsigned true rest else parseUnsigned false text

def skipDigits (text : List UInt8) : List UInt8 := text.dropWhile isAsciiDigit

def isExponentDigits (text : List UInt8) : Bool :=
  (skipDigits text).isEmpty && !text.isEmpty

/-- `IsStrictRealSyntax` from the exponent on. -/
def isRealExponent : List UInt8 → Bool
  | [] => true
  | c :: rest =>
    if c = byte 'e' || c = byte 'E' then
      match rest with
      | [] => false
      | s :: more => if s = byte '+' || s = byte '-' then isExponentDigits more else isExponentDigits rest
    else false

/-- `IsStrictRealSyntax` from the point on. -/
def isRealFraction : List UInt8 → Bool
  | [] => true
  | c :: rest =>
    if c = byte '.' then (rest.head?.any isAsciiDigit) && isRealExponent (skipDigits rest)
    else isRealExponent (c :: rest)

/-- `IsStrictRealSyntax` after the sign. -/
def isUnsignedReal : List UInt8 → Bool
  | [] => false
  | first :: rest =>
    if !isAsciiDigit first then false
    else if first = byte '0' then
      if rest.head?.any isAsciiDigit then false else isRealFraction rest
    else isRealFraction (skipDigits rest)

/-- `IsStrictRealSyntax`. -/
def isStrictRealSyntax : List UInt8 → Bool
  | [] => false
  | first :: rest => if first = byte '-' then isUnsignedReal rest else isUnsignedReal (first :: rest)

/-- What `std::from_chars` returns: whether it read a float in range or found it out of range, how many
bytes it read, and the bits. -/
structure FromChars where
  /-- Whether `ec` is no error or `result_out_of_range`. Another error is `invalid`. -/
  status : Number UInt32
  /-- How far `ptr` is. -/
  consumed : ℕ
  deriving DecidableEq, Repr

/-- `ParseReal`. -/
def parseReal (fromChars : List UInt8 → FromChars) (text : List UInt8) : Number UInt32 :=
  if !isStrictRealSyntax text then .invalid
  else
    match (fromChars text).status with
    | .outOfRange => .outOfRange
    | .invalid => .invalid
    | .ok value =>
      if !isfinite value then .outOfRange
      else if (fromChars text).consumed = text.length then .ok value else .invalid

/-- `ParseArgument`. -/
def parseArgument (fromChars : List UInt8 → FromChars) (token : List UInt8) (output : Argument) :
    Except ErrorCode Argument :=
  match token with
  | tag :: colon :: value =>
    if colon ≠ byte ':' then .error .invalidArgumentType
    else if tag = byte 'b' then
      if value = bytes "0" then .ok { output with type := .bool, boolean := false }
      else if value = bytes "1" then .ok { output with type := .bool, boolean := true }
      else .error .invalidBoolean
    else if tag = byte 'i' then
      match parseInt32 value with
      | .ok number => .ok { output with type := .i32, integer := number }
      | .outOfRange => .error .integerOverflow
      | .invalid => .error .invalidInteger
    else if tag = byte 'd' then
      match parseInt32 value with
      | .ok number =>
        if 0 < number then .ok { output with type := .id, integer := number } else .error .invalidId
      | _ => .error .invalidId
    else if tag = byte 'r' then
      match parseReal fromChars value with
      | .ok number => .ok { output with type := .real, real := number }
      | .outOfRange => .error .realOutOfRange
      | .invalid => .error .invalidReal
    else if tag = byte 's' then .ok { output with type := .string, text := value }
    else .error .invalidArgumentType
  | _ => .error .invalidArgumentType

/-- `WireTypeCode`. -/
def wireTypeCode : WireType → Char
  | .bool => 'b'
  | .i32 => 'i'
  | .id => 'd'
  | .real => 'r'
  | .string => 's'

/-- `TypeMismatchError`. -/
def typeMismatchError (expected : Char) : ErrorCode :=
  match expected with
  | 'b' => .invalidBoolean
  | 'i' => .invalidInteger
  | 'd' => .invalidId
  | 'r' => .invalidReal
  | 's' => .invalidArgumentType
  | _ => .internalError

/-- The loop of `ParseRequest` over the arguments. -/
def parseArguments (fromChars : List UInt8 → FromChars) :
    ℕ → List (List UInt8) → List Char → List Argument → Except ErrorCode (List Argument)
  | index, token :: tokens, declared :: types, arguments =>
    match parseArgument fromChars token ((arguments[index]?).getD {}) with
    | .error error => .error error
    | .ok argument =>
      if wireTypeCode argument.type ≠ declared then .error (typeMismatchError declared)
      else parseArguments fromChars (index + 1) tokens types (arguments.set index argument)
  | _, _, _, arguments => .ok arguments

/-- The compatibility exception of `ParseRequest` for template names. -/
def isLegacyLocalizedTemplateName (tokens : List (List UInt8)) : Bool :=
  match tokens with
  | [version, name, s :: colon :: _ :: _] =>
    version = kCanonicalVersion && name = bytes "lightning.template.create" && s = byte 's' &&
      colon = byte ':'
  | _ => false

/-- `ParseRequest` after the tokens, for the tokens after the version. -/
def parseCommand (fromChars : List UInt8 → FromChars) (carrier : Carrier) (tokens : List (List UInt8)) :
    Except ErrorCode ParsedRequest :=
  match tokens with
  | [] => .error .missingCommand
  | name :: arguments =>
    if !isCommandName name then .error .missingCommand
    else
      match findCommandNamed name with
      | none => .error .unknownCommand
      | some spec =>
        if spec.carrier ≠ carrier then .error .carrierMismatch
        else if arguments.length ≠ spec.types.length then .error .argumentCountMismatch
        else
          match parseArguments fromChars 0 arguments spec.types (List.replicate kMaximumArgumentCount {}) with
          | .error error => .error error
          | .ok parsed => .ok { spec := some spec, arguments := parsed, argumentCount := arguments.length }

/-- `ParseRequest`. -/
def parseRequest (fromChars : List UInt8 → FromChars) (payload : List UInt8) (carrier : Carrier) :
    Except ErrorCode ParsedRequest :=
  if kMaximumMessageBytes < payload.length then .error .payloadTooLong
  else if payload.any fun c => c < 0x20 || c = 0x7f then .error .controlCharacter
  else if !kProtocolPrefix.isPrefixOf payload then .error .internalError
  else
    let body := payload.drop kProtocolPrefix.length
    if body.isEmpty then .error .missingCommand
    else
      let tokens := body.splitOn (byte ';')
      if kMaximumArgumentCount + 2 < tokens.length then .error .tooManyArguments
      else if tokens.any List.isEmpty then .error .emptyToken
      else if (payload.any fun c => 0x7f < c) && !isLegacyLocalizedTemplateName tokens then .error .nonAscii
      else
        match tokens with
        | [] => .error .missingCommand
        | version :: rest =>
          if version ≠ kCanonicalVersion then .error .unsupportedVersion
          else parseCommand fromChars carrier rest

end War3VK.Japi
