/-!
# Magnetic stripe cards

Track 2 of a card reads `;`, the account number, `=`, four digits of expiry, three of service code,
further digits, and `?`. The account number is shown with its middle masked.
-/

namespace TellerTerminal

structure Card where
  number : String
  serviceCode : String
  track2 : String
  deriving DecidableEq, Repr

inductive Track2Error
  | missingStartSentinel
  | missingEndSentinel
  | separator
  | invalidPan
  | invalidTail
  deriving DecidableEq, Repr

def Track2Error.message : Track2Error → String
  | missingStartSentinel => "track 2 must start with ';'"
  | missingEndSentinel => "track 2 must end with '?'"
  | separator => "track 2 must contain exactly one '=' separator"
  | invalidPan => "primary account number must be a non-empty digit string"
  | invalidTail => "expiry and service code must follow the separator as digits"

namespace Card

/-- The account number and the digits after the separator, from the text between the sentinels. -/
def splitBody (body : List Char) : Except Track2Error (List Char × List Char) :=
  match body.splitOn '=' with
  | [pan, tail] =>
      if pan.isEmpty || !pan.all Char.isDigit then
        .error .invalidPan
      else if tail.length < 7 || !tail.all Char.isDigit then
        .error .invalidTail
      else
        .ok (pan, tail)
  | _ => .error .separator

def ofTrack2 (track : String) : Except Track2Error Card :=
  match track.toList with
  | ';' :: inner =>
      if inner.getLast? = some '?' then
        (splitBody inner.dropLast).map fun (pan, tail) =>
          { number := String.ofList pan
            serviceCode := String.ofList ((tail.drop 4).take 3)
            track2 := track }
      else
        .error .missingEndSentinel
  | _ => .error .missingStartSentinel

/-- Stars for all characters but those that start in the first six or the last four of `size`
bytes, where the first character starts at byte `offset`. -/
def starsFrom (size offset : Nat) : List Char → List Char
  | [] => []
  | c :: rest =>
      (if offset < 6 ∨ size - 4 ≤ offset then c else '*') ::
        starsFrom size (offset + c.utf8Size) rest

/-- The account number as it may be shown: at most ten bytes become stars altogether, of a longer
one the first six and the last four bytes stay. -/
def maskedNumber (card : Card) : String :=
  let size := card.number.utf8ByteSize
  if size ≤ 10 then
    String.ofList (List.replicate size '*')
  else
    String.ofList (starsFrom size 0 card.number.toList)

end Card

end TellerTerminal
