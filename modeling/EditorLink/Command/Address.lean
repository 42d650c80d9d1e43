import EditorLink.Decimal.Numeral

/-!
# EditorLink — addresses to serve at

An address is a host and a number of 16 bits, a colon between them.
-/

namespace EditorLink.Command

inductive AddressFault where
  | noNumber
  | invalidNumber
  deriving Repr, DecidableEq

def AddressFault.message : AddressFault → String
  | .noNumber => "invalid socket address"
  | .invalidNumber => "invalid port value"

/-- The host and the number of an address. -/
def address (text : String) : Except AddressFault (String × Nat) :=
  let (reversedNumber, rest) := text.toList.reverse.span (· != ':')
  match rest with
  | [] => .error .noNumber
  | _ :: reversedHost =>
    match Decimal.unsigned? UInt16.size reversedNumber.reverse with
    | some number => .ok (String.ofList reversedHost.reverse, number)
    | none => .error .invalidNumber

end EditorLink.Command
