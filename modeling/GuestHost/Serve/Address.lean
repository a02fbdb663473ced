import GuestHost.Text.Blank
/-!
Addresses that servers listen on.
-/
namespace GuestHost.Serve

/-- A bare service number, with or without a colon, stands for that number on every interface. -/
def normalizeAddress (address : String) : String :=
  let cs := Text.trimChars address.toList
  if !cs.isEmpty && cs.all Char.isDigit then "0.0.0.0:" ++ String.ofList cs
  else
    match cs with
    | ':' :: service => "0.0.0.0:" ++ String.ofList service
    | _ => String.ofList cs

/-- Why nothing can listen on an address. -/
inductive BindError where
  | noService (address : String)
  | badService (address : String)
  deriving DecidableEq, Repr

def BindError.message : BindError → String
  | noService address => "failed to bind " ++ address ++ ": invalid socket address"
  | badService address => "failed to bind " ++ address ++ ": invalid port value"

/-- The service number behind the last colon, digits with perhaps a plus sign before them. -/
def serviceNumber? (address : String) : Except BindError Nat :=
  let tail := address.toList.reverse.takeWhile (· != ':')
  if tail.length = address.length then .error (.noService address)
  else
    let digits := match tail.reverse with
      | '+' :: cs => cs
      | cs => cs
    match Text.readDigits? digits with
    | some n => if n < UInt16.size then .ok n else .error (.badService address)
    | none => .error (.badService address)

end GuestHost.Serve
