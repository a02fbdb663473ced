import GuestHost.Json.Text
/-!
The text under which a value is printed and joined to other text. Strings stand for themselves;
containers look like JSON, except that every float has a text here.
-/
namespace GuestHost.Value

/-- A float's shortest text, or the name of a value that has no digits. -/
def floatDisplay (x : Float) : List Char :=
  (Decimal.floatText? x).getD (Decimal.nonFiniteText x)

mutual

/-- The value as part of a container, with more text behind it: undefined items show as `null`, undefined
members not at all. -/
def nestedBefore : Value → List Char → List Char
  | undefined, after => "null".toList ++ after
  | null, after => "null".toList ++ after
  | boolean b, after => Json.booleanText b ++ after
  | integer n, after => Json.integerText n.toInt ++ after
  | float x, after => floatDisplay x ++ after
  | string s, after => Json.stringText s ++ after
  | array items, after => '[' :: nestedItems true items (']' :: after)
  | object members, after => '{' :: nestedMembers true members ('}' :: after)

def nestedItems (first : Bool) : List Value → List Char → List Char
  | [], after => after
  | v :: rest, after => Json.separated first (v.nestedBefore (nestedItems false rest after))

def nestedMembers (first : Bool) : List (String × Value) → List Char → List Char
  | [], after => after
  | (k, v) :: rest, after =>
    if v.isUndefined then nestedMembers first rest after
    else
      Json.separated first
        (Json.stringText k ++ ':' :: v.nestedBefore (nestedMembers false rest after))

end

def display : Value → String
  | undefined => "undefined"
  | null => "null"
  | boolean b => if b then "true" else "false"
  | integer n => String.ofList (Json.integerText n.toInt)
  | float x => String.ofList (floatDisplay x)
  | string s => s
  | v => String.ofList (v.nestedBefore [])

end GuestHost.Value
