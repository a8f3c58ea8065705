import HouseStyle.Shell.Regex.Spelling

namespace HouseStyle.Shell.Regex

def looksLikeClass (inside : List Char) : Bool :=
  inside.length > 2 && inside.head? = some ':' && inside.getLast? = some ':' &&
    inside.any (· ≠ ':') && !inside.contains '[' && !(inside.drop 1).contains '-'

def firstBrackets : Nat → List Char → Option (List Char × List Char)
  | 0, _ | _ + 1, [] => none
  | steps + 1, '\\' :: rest => firstBrackets steps (rest.drop 1)
  | steps + 1, c :: rest =>
    if c = '[' then
      match bracketSet false rest with
      | .ok (_, after) =>
        let inside := (rest.take (rest.length - after.length)).dropLast
        some (if inside.head? = some '^' then inside.tail else inside, after)
      | .error _ => none
    else firstBrackets steps rest

def hasBareClass : Nat → List Char → Bool
  | 0, _ => false
  | steps + 1, text =>
    match firstBrackets (text.length + 1) text with
    | some (inside, rest) => looksLikeClass inside || hasBareClass steps rest
    | none => false

def bareClass : String :=
  "character class syntax is [[:space:]], not [:space:]"

end HouseStyle.Shell.Regex
