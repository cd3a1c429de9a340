import DocTemplate.Display.Rounded

/-!
# Amounts of money

Brazilian reais: two decimals behind a comma, thousands separated by points, the sign in front of
the currency.  An amount that rounds to zero has no sign.
-/

namespace DocTemplate.Display

def groupThousands : List Char → List Char
  | [] => []
  | [digit] => [digit]
  | digit :: next :: rest =>
      if (next :: rest).length % 3 = 0 then digit :: '.' :: groupThousands (next :: rest)
      else digit :: groupThousands (next :: rest)

def isNegativeAmount (amount : Binary64) (digits : List Char) : Bool :=
  amount.compare? (.zero false) == some .lt && digits.any fun c => c != '.' && c != '0'

def currencyChars (sign : Bool) (digits : List Char) : List Char :=
  let whole := digits.takeWhile (· != '.')
  let cents := (digits.dropWhile (· != '.')).drop 1
  (if sign then ['-'] else []) ++ ['R', '$', ' '] ++ groupThousands whole ++ ',' :: cents

def currency? (amount : Binary64) : Option String :=
  (rounded? amount.abs 2).map fun digits =>
    String.ofList (currencyChars (isNegativeAmount amount digits) digits)

end DocTemplate.Display
