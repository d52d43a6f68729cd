namespace Mooring.Text

/-- Why a text is not an integer of the wanted type. -/
inductive IntegerError where
  | empty
  | invalidDigit
  | tooLarge
  | tooSmall
  deriving DecidableEq

def IntegerError.message : IntegerError → String
  | .empty => "cannot parse integer from empty string"
  | .invalidDigit => "invalid digit found in string"
  | .tooLarge => "number too large to fit in target type"
  | .tooSmall => "number too small to fit in target type"

/-- Reads digits left to right into `acc`; `bound` is the largest magnitude allowed and `tooBig`
the error for passing it. -/
def readDigits (bound : Nat) (tooBig : IntegerError) (acc : Nat) :
    List Char → Except IntegerError Nat
  | [] => .ok acc
  | c :: rest =>
    if c.isDigit then
      let next := acc * 10 + (c.toNat - '0'.toNat)
      if next > bound then .error tooBig else readDigits bound tooBig next rest
    else .error .invalidDigit

/-- An unsigned integer below `2 ^ bits`. -/
def parseUnsigned (bits : Nat) (s : String) : Except IntegerError Nat :=
  match s.toList with
  | [] => .error .empty
  | ['+'] | ['-'] => .error .invalidDigit
  | '+' :: rest => readDigits (Nat.pow 2 bits - 1) .tooLarge 0 rest
  | cs => readDigits (Nat.pow 2 bits - 1) .tooLarge 0 cs

/-- A signed integer in `-2 ^ (bits - 1) ..= 2 ^ (bits - 1) - 1`. -/
def parseSigned (bits : Nat) (s : String) : Except IntegerError Int :=
  match s.toList with
  | [] => .error .empty
  | ['+'] | ['-'] => .error .invalidDigit
  | '+' :: rest => (readDigits (Nat.pow 2 (bits - 1) - 1) .tooLarge 0 rest).map Int.ofNat
  | '-' :: rest => (readDigits (Nat.pow 2 (bits - 1)) .tooSmall 0 rest).map fun n => -(n : Int)
  | cs => (readDigits (Nat.pow 2 (bits - 1) - 1) .tooLarge 0 cs).map Int.ofNat

def parseU16? (s : String) : Option Nat := (parseUnsigned 16 s).toOption

end Mooring.Text
