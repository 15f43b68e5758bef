import Mathlib.Data.List.Basic

/-!
# JSON texts

The grammar of JSON in two machines: one splits a text into tokens and decodes its
strings, the other builds the value from the tokens.  A string is the sequence of its
code points; a surrogate that has no partner stands for itself.
-/

namespace Text.Json

/-- The value of a text.  A number is kept as it is written, an object with its
members in their order. -/
inductive Value where
  | null
  | bool (value : Bool)
  | number (lexeme : List Char)
  | string (points : List Nat)
  | array (items : List Value)
  | object (members : List (List Nat × Value))
  deriving Repr

/-- The tokens of a JSON text. -/
inductive Token where
  | openObject
  | closeObject
  | openArray
  | closeArray
  | colon
  | comma
  | null
  | bool (value : Bool)
  | number (lexeme : List Char)
  | string (points : List Nat)
  deriving Repr, DecidableEq

/-! ## Strings -/

/-- The code points of a string so far, with a high surrogate that may find its
partner. -/
structure Points where
  done : List Nat
  high : Option Nat
  deriving Repr, DecidableEq

/-- The first half of a surrogate pair. -/
def isHigh (unit : Nat) : Bool :=
  0xD800 ≤ unit && unit < 0xDC00

/-- The second half of a surrogate pair. -/
def isLow (unit : Nat) : Bool :=
  0xDC00 ≤ unit && unit < 0xE000

/-- The code point of a surrogate pair. -/
def combine (high low : Nat) : Nat :=
  0x10000 + (high - 0xD800) * 0x400 + (low - 0xDC00)

namespace Points

/-- No points yet. -/
def empty : Points :=
  ⟨[], none⟩

/-- All code points. -/
def close (points : Points) : List Nat :=
  points.done ++ points.high.toList

/-- A character that stands for itself. -/
def literal (points : Points) (point : Nat) : Points :=
  ⟨points.close ++ [point], none⟩

/-- The code unit of a `\u` escape. -/
def unit (points : Points) (unit : Nat) : Points :=
  match points.high with
  | some high =>
      if isLow unit then ⟨points.done ++ [combine high unit], none⟩
      else if isHigh unit then ⟨points.done ++ [high], some unit⟩
      else ⟨points.done ++ [high, unit], none⟩
  | none =>
      if isHigh unit then ⟨points.done, some unit⟩
      else ⟨points.done ++ [unit], none⟩

/-- Outside the surrogates an escape is as good as the character. -/
theorem unit_eq_literal {point : Nat} (points : Points) (low : isLow point = false)
    (high : isHigh point = false) : points.unit point = points.literal point := by
  cases pending : points.high <;> simp [Points.unit, literal, close, pending, low, high]

/-- A surrogate pair is as good as its character, whatever stands before it. -/
theorem unit_unit_eq_literal {high low : Nat} (points : Points) (isHigh_high : isHigh high = true)
    (isLow_low : isLow low = true) :
    (points.unit high).unit low = points.literal (combine high low) := by
  have notLow : isLow high = false := by
    simp only [isHigh, isLow, Bool.and_eq_true, Bool.and_eq_false_iff, decide_eq_true_eq,
      decide_eq_false_iff_not] at isHigh_high ⊢
    omega
  cases pending : points.high <;>
    simp [Points.unit, literal, close, pending, notLow, isHigh_high, isLow_low]

end Points

/-! ## Tokens -/

/-- Where the reader of a string stands. -/
inductive Mode where
  | plain
  | escape
  | unicode (read : Nat) (value : Nat)
  deriving Repr, DecidableEq

/-- Where the lexer stands. -/
inductive State where
  | between
  | scalar (lexeme : List Char)
  | inString (points : Points) (mode : Mode)
  deriving Repr, DecidableEq

/-- The tokens read so far, and where the lexer stands. -/
structure Lexer where
  tokens : List Token
  state : State
  deriving Repr, DecidableEq

/-- The white space of JSON. -/
def isSpace (char : Char) : Bool :=
  char ∈ [' ', '\t', '\n', '\r']

/-- The token of a single character. -/
def punctuation? (char : Char) : Option Token :=
  [('\x7b', Token.openObject), ('\x7d', .closeObject), ('[', .openArray), (']', .closeArray),
    (':', .colon), (',', .comma)].lookup char

/-- A decimal digit. -/
def isDigit (char : Char) : Bool :=
  48 ≤ char.toNat && char.toNat ≤ 57

/-- The characters of numbers and of the three names. -/
def isScalar (char : Char) : Bool :=
  isDigit char || (97 ≤ char.toNat && char.toNat ≤ 122) || char ∈ ['E', '+', '-', '.']

/-- `exp` or nothing. -/
def isExponent : List Char → Bool
  | [] => true
  | mark :: rest =>
      mark ∈ ['e', 'E'] &&
        match rest with
        | '+' :: digits | '-' :: digits => digits ≠ [] && digits.all isDigit
        | digits => digits ≠ [] && digits.all isDigit

/-- `[ frac ] [ exp ]`. -/
def isFraction : List Char → Bool
  | '.' :: rest => rest.takeWhile isDigit ≠ [] && isExponent (rest.dropWhile isDigit)
  | rest => isExponent rest

/-- `int [ frac ] [ exp ]`. -/
def isUnsigned : List Char → Bool
  | '0' :: rest => isFraction rest
  | first :: rest => isDigit first && isFraction (rest.dropWhile isDigit)
  | [] => false

/-- The lexeme is a JSON number. -/
def isNumber : List Char → Bool
  | '-' :: rest => isUnsigned rest
  | lexeme => isUnsigned lexeme

/-- The token of a lexeme outside strings. -/
def scalar? (lexeme : List Char) : Option Token :=
  if lexeme = "null".toList then some .null
  else if lexeme = "true".toList then some (.bool true)
  else if lexeme = "false".toList then some (.bool false)
  else if isNumber lexeme then some (.number lexeme)
  else none

/-- The escapes of one letter. -/
def escaped? (char : Char) : Option Nat :=
  [('"', 0x22), ('\\', 0x5C), ('/', 0x2F), ('b', 0x08), ('f', 0x0C), ('n', 0x0A), ('r', 0x0D),
    ('t', 0x09)].lookup char

/-- The value of a hexadecimal digit in either case. -/
def hexDigit? (char : Char) : Option Nat :=
  if isDigit char then some (char.toNat - 48)
  else if 97 ≤ char.toNat && char.toNat ≤ 102 then some (char.toNat - 87)
  else if 65 ≤ char.toNat && char.toNat ≤ 70 then some (char.toNat - 55)
  else none

/-- A character outside strings. -/
def stepBetween (tokens : List Token) (char : Char) : Option Lexer :=
  if isSpace char then some ⟨tokens, .between⟩
  else if char = '"' then some ⟨tokens, .inString .empty .plain⟩
  else if isScalar char then some ⟨tokens, .scalar [char]⟩
  else (punctuation? char).map fun token => ⟨tokens ++ [token], .between⟩

/-- A character inside a string. -/
def stepString (tokens : List Token) (points : Points) : Mode → Char → Option Lexer
  | .plain, char =>
      if char = '"' then some ⟨tokens ++ [.string points.close], .between⟩
      else if char = '\\' then some ⟨tokens, .inString points .escape⟩
      else if char.toNat < 0x20 then none
      else some ⟨tokens, .inString (points.literal char.toNat) .plain⟩
  | .escape, char =>
      if char = 'u' then some ⟨tokens, .inString points (.unicode 0 0)⟩
      else (escaped? char).map fun point => ⟨tokens, .inString (points.literal point) .plain⟩
  | .unicode read value, char =>
      (hexDigit? char).map fun digit =>
        if read = 3 then ⟨tokens, .inString (points.unit (value * 16 + digit)) .plain⟩
        else ⟨tokens, .inString points (.unicode (read + 1) (value * 16 + digit))⟩

/-- One character. -/
def step (lexer : Lexer) (char : Char) : Option Lexer :=
  match lexer.state with
  | .between => stepBetween lexer.tokens char
  | .scalar lexeme =>
      if isScalar char then
        some ⟨lexer.tokens, .scalar (lexeme ++ [char])⟩
      else
        (scalar? lexeme).bind fun token => stepBetween (lexer.tokens ++ [token]) char
  | .inString points mode => stepString lexer.tokens points mode char

/-- The end of the text. -/
def finish (lexer : Lexer) : Option (List Token) :=
  match lexer.state with
  | .between => some lexer.tokens
  | .scalar lexeme => (scalar? lexeme).map fun token => lexer.tokens ++ [token]
  | .inString _ _ => none

/-- The tokens of a whole text. -/
def tokens (text : List Char) : Option (List Token) :=
  (text.foldlM step ⟨[], .between⟩).bind finish

/-! ## Values -/

/-- A value that is being built around another one. -/
inductive Frame where
  | array (items : List Value)
  | object (members : List (List Nat × Value)) (key : List Nat)

/-- What comes next; an array or object that has just been opened may be closed. -/
inductive Builder where
  | value (stack : List Frame) (opened : Bool)
  | item (items : List Value) (stack : List Frame)
  | key (members : List (List Nat × Value)) (stack : List Frame) (opened : Bool)
  | colon (members : List (List Nat × Value)) (key : List Nat) (stack : List Frame)
  | member (members : List (List Nat × Value)) (stack : List Frame)
  | done (value : Value)

/-- A value is complete. -/
def complete (value : Value) : List Frame → Builder
  | [] => .done value
  | .array items :: stack => .item (items ++ [value]) stack
  | .object members key :: stack => .member (members ++ [(key, value)]) stack

/-- One token. -/
def build : Builder → Token → Option Builder
  | .value stack _, .null => some (complete .null stack)
  | .value stack _, .bool value => some (complete (.bool value) stack)
  | .value stack _, .number lexeme => some (complete (.number lexeme) stack)
  | .value stack _, .string points => some (complete (.string points) stack)
  | .value stack _, .openArray => some (.value (.array [] :: stack) true)
  | .value (.array items :: stack) true, .closeArray => some (complete (.array items) stack)
  | .value stack _, .openObject => some (.key [] stack true)
  | .item items stack, .comma => some (.value (.array items :: stack) false)
  | .item items stack, .closeArray => some (complete (.array items) stack)
  | .key members stack _, .string key => some (.colon members key stack)
  | .key members stack true, .closeObject => some (complete (.object members) stack)
  | .colon members key stack, .colon => some (.value (.object members key :: stack) false)
  | .member members stack, .comma => some (.key members stack false)
  | .member members stack, .closeObject => some (complete (.object members) stack)
  | _, _ => none

/-- The value that is complete. -/
def valueOf : Builder → Option Value
  | .done value => some value
  | _ => none

/-- The value of a text, if it is JSON. -/
def parse (text : List Char) : Option Value := do
  let tokens ← tokens text
  let builder ← tokens.foldlM build (.value [] false)
  valueOf builder

/-! ## Characters beyond ASCII -/

section Wide

variable {char : Char}

theorem ne_of_wide {other : Char} (wide : 128 ≤ char.toNat) (ascii : other.toNat < 128) :
    char ≠ other := by
  rintro rfl
  omega

theorem range_wide {low high : Nat} (wide : 128 ≤ char.toNat) (ascii : high < 128) :
    (decide (low ≤ char.toNat) && decide (char.toNat ≤ high)) = false := by
  simp only [Bool.and_eq_false_iff, decide_eq_false_iff_not]
  omega

theorem isDigit_wide (wide : 128 ≤ char.toNat) : isDigit char = false :=
  range_wide wide (by decide)

theorem isScalar_wide (wide : 128 ≤ char.toNat) : isScalar char = false := by
  simp [isScalar, isDigit_wide wide, range_wide wide, ne_of_wide wide]

theorem hexDigit?_wide (wide : 128 ≤ char.toNat) : hexDigit? char = none := by
  simp [hexDigit?, isDigit_wide wide, range_wide wide]

theorem stepBetween_wide (tokens : List Token) (wide : 128 ≤ char.toNat) :
    stepBetween tokens char = none := by
  have space : isSpace char = false := by simp [isSpace, ne_of_wide wide]
  have mark : punctuation? char = none := by
    simp [punctuation?, List.lookup_eq_none_iff, ne_of_wide wide]
  simp [stepBetween, space, isScalar_wide wide, mark, ne_of_wide wide]

/-- They stand in strings only, and never after a backslash. -/
theorem step_wide {lexer next : Lexer} (wide : 128 ≤ char.toNat)
    (steps : step lexer char = some next) :
    ∃ points, lexer.state = .inString points .plain ∧
      next = ⟨lexer.tokens, .inString (points.literal char.toNat) .plain⟩ := by
  obtain ⟨tokens, state⟩ := lexer
  cases state with
  | between =>
      rw [step, stepBetween_wide tokens wide] at steps
      cases steps
  | scalar lexeme =>
      simp [step, isScalar_wide wide, stepBetween_wide _ wide] at steps
  | inString points mode =>
      cases mode with
      | plain =>
          have quote : char ≠ '"' := ne_of_wide wide (by decide)
          have backslash : char ≠ '\\' := ne_of_wide wide (by decide)
          have printable : ¬char.toNat < 0x20 := by omega
          simp only [step, stepString, if_neg quote, if_neg backslash, if_neg printable] at steps
          exact ⟨points, rfl, (Option.some.inj steps).symm⟩
      | escape =>
          have letter : escaped? char = none := by
            simp [escaped?, List.lookup_eq_none_iff, ne_of_wide wide]
          simp [step, stepString, letter, ne_of_wide wide] at steps
      | unicode read value => simp [step, stepString, hexDigit?_wide wide] at steps

end Wide

/-- A `\u` escape in a string. -/
theorem foldlM_unicode (tokens : List Token) (points : Points) {first second third fourth : Char}
    {a b c d : Nat} (isFirst : hexDigit? first = some a) (isSecond : hexDigit? second = some b)
    (isThird : hexDigit? third = some c) (isFourth : hexDigit? fourth = some d) :
    ['\\', 'u', first, second, third, fourth].foldlM step ⟨tokens, .inString points .plain⟩ =
      some ⟨tokens, .inString (points.unit (((a * 16 + b) * 16 + c) * 16 + d)) .plain⟩ := by
  simp [step, stepString, isFirst, isSecond, isThird, isFourth]

end Text.Json
