import Mathlib

namespace VDataplane.Stdio

/-!
# Formatted output and input

The directives `%u` and literal characters of `snprintf` and `sscanf`, on lists
of bytes.  A scan of `%u` skips white space, accepts a sign and takes as many
digits as there are, the way `strtoul` does; the number is truncated to 32 bits.
What is printed is scanned again as long as every number ends where its digits
end.
-/

/-- A directive of a format string. -/
inductive Directive where
  | unsigned
  | literal (byte : UInt8)
  deriving Repr, DecidableEq

/-- `isspace` in the C locale. -/
def isSpace (byte : UInt8) : Bool :=
  byte = 32 ∨ (9 ≤ byte ∧ byte ≤ 13)

/-- `isdigit`. -/
def isDigit (byte : UInt8) : Bool :=
  48 ≤ byte ∧ byte ≤ 57

/-- The number that digits denote. -/
def digitsValue (digits : List UInt8) : Nat :=
  digits.foldl (fun value digit => 10 * value + (digit.toNat - 48)) 0

/-! ## Output -/

/-- The digits of a number. -/
def printUnsigned (value : Nat) : List UInt8 :=
  (Nat.toDigits 10 value).map Char.toUInt8

/-- The text that a format produces; an argument that is missing produces nothing. -/
def print : List Directive → List UInt32 → List UInt8
  | [], _ =>
      []
  | .unsigned :: format, value :: values =>
      printUnsigned value.toNat ++ print format values
  | .unsigned :: format, [] =>
      print format []
  | .literal byte :: format, values =>
      byte :: print format values

/-- `snprintf`: what is stored, a text of at most `size - 1` bytes and a NUL. -/
def snprintf
    (size : Nat)
    (format : List Directive)
    (values : List UInt32) :
    List UInt8 :=
  if size = 0 then
    []
  else
    (print format values).take (size - 1) ++ [0]

/-! ## Input -/

/-- A sign in front of a number. -/
inductive Sign where
  | absent
  | plus
  | minus
  deriving Repr, DecidableEq

/-- The text of a sign. -/
def Sign.text : Sign → List UInt8
  | absent =>
      []
  | plus =>
      [43]
  | minus =>
      [45]

/-- Split a sign off. -/
def takeSign : List UInt8 → Sign × List UInt8
  | [] =>
      (.absent, [])
  | byte :: rest =>
      if byte = 43 then
        (.plus, rest)
      else if byte = 45 then
        (.minus, rest)
      else
        (.absent, byte :: rest)

/-- `strtoul`, truncated to an `unsigned int`: too large a number saturates first. -/
def convert
    (sign : Sign)
    (value : Nat) :
    UInt32 :=
  if 2 ^ 64 ≤ value then
    UInt32.ofNat (2 ^ 64 - 1)
  else if sign = .minus then
    UInt32.ofNat (2 ^ 64 - value)
  else
    UInt32.ofNat value

/-- One `%u`: the number and the rest of the input, if there is a number. -/
def scanUnsigned (input : List UInt8) : Option (UInt32 × List UInt8) :=
  let (sign, input) := takeSign (input.dropWhile isSpace)
  let digits := input.takeWhile isDigit
  if digits = [] then
    none
  else
    some (convert sign (digitsValue digits), input.dropWhile isDigit)

/--
`sscanf`: the numbers that are stored, up to the first directive that does not
match.  Their number is the returned one, or else EOF is returned for none.
-/
def scan : List Directive → List UInt8 → List UInt32
  | [], _ =>
      []
  | .unsigned :: format, input =>
      match scanUnsigned input with
      | none =>
          []
      | some (value, input) =>
          value :: scan format input
  | .literal byte :: format, input =>
      match input with
      | [] =>
          []
      | head :: input =>
          if head = byte then
            scan format input
          else
            []

/-! ## Digits -/

theorem not_isSpace_of_isDigit
    {byte : UInt8}
    (digit : isDigit byte) :
    ¬ isSpace byte := by
  simp only [isDigit, isSpace, decide_eq_true_eq, UInt8.le_iff_toNat_le,
    ← UInt8.toNat_inj, UInt8.reduceToNat] at digit ⊢
  omega

theorem digitsValue_concat
    (digits : List UInt8)
    (last : UInt8) :
    digitsValue (digits ++ [last]) =
      10 * digitsValue digits + (last.toNat - 48) := by
  simp [digitsValue]

/-- The byte of a digit. -/
theorem toNat_digitChar
    {digit : Nat}
    (isDecimal : digit < 10) :
    (Nat.digitChar digit).toUInt8.toNat = 48 + digit := by
  interval_cases digit <;> rfl

theorem isDigit_digitChar
    {digit : Nat}
    (isDecimal : digit < 10) :
    isDigit (Nat.digitChar digit).toUInt8 := by
  interval_cases digit <;> rfl

/-- A number of one digit is printed as that digit. -/
theorem printUnsigned_of_lt
    {value : Nat}
    (isSmall : value < 10) :
    printUnsigned value = [(Nat.digitChar value).toUInt8] := by
  rw [printUnsigned, Nat.toDigits_of_lt_base isSmall]
  rfl

/-- A larger number is printed up to its last digit, and then that one. -/
theorem printUnsigned_of_ge
    {value : Nat}
    (isLarge : 10 ≤ value) :
    printUnsigned value =
      printUnsigned (value / 10) ++
        [(Nat.digitChar (value % 10)).toUInt8] := by
  rw [printUnsigned, Nat.toDigits_of_base_le (by decide) isLarge,
    List.map_append]
  rfl

theorem printUnsigned_ne_nil (value : Nat) :
    printUnsigned value ≠ [] := by
  simp [printUnsigned, Nat.toDigits_ne_nil]

/-- A printed number consists of digits. -/
theorem isDigit_of_mem_printUnsigned
    {value : Nat} :
    ∀ byte ∈ printUnsigned value, isDigit byte := by
  induction value using Nat.strong_induction_on with
  | _ value inductionHypothesis =>
      intro byte member
      have lastDigit : value % 10 < 10 :=
        Nat.mod_lt _ (by decide)
      by_cases isSmall : value < 10
      · rw [printUnsigned_of_lt isSmall] at member
        rw [List.mem_singleton.mp member]
        exact isDigit_digitChar isSmall
      · rw [printUnsigned_of_ge (by omega)] at member
        rcases List.mem_append.mp member with isFront | isLast
        · exact inductionHypothesis (value / 10) (by omega) byte isFront
        · rw [List.mem_singleton.mp isLast]
          exact isDigit_digitChar lastDigit

/-- A printed number denotes what was printed. -/
theorem digitsValue_printUnsigned (value : Nat) :
    digitsValue (printUnsigned value) = value := by
  induction value using Nat.strong_induction_on with
  | _ value inductionHypothesis =>
      have lastDigit : value % 10 < 10 :=
        Nat.mod_lt _ (by decide)
      by_cases isSmall : value < 10
      · have isByte := toNat_digitChar isSmall
        rw [printUnsigned_of_lt isSmall, digitsValue, List.foldl_cons,
          List.foldl_nil, isByte]
        omega
      · have front := inductionHypothesis (value / 10) (by omega)
        have isByte := toNat_digitChar lastDigit
        rw [printUnsigned_of_ge (by omega), digitsValue_concat, front,
          isByte]
        omega

/-- A number below 1000 has at most three digits. -/
theorem length_printUnsigned_le
    {value : Nat}
    (isSmall : value < 1000) :
    (printUnsigned value).length ≤ 3 := by
  rw [printUnsigned, List.length_map]
  exact (Nat.length_toDigits_le_iff (by decide) (by decide)).mpr isSmall

/-! ## Numerals -/

/-- Input that does not go on with a digit. -/
def EndsNumber (input : List UInt8) : Prop :=
  ∀ byte, input.head? = some byte → ¬ isDigit byte

/-- What one `%u` accepts. -/
structure Numeral where
  blanks : List UInt8
  sign : Sign
  digits : List UInt8
  areBlanks : ∀ byte ∈ blanks, isSpace byte
  someDigit : digits ≠ []
  areDigits : ∀ byte ∈ digits, isDigit byte

namespace Numeral

/-- The bytes of a numeral. -/
def text (numeral : Numeral) : List UInt8 :=
  numeral.blanks ++ (numeral.sign.text ++ numeral.digits)

/-- What a numeral is converted to. -/
def value (numeral : Numeral) : UInt32 :=
  convert numeral.sign (digitsValue numeral.digits)

/-- A numeral that is nothing but digits. -/
def ofDigits
    (digits : List UInt8)
    (someDigit : digits ≠ [])
    (areDigits : ∀ byte ∈ digits, isDigit byte) :
    Numeral where
  blanks :=
    []
  sign :=
    .absent
  digits :=
    digits
  areBlanks _ member :=
    absurd member List.not_mem_nil
  someDigit :=
    someDigit
  areDigits :=
    areDigits

end Numeral

/-- A text splits where the bytes with a property end. -/
theorem span_append
    {property : UInt8 → Bool}
    {front rest : List UInt8}
    (inFront : ∀ byte ∈ front, property byte)
    (stops : ∀ byte, rest.head? = some byte → ¬ property byte) :
    (front ++ rest).takeWhile property = front ∧
      (front ++ rest).dropWhile property = rest := by
  have restStops :
      rest.takeWhile property = [] ∧ rest.dropWhile property = rest := by
    cases rest with
    | nil =>
        exact ⟨rfl, rfl⟩
    | cons byte behind =>
        have isOther := stops byte rfl
        simp [isOther]
  rw [List.takeWhile_append_of_pos inFront,
    List.dropWhile_append_of_pos inFront, restStops.1, restStops.2]
  simp

/-- A sign in front of a digit is split off. -/
theorem takeSign_append
    (sign : Sign)
    {digits : List UInt8}
    (startsWithDigit :
      ∀ byte, digits.head? = some byte → isDigit byte) :
    takeSign (sign.text ++ digits) = (sign, digits) := by
  cases sign with
  | absent =>
      cases digits with
      | nil =>
          rfl
      | cons byte rest =>
          have isDigitByte := startsWithDigit byte rfl
          have notPlus : byte ≠ 43 := by
            rintro rfl
            exact absurd isDigitByte (by decide)
          have notMinus : byte ≠ 45 := by
            rintro rfl
            exact absurd isDigitByte (by decide)
          simp [Sign.text, takeSign, notPlus, notMinus]
  | plus =>
      rfl
  | minus =>
      rfl

/-- What is split off is the sign. -/
theorem text_takeSign (input : List UInt8) :
    (takeSign input).1.text ++ (takeSign input).2 = input := by
  cases input with
  | nil =>
      rfl
  | cons byte rest =>
      rw [takeSign]
      split_ifs with isPlus isMinus
      · simp [Sign.text, isPlus]
      · simp [Sign.text, isMinus]
      · rfl

/-- The digits of a numeral start with a digit, whatever follows them. -/
theorem Numeral.startsWithDigit
    (numeral : Numeral)
    (rest : List UInt8) :
    ∀ byte, (numeral.digits ++ rest).head? = some byte → isDigit byte := by
  intro byte isHead
  obtain ⟨first, others, isCons⟩ :=
    List.exists_cons_of_ne_nil numeral.someDigit
  have isFirst : first = byte := by
    simpa [isCons] using isHead
  rw [← isFirst]
  exact numeral.areDigits first (by simp [isCons])

/-- White space ends where the sign or the first digit of a numeral stands. -/
theorem Numeral.not_startsWithSpace
    (numeral : Numeral)
    (rest : List UInt8) :
    ∀ byte,
      (numeral.sign.text ++ (numeral.digits ++ rest)).head? = some byte →
      ¬ isSpace byte := by
  intro byte isHead
  cases isSign : numeral.sign with
  | absent =>
      rw [isSign] at isHead
      exact not_isSpace_of_isDigit
        (numeral.startsWithDigit rest byte isHead)
  | plus =>
      obtain rfl : 43 = byte := by
        simpa [isSign, Sign.text] using isHead
      decide
  | minus =>
      obtain rfl : 45 = byte := by
        simpa [isSign, Sign.text] using isHead
      decide

/-- A numeral is scanned up to its last digit. -/
theorem scanUnsigned_text
    (numeral : Numeral)
    {rest : List UInt8}
    (ends : EndsNumber rest) :
    scanUnsigned (numeral.text ++ rest) = some (numeral.value, rest) := by
  have behindBlanks :
      (numeral.text ++ rest).dropWhile isSpace =
        numeral.sign.text ++ (numeral.digits ++ rest) := by
    rw [Numeral.text, List.append_assoc, List.append_assoc]
    exact (span_append numeral.areBlanks
      (numeral.not_startsWithSpace rest)).2
  have behindSign :=
    takeSign_append numeral.sign (numeral.startsWithDigit rest)
  have split := span_append numeral.areDigits ends
  simp only [scanUnsigned, behindBlanks, behindSign, split.1, split.2,
    if_neg numeral.someDigit, Numeral.value]

/-- What is scanned starts with a numeral. -/
theorem exists_numeral_of_scanUnsigned
    {input rest : List UInt8}
    {value : UInt32}
    (scanned : scanUnsigned input = some (value, rest)) :
    ∃ numeral : Numeral,
      input = numeral.text ++ rest ∧
        value = numeral.value ∧
        EndsNumber rest := by
  have splitSign := text_takeSign (input.dropWhile isSpace)
  simp only [scanUnsigned] at scanned
  generalize takeSign (input.dropWhile isSpace) = signed at scanned splitSign
  obtain ⟨sign, behindSign⟩ := signed
  split_ifs at scanned with noDigit
  · obtain ⟨rfl, rfl⟩ := Prod.mk.inj (Option.some_inj.mp scanned)
    refine ⟨{
      blanks := input.takeWhile isSpace
      sign := sign
      digits := behindSign.takeWhile isDigit
      areBlanks := fun _ member => List.mem_takeWhile_imp member
      someDigit := noDigit
      areDigits := fun _ member => List.mem_takeWhile_imp member
    }, ?_, rfl, ?_⟩
    · rw [Numeral.text, List.append_assoc, List.append_assoc,
        List.takeWhile_append_dropWhile, splitSign,
        List.takeWhile_append_dropWhile]
    · intro byte isHead
      have stops := List.head?_dropWhile_not isDigit behindSign
      rw [isHead] at stops
      simpa using stops

/-! ## Formats -/

/-- A format whose first directive is a number, if one is stored. -/
theorem scan_unsigned_eq_cons_iff
    {format : List Directive}
    {input : List UInt8}
    {value : UInt32}
    {values : List UInt32} :
    scan (.unsigned :: format) input = value :: values ↔
      ∃ (numeral : Numeral) (rest : List UInt8),
        input = numeral.text ++ rest ∧
          EndsNumber rest ∧
          value = numeral.value ∧
          scan format rest = values := by
  rw [scan]
  cases scanned : scanUnsigned input with
  | none =>
      constructor
      · intro noValue
        exact absurd noValue (List.cons_ne_nil _ _).symm
      · rintro ⟨numeral, rest, rfl, ends, -, -⟩
        rw [scanUnsigned_text numeral ends] at scanned
        exact absurd scanned (Option.some_ne_none _)
  | some result =>
      obtain ⟨first, rest⟩ := result
      constructor
      · intro sameValues
        obtain ⟨rfl, rfl⟩ := List.cons.inj sameValues
        obtain ⟨numeral, isText, isValue, ends⟩ :=
          exists_numeral_of_scanUnsigned scanned
        exact ⟨numeral, rest, isText, ends, isValue, rfl⟩
      · rintro ⟨numeral, behind, rfl, ends, rfl, rfl⟩
        rw [scanUnsigned_text numeral ends] at scanned
        obtain ⟨rfl, rfl⟩ := Prod.mk.inj (Option.some_inj.mp scanned)
        rfl

/-- A format whose first directive is a literal, if something is stored. -/
theorem scan_literal_eq_cons_iff
    {format : List Directive}
    {byte : UInt8}
    {input : List UInt8}
    {value : UInt32}
    {values : List UInt32} :
    scan (.literal byte :: format) input = value :: values ↔
      ∃ rest,
        input = byte :: rest ∧ scan format rest = value :: values := by
  cases input with
  | nil =>
      simp [scan]
  | cons head rest =>
      by_cases isByte : head = byte
      · simp [scan, isByte]
      · simp [scan, isByte]

/-- Every `%u` of a format is followed by its end or by a literal that is no digit. -/
def Separated : List Directive → Prop
  | [] =>
      True
  | .literal _ :: format =>
      Separated format
  | .unsigned :: format =>
      (∀ next, format.head? = some next →
        ∃ byte, next = .literal byte ∧ ¬ isDigit byte) ∧
      Separated format

/-- The numeral that a number is printed as. -/
def Numeral.printed (value : UInt32) : Numeral :=
  .ofDigits (printUnsigned value.toNat) (printUnsigned_ne_nil _)
    isDigit_of_mem_printUnsigned

@[simp] theorem Numeral.text_ofDigits
    {digits : List UInt8}
    (someDigit : digits ≠ [])
    (areDigits : ∀ byte ∈ digits, isDigit byte) :
    (Numeral.ofDigits digits someDigit areDigits).text = digits :=
  rfl

/-- A number that fits is converted to itself. -/
theorem convert_absent
    {value : Nat}
    (fits : value < 2 ^ 32) :
    convert .absent value = UInt32.ofNat value := by
  have notSaturated : ¬ 2 ^ 64 ≤ value := by
    omega
  rw [convert, if_neg notSaturated, if_neg (by decide)]

theorem Numeral.value_printed (value : UInt32) :
    (Numeral.printed value).value = value := by
  have isValue :
      (Numeral.printed value).value = convert .absent value.toNat :=
    congrArg (convert .absent) (digitsValue_printUnsigned value.toNat)
  rw [isValue, convert_absent value.toNat_lt, UInt32.ofNat_toNat]

/-- What follows a number in a separated format does not go on with a digit. -/
theorem endsNumber_print
    {format : List Directive}
    (values : List UInt32)
    (follows :
      ∀ next, format.head? = some next →
        ∃ byte, next = .literal byte ∧ ¬ isDigit byte) :
    EndsNumber (print format values) := by
  intro byte isHead
  cases format with
  | nil =>
      exact absurd isHead.symm (Option.some_ne_none byte)
  | cons next rest =>
      obtain ⟨literal, rfl, notDigit⟩ := follows next rfl
      obtain rfl : literal = byte := by
        simpa [print] using isHead
      exact notDigit

/-- What is printed with a separated format is scanned again. -/
theorem scan_print
    {format : List Directive}
    {values : List UInt32}
    (separated : Separated format)
    (enough : values.length = format.count .unsigned) :
    scan format (print format values) = values := by
  induction format generalizing values with
  | nil =>
      rw [List.length_eq_zero_iff.mp enough]
      rfl
  | cons directive rest inductionHypothesis =>
      cases directive with
      | unsigned =>
          cases values with
          | nil =>
              simp at enough
          | cons value others =>
              have othersEnough :
                  others.length = rest.count .unsigned := by
                simpa using enough
              exact scan_unsigned_eq_cons_iff.mpr
                ⟨.printed value, print rest others, rfl,
                  endsNumber_print others separated.1,
                  (Numeral.value_printed value).symm,
                  inductionHypothesis separated.2 othersEnough⟩
      | literal byte =>
          have restEnough : values.length = rest.count .unsigned := by
            simpa using enough
          simpa [print, scan] using
            inductionHypothesis separated restEnough

end VDataplane.Stdio
