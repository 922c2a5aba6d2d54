import VDataplane.ByteOrder
import VDataplane.Stdio

namespace VDataplane.AddressText

open ByteMemory Stdio

/-!
# Texts of IPv4 addresses

`_pkt_parse_char_ip` prints an address, and `_pkt_parse_ip` scans one.  The scan
accepts whatever four `%u` accept and masks every number, so that it undoes the
printing but accepts more than what is printed.
-/

/-- A string of C: the bytes in front of its NUL. -/
structure CString where
  bytes : List UInt8
  noNul : 0 ∉ bytes

/-- The full stop between two numbers. -/
def dot : UInt8 := 46

/-- The format of both functions, `"%u.%u.%u.%u"`. -/
def addressFormat : List Directive :=
  [.unsigned, .literal dot, .unsigned, .literal dot,
    .unsigned, .literal dot, .unsigned]

/-- The arguments that `_pkt_parse_char_ip` passes. -/
def octetsOf (ipSrc : UInt32) : List UInt32 :=
  [(ipSrc >>> 24) &&& 0xFF, (ipSrc >>> 16) &&& 0xFF,
    (ipSrc >>> 8) &&& 0xFF, ipSrc &&& 0xFF]

/-- `_pkt_parse_char_ip`: print an address into a buffer of 16 bytes. -/
def pktParseCharIp
    (ipDest : UInt64)
    (ipSrc : UInt32)
    (memory : ByteMemory) :
    ByteMemory :=
  memory.store ipDest (snprintf 16 addressFormat (octetsOf ipSrc))

/-- `RTE_IPV4`. -/
def rteIpv4 (a b c d : UInt32) : UInt32 :=
  ((a &&& 0xff) <<< 24) ||| ((b &&& 0xff) <<< 16) |||
    ((c &&& 0xff) <<< 8) ||| (d &&& 0xff)

/--
`_pkt_parse_ip`: the value returned, and what `dest` points at afterwards.
NULL is `none`.
-/
def pktParseIp
    (ipStr : Option CString)
    (dest : Option UInt32) :
    Int × Option UInt32 :=
  match ipStr, dest with
  | some ipStr, some _ =>
      match scan addressFormat ipStr.bytes with
      | [a, b, c, d] =>
          (0, some (rteIpv4 a b c d))
      | _ =>
          (-1, dest)
  | _, _ =>
      (-1, dest)

/-! ## Packing -/

theorem toNat_mask (word : UInt32) :
    (word &&& 0xff).toNat = word.toNat % 256 := by
  rw [mask_eq_toUInt8, UInt8.toNat_toUInt32, UInt32.toNat_toUInt8]

/-- Four masked bytes are put together into a word. -/
theorem rteIpv4_eq (a b c d : UInt32) :
    rteIpv4 a b c d = word32 d.toUInt8 c.toUInt8 b.toUInt8 a.toUInt8 := by
  rw [rteIpv4, mask_eq_toUInt8, mask_eq_toUInt8, mask_eq_toUInt8,
    mask_eq_toUInt8, or_shiftLeft_eq_word32]

theorem toNat_rteIpv4 (a b c d : UInt32) :
    (rteIpv4 a b c d).toNat =
      a.toNat % 256 * 2 ^ 24 + b.toNat % 256 * 2 ^ 16 +
        c.toNat % 256 * 2 ^ 8 + d.toNat % 256 := by
  rw [rteIpv4_eq, toNat_word32]
  simp only [UInt32.toNat_toUInt8]
  omega

/-- The octets of an address are packed into the address. -/
theorem rteIpv4_octetsOf (ip : UInt32) :
    rteIpv4 ((ip >>> 24) &&& 0xFF) ((ip >>> 16) &&& 0xFF)
        ((ip >>> 8) &&& 0xFF) (ip &&& 0xFF) =
      ip := by
  have ipLt := ip.toNat_lt
  apply UInt32.toNat_inj.mp
  simp only [toNat_rteIpv4, toNat_mask, UInt32.toNat_shiftRight,
    UInt32.reduceToNat, Nat.reduceMod, Nat.shiftRight_eq_div_pow]
  omega

/-! ## Printing -/

/-- The text of an address. -/
def addressText (ip : UInt32) : List UInt8 :=
  print addressFormat (octetsOf ip)

/-- A string stands at an address, with its NUL. -/
def StringAt
    (memory : ByteMemory)
    (address : UInt64)
    (string : CString) :
    Prop :=
  memory.window address (string.bytes.length + 1) = string.bytes ++ [0]

theorem lt_of_mem_octetsOf
    {ip octet : UInt32}
    (member : octet ∈ octetsOf ip) :
    octet.toNat < 256 := by
  simp only [octetsOf, List.mem_cons, List.not_mem_nil, or_false] at member
  rcases member with rfl | rfl | rfl | rfl <;>
    rw [toNat_mask] <;>
    exact Nat.mod_lt _ (by decide)

/-- Four numbers of at most three digits and three dots have at most 15 characters. -/
theorem length_addressText (ip : UInt32) :
    (addressText ip).length ≤ 15 := by
  have octetLength :
      ∀ octet ∈ octetsOf ip, (printUnsigned octet.toNat).length ≤ 3 :=
    fun octet member =>
      length_printUnsigned_le
        ((lt_of_mem_octetsOf member).trans (by decide))
  simp only [octetsOf, List.forall_mem_cons] at octetLength
  obtain ⟨first, second, third, fourth, -⟩ := octetLength
  simp only [addressText, addressFormat, octetsOf, print,
    List.length_append, List.length_cons, List.length_nil]
  omega

/-- A printed address contains no NUL. -/
theorem noNul_addressText (ip : UInt32) :
    0 ∉ addressText ip := by
  have noNul :
      ∀ value, 0 ∉ printUnsigned value :=
    fun value member =>
      absurd (isDigit_of_mem_printUnsigned 0 member) (by decide)
  have dotNe : (0 : UInt8) ≠ dot := by
    decide
  simp [addressText, addressFormat, octetsOf, print, noNul, dotNe]

/-- The buffer holds the whole text. -/
theorem snprintf_addressFormat (ip : UInt32) :
    snprintf 16 addressFormat (octetsOf ip) = addressText ip ++ [0] := by
  have fits := length_addressText ip
  rw [addressText] at fits ⊢
  rw [snprintf, if_neg (by decide), List.take_of_length_le fits]

/-- The format can be scanned again. -/
theorem addressFormat_separated :
    Separated addressFormat := by
  have dotNotDigit : ¬ isDigit dot := by
    decide
  simp [addressFormat, Separated, dotNotDigit]

/-- A printed address is parsed as that address. -/
theorem pktParseIp_of_addressText
    {string : CString}
    {ip : UInt32}
    (isText : string.bytes = addressText ip)
    (dest : UInt32) :
    pktParseIp (some string) (some dest) = (0, some ip) := by
  have scanned : scan addressFormat string.bytes = octetsOf ip := by
    rw [isText]
    exact scan_print addressFormat_separated rfl
  rw [octetsOf] at scanned
  simp only [pktParseIp, scanned, rteIpv4_octetsOf]

/-- Printing an address into a buffer leaves a string that is parsed as the address. -/
structure PrintedAndParsed
    (ipDest : UInt64)
    (ip : UInt32)
    (before after : ByteMemory) :
    Prop where
  withinBuffer :
    ∀ address,
      16 ≤ (address - ipDest).toNat →
      after address = before address
  parsed :
    ∃ string,
      StringAt after ipDest string ∧
        string.bytes.length < 16 ∧
        string.bytes = addressText ip ∧
        ∀ dest, pktParseIp (some string) (some dest) = (0, some ip)

/-- Parsing undoes printing, for every address and every buffer. -/
theorem parsing_undoes_printing
    (ipDest : UInt64)
    (ip : UInt32)
    (memory : ByteMemory) :
    PrintedAndParsed ipDest ip memory (pktParseCharIp ipDest ip memory) := by
  have fits := length_addressText ip
  have length : (addressText ip ++ [0]).length = (addressText ip).length + 1 :=
    List.length_append
  constructor
  · intro address outside
    rw [pktParseCharIp, snprintf_addressFormat]
    apply store_outside
    omega
  · refine ⟨⟨addressText ip, noNul_addressText ip⟩, ?_, ?_, rfl,
      pktParseIp_of_addressText rfl⟩
    · rw [StringAt, pktParseCharIp, snprintf_addressFormat, ← length]
      exact window_store (by omega)
    · exact Nat.lt_succ_of_le fits

/-! ## What is accepted -/

/-- A decimal number between 0 and 255. -/
structure OctetText where
  digits : List UInt8
  someDigit : digits ≠ []
  areDigits : ∀ byte ∈ digits, isDigit byte
  bounded : digitsValue digits ≤ 255

/-- Four numbers, separated by dots. -/
structure DottedQuad where
  first : OctetText
  second : OctetText
  third : OctetText
  fourth : OctetText

namespace DottedQuad

/-- The text of a dotted quad. -/
def text (quad : DottedQuad) : List UInt8 :=
  quad.first.digits ++ dot :: (quad.second.digits ++ dot ::
    (quad.third.digits ++ dot :: quad.fourth.digits))

/-- The octets that a dotted quad denotes. -/
def octets (quad : DottedQuad) : List Nat :=
  [digitsValue quad.first.digits, digitsValue quad.second.digits,
    digitsValue quad.third.digits, digitsValue quad.fourth.digits]

/-- The address that a dotted quad denotes, in host order. -/
def address (quad : DottedQuad) : UInt32 :=
  UInt32.ofNat
    (digitsValue quad.first.digits * 2 ^ 24 +
      digitsValue quad.second.digits * 2 ^ 16 +
      digitsValue quad.third.digits * 2 ^ 8 +
      digitsValue quad.fourth.digits)

end DottedQuad

/-- The parser accepts a string exactly if it is a dotted quad, and then gets it right. -/
structure ParsedExactly (string : CString) : Prop where
  accepted :
    ∀ quad : DottedQuad,
      string.bytes = quad.text →
      ∀ dest,
        pktParseIp (some string) (some dest) = (0, some quad.address)
  rejected :
    (∀ quad : DottedQuad, string.bytes ≠ quad.text) →
    ∀ dest, pktParseIp (some string) (some dest) = (-1, some dest)
  distinguished :
    ∀ (other : CString) (quad otherQuad : DottedQuad) (dest : UInt32),
      string.bytes = quad.text →
      other.bytes = otherQuad.text →
      pktParseIp (some string) (some dest) =
        pktParseIp (some other) (some dest) →
      quad.octets = otherQuad.octets

/--
Four numerals, separated by dots: each may follow white space and have a sign
and any number of digits, and any text that does not start with a digit may
follow the last one.
-/
def FourNumerals (input : List UInt8) : Prop :=
  ∃ (first second third fourth : Numeral) (rest : List UInt8),
    EndsNumber rest ∧
      input =
        first.text ++ dot :: (second.text ++ dot ::
          (third.text ++ dot :: (fourth.text ++ rest)))

theorem endsNumber_dot (rest : List UInt8) :
    EndsNumber (dot :: rest) := by
  intro byte isHead
  obtain rfl : dot = byte := by
    simpa using isHead
  decide

/-- A number that is followed by a dot and further numbers. -/
theorem scan_unsigned_dot_iff
    {format : List Directive}
    {input : List UInt8}
    {value next : UInt32}
    {values : List UInt32} :
    scan (.unsigned :: .literal dot :: format) input =
        value :: next :: values ↔
      ∃ (numeral : Numeral) (rest : List UInt8),
        input = numeral.text ++ dot :: rest ∧
          value = numeral.value ∧
          scan format rest = next :: values := by
  rw [scan_unsigned_eq_cons_iff]
  constructor
  · rintro ⟨numeral, behind, isInput, -, isValue, scanned⟩
    obtain ⟨rest, rfl, restScanned⟩ := scan_literal_eq_cons_iff.mp scanned
    exact ⟨numeral, rest, isInput, isValue, restScanned⟩
  · rintro ⟨numeral, rest, isInput, isValue, restScanned⟩
    exact ⟨numeral, dot :: rest, isInput, endsNumber_dot rest, isValue,
      scan_literal_eq_cons_iff.mpr ⟨rest, rfl, restScanned⟩⟩

/-- Four numbers are stored exactly for four numerals. -/
theorem scan_addressFormat_iff
    {input : List UInt8}
    {a b c d : UInt32} :
    scan addressFormat input = [a, b, c, d] ↔
      ∃ (first second third fourth : Numeral) (rest : List UInt8),
        EndsNumber rest ∧
          input =
            first.text ++ dot :: (second.text ++ dot ::
              (third.text ++ dot :: (fourth.text ++ rest))) ∧
          a = first.value ∧ b = second.value ∧ c = third.value ∧
          d = fourth.value := by
  constructor
  · intro scanned
    obtain ⟨first, _, rfl, isA, scanned⟩ := scan_unsigned_dot_iff.mp scanned
    obtain ⟨second, _, rfl, isB, scanned⟩ := scan_unsigned_dot_iff.mp scanned
    obtain ⟨third, _, rfl, isC, scanned⟩ := scan_unsigned_dot_iff.mp scanned
    obtain ⟨fourth, rest, rfl, ends, isD, -⟩ :=
      scan_unsigned_eq_cons_iff.mp scanned
    exact ⟨first, second, third, fourth, rest, ends, rfl, isA, isB, isC, isD⟩
  · rintro ⟨first, second, third, fourth, rest, ends, rfl, rfl, rfl, rfl, rfl⟩
    have lastScanned :
        scan [.unsigned] (fourth.text ++ rest) = [fourth.value] :=
      scan_unsigned_eq_cons_iff.mpr ⟨fourth, rest, rfl, ends, rfl, rfl⟩
    have thirdScanned :=
      scan_unsigned_dot_iff.mpr ⟨third, _, rfl, rfl, lastScanned⟩
    have secondScanned :=
      scan_unsigned_dot_iff.mpr ⟨second, _, rfl, rfl, thirdScanned⟩
    exact scan_unsigned_dot_iff.mpr ⟨first, _, rfl, rfl, secondScanned⟩

/-- What the parser returns for four numerals. -/
theorem pktParseIp_of_scan
    {string : CString}
    {a b c d : UInt32}
    (scanned : scan addressFormat string.bytes = [a, b, c, d])
    (dest : UInt32) :
    pktParseIp (some string) (some dest) = (0, some (rteIpv4 a b c d)) := by
  simp only [pktParseIp, scanned]

/-- The parser refuses every string that is not scanned as four numerals. -/
theorem pktParseIp_of_not_fourNumerals
    {string : CString}
    (notNumerals : ¬ FourNumerals string.bytes)
    (dest : UInt32) :
    pktParseIp (some string) (some dest) = (-1, some dest) := by
  simp only [pktParseIp]
  split
  · rename_i a b c d scanned
    obtain ⟨first, second, third, fourth, rest, ends, isInput, -⟩ :=
      scan_addressFormat_iff.mp scanned
    exact absurd ⟨first, second, third, fourth, rest, ends, isInput⟩
      notNumerals
  · rfl

/-- The parser accepts every string that is scanned as four numerals. -/
theorem pktParseIp_of_fourNumerals
    {string : CString}
    (numerals : FourNumerals string.bytes)
    (dest : UInt32) :
    (pktParseIp (some string) (some dest)).1 = 0 := by
  obtain ⟨first, second, third, fourth, rest, ends, isInput⟩ := numerals
  have scanned :=
    scan_addressFormat_iff.mpr
      ⟨first, second, third, fourth, rest, ends, isInput, rfl, rfl, rfl, rfl⟩
  rw [pktParseIp_of_scan scanned]

/-! ## Dotted quads -/

namespace OctetText

/-- An octet as a numeral. -/
def numeral (octet : OctetText) : Numeral :=
  .ofDigits octet.digits octet.someDigit octet.areDigits

theorem toNat_value_numeral (octet : OctetText) :
    octet.numeral.value.toNat = digitsValue octet.digits := by
  have bounded := octet.bounded
  have fits : digitsValue octet.digits < 2 ^ 32 := by
    omega
  have isValue :
      octet.numeral.value = UInt32.ofNat (digitsValue octet.digits) :=
    convert_absent fits
  rw [isValue, UInt32.toNat_ofNat']
  omega

end OctetText

/-- A dotted quad is scanned as its four numbers. -/
theorem scan_quad (quad : DottedQuad) :
    scan addressFormat quad.text =
      [quad.first.numeral.value, quad.second.numeral.value,
        quad.third.numeral.value, quad.fourth.numeral.value] := by
  have isText :
      quad.text =
        quad.first.numeral.text ++ dot :: (quad.second.numeral.text ++
          dot :: (quad.third.numeral.text ++
            dot :: (quad.fourth.numeral.text ++ []))) := by
    simp [DottedQuad.text, OctetText.numeral]
  have noRest : EndsNumber [] := by
    intro byte isHead
    exact absurd isHead.symm (Option.some_ne_none byte)
  exact scan_addressFormat_iff.mpr
    ⟨_, _, _, _, [], noRest, isText, rfl, rfl, rfl, rfl⟩

theorem toNat_address (quad : DottedQuad) :
    quad.address.toNat =
      digitsValue quad.first.digits * 2 ^ 24 +
        digitsValue quad.second.digits * 2 ^ 16 +
        digitsValue quad.third.digits * 2 ^ 8 +
        digitsValue quad.fourth.digits := by
  have firstBounded := quad.first.bounded
  have secondBounded := quad.second.bounded
  have thirdBounded := quad.third.bounded
  have fourthBounded := quad.fourth.bounded
  rw [DottedQuad.address, UInt32.toNat_ofNat']
  omega

/-- The numbers of a dotted quad are packed into its address. -/
theorem rteIpv4_quad (quad : DottedQuad) :
    rteIpv4 quad.first.numeral.value quad.second.numeral.value
        quad.third.numeral.value quad.fourth.numeral.value =
      quad.address := by
  have firstBounded := quad.first.bounded
  have secondBounded := quad.second.bounded
  have thirdBounded := quad.third.bounded
  have fourthBounded := quad.fourth.bounded
  apply UInt32.toNat_inj.mp
  rw [toNat_rteIpv4, toNat_address, OctetText.toNat_value_numeral,
    OctetText.toNat_value_numeral, OctetText.toNat_value_numeral,
    OctetText.toNat_value_numeral]
  omega

/-- A dotted quad is parsed as its address. -/
theorem pktParseIp_of_quad
    {string : CString}
    {quad : DottedQuad}
    (isText : string.bytes = quad.text)
    (dest : UInt32) :
    pktParseIp (some string) (some dest) = (0, some quad.address) := by
  have scanned := scan_quad quad
  rw [← isText] at scanned
  rw [pktParseIp_of_scan scanned, rteIpv4_quad]

/-- The address of a dotted quad determines its octets. -/
theorem octets_eq_of_address_eq
    {quad other : DottedQuad}
    (sameAddress : quad.address = other.address) :
    quad.octets = other.octets := by
  have sameNumber := congrArg UInt32.toNat sameAddress
  rw [toNat_address, toNat_address] at sameNumber
  have secondBounded := quad.second.bounded
  have thirdBounded := quad.third.bounded
  have fourthBounded := quad.fourth.bounded
  have otherSecondBounded := other.second.bounded
  have otherThirdBounded := other.third.bounded
  have otherFourthBounded := other.fourth.bounded
  simp only [DottedQuad.octets, List.cons.injEq, and_true]
  omega

/--
The parser is exact on a string exactly if the string, in case it consists of
four numerals and a rest, is a dotted quad.
-/
theorem parsedExactly_iff (string : CString) :
    ParsedExactly string ↔
      (FourNumerals string.bytes →
        ∃ quad : DottedQuad, string.bytes = quad.text) := by
  constructor
  · intro exact numerals
    by_contra notQuad
    have refused :=
      exact.rejected (fun quad isText => notQuad ⟨quad, isText⟩) 0
    have accepted := pktParseIp_of_fourNumerals numerals 0
    rw [refused] at accepted
    exact absurd accepted (by decide)
  · intro onlyQuads
    constructor
    · intro quad isText dest
      exact pktParseIp_of_quad isText dest
    · intro notQuad dest
      apply pktParseIp_of_not_fourNumerals
      intro numerals
      obtain ⟨quad, isText⟩ := onlyQuads numerals
      exact notQuad quad isText
    · intro other quad otherQuad dest isText otherIsText sameResult
      rw [pktParseIp_of_quad isText, pktParseIp_of_quad otherIsText]
        at sameResult
      exact octets_eq_of_address_eq
        (Option.some_inj.mp (congrArg Prod.snd sameResult))

theorem noNul_blankInFront :
    (0 : UInt8) ∉ [32, 49, 46, 50, 46, 51, 46, 52] := by
  decide

/-- The string `" 1.2.3.4"`. -/
def blankInFront : CString where
  bytes :=
    [32, 49, 46, 50, 46, 51, 46, 52]
  noNul :=
    noNul_blankInFront

/-- It is no dotted quad, but is accepted. -/
theorem not_parsedExactly_blankInFront :
    ¬ ParsedExactly blankInFront := by
  intro parsedExactly
  have notQuad :
      ∀ quad : DottedQuad, blankInFront.bytes ≠ quad.text := by
    intro quad isText
    obtain ⟨digit, others, isCons⟩ :=
      List.exists_cons_of_ne_nil quad.first.someDigit
    have isDigitHead := quad.first.areDigits digit (by simp [isCons])
    obtain rfl : 32 = digit := by
      simpa [blankInFront, DottedQuad.text, isCons] using
        congrArg List.head? isText
    exact absurd isDigitHead (by decide)
  have refused := parsedExactly.rejected notQuad 0
  exact absurd refused (by decide)

end VDataplane.AddressText
