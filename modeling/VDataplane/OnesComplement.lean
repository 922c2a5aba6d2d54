import Mathlib

namespace VDataplane.OnesComplement

/-!
# One's-complement sums

The checksum of the Internet protocols is a sum of 16-bit words in which a carry
out of the high end comes around to the low end.  Such a sum is determined by
the ordinary sum modulo `2 ^ 16 - 1`, except that 0 and `2 ^ 16 - 1` stand for
the same residue.
-/

/-- Add two words; a carry comes around to the low end. -/
def add (first second : UInt16) : UInt16 :=
  UInt16.ofNat
    ((first.toNat + second.toNat) % 2 ^ 16 +
      (first.toNat + second.toNat) / 2 ^ 16)

/-- The one's-complement sum of a list of words. -/
def sum : List UInt16 → UInt16
  | [] =>
      0
  | word :: rest =>
      add word (sum rest)

/-- The ordinary sum of a list of words. -/
def total (words : List UInt16) : Nat :=
  (words.map UInt16.toNat).sum

@[simp] theorem total_nil :
    total [] = 0 :=
  rfl

@[simp] theorem total_cons
    (word : UInt16)
    (rest : List UInt16) :
    total (word :: rest) = word.toNat + total rest :=
  rfl

theorem toNat_add (first second : UInt16) :
    (add first second).toNat =
      (first.toNat + second.toNat) % 2 ^ 16 +
        (first.toNat + second.toNat) / 2 ^ 16 := by
  have firstLt := first.toNat_lt
  have secondLt := second.toNat_lt
  apply UInt16.toNat_ofNat_of_lt'
  simp only [UInt16.size]
  omega

/-- Adding is adding modulo `2 ^ 16 - 1`. -/
theorem toNat_add_mod (first second : UInt16) :
    (add first second).toNat % 65535 =
      (first.toNat + second.toNat) % 65535 := by
  rw [toNat_add]
  omega

/-- A sum is zero only if both words are. -/
theorem toNat_add_eq_zero_iff (first second : UInt16) :
    (add first second).toNat = 0 ↔
      first.toNat = 0 ∧ second.toNat = 0 := by
  rw [toNat_add]
  omega

/-- The one's-complement sum is the ordinary one modulo `2 ^ 16 - 1`. -/
theorem toNat_sum_mod (words : List UInt16) :
    (sum words).toNat % 65535 = total words % 65535 := by
  induction words with
  | nil =>
      rfl
  | cons word rest inductionHypothesis =>
      rw [sum, toNat_add_mod, total_cons, Nat.add_mod, inductionHypothesis,
        ← Nat.add_mod]

/-- The one's-complement sum is zero only if the ordinary one is. -/
theorem toNat_sum_eq_zero_iff (words : List UInt16) :
    (sum words).toNat = 0 ↔ total words = 0 := by
  induction words with
  | nil =>
      exact Iff.rfl
  | cons word rest inductionHypothesis =>
      rw [sum, toNat_add_eq_zero_iff, inductionHypothesis, total_cons,
        Nat.add_eq_zero_iff]

/-- The sum of words that contain their own checksum. -/
def Valid (words : List UInt16) : Prop :=
  sum words = 0xffff

instance (words : List UInt16) : Decidable (Valid words) :=
  inferInstanceAs (Decidable (sum words = 0xffff))

/-- Words are valid exactly if their ordinary sum is a positive multiple of `2 ^ 16 - 1`. -/
theorem valid_iff (words : List UInt16) :
    Valid words ↔ 0 < total words ∧ total words % 65535 = 0 := by
  have sumLt := (sum words).toNat_lt
  have sameResidue := toNat_sum_mod words
  have sameZero := toNat_sum_eq_zero_iff words
  rw [Valid, ← UInt16.toNat_inj]
  simp only [UInt16.reduceToNat]
  omega

/-! ## Byte order -/

/-- A word with its two bytes exchanged. -/
def swap (word : UInt16) : UInt16 :=
  UInt16.ofNat (word.toNat % 256 * 256 + word.toNat / 256)

theorem toNat_swap (word : UInt16) :
    (swap word).toNat = word.toNat % 256 * 256 + word.toNat / 256 := by
  have wordLt := word.toNat_lt
  apply UInt16.toNat_ofNat_of_lt'
  simp only [UInt16.size]
  omega

/-- Exchanging the bytes of all words multiplies their sum by `2 ^ 8`. -/
theorem total_swap_mod (words : List UInt16) :
    total (words.map swap) % 65535 = 256 * total words % 65535 := by
  induction words with
  | nil =>
      rfl
  | cons word rest inductionHypothesis =>
      have head := toNat_swap word
      rw [List.map_cons, total_cons, total_cons, head]
      omega

theorem total_swap_eq_zero_iff (words : List UInt16) :
    total (words.map swap) = 0 ↔ total words = 0 := by
  induction words with
  | nil =>
      exact Iff.rfl
  | cons word rest inductionHypothesis =>
      have head := toNat_swap word
      rw [List.map_cons, total_cons, total_cons]
      omega

/-- Whether words are valid does not depend on the order of their bytes. -/
theorem valid_swap_iff (words : List UInt16) :
    Valid (words.map swap) ↔ Valid words := by
  have sameResidue := total_swap_mod words
  have sameZero := total_swap_eq_zero_iff words
  rw [valid_iff, valid_iff]
  omega

/-! ## Words of bytes -/

/--
The words of a message, the first byte of each the less significant one; a last
byte without a partner is padded with zero.
-/
def words : List UInt8 → List UInt16
  | [] =>
      []
  | [last] =>
      [last.toUInt16]
  | low :: high :: rest =>
      (low.toUInt16 + 256 * high.toUInt16) :: words rest

@[simp] theorem words_nil :
    words [] = [] :=
  rfl

@[simp] theorem words_cons_cons
    (low high : UInt8)
    (rest : List UInt8) :
    words (low :: high :: rest) =
      (low.toUInt16 + 256 * high.toUInt16) :: words rest :=
  rfl

/-- The bytes of a word give the word. -/
theorem word_of_bytes (word : UInt16) :
    word.toUInt8.toUInt16 + (256 : UInt16) * (word >>> 8).toUInt8.toUInt16 =
      word := by
  have wordLt := word.toNat_lt
  apply UInt16.toNat_inj.mp
  simp only [UInt16.toNat_add, UInt16.toNat_mul, UInt8.toNat_toUInt16,
    UInt16.toNat_toUInt8, UInt16.toNat_shiftRight, UInt16.reduceToNat,
    Nat.shiftRight_eq_div_pow, Nat.reduceMod, Nat.reducePow]
  omega

theorem toNat_word (low high : UInt8) :
    (low.toUInt16 + 256 * high.toUInt16).toNat =
      low.toNat + 256 * high.toNat := by
  have lowLt := low.toNat_lt
  have highLt := high.toNat_lt
  simp only [UInt16.toNat_add, UInt16.toNat_mul, UInt8.toNat_toUInt16,
    UInt16.reduceToNat]
  omega

/-- The words of a message add up to zero exactly if all its bytes are zero. -/
theorem total_words_eq_zero_iff (bytes : List UInt8) :
    total (words bytes) = 0 ↔ ∀ byte ∈ bytes, byte = 0 := by
  induction bytes using words.induct with
  | case1 =>
      simp
  | case2 last =>
      have sameZero : last.toNat = 0 ↔ last = 0 := by
        rw [← UInt8.toNat_inj]
        rfl
      simp [words, sameZero]
  | case3 low high rest inductionHypothesis =>
      have lowZero : low.toNat = 0 ↔ low = 0 := by
        rw [← UInt8.toNat_inj]
        rfl
      have highZero : high.toNat = 0 ↔ high = 0 := by
        rw [← UInt8.toNat_inj]
        rfl
      rw [words_cons_cons, total_cons, toNat_word, List.forall_mem_cons,
        List.forall_mem_cons, ← inductionHypothesis, ← lowZero, ← highZero]
      omega

end VDataplane.OnesComplement
