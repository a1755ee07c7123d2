/-!
# Little-endian words

The medium stores every number with its least significant byte first. A word is
assembled from its halves and split into them again by ordinary arithmetic on
naturals, so the two directions are inverse for every value and no bit
operation has to be reasoned about.
-/

namespace FatVolume.LittleEndian

/-- The 16-bit number stored as `low`, `high`. -/
def word (low high : UInt8) : UInt16 := UInt16.ofNat (low.toNat + 256 * high.toNat)

/-- The byte of a word that is stored first. -/
def lowByte (value : UInt16) : UInt8 := UInt8.ofNat value.toNat

/-- The byte of a word that is stored last. -/
def highByte (value : UInt16) : UInt8 := UInt8.ofNat (value.toNat / 256)

/-- The 32-bit number whose halves are stored as `low`, `high`. -/
def doubleWord (low high : UInt16) : UInt32 := UInt32.ofNat (low.toNat + 65536 * high.toNat)

/-- The half of a double word that is stored first. -/
def lowHalf (value : UInt32) : UInt16 := UInt16.ofNat value.toNat

/-- The half of a double word that is stored last. -/
def highHalf (value : UInt32) : UInt16 := UInt16.ofNat (value.toNat / 65536)

/-- A word is put together again from its two bytes. This is what makes a stored link
readable as it was written. -/
theorem word_lowByte_highByte (value : UInt16) : word (lowByte value) (highByte value) = value := by
  apply UInt16.toNat_inj.mp
  have bounded := value.toNat_lt
  simp only [word, lowByte, highByte, UInt16.toNat_ofNat', UInt8.toNat_ofNat']
  omega

/-- The low byte of a word made of two bytes is the first of them, whatever the other one
is. -/
theorem lowByte_word (low high : UInt8) : lowByte (word low high) = low := by
  apply UInt8.toNat_inj.mp
  have lowBound := low.toNat_lt
  have highBound := high.toNat_lt
  simp only [word, lowByte, UInt16.toNat_ofNat', UInt8.toNat_ofNat']
  omega

/-- The high byte of a word made of two bytes is the second of them; nothing is carried
over from the low one. -/
theorem highByte_word (low high : UInt8) : highByte (word low high) = high := by
  apply UInt8.toNat_inj.mp
  have lowBound := low.toNat_lt
  have highBound := high.toNat_lt
  simp only [word, highByte, UInt16.toNat_ofNat', UInt8.toNat_ofNat']
  omega

/-- A word of 32 bits is put together again from its halves, as the size of an entry is. -/
theorem doubleWord_halves (value : UInt32) :
    doubleWord (lowHalf value) (highHalf value) = value := by
  apply UInt32.toNat_inj.mp
  have bounded := value.toNat_lt
  simp only [doubleWord, lowHalf, highHalf, UInt32.toNat_ofNat', UInt16.toNat_ofNat']
  omega

/-- The low half of a word of 32 bits is the first of the two words it was made of. -/
theorem lowHalf_doubleWord (low high : UInt16) : lowHalf (doubleWord low high) = low := by
  apply UInt16.toNat_inj.mp
  have lowBound := low.toNat_lt
  have highBound := high.toNat_lt
  simp only [doubleWord, lowHalf, UInt32.toNat_ofNat', UInt16.toNat_ofNat']
  omega

/-- The high half of a word of 32 bits is the second of the two words it was made of,
unaffected by the low one. -/
theorem highHalf_doubleWord (low high : UInt16) : highHalf (doubleWord low high) = high := by
  apply UInt16.toNat_inj.mp
  have lowBound := low.toNat_lt
  have highBound := high.toNat_lt
  simp only [doubleWord, highHalf, UInt32.toNat_ofNat', UInt16.toNat_ofNat']
  omega

end FatVolume.LittleEndian
