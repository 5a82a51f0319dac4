/-
  ChangeFeed.Text.Octets — octet strings and the text they encode.

  A message carries its key and its value as octets.  `decode?` reads octets
  as UTF-8 and refuses whatever is no UTF-8: overlong forms, surrogates, code
  points above U+10FFFF and cut-off sequences.  `encode` writes a text.

  Main results:
    * `decode?_eq_some_iff` — octets are read as a text exactly if they are what
      is written for it.
-/

namespace ChangeFeed

/-- A finite sequence of octets. -/
abbrev Octets := List UInt8

namespace Octets

/-- The octets of a text in UTF-8. -/
def encode (s : String) : Octets := s.toUTF8.data.toList

/-- The text that the octets encode in UTF-8, if they encode one. -/
def decode? (b : Octets) : Option String := String.fromUTF8? ⟨b.toArray⟩

/-- **Reading and writing are inverse to each other.** -/
theorem decode?_eq_some_iff {b : Octets} {s : String} : decode? b = some s ↔ encode s = b := by
  unfold decode? String.fromUTF8?
  constructor
  · intro h
    split at h
    · obtain rfl := Option.some.inj h
      show b.toArray.toList = b
      exact List.toList_toArray
    · cases h
  · rintro rfl
    have hbytes : (⟨(encode s).toArray⟩ : ByteArray) = s.toByteArray := by
      show (⟨s.toByteArray.data.toList.toArray⟩ : ByteArray) = s.toByteArray
      rw [Array.toArray_toList]
    have hvalid : (⟨(encode s).toArray⟩ : ByteArray).IsValidUTF8 := by
      rw [hbytes]
      exact s.isValidUTF8
    rw [dif_pos hvalid]
    refine congrArg some (String.toByteArray_inj.1 ?_)
    exact hbytes

end Octets

end ChangeFeed
