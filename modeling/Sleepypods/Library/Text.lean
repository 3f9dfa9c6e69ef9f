import Mathlib

/-! Texts compared by their length in bytes. -/

set_option autoImplicit false

namespace Library

theorem eq_of_isPrefix_of_size_le {short long : String} (starts : short.toList <+: long.toList)
    (size : long.utf8ByteSize ≤ short.utf8ByteSize) : short = long := by
  obtain ⟨rest, joined⟩ := starts
  have whole : long = short ++ String.ofList rest := by
    rw [← String.toList_inj, String.toList_append, String.toList_ofList, joined]
  rw [whole, String.utf8ByteSize_append] at size
  have empty : (String.ofList rest).utf8ByteSize = 0 := by omega
  rw [String.utf8ByteSize_eq_zero_iff] at empty
  rw [whole, empty, String.append_empty]

theorem eq_of_isSuffix_of_size_le {short long : String} (ends : short.toList <:+ long.toList)
    (size : long.utf8ByteSize ≤ short.utf8ByteSize) : short = long := by
  obtain ⟨rest, joined⟩ := ends
  have whole : long = String.ofList rest ++ short := by
    rw [← String.toList_inj, String.toList_append, String.toList_ofList, joined]
  rw [whole, String.utf8ByteSize_append] at size
  have empty : (String.ofList rest).utf8ByteSize = 0 := by omega
  rw [String.utf8ByteSize_eq_zero_iff] at empty
  rw [whole, empty, String.empty_append]

theorem eq_of_isPrefix_of_size_eq {left right : String} {whole : List Char}
    (starts : left.toList <+: whole) (begins : right.toList <+: whole)
    (size : left.utf8ByteSize = right.utf8ByteSize) : left = right := by
  rcases List.prefix_or_prefix_of_prefix starts begins with inner | inner
  · exact eq_of_isPrefix_of_size_le inner (Nat.le_of_eq size.symm)
  · exact (eq_of_isPrefix_of_size_le inner (Nat.le_of_eq size)).symm

theorem eq_of_isSuffix_of_size_eq {left right : String} {whole : List Char}
    (ends : left.toList <:+ whole) (closes : right.toList <:+ whole)
    (size : left.utf8ByteSize = right.utf8ByteSize) : left = right := by
  rcases List.suffix_or_suffix_of_suffix ends closes with inner | inner
  · exact eq_of_isSuffix_of_size_le inner (Nat.le_of_eq size.symm)
  · exact (eq_of_isSuffix_of_size_le inner (Nat.le_of_eq size)).symm

theorem utf8Size_of_ascii {c : Char} (ascii : c.val ≤ 0x7f) : c.utf8Size = 1 := if_pos ascii

theorem utf8Size_toLower (c : Char) : c.toLower.utf8Size = c.utf8Size := by
  unfold Char.toLower
  split
  next upper =>
    have before : c.val ≤ 0x7f := UInt32.le_trans upper.2 (by decide)
    have bound : c.val.toNat ≤ 90 := UInt32.le_iff_toNat_le.mp upper.2
    have after : c.val + ('a'.val - 'A'.val) ≤ 0x7f := by
      rw [UInt32.le_iff_toNat_le, UInt32.toNat_add, show ('a'.val - 'A'.val).toNat = 32 by decide,
        show (0x7f : UInt32).toNat = 127 by decide]
      omega
    rw [utf8Size_of_ascii before]
    exact utf8Size_of_ascii after
  · rfl

theorem utf8ByteSize_le_of_sublist {short long : List Char} (within : short.Sublist long) :
    (String.ofList short).utf8ByteSize ≤ (String.ofList long).utf8ByteSize := by
  induction within with
  | slnil => exact Nat.le_refl _
  | cons c _ ih =>
    rw [String.ofList_cons, String.utf8ByteSize_append]
    omega
  | cons_cons c _ ih =>
    rw [String.ofList_cons, String.ofList_cons, String.utf8ByteSize_append,
      String.utf8ByteSize_append]
    omega

theorem utf8ByteSize_map_toLower (text : List Char) :
    (String.ofList (text.map Char.toLower)).utf8ByteSize = (String.ofList text).utf8ByteSize := by
  induction text with
  | nil => rfl
  | cons _ _ ih =>
    rw [List.map_cons, String.ofList_cons, String.ofList_cons, String.utf8ByteSize_append,
      String.utf8ByteSize_append, String.utf8ByteSize_singleton, String.utf8ByteSize_singleton,
      utf8Size_toLower, ih]

end Library
