import Docstore.Proofs.Text.AsciiCase

/-!
# Texts as bytes

A text may be cut by counting bytes from its end (`cutEnd?`). There is no such cut if the text has fewer
bytes, or if the place lies inside a character (`exists_cutEnd?_iff`). Otherwise the text is what is left
followed by what is cut off (`exists_of_cutEnd?`, `cutEnd?_append`).

In an ASCII text each character is one byte. So its bytes may be counted as characters
(`utf8ByteSize_of_ascii`, `cutEnd?_of_ascii`), and its lower case has as many of them
(`utf8ByteSize_lowerText`).
-/

namespace Docstore

open LetterCase (lowerText AsciiText isAscii)

variable {s front : String} {n : Nat}

/-! ## Sizes -/

/-- A text has no fewer bytes than characters. -/
theorem length_le_utf8ByteSize (cs : List Char) : cs.length ≤ (String.ofList cs).utf8ByteSize := by
  induction cs with
  | nil => exact Nat.zero_le _
  | cons c cs ih =>
    have := c.utf8Size_pos
    rw [String.ofList_cons, String.utf8ByteSize_append, String.utf8ByteSize_singleton,
      List.length_cons]
    omega

theorem utf8Size_of_isAscii {c : Char} (ascii : isAscii c = true) : c.utf8Size = 1 := by
  rw [Char.utf8Size_eq_one_iff, UInt32.le_iff_toNat_le]
  exact Nat.le_of_lt_succ (of_decide_eq_true ascii)

theorem utf8ByteSize_ofList {cs : List Char} (ascii : ∀ c ∈ cs, isAscii c = true) :
    (String.ofList cs).utf8ByteSize = cs.length := by
  induction cs with
  | nil => rfl
  | cons c cs ih =>
    obtain ⟨first, rest⟩ := List.forall_mem_cons.mp ascii
    rw [String.ofList_cons, String.utf8ByteSize_append, String.utf8ByteSize_singleton,
      utf8Size_of_isAscii first, ih rest, List.length_cons, Nat.add_comm]

theorem utf8ByteSize_of_ascii (ascii : AsciiText s) : s.utf8ByteSize = s.toList.length := by
  rw [← utf8ByteSize_ofList ascii.isAscii, String.ofList_toList]

/-- The lower case of an ASCII text has as many bytes as the text. -/
theorem utf8ByteSize_lowerText (ascii : AsciiText s) : (lowerText s).utf8ByteSize = s.utf8ByteSize := by
  rw [lowerText, utf8ByteSize_ofList (LetterCase.isAscii_lower ascii.isAscii),
    utf8ByteSize_of_ascii ascii, LetterCase.length_lower ascii.isAscii]

/-- The capital I with a dot has two bytes, and its lower case has three. -/
example : "\u0130".utf8ByteSize = 2 ∧ (lowerText "\u0130").utf8ByteSize = 3 := by decide

/-! ## Cuts -/

/-- A text without its last `n` bytes. -/
def cutEnd? (s : String) (n : Nat) : Option String :=
  if h : n ≤ s.utf8ByteSize ∧ (⟨s.utf8ByteSize - n⟩ : String.Pos.Raw).IsValid s then
    some (s.sliceTo (s.pos _ h.2)).copy
  else none

theorem exists_cutEnd?_iff : (∃ front, cutEnd? s n = some front) ↔
    n ≤ s.utf8ByteSize ∧ (⟨s.utf8ByteSize - n⟩ : String.Pos.Raw).IsValid s := by
  rw [cutEnd?]
  split
  · next fits => exact iff_of_true ⟨_, rfl⟩ fits
  · next other => exact iff_of_false nofun other

theorem exists_of_cutEnd? (cut : cutEnd? s n = some front) :
    ∃ back, s = front ++ back ∧ back.utf8ByteSize = n := by
  obtain ⟨le, boundary⟩ := exists_cutEnd?_iff.mp ⟨front, cut⟩
  rw [cutEnd?, dif_pos ⟨le, boundary⟩] at cut
  obtain ⟨back, splits⟩ := String.copy_sliceTo_eq_iff_exists_splits.mp (Option.some.inj cut)
  have place : s.utf8ByteSize - n = front.utf8ByteSize :=
    congrArg String.Pos.Raw.byteIdx splits.offset_eq_rawEndPos
  have size := congrArg String.utf8ByteSize splits.eq_append
  rw [String.utf8ByteSize_append] at size
  exact ⟨back, splits.eq_append, by omega⟩

theorem cutEnd?_append (front back : String) :
    cutEnd? (front ++ back) back.utf8ByteSize = some front := by
  have le : back.utf8ByteSize ≤ (front ++ back).utf8ByteSize := by
    rw [String.utf8ByteSize_append]
    exact Nat.le_add_left _ _
  have place : (⟨(front ++ back).utf8ByteSize - back.utf8ByteSize⟩ : String.Pos.Raw) =
      front.rawEndPos := by
    rw [String.utf8ByteSize_append, Nat.add_sub_cancel]
    rfl
  have boundary := String.Pos.Raw.isValid_iff_exists_append.mpr ⟨front, back, rfl, place⟩
  rw [cutEnd?, dif_pos ⟨le, boundary⟩, Option.some_inj]
  exact String.copy_sliceTo_eq_iff_exists_splits.mpr ⟨back, rfl, place⟩

example : cutEnd? "né" 2 = some "n" ∧ cutEnd? "né" 1 = none ∧ cutEnd? "né" 4 = none := by decide

/-- The last bytes of an ASCII text are its last characters. -/
theorem cutEnd?_of_ascii (ascii : AsciiText s) (le : n ≤ s.toList.length) :
    cutEnd? s n = some (String.ofList (s.toList.take (s.toList.length - n))) := by
  generalize hk : s.toList.length - n = k
  have split_at : s = String.ofList (s.toList.take k) ++ String.ofList (s.toList.drop k) := by
    rw [← String.ofList_append, List.take_append_drop, String.ofList_toList]
  have size : (String.ofList (s.toList.drop k)).utf8ByteSize = n := by
    rw [utf8ByteSize_ofList fun c hc => ascii.isAscii c (List.mem_of_mem_drop hc), List.length_drop]
    omega
  have cut := cutEnd?_append (String.ofList (s.toList.take k)) (String.ofList (s.toList.drop k))
  rwa [← split_at, size] at cut

end Docstore
