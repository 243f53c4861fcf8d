import GameShelf.Csv.Sheet
import GameShelf.Proofs.Text.Pieces
import GameShelf.Proofs.Utf8

/-!
# Fields as texts

The bytes of a field lose their ASCII white space, are decoded, and the text loses all other white
space at its ends.  For a field that was written as a text this amounts to trimming the text: ASCII
white space is white space, and no byte of another character looks like it.
-/

set_option autoImplicit false

namespace GameShelf.Csv

/-! ## Trimming bytes and trimming characters -/

section Blocks

variable {α β : Type} {f : α → List β} {p : β → Bool} {q : α → Bool}

/-- Dropping elements from a list of blocks drops whole blocks, if each block is dropped as a whole
or not at all. -/
theorem dropWhile_flatMap (hdropped : ∀ a, q a = true → ∀ b ∈ f a, p b = true)
    (hkept : ∀ a, q a = false → f a ≠ [] ∧ ∀ b ∈ f a, p b = false) (l : List α) :
    (l.flatMap f).dropWhile p = (l.dropWhile q).flatMap f := by
  induction l with
  | nil => rfl
  | cons a rest ih =>
      cases ha : q a with
      | true =>
          have hall : (f a).dropWhile p = [] := List.dropWhile_eq_nil_iff.2 (hdropped a ha)
          simp [List.dropWhile_append, hall, ha, ih]
      | false =>
          rcases hkept a ha with ⟨hne, hnone⟩
          rcases List.exists_cons_of_ne_nil hne with ⟨b, block, hblock⟩
          have hb : p b = false := hnone b (by simp [hblock])
          simp [hblock, hb, ha]

/-- A stricter test in front of a test drops nothing that the test would keep. -/
theorem dropWhile_dropWhile_of_imp {p q : α → Bool} (h : ∀ a, q a = true → p a = true)
    (l : List α) : (l.dropWhile q).dropWhile p = l.dropWhile p := by
  induction l with
  | nil => rfl
  | cons a rest ih =>
      cases ha : q a with
      | true => simp [ha, h a ha, ih]
      | false => simp [ha]

end Blocks

/-- Whether the character is ASCII white space. -/
def isAsciiBlankChar (c : Char) : Bool :=
  c.toNat < 0x80 && isAsciiBlank (UInt8.ofNat c.toNat)

theorem isBlank_of_isAsciiBlankChar (c : Char) (hc : isAsciiBlankChar c = true) :
    Text.isBlank c = true := by
  simp only [isAsciiBlankChar, Bool.and_eq_true, decide_eq_true_eq] at hc
  have hall : ∀ n < 0x80, isAsciiBlank (UInt8.ofNat n) = true →
      Text.inRanges Text.blankRanges n = true := by
    decide
  exact hall c.toNat hc.1 hc.2

theorem lt_of_isAsciiBlank {b : UInt8} (hb : isAsciiBlank b = true) : b.toNat < 0x80 := by
  simp only [isAsciiBlank, Bool.or_eq_true, beq_iff_eq] at hb
  rcases hb with (((rfl | rfl) | rfl) | rfl) | rfl <;> decide

/-- ASCII white space is a single byte, which is dropped with it. -/
theorem isAsciiBlank_of_mem_encodeChar (c : Char) (hc : isAsciiBlankChar c = true) (b : UInt8)
    (hb : b ∈ Utf8.encodeChar c) : isAsciiBlank b = true := by
  simp only [isAsciiBlankChar, Bool.and_eq_true, decide_eq_true_eq] at hc
  rw [Utf8.encodeChar_of_lt hc.1, List.mem_singleton] at hb
  rw [hb]
  exact hc.2

/-- No byte of another character is dropped. -/
theorem isAsciiBlank_eq_false_of_mem_encodeChar (c : Char) (hc : isAsciiBlankChar c = false)
    (b : UInt8) (hb : b ∈ Utf8.encodeChar c) : isAsciiBlank b = false := by
  by_contra hblank
  rw [Bool.not_eq_false] at hblank
  by_cases hascii : c.toNat < 0x80
  · rw [Utf8.encodeChar_of_lt hascii, List.mem_singleton] at hb
    rw [hb] at hblank
    simp [isAsciiBlankChar, hascii, hblank] at hc
  · have hle : 0x80 ≤ b.toNat := Utf8.le_toNat_of_mem_encodeChar (by omega) hb
    have hlt : b.toNat < 0x80 := lt_of_isAsciiBlank hblank
    omega

theorem dropWhile_encode (t : Text) :
    (Utf8.encode t).dropWhile isAsciiBlank = Utf8.encode (t.dropWhile isAsciiBlankChar) := by
  refine dropWhile_flatMap isAsciiBlank_of_mem_encodeChar ?_ t
  intro c hc
  exact ⟨Utf8.encodeChar_ne_nil c, isAsciiBlank_eq_false_of_mem_encodeChar c hc⟩

/-- The same from the other end, where the blocks are read backwards. -/
theorem dropWhile_reverse_encode (t : Text) :
    (Utf8.encode t).reverse.dropWhile isAsciiBlank =
      (Utf8.encode (t.reverse.dropWhile isAsciiBlankChar).reverse).reverse := by
  have hreverse : ∀ t : Text, (Utf8.encode t).reverse =
      t.reverse.flatMap fun c => (Utf8.encodeChar c).reverse := by
    intro t
    exact List.reverse_flatMap
  rw [hreverse, hreverse, List.reverse_reverse]
  refine dropWhile_flatMap ?_ ?_ t.reverse
  · intro c hc b hb
    exact isAsciiBlank_of_mem_encodeChar c hc b (List.mem_reverse.1 hb)
  · intro c hc
    refine ⟨?_, ?_⟩
    · rw [ne_eq, List.reverse_eq_nil_iff]
      exact Utf8.encodeChar_ne_nil c
    · intro b hb
      exact isAsciiBlank_eq_false_of_mem_encodeChar c hc b (List.mem_reverse.1 hb)

/-! ## Decoding a written field -/

/-- The text without ASCII white space in front. -/
def dropAscii (t : Text) : Text :=
  t.dropWhile isAsciiBlankChar

theorem trimBytes_encode (t : Text) :
    trimBytes (Utf8.encode t) = Utf8.encode (dropAscii (dropAscii t).reverse).reverse := by
  rw [trimBytes, dropWhile_encode, dropWhile_reverse_encode, List.reverse_reverse]
  rfl

/-- What is trimmed later need not be dropped before. -/
theorem trim_dropAscii (t : Text) :
    Text.trim (dropAscii (dropAscii t).reverse).reverse = t.trim := by
  have hend : ∀ u : Text, Text.trimEnd (dropAscii u.reverse).reverse = u.trimEnd := by
    intro u
    rw [Text.trimEnd, List.reverse_reverse, dropAscii,
      dropWhile_dropWhile_of_imp isBlank_of_isAsciiBlankChar]
    rfl
  have hstart : (dropAscii t).trimStart = t.trimStart :=
    dropWhile_dropWhile_of_imp isBlank_of_isAsciiBlankChar t
  calc
    Text.trim (dropAscii (dropAscii t).reverse).reverse
        = (Text.trimEnd (dropAscii (dropAscii t).reverse).reverse).trimStart :=
          (Text.trimStart_trimEnd _).symm
    _ = (dropAscii t).trimEnd.trimStart := by
          rw [hend]
    _ = (dropAscii t).trim := Text.trimStart_trimEnd _
    _ = t.trim := by
          simp only [Text.trim, hstart]

/-- The fields of a record that was written are read as the trimmed texts of its cells. -/
theorem decodeFields_map_encode (index : Nat) (cells : List Text) :
    decodeFields index (cells.map Utf8.encode) = .ok (cells.map Text.trim) := by
  induction cells generalizing index with
  | nil => rfl
  | cons cell rest ih =>
      rw [List.map_cons, decodeFields, trimBytes_encode, Utf8.decode_encode]
      simp only [ih, trim_dropAscii]
      rfl

end GameShelf.Csv
