import GameShelf.Utf8

/-!
# Encoding and decoding undo each other

A character is written in one to four bytes, and the first byte tells how many: the decoder tries
the widths in turn, and only the one that was written fits.  So a text is read back character by
character, whatever follows it.  As overlong forms are refused, each width gives back the bytes that
it took, and bytes that decode are those of the text.

The ASCII characters are the bytes below `0x80`; no byte of any other character is one of those.
-/

set_option autoImplicit false

namespace GameShelf.Utf8

variable {a b c d : UInt8} {char : Char} {rest : Bytes}

/-! ## One step of the decoder -/

theorem decode_of_oneByte? (h : oneByte? a = some char) :
    decode (a :: rest) = prepend char 1 (decode rest) := by
  rw [decode.eq_def]
  simp only [h]

theorem decode_of_twoBytes? (hone : oneByte? a = none) (h : twoBytes? a b = some char) :
    decode (a :: b :: rest) = prepend char 2 (decode rest) := by
  rw [decode.eq_def]
  simp only [hone, h]

theorem decode_of_threeBytes? (hone : oneByte? a = none) (htwo : twoBytes? a b = none)
    (h : threeBytes? a b c = some char) :
    decode (a :: b :: c :: rest) = prepend char 3 (decode rest) := by
  rw [decode.eq_def]
  simp only [hone, htwo, h]

theorem decode_of_fourBytes? (hone : oneByte? a = none) (htwo : twoBytes? a b = none)
    (hthree : threeBytes? a b c = none) (h : fourBytes? a b c d = some char) :
    decode (a :: b :: c :: d :: rest) = prepend char 4 (decode rest) := by
  rw [decode.eq_def]
  simp only [hone, htwo, hthree, h]

/-! ## The widths tell themselves apart by the first byte -/

theorem oneByte?_eq_none (h : 0x80 ≤ a.toNat) : oneByte? a = none := by
  simp only [oneByte?]
  rw [if_neg (by omega)]

theorem twoBytes?_eq_none (h : 0xE0 ≤ a.toNat) : twoBytes? a b = none := by
  simp only [twoBytes?]
  rw [if_neg (by omega)]

theorem threeBytes?_eq_none (h : 0xF0 ≤ a.toNat) : threeBytes? a b c = none := by
  simp only [threeBytes?]
  rw [if_neg (by omega)]

/-! ## The bytes of a character -/

theorem toNat_ofNat {n : Nat} (h : n < 0x100) : (UInt8.ofNat n).toNat = n := by
  simp [Nat.mod_eq_of_lt h]

theorem toNat_continuation (n : Nat) : (continuation n).toNat = 0x80 + n % 64 := by
  have hlt : n % 64 < 64 := Nat.mod_lt n (by decide)
  exact toNat_ofNat (by omega)

theorem isContinuation_continuation (n : Nat) : isContinuation (continuation n) = true := by
  have hlt : n % 64 < 64 := Nat.mod_lt n (by decide)
  simp only [isContinuation, toNat_continuation, Bool.and_eq_true, decide_eq_true_eq]
  omega

/-- Code points end at U+10FFFF, and the surrogates are none. -/
theorem toNat_bounds (char : Char) :
    char.toNat < 0xD800 ∨ 0xE000 ≤ char.toNat ∧ char.toNat < 0x110000 := by
  have hvalid : char.toNat < 0xD800 ∨ 0xDFFF < char.toNat ∧ char.toNat < 0x110000 := char.valid
  omega

/-- A character whose code point takes one byte. -/
theorem decode_encodeChar_one (h : char.toNat < 0x80) (rest : Bytes) :
    decode (UInt8.ofNat char.toNat :: rest) = prepend char 1 (decode rest) := by
  refine decode_of_oneByte? ?_
  simp only [oneByte?, toNat_ofNat (show char.toNat < 0x100 by omega), Char.ofNat_toNat]
  rw [if_pos h]

theorem decode_encodeChar_two (h : 0x80 ≤ char.toNat) (h' : char.toNat < 0x800) (rest : Bytes) :
    decode (UInt8.ofNat (0xC0 + char.toNat / 64) :: continuation char.toNat :: rest) =
      prepend char 2 (decode rest) := by
  have hfirst : (UInt8.ofNat (0xC0 + char.toNat / 64)).toNat = 0xC0 + char.toNat / 64 :=
    toNat_ofNat (by omega)
  refine decode_of_twoBytes? (oneByte?_eq_none (by omega)) ?_
  simp only [twoBytes?, hfirst, toNat_continuation, isContinuation_continuation, and_true]
  have hvalue : (0xC0 + char.toNat / 64 - 0xC0) * 64 + (0x80 + char.toNat % 64 - 0x80) =
      char.toNat := by
    omega
  rw [if_pos (by omega), hvalue, Char.ofNat_toNat]

theorem decode_encodeChar_three (h : 0x800 ≤ char.toNat) (h' : char.toNat < 0x10000)
    (rest : Bytes) :
    decode (UInt8.ofNat (0xE0 + char.toNat / 4096) :: continuation (char.toNat / 64) ::
      continuation char.toNat :: rest) = prepend char 3 (decode rest) := by
  have hfirst : (UInt8.ofNat (0xE0 + char.toNat / 4096)).toNat = 0xE0 + char.toNat / 4096 :=
    toNat_ofNat (by omega)
  have hscalar := toNat_bounds char
  refine decode_of_threeBytes? (oneByte?_eq_none (by omega)) (twoBytes?_eq_none (by omega)) ?_
  simp only [threeBytes?, hfirst, toNat_continuation, isContinuation_continuation, true_and]
  have hvalue : (0xE0 + char.toNat / 4096 - 0xE0) * 4096 +
      (0x80 + char.toNat / 64 % 64 - 0x80) * 64 + (0x80 + char.toNat % 64 - 0x80) =
      char.toNat := by
    omega
  rw [hvalue, if_pos (by omega), Char.ofNat_toNat]

theorem decode_encodeChar_four (h : 0x10000 ≤ char.toNat) (rest : Bytes) :
    decode (UInt8.ofNat (0xF0 + char.toNat / 262144) :: continuation (char.toNat / 4096) ::
      continuation (char.toNat / 64) :: continuation char.toNat :: rest) =
      prepend char 4 (decode rest) := by
  have hscalar := toNat_bounds char
  have hfirst : (UInt8.ofNat (0xF0 + char.toNat / 262144)).toNat = 0xF0 + char.toNat / 262144 :=
    toNat_ofNat (by omega)
  refine decode_of_fourBytes? (oneByte?_eq_none (by omega)) (twoBytes?_eq_none (by omega))
    (threeBytes?_eq_none (by omega)) ?_
  simp only [fourBytes?, hfirst, toNat_continuation, isContinuation_continuation, true_and]
  have hvalue : (0xF0 + char.toNat / 262144 - 0xF0) * 262144 +
      (0x80 + char.toNat / 4096 % 64 - 0x80) * 4096 +
      (0x80 + char.toNat / 64 % 64 - 0x80) * 64 + (0x80 + char.toNat % 64 - 0x80) =
      char.toNat := by
    omega
  rw [hvalue, if_pos (by omega), Char.ofNat_toNat]

/-! ## Texts -/

theorem encodeChar_ne_nil (char : Char) : encodeChar char ≠ [] := by
  simp only [encodeChar]
  split
  next => exact List.cons_ne_nil _ _
  next =>
    split
    next => exact List.cons_ne_nil _ _
    next =>
      split
      next => exact List.cons_ne_nil _ _
      next => exact List.cons_ne_nil _ _

/-- A character is read back, whatever follows it. -/
theorem decode_encodeChar_append (char : Char) (rest : Bytes) :
    decode (encodeChar char ++ rest) = prepend char (encodeChar char).length (decode rest) := by
  simp only [encodeChar]
  split
  next h => exact decode_encodeChar_one h rest
  next h =>
    split
    next h' => exact decode_encodeChar_two (by omega) h' rest
    next h' =>
      split
      next h'' => exact decode_encodeChar_three (by omega) h'' rest
      next h'' => exact decode_encodeChar_four (by omega) rest

theorem decode_encode (t : Text) : decode (encode t) = .ok t := by
  induction t with
  | nil => rfl
  | cons char t ih =>
      change decode (encodeChar char ++ encode t) = .ok (char :: t)
      rw [decode_encodeChar_append, ih]
      rfl

@[simp] theorem encode_nil : encode [] = [] := rfl

@[simp] theorem encode_cons (char : Char) (t : Text) :
    encode (char :: t) = encodeChar char ++ encode t := rfl

@[simp] theorem encode_append (s t : Text) : encode (s ++ t) = encode s ++ encode t := by
  simp [encode]

/-! ## ASCII -/

theorem le_toNat_ofNat {n : Nat} (h : 0x80 ≤ n) (h' : n < 0x100) :
    0x80 ≤ (UInt8.ofNat n).toNat := by
  rwa [toNat_ofNat h']

theorem le_toNat_continuation (n : Nat) : 0x80 ≤ (continuation n).toNat := by
  rw [toNat_continuation]
  omega

/-- No byte of a character that is not ASCII looks like an ASCII character. -/
theorem le_toNat_of_mem_encodeChar (h : 0x80 ≤ char.toNat) {byte : UInt8}
    (hbyte : byte ∈ encodeChar char) : 0x80 ≤ byte.toNat := by
  have hscalar := toNat_bounds char
  simp only [encodeChar, if_neg (show ¬ char.toNat < 0x80 by omega)] at hbyte
  split at hbyte
  next h' =>
    rcases List.mem_cons.1 hbyte with rfl | hbyte
    · exact le_toNat_ofNat (by omega) (by omega)
    · rw [List.mem_singleton.1 hbyte]
      exact le_toNat_continuation _
  next h' =>
    split at hbyte
    next h'' =>
      rcases List.mem_cons.1 hbyte with rfl | hbyte
      · exact le_toNat_ofNat (by omega) (by omega)
      · simp only [List.mem_cons, List.not_mem_nil, or_false] at hbyte
        rcases hbyte with rfl | rfl
        · exact le_toNat_continuation _
        · exact le_toNat_continuation _
    next h'' =>
      rcases List.mem_cons.1 hbyte with rfl | hbyte
      · exact le_toNat_ofNat (by omega) (by omega)
      · simp only [List.mem_cons, List.not_mem_nil, or_false] at hbyte
        rcases hbyte with rfl | rfl | rfl
        · exact le_toNat_continuation _
        · exact le_toNat_continuation _
        · exact le_toNat_continuation _

theorem encodeChar_of_lt (h : char.toNat < 0x80) :
    encodeChar char = [UInt8.ofNat char.toNat] := by
  simp [encodeChar, h]

/-! ## Encoding undoes decoding -/

variable {bytes : Bytes} {t : Text}

theorem toNat_charOfNat {n : Nat} (h : n < 0xD800 ∨ 0xE000 ≤ n ∧ n < 0x110000) :
    (Char.ofNat n).toNat = n := by
  have hvalid : n.isValidChar := by
    change n < 0xD800 ∨ 0xDFFF < n ∧ n < 0x110000
    omega
  rw [Char.ofNat, dif_pos hvalid]
  rfl

theorem ofNat_eq {n : Nat} (byte : UInt8) (h : n = byte.toNat) : UInt8.ofNat n = byte := by
  rw [h, UInt8.ofNat_toNat]

theorem continuation_eq {n : Nat} {byte : UInt8} (hbyte : isContinuation byte = true)
    (h : n % 64 = byte.toNat - 0x80) : continuation n = byte := by
  simp only [isContinuation, Bool.and_eq_true, decide_eq_true_eq] at hbyte
  exact ofNat_eq byte (by omega)

theorem encodeChar_of_oneByte? (h : oneByte? a = some char) : encodeChar char = [a] := by
  simp only [oneByte?, Option.ite_none_right_eq_some] at h
  rcases h with ⟨hlt, heq⟩
  have hchar : char.toNat = a.toNat := by
    rw [← Option.some.inj heq, toNat_charOfNat (by omega)]
  simp only [encodeChar, hchar, if_pos hlt, UInt8.ofNat_toNat]

theorem encodeChar_of_twoBytes? (h : twoBytes? a b = some char) : encodeChar char = [a, b] := by
  simp only [twoBytes?, Option.ite_none_right_eq_some] at h
  rcases h with ⟨⟨hlow, hhigh, hb⟩, heq⟩
  have hbits := hb
  simp only [isContinuation, Bool.and_eq_true, decide_eq_true_eq] at hbits
  have hchar : char.toNat = (a.toNat - 0xC0) * 64 + (b.toNat - 0x80) := by
    rw [← Option.some.inj heq, toNat_charOfNat (by omega)]
  simp only [encodeChar, hchar]
  rw [if_neg (by omega), if_pos (by omega), continuation_eq hb (by omega), ofNat_eq a (by omega)]

theorem encodeChar_of_threeBytes? (h : threeBytes? a b c = some char) :
    encodeChar char = [a, b, c] := by
  simp only [threeBytes?, Option.ite_none_right_eq_some] at h
  rcases h with ⟨⟨hlow, hhigh, hb, hc, hlong, hscalar⟩, heq⟩
  have hbits := hb
  have hbits' := hc
  simp only [isContinuation, Bool.and_eq_true, decide_eq_true_eq] at hbits hbits'
  have hchar : char.toNat =
      (a.toNat - 0xE0) * 4096 + (b.toNat - 0x80) * 64 + (c.toNat - 0x80) := by
    rw [← Option.some.inj heq, toNat_charOfNat (by omega)]
  simp only [encodeChar, hchar]
  rw [if_neg (by omega), if_neg (by omega), if_pos (by omega), continuation_eq hb (by omega),
    continuation_eq hc (by omega), ofNat_eq a (by omega)]

theorem encodeChar_of_fourBytes? (h : fourBytes? a b c d = some char) :
    encodeChar char = [a, b, c, d] := by
  simp only [fourBytes?, Option.ite_none_right_eq_some] at h
  rcases h with ⟨⟨hlow, hhigh, hb, hc, hd, hlong, hscalar⟩, heq⟩
  have hbits := hb
  have hbits' := hc
  have hbits'' := hd
  simp only [isContinuation, Bool.and_eq_true, decide_eq_true_eq] at hbits hbits' hbits''
  have hchar : char.toNat = (a.toNat - 0xF0) * 262144 + (b.toNat - 0x80) * 4096 +
      (c.toNat - 0x80) * 64 + (d.toNat - 0x80) := by
    rw [← Option.some.inj heq, toNat_charOfNat (by omega)]
  simp only [encodeChar, hchar]
  rw [if_neg (by omega), if_neg (by omega), if_neg (by omega), continuation_eq hb (by omega),
    continuation_eq hc (by omega), continuation_eq hd (by omega), ofNat_eq a (by omega)]

theorem prepend_eq_ok_iff {width : Nat} {decoded : Except Nat Text} :
    prepend char width decoded = .ok t ↔ ∃ rest, decoded = .ok rest ∧ char :: rest = t := by
  cases decoded with
  | ok rest => simp [prepend]
  | error index => simp [prepend]

/-- The bytes of a character in front of a text that decodes. -/
theorem encode_of_prepend {width : Nat} {block : Bytes} (hblock : encodeChar char = block)
    (hrest : ∀ t, decode rest = .ok t → encode t = rest)
    (h : prepend char width (decode rest) = .ok t) : encode t = block ++ rest := by
  rcases prepend_eq_ok_iff.1 h with ⟨tail, htail, rfl⟩
  rw [encode_cons, hblock, hrest tail htail]

/-- Only the bytes of a text are decoded as that text. -/
theorem encode_of_decode (h : decode bytes = .ok t) : encode t = bytes := by
  fun_induction decode bytes generalizing t with
  | case1 =>
      cases h
      rfl
  | case2 a rest char hchar ih =>
      exact encode_of_prepend (encodeChar_of_oneByte? hchar) (fun _ => ih) h
  | case4 a _ b rest char hchar ih =>
      exact encode_of_prepend (encodeChar_of_twoBytes? hchar) (fun _ => ih) h
  | case6 a _ b _ c rest char hchar ih =>
      exact encode_of_prepend (encodeChar_of_threeBytes? hchar) (fun _ => ih) h
  | case8 a _ b _ c _ d rest char hchar ih =>
      exact encode_of_prepend (encodeChar_of_fourBytes? hchar) (fun _ => ih) h
  | case3 | case5 | case7 | case9 => cases h

/-- An ASCII character of a text is one of its bytes. -/
theorem mem_encode_of_mem (hmem : char ∈ t) (h : char.toNat < 0x80) :
    UInt8.ofNat char.toNat ∈ encode t := by
  refine List.mem_flatMap.2 ⟨char, hmem, ?_⟩
  rw [encodeChar_of_lt h]
  exact List.mem_singleton_self _

end GameShelf.Utf8
