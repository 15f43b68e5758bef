import Mathlib.Algebra.Order.Ring.Nat
import Mathlib.Data.List.Basic

/-!
# UTF-8

The bytes of a text, and the decoder of one rune from the front of any byte
sequence: an invalid byte is read alone, as the replacement character.
-/

namespace Text

/-- The bytes of a text. -/
def utf8 (text : List Char) : List UInt8 :=
  text.flatMap String.utf8EncodeChar

@[simp]
theorem utf8_nil : utf8 [] = [] :=
  rfl

@[simp]
theorem utf8_cons (char : Char) (text : List Char) :
    utf8 (char :: text) = String.utf8EncodeChar char ++ utf8 text :=
  List.flatMap_cons

/-- A text of ASCII bytes is its own encoding. -/
theorem utf8_ascii {bytes : List UInt8} (ascii : ∀ byte ∈ bytes, byte.toNat < 128) :
    utf8 (bytes.map Char.ofUInt8) = bytes := by
  induction bytes with
  | nil => rfl
  | cons byte bytes ih =>
      have small := ascii byte List.mem_cons_self
      have encodes : String.utf8EncodeChar (Char.ofUInt8 byte) = [byte] := by
        have value : (Char.ofUInt8 byte).val.toNat = byte.toNat :=
          UInt8.toNat_toUInt32 byte
        rw [String.utf8EncodeChar, value, if_pos (by omega)]
        simp
      rw [List.map_cons, utf8_cons, encodes, ih fun other mem =>
        ascii other (List.mem_cons_of_mem byte mem)]
      rfl

/-- The replacement character. -/
def runeError : Nat := 0xFFFD

/-- A continuation byte. -/
def isTail (byte : UInt8) : Bool :=
  0x80 ≤ byte.toNat && byte.toNat ≤ 0xBF

/-- The second byte of a rune of three or four bytes, which rules out overlong
forms, surrogates and runes beyond the last one. -/
def isSecond (lead : Nat) (byte : UInt8) : Bool :=
  isTail byte &&
    (if lead = 0xE0 then 0xA0 ≤ byte.toNat
    else if lead = 0xED then byte.toNat ≤ 0x9F
    else if lead = 0xF0 then 0x90 ≤ byte.toNat
    else if lead = 0xF4 then byte.toNat ≤ 0x8F
    else true)

/-- `utf8.DecodeRune`: the first rune and the number of its bytes. -/
def decodeRune : List UInt8 → Nat × Nat
  | [] => (runeError, 0)
  | first :: rest =>
      let lead := first.toNat
      if lead < 0x80 then (lead, 1)
      else if lead < 0xC2 then (runeError, 1)
      else if lead < 0xE0 then
        match rest with
        | second :: _ =>
            if isTail second then (lead % 32 * 64 + second.toNat % 64, 2) else (runeError, 1)
        | _ => (runeError, 1)
      else if lead < 0xF0 then
        match rest with
        | second :: third :: _ =>
            if isSecond lead second && isTail third then
              (lead % 16 * 4096 + second.toNat % 64 * 64 + third.toNat % 64, 3)
            else
              (runeError, 1)
        | _ => (runeError, 1)
      else if lead < 0xF5 then
        match rest with
        | second :: third :: fourth :: _ =>
            if isSecond lead second && isTail third && isTail fourth then
              (lead % 8 * 262144 + second.toNat % 64 * 4096 + third.toNat % 64 * 64 +
                fourth.toNat % 64, 4)
            else
              (runeError, 1)
        | _ => (runeError, 1)
      else (runeError, 1)

/-- A rune takes at least one byte. -/
theorem decodeRune_size_pos (first : UInt8) (rest : List UInt8) :
    0 < (decodeRune (first :: rest)).2 := by
  unfold decodeRune
  dsimp only
  split_ifs
  case pos => exact Nat.one_pos
  case pos => exact Nat.one_pos
  case neg => exact Nat.one_pos
  all_goals
    split
    case h_2 => exact Nat.one_pos
    case h_1 => split_ifs <;> exact Nat.succ_pos _

/-- The decoder reads back a character from the front of a text. -/
theorem decodeRune_utf8EncodeChar (char : Char) (rest : List UInt8) :
    decodeRune (String.utf8EncodeChar char ++ rest) =
      (char.toNat, (String.utf8EncodeChar char).length) := by
  have valid : char.toNat < 0xD800 ∨ 0xDFFF < char.toNat ∧ char.toNat < 0x110000 := char.valid
  have byte : ∀ value < 256, (UInt8.ofNat value).toNat = value := by
    intro value small
    rw [UInt8.toNat_ofNat']
    exact Nat.mod_eq_of_lt small
  have toNat : char.val.toNat = char.toNat := rfl
  rw [String.utf8EncodeChar, toNat]
  generalize char.toNat = point at valid
  split_ifs with one two three
  · simp only [List.cons_append, decodeRune, byte point (by omega)]
    rw [if_pos (by omega)]
    rfl
  · simp only [List.cons_append, decodeRune, isTail, byte (point / 64 % 32 + 192) (by omega),
      byte (point % 64 + 128) (by omega), Bool.and_eq_true, decide_eq_true_eq]
    rw [if_neg (by omega), if_neg (by omega), if_pos (by omega), if_pos (by omega)]
    refine Prod.ext ?_ rfl
    show (point / 64 % 32 + 192) % 32 * 64 + (point % 64 + 128) % 64 = point
    omega
  · simp only [List.cons_append, decodeRune, isSecond, isTail,
      byte (point / 4096 % 16 + 224) (by omega), byte (point / 64 % 64 + 128) (by omega),
      byte (point % 64 + 128) (by omega), Bool.and_eq_true, decide_eq_true_eq]
    rw [if_neg (by omega), if_neg (by omega), if_neg (by omega), if_pos (by omega), if_pos ?_]
    · refine Prod.ext ?_ rfl
      show (point / 4096 % 16 + 224) % 16 * 4096 + (point / 64 % 64 + 128) % 64 * 64 +
        (point % 64 + 128) % 64 = point
      omega
    · refine ⟨⟨by omega, ?_⟩, by omega⟩
      split_ifs <;> first | rfl | (rw [decide_eq_true_eq]; omega)
  · simp only [List.cons_append, decodeRune, isSecond, isTail,
      byte (point / 262144 % 8 + 240) (by omega), byte (point / 4096 % 64 + 128) (by omega),
      byte (point / 64 % 64 + 128) (by omega), byte (point % 64 + 128) (by omega),
      Bool.and_eq_true, decide_eq_true_eq]
    rw [if_neg (by omega), if_neg (by omega), if_neg (by omega), if_neg (by omega),
      if_pos (by omega), if_pos ?_]
    · refine Prod.ext ?_ rfl
      show (point / 262144 % 8 + 240) % 8 * 262144 + (point / 4096 % 64 + 128) % 64 * 4096 +
        (point / 64 % 64 + 128) % 64 * 64 + (point % 64 + 128) % 64 = point
      omega
    · refine ⟨⟨⟨by omega, ?_⟩, by omega⟩, by omega⟩
      split_ifs <;> first | rfl | (rw [decide_eq_true_eq]; omega)

end Text
