import OrgMembership.Text.Digits
import OrgMembership.Text.Json
import OrgMembership.Text.Utf8

/-!
# The Glue codec

The definitions that are looked up in the schema registry are escaped to ASCII, and a
published payload is framed by a header of eighteen bytes.
-/

namespace OrgMembership

open Text

/-! ## Definitions in ASCII -/

/-- `\u%04x` of a value below `0x10000`. -/
def escapeUnit (unit : Nat) : List UInt8 :=
  ascii ['\\', 'u'] ++ digits 16 4 unit

/-- What `asciiEscape` writes for a rune. -/
def escapeRune (r : Nat) : List UInt8 :=
  if r < 0x80 then [r.toUInt8]
  else if 0xFFFF < r then
    let r := r - 0x10000
    escapeUnit (0xD800 + r / 1024) ++ escapeUnit (0xDC00 + r % 1024)
  else escapeUnit r

/-- Every rune beyond ASCII is written as one or two `\u` escapes. -/
def asciiEscape (b : List UInt8) : List UInt8 :=
  match b with
  | [] => []
  | first :: rest =>
      let rune := decodeRune (first :: rest)
      escapeRune rune.1 ++ asciiEscape ((first :: rest).drop rune.2)
termination_by b.length
decreasing_by
  have consumed := decodeRune_size_pos first rest
  simp only [List.length_drop, List.length_cons]
  omega

/-- On a text, it goes from character to character. -/
theorem asciiEscape_utf8 (text : List Char) :
    asciiEscape (utf8 text) = text.flatMap fun char => escapeRune char.toNat := by
  induction text with
  | nil => rw [utf8_nil, asciiEscape]; rfl
  | cons char text ih =>
      rw [utf8_cons, List.flatMap_cons, ← ih]
      have decodes := decodeRune_utf8EncodeChar char (utf8 text)
      cases encoded : String.utf8EncodeChar char with
      | nil => exact absurd encoded (by simp)
      | cons first rest =>
          rw [encoded, List.cons_append] at decodes
          rw [List.cons_append, asciiEscape, decodes, ← List.cons_append, List.drop_left]

theorem escapeUnit_eq (unit : Nat) :
    escapeUnit unit = [92, 117, digit (unit / 4096 % 16), digit (unit / 256 % 16),
      digit (unit / 16 % 16), digit (unit % 16)] := by
  simp [escapeUnit, ascii, digits, Nat.div_div_eq_div_mul]

theorem digit_ascii : ∀ value < 16, (digit value).toNat < 128 := by
  decide

theorem hexDigit?_digit :
    ∀ value < 16, Json.hexDigit? (Char.ofUInt8 (digit value)) = some value := by
  decide

theorem escapeUnit_ascii {unit : Nat} : ∀ byte ∈ escapeUnit unit, byte.toNat < 128 := by
  have digits : ∀ value, (digit (value % 16)).toNat < 128 :=
    fun value => digit_ascii _ (Nat.mod_lt _ (by decide))
  rw [escapeUnit_eq]
  simp [digits]

theorem escapeRune_ascii {r : Nat} : ∀ byte ∈ escapeRune r, byte.toNat < 128 := by
  intro byte mem
  rw [escapeRune] at mem
  split_ifs at mem with small wide
  · rw [List.mem_singleton.mp mem]
    simp
    omega
  · rcases List.mem_append.mp mem with first | second
    · exact escapeUnit_ascii byte first
    · exact escapeUnit_ascii byte second
  · exact escapeUnit_ascii byte mem

section Reading

variable {lexer next : Json.Lexer}

/-- The text of an escape. -/
def asText (bytes : List UInt8) : List Char :=
  bytes.map Char.ofUInt8

theorem foldlM_escapeUnit {unit : Nat} {tokens : List Json.Token} {points : Json.Points}
    (small : unit < 0x10000) :
    (asText (escapeUnit unit)).foldlM Json.step ⟨tokens, .inString points .plain⟩ =
      some ⟨tokens, .inString (points.unit unit) .plain⟩ := by
  have read : ∀ value, Json.hexDigit? (Char.ofUInt8 (digit (value % 16))) = some (value % 16) :=
    fun value => hexDigit?_digit _ (Nat.mod_lt _ (by decide))
  have runs := Json.foldlM_unicode tokens points (read (unit / 4096)) (read (unit / 256))
    (read (unit / 16)) (read unit)
  have whole : ((unit / 4096 % 16 * 16 + unit / 256 % 16) * 16 + unit / 16 % 16) * 16 +
      unit % 16 = unit := by omega
  rw [whole] at runs
  rw [escapeUnit_eq]
  exact runs

theorem foldlM_escapePair (tokens : List Json.Token) (points : Json.Points) {high low : Nat}
    (isHigh : 0xD800 ≤ high ∧ high < 0xDC00) (isLow : 0xDC00 ≤ low ∧ low < 0xE000) :
    (asText (escapeUnit high ++ escapeUnit low)).foldlM Json.step
        ⟨tokens, .inString points .plain⟩ =
      some ⟨tokens, .inString (points.literal (Json.combine high low)) .plain⟩ := by
  have first : Json.isHigh high = true := by
    simpa only [Json.isHigh, Bool.and_eq_true, decide_eq_true_eq] using isHigh
  have second : Json.isLow low = true := by
    simpa only [Json.isLow, Bool.and_eq_true, decide_eq_true_eq] using isLow
  rw [asText, List.map_append, List.foldlM_append]
  refine Option.bind_eq_some_iff.mpr ⟨_, foldlM_escapeUnit (by omega), ?_⟩
  rw [← points.unit_unit_eq_literal first second]
  exact foldlM_escapeUnit (by omega)

/-- A character and its escape take a text to the same place, where the character may
stand at all. -/
theorem foldlM_escapeRune {char : Char} (steps : Json.step lexer char = some next) :
    (asText (escapeRune char.toNat)).foldlM Json.step lexer = some next := by
  have valid : char.toNat < 0xD800 ∨ 0xDFFF < char.toNat ∧ char.toNat < 0x110000 := char.valid
  by_cases small : char.toNat < 0x80
  · have same : asText (escapeRune char.toNat) = [char] := by
      have byte : (Char.ofUInt8 char.toNat.toUInt8).toNat = char.toNat := by
        change char.toNat.toUInt8.toUInt32.toNat = char.toNat
        simp
        omega
      rw [escapeRune, if_pos small, asText, List.map_singleton, Char.toNat_inj.mp byte]
    rw [same]
    simpa using steps
  · obtain ⟨points, here, rfl⟩ := Json.step_wide (by omega) steps
    obtain ⟨tokens, state⟩ := lexer
    cases here
    rw [escapeRune, if_neg small]
    split_ifs with wide
    · have whole : Json.combine (0xD800 + (char.toNat - 0x10000) / 1024)
          (0xDC00 + (char.toNat - 0x10000) % 1024) = char.toNat := by
        unfold Json.combine
        omega
      have first : 0xD800 ≤ 0xD800 + (char.toNat - 0x10000) / 1024 ∧
          0xD800 + (char.toNat - 0x10000) / 1024 < 0xDC00 := by omega
      have second : 0xDC00 ≤ 0xDC00 + (char.toNat - 0x10000) % 1024 ∧
          0xDC00 + (char.toNat - 0x10000) % 1024 < 0xE000 := by omega
      dsimp only
      rw [foldlM_escapePair tokens points first second, whole]
    · rw [foldlM_escapeUnit (by omega), points.unit_eq_literal]
      · simp only [Json.isLow, Bool.and_eq_false_iff, decide_eq_false_iff_not]
        omega
      · simp only [Json.isHigh, Bool.and_eq_false_iff, decide_eq_false_iff_not]
        omega

theorem foldlM_flatMap_escapeRune {text : List Char}
    (reads : text.foldlM Json.step lexer = some next) :
    (asText (text.flatMap fun char => escapeRune char.toNat)).foldlM Json.step lexer =
      some next := by
  induction text generalizing lexer with
  | nil => exact reads
  | cons char text ih =>
      rw [List.foldlM_cons] at reads
      obtain ⟨middle, steps, rest⟩ := Option.bind_eq_some_iff.mp reads
      rw [List.flatMap_cons, asText, List.map_append, List.foldlM_append]
      exact Option.bind_eq_some_iff.mpr ⟨middle, foldlM_escapeRune steps, ih rest⟩

end Reading

/-- The escaped form of a JSON text is a text in ASCII with the same value. -/
theorem asciiEscape_denotes (text : List Char) (value : Json.Value)
    (valid : Json.parse text = some value) :
    ∃ escaped : List Char, asciiEscape (utf8 text) = utf8 escaped ∧
      (∀ byte ∈ asciiEscape (utf8 text), byte.toNat < 128) ∧ Json.parse escaped = some value := by
  have ascii : ∀ byte ∈ asciiEscape (utf8 text), byte.toNat < 128 := by
    intro byte mem
    rw [asciiEscape_utf8] at mem
    obtain ⟨char, _, written⟩ := List.mem_flatMap.mp mem
    exact escapeRune_ascii byte written
  refine ⟨asText (asciiEscape (utf8 text)), (utf8_ascii ascii).symm, ascii, ?_⟩
  have same : Json.tokens (asText (asciiEscape (utf8 text))) = Json.tokens text := by
    rw [Json.parse] at valid
    obtain ⟨tokens, lexed, _⟩ := Option.bind_eq_some_iff.mp valid
    obtain ⟨lexer, reads, _⟩ := Option.bind_eq_some_iff.mp lexed
    rw [Json.tokens, Json.tokens, asciiEscape_utf8, foldlM_flatMap_escapeRune reads, reads]
  rw [Json.parse, same]
  exact valid

/-- A string with a character of two bytes and one of four. -/
theorem asciiEscape_denotes_string :
    ∃ escaped : List Char, asciiEscape (utf8 ['"', 'é', '😀', '"']) = utf8 escaped ∧
      (∀ byte ∈ asciiEscape (utf8 ['"', 'é', '😀', '"']), byte.toNat < 128) ∧
      Json.parse escaped = some (.string [0xE9, 0x1F600]) :=
  asciiEscape_denotes _ _ rfl

/-! ## The wire format -/

/-- The first byte of a frame. -/
def glueHeaderVersion : UInt8 := 0x03

/-- The second byte of a frame whose payload is not compressed. -/
def glueNoCompression : UInt8 := 0x00

/-- The version, the compression and the schema version UUID. -/
def glueHeaderSize : Nat := 18

/-- The errors of the framing, each with the value that its text names. -/
inductive GlueError where
  /-- `parse schema version UUID %q: %w` -/
  | parseVersion (schemaVersionID : String)
  /-- `glue codec: encoded payload is %d bytes — shorter than the %d-byte Glue header` -/
  | shorterThanHeader (size : Nat)
  /-- `glue codec: unexpected header version byte 0x%02x — want 0x%02x` -/
  | unexpectedVersion (byte : UInt8)
  deriving Repr, DecidableEq

/-- The library's UUIDs: `uuid.Parse`, and `UUID.String`, whose texts it accepts. -/
structure UuidTexts where
  parse : String → Option (Vector UInt8 16)
  text : Vector UInt8 16 → String
  parse_text : ∀ id, parse (text id) = some id

/-- Frame a payload under a schema version. -/
def prependGlueHeader (uuid : UuidTexts) (schemaVersionID : String) (payload : List UInt8) :
    Except GlueError (List UInt8) :=
  match uuid.parse schemaVersionID with
  | none => .error (.parseVersion schemaVersionID)
  | some id => .ok (glueHeaderVersion :: glueNoCompression :: id.toList ++ payload)

/-- The compression byte is not read. -/
def stripGlueHeader (encoded : List UInt8) : Except GlueError (List UInt8) :=
  if encoded.length < glueHeaderSize then
    .error (.shorterThanHeader encoded.length)
  else if encoded.getD 0 0 ≠ glueHeaderVersion then
    .error (.unexpectedVersion (encoded.getD 0 0))
  else
    .ok (encoded.drop glueHeaderSize)

variable {uuid : UuidTexts}

theorem prependGlueHeader_eq_ok {schemaVersionID : String} {payload framed : List UInt8} :
    prependGlueHeader uuid schemaVersionID payload = .ok framed ↔
      ∃ id, uuid.parse schemaVersionID = some id ∧
        framed = glueHeaderVersion :: glueNoCompression :: id.toList ++ payload := by
  rw [prependGlueHeader]
  cases uuid.parse schemaVersionID with
  | none => simp
  | some id => simp [eq_comm]

theorem stripGlueHeader_eq_ok {encoded payload : List UInt8} :
    stripGlueHeader encoded = .ok payload ↔
      ∃ compression, ∃ id : Vector UInt8 16,
        encoded = glueHeaderVersion :: compression :: id.toList ++ payload := by
  constructor
  · intro stripped
    rw [stripGlueHeader] at stripped
    split_ifs at stripped with short version
    cases stripped
    match encoded with
    | [] | [_] => exact absurd (by simp [glueHeaderSize]) short
    | first :: compression :: rest =>
        have sized : (rest.take 16).toArray.size = 16 := by
          simp only [glueHeaderSize, List.length_cons] at short
          simp
          omega
        have same : first = glueHeaderVersion := by simpa using version
        refine ⟨compression, ⟨(rest.take 16).toArray, sized⟩, ?_⟩
        simp [same, glueHeaderSize]
  · rintro ⟨compression, id, rfl⟩
    have dropped : (id.toList ++ payload).drop 16 = payload := by
      rw [List.drop_append_of_le_length (by simp), List.drop_eq_nil_of_le (by simp)]
      rfl
    simp [stripGlueHeader, glueHeaderSize, dropped]

/-- Framing is inverted by stripping, and what is stripped of a byte string is a framed payload
exactly if the string declares no compression, is too short, or has another version. -/
theorem glue_framing_exact (uuid : UuidTexts) :
    (∀ schemaVersionID id payload, uuid.parse schemaVersionID = some id →
      ∃ framed, prependGlueHeader uuid schemaVersionID payload = .ok framed ∧
        stripGlueHeader framed = .ok payload) ∧
    ∀ encoded, (∀ payload, stripGlueHeader encoded = .ok payload →
        ∃ schemaVersionID, prependGlueHeader uuid schemaVersionID payload = .ok encoded) ↔
      encoded.length < glueHeaderSize ∨ encoded[0]? ≠ some glueHeaderVersion ∨
        encoded[1]? = some glueNoCompression := by
  constructor
  · intro schemaVersionID id payload parses
    refine ⟨_, prependGlueHeader_eq_ok.mpr ⟨id, parses, rfl⟩, ?_⟩
    exact stripGlueHeader_eq_ok.mpr ⟨glueNoCompression, id, rfl⟩
  intro encoded
  constructor
  · intro frames
    -- A string that is neither too short nor of another version is stripped.
    rw [← or_assoc, or_iff_not_imp_left]
    intro stripped
    rw [not_or, Nat.not_lt, not_not] at stripped
    obtain ⟨long, version⟩ := stripped
    have read : encoded.getD 0 0 = glueHeaderVersion := by rw [List.getD, version]; rfl
    obtain ⟨_, framed⟩ := frames (encoded.drop glueHeaderSize) (by
      rw [stripGlueHeader, if_neg (Nat.not_lt.mpr long), if_neg (not_not.mpr read)])
    obtain ⟨id, _, same⟩ := prependGlueHeader_eq_ok.mp framed
    rw [same]
    rfl
  · intro admitted payload stripped
    obtain ⟨compression, id, rfl⟩ := stripGlueHeader_eq_ok.mp stripped
    rcases admitted with short | version | plain
    · simp [glueHeaderSize] at short
      omega
    · exact absurd rfl version
    · cases plain
      exact ⟨uuid.text id, prependGlueHeader_eq_ok.mpr ⟨id, uuid.parse_text id, rfl⟩⟩

/-- The hexadecimal form of bytes. -/
def hexText (bytes : List UInt8) : List Char :=
  bytes.flatMap fun byte => asText [digit (byte.toNat / 16), digit (byte.toNat % 16)]

/-- The bytes of a hexadecimal form. -/
def hexBytes? : List Char → Option (List UInt8)
  | [] => some []
  | [_] => none
  | high :: low :: rest => do
      let high ← Json.hexDigit? high
      let low ← Json.hexDigit? low
      let bytes ← hexBytes? rest
      return (high * 16 + low).toUInt8 :: bytes

theorem hexBytes?_hexText (bytes : List UInt8) : hexBytes? (hexText bytes) = some bytes := by
  induction bytes with
  | nil => rfl
  | cons byte bytes ih =>
      have high := hexDigit?_digit (byte.toNat / 16) (by have := byte.toNat_lt; omega)
      have low := hexDigit?_digit (byte.toNat % 16) (Nat.mod_lt _ (by decide))
      have whole : byte.toNat / 16 * 16 + byte.toNat % 16 = byte.toNat := by omega
      have split : hexText (byte :: bytes) = Char.ofUInt8 (digit (byte.toNat / 16)) ::
          Char.ofUInt8 (digit (byte.toNat % 16)) :: hexText bytes := rfl
      rw [split, hexBytes?, high, low, ih]
      show some ((byte.toNat / 16 * 16 + byte.toNat % 16).toUInt8 :: bytes) = _
      rw [whole]
      simp

/-- The form of thirty-two hexadecimal digits, one of those that `uuid.Parse` accepts. -/
def hexTexts : UuidTexts where
  parse text := (hexBytes? text.toList).bind fun bytes =>
    if sized : bytes.toArray.size = 16 then some ⟨bytes.toArray, sized⟩ else none
  text id := String.ofList (hexText id.toList)
  parse_text id := by
    simp [hexBytes?_hexText, Vector.toList]

theorem glue_framing_exact_hexTexts :
    (∃ framed, prependGlueHeader hexTexts "0123456789abcdef0123456789abcdef" [0x7B, 0x7D] =
      .ok framed ∧ stripGlueHeader framed = .ok [0x7B, 0x7D]) ∧
    ∃ schemaVersionID, prependGlueHeader hexTexts schemaVersionID [0x7B, 0x7D] =
      .ok (3 :: 0 :: List.replicate 16 7 ++ [0x7B, 0x7D]) :=
  ⟨(glue_framing_exact hexTexts).1 _ _ _ rfl,
    ((glue_framing_exact hexTexts).2 _).mpr (.inr (.inr rfl)) _ rfl⟩

/-- A frame that declares compression is stripped all the same. -/
theorem stripGlueHeader_compressed :
    stripGlueHeader (3 :: 5 :: List.replicate 16 0 ++ [0x78, 0x9C]) = .ok [0x78, 0x9C] ∧
    ∀ uuid schemaVersionID, prependGlueHeader uuid schemaVersionID [0x78, 0x9C] ≠
      .ok (3 :: 5 :: List.replicate 16 0 ++ [0x78, 0x9C]) := by
  refine ⟨rfl, fun uuid schemaVersionID frames => ?_⟩
  obtain ⟨id, _, same⟩ := prependGlueHeader_eq_ok.mp frames
  exact absurd (congrArg (·.getD 1 0) same) (by simp [glueNoCompression])

end OrgMembership
