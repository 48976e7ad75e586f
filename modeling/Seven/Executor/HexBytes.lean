import Seven.Lib.HexText

/-!
# The hex parser

`parse_hex_bytes` drops the white space of a text, wants an even number of
characters and gives each two of them to `std::from_chars`. That parser stops
without an error at the first character that is no digit, and where it
stopped is not looked at: a pair needs its first digit only.

Main result: `parse_hex_bytes_exact`.
-/

namespace Seven

open Seven.Lib

/-- `std::isspace` in the C locale. -/
def isSpace (c : BitVec 8) : Bool := c == 0x20#8 || (0x09#8 ≤ c && c ≤ 0x0D#8)

/-- The characters that are not white space. -/
def compact (text : List (BitVec 8)) : List (BitVec 8) := text.filter fun c => !isSpace c

/-- One turn of the loop: the pair as an `unsigned`, cut to a byte. -/
def parsePair (pair : BitVec 8 × BitVec 8) : Except String (BitVec 8) :=
  match fromChars16 32 [pair.1, pair.2] with
  | .ok value => .ok (BitVec.ofNat 8 value)
  | .error _ => .error "invalid hex byte string"

/-- `parse_hex_bytes`. -/
def parseHexBytes (text : List (BitVec 8)) : Except String (List (BitVec 8)) :=
  if (compact text).length % 2 ≠ 0 then
    .error "hex byte string must contain an even number of digits"
  else (pairsOf (compact text)).mapM parsePair

/-! ## What the parser is for -/

/-- The parser is right about a text: it accepts exactly whole bytes of
hexadecimal digits and returns what they denote. -/
def ParsesAsHex (text : List (BitVec 8)) : Prop :=
  (HexText (compact text) → parseHexBytes text = .ok (denotedBytes (compact text))) ∧
  (¬ HexText (compact text) → ∃ message, parseHexBytes text = .error message)

/-- Every pair begins with a digit, and in some the second character is none. -/
def LoneDigits (text : List (BitVec 8)) : Prop :=
  text.length % 2 = 0 ∧ (∀ p ∈ pairsOf text, IsHexDigit p.1) ∧
    ∃ p ∈ pairsOf text, ¬ IsHexDigit p.2

/-- `text` is `digits` with white space put in. -/
inductive SpacedOut : List (BitVec 8) → List (BitVec 8) → Prop where
  | nil : SpacedOut [] []
  | keep (c : BitVec 8) {digits text : List (BitVec 8)} :
      SpacedOut digits text → SpacedOut (c :: digits) (c :: text)
  | space {c : BitVec 8} {digits text : List (BitVec 8)} :
      isSpace c = true → SpacedOut digits text → SpacedOut digits (c :: text)

/-! ## The loop -/

section

variable {text : List (BitVec 8)} {l : List (BitVec 8 × BitVec 8)} {p : BitVec 8 × BitVec 8}

/-- A pair of digits. -/
theorem parsePair_hex (h : IsHexDigit p.1 ∧ IsHexDigit p.2) : parsePair p = .ok (pairByte p) := by
  unfold parsePair
  rw [fromChars16_pair (by decide) h.1 h.2]
  rfl

/-- A pair that starts with a digit is accepted, whatever follows. -/
theorem parsePair_first (ha : IsHexDigit p.1) : ∃ b, parsePair p = .ok b := by
  by_cases hb : IsHexDigit p.2
  · exact ⟨_, parsePair_hex ⟨ha, hb⟩⟩
  · refine ⟨BitVec.ofNat 8 (hexDigitValue p.1), ?_⟩
    unfold parsePair
    rw [fromChars16_first (by decide) ha hb]

/-- A pair that does not is refused. -/
theorem parsePair_invalid (ha : ¬ IsHexDigit p.1) :
    parsePair p = .error "invalid hex byte string" := by
  unfold parsePair
  rw [fromChars16_invalid 32 ha]

/-- Pairs of digits, all of them. -/
theorem mapM_parsePair_hex (h : ∀ p ∈ l, IsHexDigit p.1 ∧ IsHexDigit p.2) :
    l.mapM parsePair = .ok (l.map pairByte) := by
  induction l with
  | nil => rfl
  | cons p rest ih =>
    obtain ⟨hp, hrest⟩ := List.forall_mem_cons.mp h
    rw [List.mapM_cons, parsePair_hex hp, ih hrest]
    rfl

/-- The loop ends without an error when every pair begins with a digit. -/
theorem mapM_parsePair_first (h : ∀ p ∈ l, IsHexDigit p.1) :
    ∃ bytes, l.mapM parsePair = .ok bytes := by
  induction l with
  | nil => exact ⟨[], rfl⟩
  | cons p rest ih =>
    obtain ⟨hp, hrest⟩ := List.forall_mem_cons.mp h
    obtain ⟨b, hb⟩ := parsePair_first hp
    obtain ⟨bytes, hbytes⟩ := ih hrest
    refine ⟨b :: bytes, ?_⟩
    rw [List.mapM_cons, hb, hbytes]
    rfl

/-- It throws at the first pair that does not. -/
theorem mapM_parsePair_invalid (h : ¬ ∀ p ∈ l, IsHexDigit p.1) :
    ∃ message, l.mapM parsePair = .error message := by
  induction l with
  | nil => exact absurd (fun p hp => absurd hp List.not_mem_nil) h
  | cons p rest ih =>
    rw [List.mapM_cons]
    by_cases hp : IsHexDigit p.1
    · obtain ⟨b, hb⟩ := parsePair_first hp
      have hrest : ¬ ∀ p ∈ rest, IsHexDigit p.1 :=
        fun hall => h (List.forall_mem_cons.mpr ⟨hp, hall⟩)
      obtain ⟨message, hmessage⟩ := ih hrest
      refine ⟨message, ?_⟩
      rw [hb, hmessage]
      rfl
    · refine ⟨"invalid hex byte string", ?_⟩
      rw [parsePair_invalid hp]
      rfl

/-- Hex text by its pairs. -/
theorem hexText_iff_pairs (heven : text.length % 2 = 0) :
    HexText text ↔ ∀ p ∈ pairsOf text, IsHexDigit p.1 ∧ IsHexDigit p.2 := by
  rw [← forall_mem_pairsOf text heven]
  exact ⟨fun h => h.2, fun h => ⟨heven, h⟩⟩

/-- An even number of characters. -/
theorem parseHexBytes_even (heven : (compact text).length % 2 = 0) :
    parseHexBytes text = (pairsOf (compact text)).mapM parsePair := by
  unfold parseHexBytes
  rw [if_neg (not_not.mpr heven)]

/-- Hex text parses to its bytes. -/
theorem parseHexBytes_hexText (h : HexText (compact text)) :
    parseHexBytes text = .ok (denotedBytes (compact text)) := by
  rw [parseHexBytes_even h.1, mapM_parsePair_hex ((hexText_iff_pairs h.1).mp h)]
  rfl

/-- A text of digit pairs is accepted or refused, by the first character of
each pair. -/
theorem parsesAsHex_iff (text : List (BitVec 8)) :
    ParsesAsHex text ↔ ¬ LoneDigits (compact text) := by
  constructor
  · rintro ⟨-, hrefused⟩ ⟨heven, hfirst, p, hp, hsecond⟩
    have hnot : ¬ HexText (compact text) := by
      intro h
      exact hsecond ((hexText_iff_pairs heven).mp h p hp).2
    obtain ⟨message, herror⟩ := hrefused hnot
    obtain ⟨bytes, hok⟩ := mapM_parsePair_first hfirst
    rw [parseHexBytes_even heven, hok] at herror
    cases herror
  · intro hlone
    refine ⟨parseHexBytes_hexText, fun hnot => ?_⟩
    by_cases heven : (compact text).length % 2 = 0
    · rw [parseHexBytes_even heven]
      apply mapM_parsePair_invalid
      intro hfirst
      -- every pair begins with a digit, so some second character is at fault
      apply hnot
      rw [hexText_iff_pairs heven]
      intro p hp
      refine ⟨hfirst p hp, ?_⟩
      by_contra hsecond
      exact hlone ⟨heven, hfirst, p, hp, hsecond⟩
    · refine ⟨"hex byte string must contain an even number of digits", ?_⟩
      unfold parseHexBytes
      rw [if_pos heven]

end

/-! ## The way back from a rendering -/

/-- A digit is no space. -/
theorem isSpace_renderDigit (upper : Bool) {d : Nat} (hd : d < 16) :
    isSpace (renderDigit upper d) = false := by
  have hall : ∀ upper : Bool, ∀ d < 16, isSpace (renderDigit upper d) = false := by decide
  exact hall upper d hd

/-- Spaces between digits go. -/
theorem compact_spacedOut {digits text : List (BitVec 8)} (h : SpacedOut digits text)
    (hdigits : ∀ c ∈ digits, isSpace c = false) : compact text = digits := by
  induction h with
  | nil => rfl
  | keep c _ ih =>
    obtain ⟨hc, hrest⟩ := List.forall_mem_cons.mp hdigits
    unfold compact at ih ⊢
    rw [List.filter_cons, hc, ih hrest]
    rfl
  | space hspace _ ih =>
    unfold compact at ih ⊢
    rw [List.filter_cons, hspace, ih hdigits]
    rfl

/-- So do those of a rendering. -/
theorem compact_rendered {upper : Bool} {bytes text : List (BitVec 8)}
    (h : SpacedOut (renderHex upper bytes) text) : compact text = renderHex upper bytes := by
  apply compact_spacedOut h
  intro c hc
  obtain ⟨d, hd, rfl⟩ := mem_renderHex hc
  exact isSpace_renderDigit upper hd

/-- The parser is right about a text unless every pair of it begins with a
digit and some pair has no second one. Renderings are never of that kind: with
any white space put in they give their bytes back. -/
theorem parse_hex_bytes_exact (text : List (BitVec 8)) :
    (ParsesAsHex text ↔ ¬ LoneDigits (compact text)) ∧
    ∀ upper bytes, SpacedOut (renderHex upper bytes) text → parseHexBytes text = .ok bytes := by
  refine ⟨parsesAsHex_iff text, fun upper bytes h => ?_⟩
  have hcompact := compact_rendered h
  have htext : HexText (compact text) := by
    rw [hcompact]
    exact hexText_renderHex upper bytes
  rw [parseHexBytes_hexText htext, hcompact, denotedBytes_renderHex]

/-- `48 8b` with a space. -/
theorem parse_hex_bytes_exact_run :
    parseHexBytes [0x34#8, 0x38#8, 0x20#8, 0x38#8, 0x62#8] = .ok [0x48#8, 0x8B#8] := by
  have hspaced : SpacedOut (renderHex false [0x48#8, 0x8B#8])
      [0x34#8, 0x38#8, 0x20#8, 0x38#8, 0x62#8] :=
    .keep _ (.keep _ (.space (by decide) (.keep _ (.keep _ .nil))))
  exact (parse_hex_bytes_exact _).2 false [0x48#8, 0x8B#8] hspaced

/-- `1G` is one digit and a letter; the parser makes a byte of it. -/
theorem parseHexBytes_lone_digit :
    parseHexBytes [0x31#8, 0x47#8] = .ok [0x01#8] ∧ ¬ ParsesAsHex [0x31#8, 0x47#8] := by
  have hparse : parseHexBytes [0x31#8, 0x47#8] = .ok [0x01#8] := rfl
  refine ⟨hparse, fun h => ?_⟩
  obtain ⟨message, herror⟩ := h.2 fun htext => absurd (htext.2 0x47#8 (by decide)) (by decide)
  rw [hparse] at herror
  cases herror

end Seven
