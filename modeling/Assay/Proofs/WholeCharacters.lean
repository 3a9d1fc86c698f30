import Assay.Proofs.Arrival

/-!
# Texts of captures that were cut off

A cap on the bytes of a text cuts at most one of its characters. The lossy decoder reads every
character before the cut as it was encoded and the cut one as a single replacement.
-/

namespace Assay.Text

/-! ## Characters of one to four bytes -/

theorem toNat_ofNat_tail (n : Nat) : (UInt8.ofNat (n % 64 + 128)).toNat = n % 64 + 128 :=
  UInt8.toNat_ofNat_of_lt' (show n % 64 + 128 < 256 by omega)

theorem isTail_ofNat (n : Nat) : isTail (UInt8.ofNat (n % 64 + 128)) = true := by
  simp only [isTail, Bool.and_eq_true, decide_eq_true_iff, UInt8.le_iff_toNat_le,
    toNat_ofNat_tail, UInt8.reduceToNat]
  omega

theorem tailBits_ofNat (n : Nat) : tailBits (UInt8.ofNat (n % 64 + 128)) = n % 64 := by
  rw [tailBits, toNat_ofNat_tail]
  omega

theorem isSecond_ofNat {first : UInt8} {n : Nat}
    (bounds : (first.toNat = 0xE0 → 0x20 ≤ n % 64) ∧ (first.toNat = 0xED → n % 64 < 0x20) ∧
      (first.toNat = 0xF0 → 0x10 ≤ n % 64) ∧ (first.toNat = 0xF4 → n % 64 < 0x10)) :
    isSecond first (UInt8.ofNat (n % 64 + 128)) = true := by
  simp only [isSecond, secondBounds, Bool.and_eq_true, decide_eq_true_iff, UInt8.le_iff_toNat_le,
    toNat_ofNat_tail, ← UInt8.toNat_inj, UInt8.reduceToNat]
  repeat' split
  all_goals simp only [UInt8.reduceToNat]
  all_goals omega

/-- A first byte and its tail read as a character, whatever follows, and as one broken reading
where the tail is cut short. -/
structure Spells (first : UInt8) (tail : Bytes) (c : Char) : Prop where
  whole (rest : Bytes) : readChar first (tail ++ rest) = .char c rest
  cut {k : Nat} (short : k < tail.length) : readChar first (tail.take k) = .broken []

theorem spells_one {v : Nat} (small : v ≤ 0x7F) : Spells (UInt8.ofNat v) [] (Char.ofNat v) where
  whole rest := by
    have byte : v < 256 := by omega
    have ascii : UInt8.ofNat v < 0x80 := (UInt8.ofNat_lt_iff byte).mpr (Nat.lt_succ_of_le small)
    unfold readChar
    rw [if_pos ascii, UInt8.toNat_ofNat_of_lt' byte, List.nil_append]
  cut short := absurd short (Nat.not_lt_zero _)

theorem spells_two {v : Nat} (large : 0x7F < v) (small : v ≤ 0x7FF) :
    Spells (UInt8.ofNat (v / 64 % 32 + 192)) [UInt8.ofNat (v % 64 + 128)] (Char.ofNat v) := by
  have lead := UInt8.toNat_ofNat_of_lt' (show v / 64 % 32 + 192 < 256 by omega)
  generalize UInt8.ofNat (v / 64 % 32 + 192) = first at lead
  have range : ¬first < 0x80 ∧ 0xC2 ≤ first ∧ first ≤ 0xDF := by
    simp only [UInt8.lt_iff_toNat_lt, UInt8.le_iff_toNat_le, lead, UInt8.reduceToNat]
    omega
  have value : first.toNat % 32 * 64 + v % 64 = v := by omega
  constructor
  · intro rest
    simp only [readChar, range, List.cons_append, List.nil_append, isTail_ofNat, tailBits_ofNat,
      value, if_true, if_false, and_self]
  · intro k short
    obtain rfl : k = 0 := by simpa using short
    simp only [readChar, range, List.take_zero, if_true, if_false, and_self]

theorem spells_three {v : Nat} (large : 0x7FF < v) (small : v ≤ 0xFFFF)
    (valid : v < 0xD800 ∨ 0xDFFF < v) :
    Spells (UInt8.ofNat (v / 4096 % 16 + 224))
      [UInt8.ofNat (v / 64 % 64 + 128), UInt8.ofNat (v % 64 + 128)] (Char.ofNat v) := by
  have lead := UInt8.toNat_ofNat_of_lt' (show v / 4096 % 16 + 224 < 256 by omega)
  generalize UInt8.ofNat (v / 4096 % 16 + 224) = first at lead
  have range : ¬first < 0x80 ∧ ¬(0xC2 ≤ first ∧ first ≤ 0xDF) ∧ 0xE0 ≤ first ∧ first ≤ 0xEF := by
    simp only [UInt8.lt_iff_toNat_lt, UInt8.le_iff_toNat_le, lead, UInt8.reduceToNat]
    omega
  have second : isSecond first (UInt8.ofNat (v / 64 % 64 + 128)) = true :=
    isSecond_ofNat (by omega)
  have value : first.toNat % 16 * 4096 + v / 64 % 64 * 64 + v % 64 = v := by omega
  constructor
  · intro rest
    simp only [readChar, range, List.cons_append, List.nil_append, second, isTail_ofNat,
      tailBits_ofNat, value, if_true, if_false, and_self]
  · intro k short
    obtain rfl | rfl : k = 0 ∨ k = 1 := by simp at short; omega
    all_goals simp only [readChar, range, second, List.take_zero, List.take_succ_cons, if_true,
      if_false, and_self]

theorem spells_four {v : Nat} (large : 0xFFFF < v) (small : v < 0x110000) :
    Spells (UInt8.ofNat (v / 262144 % 8 + 240))
      [UInt8.ofNat (v / 4096 % 64 + 128), UInt8.ofNat (v / 64 % 64 + 128),
        UInt8.ofNat (v % 64 + 128)] (Char.ofNat v) := by
  have lead := UInt8.toNat_ofNat_of_lt' (show v / 262144 % 8 + 240 < 256 by omega)
  generalize UInt8.ofNat (v / 262144 % 8 + 240) = first at lead
  have range : ¬first < 0x80 ∧ ¬(0xC2 ≤ first ∧ first ≤ 0xDF) ∧ ¬(0xE0 ≤ first ∧ first ≤ 0xEF) ∧
      0xF0 ≤ first ∧ first ≤ 0xF4 := by
    simp only [UInt8.lt_iff_toNat_lt, UInt8.le_iff_toNat_le, lead, UInt8.reduceToNat]
    omega
  have second : isSecond first (UInt8.ofNat (v / 4096 % 64 + 128)) = true :=
    isSecond_ofNat (by omega)
  have value : first.toNat % 8 * 262144 + v / 4096 % 64 * 4096 + v / 64 % 64 * 64 + v % 64 = v := by
    omega
  constructor
  · intro rest
    simp only [readChar, range, List.cons_append, List.nil_append, second, isTail_ofNat,
      tailBits_ofNat, value, if_true, if_false, and_self]
  · intro k short
    obtain rfl | rfl | rfl : k = 0 ∨ k = 1 ∨ k = 2 := by simp at short; omega
    all_goals simp only [readChar, range, second, isTail_ofNat, List.take_zero, List.take_succ_cons,
      if_true, if_false, and_self]

theorem exists_spells (c : Char) :
    ∃ first tail, String.utf8EncodeChar c = first :: tail ∧ Spells first tail c := by
  have valid : c.val.toNat < 0xD800 ∨ 0xDFFF < c.val.toNat ∧ c.val.toNat < 0x110000 := c.valid
  have same : Char.ofNat c.val.toNat = c := Char.ofNat_toNat c
  unfold String.utf8EncodeChar
  generalize c.val.toNat = v at valid same
  subst same
  dsimp only
  split
  next one => exact ⟨_, _, rfl, spells_one one⟩
  next more =>
    split
    next two => exact ⟨_, _, rfl, spells_two (Nat.lt_of_not_le more) two⟩
    next more =>
      split
      next three => exact ⟨_, _, rfl, spells_three (Nat.lt_of_not_le more) three (by omega)⟩
      next four => exact ⟨_, _, rfl, spells_four (Nat.lt_of_not_le four) (by omega)⟩

/-! ## Decoding what was encoded -/

theorem decodeOnto_utf8EncodeChar (read : List Char) (c : Char) (rest : Bytes) :
    decodeOnto read (String.utf8EncodeChar c ++ rest) = decodeOnto (c :: read) rest := by
  obtain ⟨first, tail, bytes, spells⟩ := exists_spells c
  rw [bytes, List.cons_append, decodeOnto_cons, spells.whole]

theorem decodeOnto_take_utf8EncodeChar (read : List Char) {c : Char} {k : Nat}
    (some : 0 < k) (short : k < c.utf8Size) :
    decodeOnto read ((String.utf8EncodeChar c).take k) = replacement :: read := by
  obtain ⟨first, tail, bytes, spells⟩ := exists_spells c
  have size := String.length_utf8EncodeChar c
  rw [bytes, List.length_cons] at size
  obtain ⟨k, rfl⟩ := Nat.exists_eq_add_one.mpr some
  rw [bytes, List.take_succ_cons, decodeOnto_cons, spells.cut (by omega)]
  exact decodeOnto.eq_1 _

theorem decodeOnto_flatMap (read chars : List Char) (rest : Bytes) :
    decodeOnto read (chars.flatMap String.utf8EncodeChar ++ rest) =
      decodeOnto (chars.reverse ++ read) rest := by
  induction chars generalizing read with
  | nil => rfl
  | cons c chars ih =>
    rw [List.flatMap_cons, List.append_assoc, decodeOnto_utf8EncodeChar, ih]
    simp

theorem utf8ByteSize_ofList (chars : List Char) :
    (String.ofList chars).utf8ByteSize = (chars.flatMap String.utf8EncodeChar).length := by
  rw [← String.size_toByteArray, String.toByteArray_ofList, List.utf8Encode, List.size_toByteArray]

theorem length_encode (text : String) : (encode text).length = text.utf8ByteSize := by
  rw [encode, ← utf8ByteSize_ofList, String.ofList_toList]

/-! ## Where a cap falls -/

/-- The longest part from the start of a text, in whole characters, that fits in so many bytes. -/
structure IsLongestFront (text : String) (cap : Nat) (front : String) : Prop where
  starts : front.toList <+: text.toList
  fits : front.utf8ByteSize ≤ cap
  longest {other : String} (begins : other.toList <+: text.toList)
    (small : other.utf8ByteSize ≤ cap) : other.toList <+: front.toList

theorem utf8ByteSize_mono {left right : String} (begins : left.toList <+: right.toList) :
    left.utf8ByteSize ≤ right.utf8ByteSize := by
  obtain ⟨more, same⟩ := begins
  rw [← length_encode, ← length_encode, encode, encode, ← same, List.flatMap_append,
    List.length_append]
  exact Nat.le_add_right ..

theorem IsLongestFront.isValid_iff {text front : String} {cap : Nat}
    (longest : IsLongestFront text cap front) :
    (⟨cap⟩ : String.Pos.Raw).IsValid text ↔ front.utf8ByteSize = cap := by
  rw [String.Pos.Raw.isValid_iff_exists_append]
  constructor
  · rintro ⟨other, rest, rfl, same⟩
    have size : cap = other.utf8ByteSize := congrArg String.Pos.Raw.byteIdx same
    have begins : other.toList <+: (other ++ rest).toList := ⟨rest.toList, by simp⟩
    exact Nat.le_antisymm longest.fits
      (size ▸ utf8ByteSize_mono (longest.longest begins (Nat.le_of_eq size.symm)))
  · intro size
    obtain ⟨rest, same⟩ := longest.starts
    exact ⟨front, String.ofList rest, by simp [← String.toList_inj, same], by simp [← size]; rfl⟩

/-- A cap that is too small falls in one of the characters, or before it. -/
theorem exists_cut {cap : Nat} {chars : List Char}
    (long : cap < (chars.flatMap String.utf8EncodeChar).length) :
    ∃ kept c lost k, chars = kept ++ c :: lost ∧ k < c.utf8Size ∧
      cap = (kept.flatMap String.utf8EncodeChar).length + k := by
  induction chars generalizing cap with
  | nil => exact absurd long (Nat.not_lt_zero cap)
  | cons c chars ih =>
    by_cases inside : cap < c.utf8Size
    · exact ⟨[], c, chars, cap, rfl, inside, (Nat.zero_add cap).symm⟩
    · rw [List.flatMap_cons, List.length_append, String.length_utf8EncodeChar] at long
      have beyond : cap - c.utf8Size < (chars.flatMap String.utf8EncodeChar).length := by omega
      obtain ⟨kept, d, lost, k, rfl, short, place⟩ := ih beyond
      refine ⟨c :: kept, d, lost, k, rfl, short, ?_⟩
      rw [List.flatMap_cons, List.length_append, String.length_utf8EncodeChar]
      omega

theorem isLongestFront_of_cut (kept lost : List Char) {c : Char} {k : Nat}
    (short : k < c.utf8Size) :
    IsLongestFront (String.ofList (kept ++ c :: lost))
      ((kept.flatMap String.utf8EncodeChar).length + k) (String.ofList kept) := by
  refine ⟨?_, ?_, fun {other} begins small => ?_⟩
  · rw [String.toList_ofList, String.toList_ofList]
    exact List.prefix_append ..
  · rw [utf8ByteSize_ofList]
    exact Nat.le_add_right ..
  · -- A front with one more character has more bytes than are allowed.
    have larger : ¬(String.ofList (kept ++ [c])).toList <+: other.toList := by
      intro more
      have grown := utf8ByteSize_mono more
      rw [utf8ByteSize_ofList, List.flatMap_append, List.length_append,
        List.flatMap_singleton, String.length_utf8EncodeChar] at grown
      omega
    have next : (String.ofList (kept ++ [c])).toList <+:
        (String.ofList (kept ++ c :: lost)).toList := by
      rw [String.toList_ofList, String.toList_ofList, List.append_cons kept c lost]
      exact List.prefix_append ..
    have before := (List.prefix_or_prefix_of_prefix begins next).resolve_right larger
    rw [String.toList_ofList] at larger before ⊢
    rcases List.prefix_concat_iff.mp before with same | within
    · exact absurd (same ▸ List.prefix_rfl) larger
    · exact within

theorem decodeLossy_of_cut (kept lost : List Char) {c : Char} {k : Nat}
    (short : k < c.utf8Size) :
    decodeLossy (((kept ++ c :: lost).flatMap String.utf8EncodeChar).take
      ((kept.flatMap String.utf8EncodeChar).length + k)) =
      if k = 0 then String.ofList kept else (String.ofList kept).push replacement := by
  have within : k ≤ (String.utf8EncodeChar c).length := by
    rw [String.length_utf8EncodeChar]
    exact Nat.le_of_lt short
  rw [decodeLossy, List.flatMap_append, List.take_length_add_append, List.flatMap_cons,
    List.take_append_of_le_length within, decodeOnto_flatMap, List.append_nil]
  split
  next boundary => rw [boundary, List.take_zero, decodeOnto, List.reverse_reverse]
  next inside =>
    rw [decodeOnto_take_utf8EncodeChar _ (Nat.pos_of_ne_zero inside) short]
    simp

theorem decodeLossy_encode (text : String) : decodeLossy (encode text) = text := by
  have decoded := decodeOnto_flatMap [] text.toList []
  rw [List.append_nil, List.append_nil, decodeOnto] at decoded
  rw [decodeLossy, encode, decoded, List.reverse_reverse, String.ofList_toList]

end Assay.Text

namespace Assay.Child.Capture

open Machine

variable {Fault : Type}

/-- A stream that is a text, read or written to a sink, is shown as this text if it fits. Else it
is shown up to the last character that fits, and a replacement character stands for one that the
cap falls into. -/
theorem text_of_arrival (whole : String) (cap : Nat) (reads later : List (Read Fault))
    (going : ∀ read ∈ reads, read.Continues)
    (sent : reads.flatMap Read.bytes = Text.encode whole) :
    ∃ capture, ofReads cap (reads ++ .chunk [] :: later) = (.ok capture, later) ∧
      (∀ (m : Machine) (i : Nat) (writes : List Text.Bytes),
        m.streams[i]? = some (.sink [] cap false) → writes.flatten = Text.encode whole →
        ∃ post, m.writeAll i writes = some post ∧ post.capture i = capture) ∧
      (whole.utf8ByteSize ≤ cap → capture.text = whole) ∧
      (cap < whole.utf8ByteSize → ∃ front, Text.IsLongestFront whole cap front ∧
        ((⟨cap⟩ : String.Pos.Raw).IsValid whole → capture.text = front) ∧
        (¬(⟨cap⟩ : String.Pos.Raw).IsValid whole → capture.text = front.push '\uFFFD')) := by
  refine ⟨ofBytes cap (Text.encode whole), ?_, fun m i writes fresh same => ?_, fun fits => ?_,
    fun long => ?_⟩
  · rw [ofReads_append cap going, sent]
    rfl
  · exact same ▸ capture_writeAll fresh writes
  · rw [← Text.length_encode] at fits
    rw [text, ofBytes_eq, List.take_of_length_le fits, Text.decodeLossy_encode]
  · rw [← Text.length_encode, Text.encode] at long
    obtain ⟨kept, c, lost, k, chars, short, rfl⟩ := Text.exists_cut long
    obtain rfl : whole = String.ofList (kept ++ c :: lost) := by
      rw [← chars, String.ofList_toList]
    have longest := Text.isLongestFront_of_cut kept lost short
    refine ⟨_, longest, ?_⟩
    rw [longest.isValid_iff, Text.utf8ByteSize_ofList, text, ofBytes_eq, Text.encode,
      String.toList_ofList, Text.decodeLossy_of_cut kept lost short]
    exact ⟨fun boundary => if_pos (by omega), fun inside => if_neg (by omega)⟩

theorem text_of_arrival_inside :
    let reads : List (Read SysFault) := [.chunk [0x61, 0xC3], .interrupted, .chunk [0xA9]]
    (∀ read ∈ reads, read.Continues) ∧ reads.flatMap Read.bytes = Text.encode "aé" ∧
      ∃ capture front, ofReads 2 (reads ++ .chunk [] :: []) = (.ok capture, []) ∧
        Text.IsLongestFront "aé" 2 front ∧ capture.text = front.push '\uFFFD' := by
  intro reads
  have going : ∀ read ∈ reads, read.Continues := by
    simp only [reads, List.forall_mem_cons]
    exact ⟨.chunk _ (by decide), .interrupted, .chunk _ (by decide), by simp⟩
  have sent : reads.flatMap Read.bytes = Text.encode "aé" := by decide
  obtain ⟨capture, result, _, _, cut⟩ := text_of_arrival "aé" 2 reads [] going sent
  obtain ⟨front, longest, _, inside⟩ := cut (by decide)
  exact ⟨going, sent, capture, front, result, longest,
    inside (String.Pos.Raw.isValid_eq_false_iff.mp (by decide))⟩

end Assay.Child.Capture
