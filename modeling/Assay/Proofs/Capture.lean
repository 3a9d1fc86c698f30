import Assay.Child.Capture

/-!
# Captured streams and their texts
-/

namespace Assay

namespace Text

theorem decodeOnto_cons (read : List Char) (first : UInt8) (rest : Bytes) :
    decodeOnto read (first :: rest) = match readChar first rest with
      | .char c rest => decodeOnto (c :: read) rest
      | .broken rest => decodeOnto (replacement :: read) rest := by
  rw [decodeOnto]
  split <;> simp only [*]

private theorem decodeOnto_of_decodeOnto? {read chars : List Char} {bytes : Bytes}
    (decoded : decodeOnto? read bytes = some chars) : decodeOnto read bytes = chars := by
  fun_induction decodeOnto? read bytes with
  | case1 read =>
    rw [decodeOnto]
    exact Option.some.inj decoded
  | case2 read first rest char left reading _ ih =>
    rw [decodeOnto_cons, reading]
    exact ih decoded
  | case3 => cases decoded

theorem decodeLossy_of_decode? {bytes : Bytes} {text : String}
    (decoded : decode? bytes = some text) : decodeLossy bytes = text := by
  obtain ⟨read, found, rfl⟩ := Option.map_eq_some_iff.mp decoded
  rw [decodeLossy, decodeOnto_of_decodeOnto? found]

private theorem decodeOnto?_ascii {bytes : Bytes} (ascii : ∀ byte ∈ bytes, byte < 0x80)
    (read : List Char) :
    decodeOnto? read bytes =
      some ((bytes.map fun byte => Char.ofNat byte.toNat).reverse ++ read) := by
  induction bytes generalizing read with
  | nil =>
    rw [decodeOnto?]
    rfl
  | cons byte bytes ih =>
    have low := ascii byte List.mem_cons_self
    have reading : readChar byte bytes = .char (Char.ofNat byte.toNat) bytes := by
      unfold readChar
      rw [if_pos low]
    rw [decodeOnto?]
    split
    next other tail again =>
      rw [reading] at again
      cases again
      rw [ih fun other member => ascii other (List.mem_cons_of_mem _ member)]
      simp only [List.map_cons, List.reverse_cons, List.append_assoc, List.singleton_append]
    next tail again =>
      rw [reading] at again
      cases again

theorem decode?_ascii {bytes : Bytes} (ascii : ∀ byte ∈ bytes, byte < 0x80) :
    decode? bytes = some (String.ofList (bytes.map fun byte => Char.ofNat byte.toNat)) := by
  rw [decode?, decodeOnto?_ascii ascii, Option.map_some, List.append_nil, List.reverse_reverse]

end Text

theorem Child.Capture.ofBytes_of_lt {cap : Nat} {bytes : Text.Bytes} (long : cap < bytes.length) :
    ofBytes cap bytes = { bytes := bytes.take cap, truncated := true } := by
  have beyond : ¬bytes.length ≤ cap := Nat.not_le.mpr long
  simp [ofBytes, absorb, beyond]

end Assay
