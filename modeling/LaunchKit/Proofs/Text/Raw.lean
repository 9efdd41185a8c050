import LaunchKit.Proofs.Outcome
import LaunchKit.Text.Raw

/-!
# Raw texts and their bytes

What the system hands over goes back to it unchanged, and so does a text without surrogates on its
way to the system and back. A raw text need not come back as it was: its surrogates may turn out to
encode a character, and what comes back is then shorter.

## Main definitions

* `RawText.IsEncodable`: raw texts that reach the system.
* `RawText.settled`: what a raw text comes back as.

## Main statements

* `RawText.encode_decode`: what is handed over goes back unchanged.
* `RawText.settled_text`, `RawText.length_settled_le`: what comes back.
-/
namespace LaunchKit.RawText

variable {raw : RawText} {bytes rest : Bytes} {c : Char} {byte : UInt8} {skipped : Nat}

/-! ## Encoding -/

/-- A raw text all of whose code points have bytes. -/
def IsEncodable (raw : RawText) : Prop := ∀ point ∈ raw, point.bytes?.isSome

instance (raw : RawText) : Decidable (IsEncodable raw) := by
  unfold IsEncodable
  infer_instance

/-- The bytes of all code points that have any. -/
def encoded (raw : RawText) : Bytes := raw.flatMap fun point => point.bytes?.getD []

theorem isEncodable_cons {point : CodePoint} :
    IsEncodable (point :: raw) ↔ point.bytes?.isSome ∧ raw.IsEncodable := List.forall_mem_cons

theorem encodeFrom_eq_ok_iff {position : Nat} :
    encodeFrom position raw = .ok bytes ↔ raw.IsEncodable ∧ raw.encoded = bytes := by
  induction raw generalizing position bytes with
  | nil => simp [encodeFrom, IsEncodable, encoded]
  | cons point raw ih =>
    rw [isEncodable_cons, encodeFrom, encoded, List.flatMap_cons, ← encoded]
    cases hpoint : point.bytes? with
    | none => simp
    | some first =>
      simp only [map_eq_ok_iff, ih, and_assoc, exists_and_left, exists_eq_left', Option.isSome_some,
        Option.getD_some, true_and]

/-- **Encoding** puts the bytes of all code points together, if all have any. -/
theorem encode_eq_ok_iff : raw.encode = .ok bytes ↔ raw.IsEncodable ∧ raw.encoded = bytes :=
  encodeFrom_eq_ok_iff

/-- A text has its own encoding. -/
theorem encoded_text (text : Text) : encoded text = text.bytes := by
  simp [encoded, Text.bytes, List.flatMap_map, CodePoint.bytes?]

theorem isEncodable_text (text : Text) : IsEncodable text := by
  simp [IsEncodable, CodePoint.bytes?]

/-! ## Characters at the head of bytes -/

/-- A byte that no character begins with. -/
def IsFollower (byte : UInt8) : Prop := 0x80 ≤ byte.toNat ∧ byte.toNat < 0xC0

theorem isFollower_ofNat (n : Nat) :
    IsFollower (UInt8.ofNat n) ↔ 0x80 ≤ n % 256 ∧ n % 256 < 0xC0 := by
  rw [IsFollower, UInt8.toNat_ofNat']

/-- A character is a first byte and followers. -/
theorem exists_utf8EncodeChar (c : Char) :
    ∃ byte followers, String.utf8EncodeChar c = byte :: followers ∧ ¬IsFollower byte ∧
      followers.length = c.utf8Size - 1 ∧ ∀ follower ∈ followers, IsFollower follower := by
  have hfollower (n : Nat) : IsFollower (UInt8.ofNat (n % 64 + 128)) := by
    rw [isFollower_ofNat]
    omega
  obtain ⟨byte, followers, heq, hbyte, hfollowers⟩ :
      ∃ byte followers, String.utf8EncodeChar c = byte :: followers ∧ ¬IsFollower byte ∧
        ∀ follower ∈ followers, IsFollower follower := by
    -- One branch for each number of bytes.
    simp only [String.utf8EncodeChar]
    repeat' split
    all_goals
      refine ⟨_, _, rfl, ?_, ?_⟩
      · rw [isFollower_ofNat]
        omega
      · repeat' first
          | exact List.forall_mem_nil _
          | refine List.forall_mem_cons.mpr ⟨hfollower _, ?_⟩
  have hlength := String.length_utf8EncodeChar c
  rw [heq, List.length_cons] at hlength
  exact ⟨byte, followers, heq, hbyte, by omega, hfollowers⟩

/-- The character that was written is read. -/
theorem first?_encode_append (c : Char) (rest : Bytes) :
    first? (String.utf8EncodeChar c ++ rest) = some c := by
  have hlength : (String.utf8EncodeChar c).length ≤ 4 := by
    rw [String.length_utf8EncodeChar]
    exact c.utf8Size_le_four
  rw [first?, List.take_append, List.take_of_length_le hlength, List.toByteArray_append]
  exact ByteArray.utf8DecodeChar?_utf8EncodeChar_append

/-- The character that is read was written. -/
theorem exists_of_first?_eq_some (h : first? bytes = some c) :
    ∃ rest, bytes = String.utf8EncodeChar c ++ rest := by
  obtain ⟨rest, hrest⟩ := ByteArray.exists_of_utf8DecodeChar?_eq_some h
  have hlist := congrArg (·.data.toList) hrest
  simp only [List.toList_data_toByteArray, ByteArray.data_append, Array.toList_append] at hlist
  have hprefix : String.utf8EncodeChar c <+: bytes.take 4 := ⟨_, hlist.symm⟩
  obtain ⟨rest, heq⟩ := hprefix.trans (List.take_prefix 4 bytes)
  exact ⟨rest, heq.symm⟩

/-- Every byte of ASCII is a character. -/
theorem first?_ne_none (hbyte : byte.toNat < 0x80) : first? (byte :: rest) ≠ none := by
  have hchar : String.utf8EncodeChar (Char.ofNat byte.toNat) = [byte] := by
    have hcode : (Char.ofNat byte.toNat).val.toNat = byte.toNat := by
      rw [Char.ofNat, dif_pos (Or.inl (by omega))]
      rfl
    have hle : byte.toNat ≤ 0x7F := by omega
    simp only [String.utf8EncodeChar, hcode, if_pos hle, UInt8.ofNat_toNat]
  intro heq
  have hsome := first?_encode_append (Char.ofNat byte.toNat) rest
  rw [hchar] at hsome
  cases hsome.symm.trans heq

/-! ## Decoding -/

/-- What belongs to a character that was read is passed over. -/
theorem decodeFrom_append (followers rest : Bytes) :
    decodeFrom followers.length (followers ++ rest) = decodeFrom 0 rest := by
  induction followers with
  | nil => rfl
  | cons byte followers ih => exact ih

/-- The first character that was written is the first that is read. -/
theorem decode_encode_append (c : Char) (rest : Bytes) :
    decode (String.utf8EncodeChar c ++ rest) = .character c :: decode rest := by
  obtain ⟨byte, followers, heq, -, hlength, -⟩ := exists_utf8EncodeChar c
  have hfirst := first?_encode_append c rest
  rw [heq, List.cons_append] at hfirst
  simp only [decode, heq, List.cons_append, decodeFrom, hfirst, ← hlength, decodeFrom_append]

/-- **A text is read as it was written.** -/
theorem decode_bytes (text : Text) : decode text.bytes = text := by
  induction text with
  | nil => rfl
  | cons c text ih =>
    rw [Text.bytes, List.flatMap_cons, ← Text.bytes, decode_encode_append, ih]
    rfl

theorem bytes?_ofByte (hbyte : 0x80 ≤ byte.toNat) :
    (CodePoint.ofByte byte).bytes? = some [byte] := by
  have hlt := byte.toNat_lt
  have hplace : 0x480 ≤ 0x400 + byte.toNat ∧ 0x400 + byte.toNat < 0x500 := by omega
  rw [CodePoint.ofByte, CodePoint.bytes?, if_pos hplace, Nat.add_sub_cancel_left, UInt8.ofNat_toNat]

/-- What is written of the bytes that were not passed over. -/
theorem encode_decodeFrom (skipped : Nat) (bytes : Bytes) :
    (decodeFrom skipped bytes).IsEncodable ∧
      (decodeFrom skipped bytes).encoded = bytes.drop skipped := by
  induction bytes generalizing skipped with
  | nil => simp [decodeFrom, IsEncodable, encoded]
  | cons byte rest ih =>
    cases skipped with
    | succ skipped => exact ih skipped
    | zero =>
      rw [decodeFrom]
      split
      · next c hfirst =>
        obtain ⟨behind, heq⟩ := exists_of_first?_eq_some hfirst
        obtain ⟨hencodable, hencoded⟩ := ih (c.utf8Size - 1)
        obtain ⟨first, followers, hchar, -, hlength, -⟩ := exists_utf8EncodeChar c
        refine ⟨isEncodable_cons.mpr ⟨rfl, hencodable⟩, ?_⟩
        rw [hchar, List.cons_append, List.cons.injEq] at heq
        obtain ⟨rfl, rfl⟩ := heq
        rw [encoded, List.flatMap_cons, ← encoded, hencoded, ← hlength, List.drop_left]
        simp [CodePoint.bytes?, hchar]
      · next hfirst =>
        have hbyte : 0x80 ≤ byte.toNat :=
          Nat.le_of_not_lt fun hlt => first?_ne_none hlt hfirst
        obtain ⟨hencodable, hencoded⟩ := ih 0
        refine ⟨isEncodable_cons.mpr ⟨by rw [bytes?_ofByte hbyte]; rfl, hencodable⟩, ?_⟩
        rw [encoded, List.flatMap_cons, ← encoded, hencoded, bytes?_ofByte hbyte]
        rfl

/-- **What is handed over** goes back to the system unchanged. -/
theorem encode_decode (bytes : Bytes) : (decode bytes).encode = .ok bytes :=
  encode_eq_ok_iff.mpr (encode_decodeFrom 0 bytes)

/-! ## There and back -/

/-- A code point is written as a character is, or as one byte. -/
theorem encoded_cons {point : CodePoint} (h : IsEncodable (point :: raw)) :
    (∃ c, point = .character c ∧ encoded (point :: raw) = String.utf8EncodeChar c ++ raw.encoded) ∨
      ∃ byte, encoded (point :: raw) = byte :: raw.encoded := by
  have hpoint := (isEncodable_cons.mp h).1
  rw [encoded, List.flatMap_cons, ← encoded]
  cases point with
  | character c => exact Or.inl ⟨c, rfl, rfl⟩
  | surrogate place =>
    rw [CodePoint.bytes?] at hpoint ⊢
    split at hpoint
    · next hplace => exact Or.inr ⟨_, by rw [if_pos hplace]; rfl⟩
    · cases hpoint

/-- What is read is no longer than what was written, also when the bytes that are passed over belong
to a character. -/
theorem length_decodeFrom_le (hraw : raw.IsEncodable)
    (hskipped : ∀ byte ∈ raw.encoded.take skipped, IsFollower byte) :
    (decodeFrom skipped raw.encoded).length ≤ raw.length := by
  induction raw generalizing skipped with
  | nil => simp [encoded, decodeFrom]
  | cons point raw ih =>
    have hrest := (isEncodable_cons.mp hraw).2
    rcases encoded_cons hraw with ⟨c, -, heq⟩ | ⟨byte, heq⟩
    · cases skipped with
      | zero =>
        have hread := decode_encode_append c (encoded raw)
        rw [decode] at hread
        rw [heq, hread]
        exact Nat.succ_le_succ (ih hrest (by simp))
      | succ skipped =>
        -- No character begins with a byte that belongs to another.
        obtain ⟨first, followers, hchar, hfirst, -⟩ := exists_utf8EncodeChar c
        rw [heq, hchar] at hskipped
        exact absurd (hskipped first (by simp)) hfirst
    · rw [heq] at hskipped ⊢
      cases skipped with
      | zero =>
        rw [decodeFrom]
        split
        · next c hfirst =>
          obtain ⟨behind, hbytes⟩ := exists_of_first?_eq_some hfirst
          obtain ⟨first, followers, hchar, -, hlength, hfollowers⟩ := exists_utf8EncodeChar c
          rw [hchar, List.cons_append, List.cons.injEq] at hbytes
          apply Nat.succ_le_succ (ih hrest _)
          rw [hbytes.2, ← hlength, List.take_left]
          exact hfollowers
        · exact Nat.succ_le_succ (ih hrest (by simp))
      | succ skipped =>
        rw [List.take_succ_cons, List.forall_mem_cons] at hskipped
        exact Nat.le_succ_of_le (ih hrest hskipped.2)

/-- What a raw text comes back as. -/
def settled (raw : RawText) : RawText := decode raw.encoded

/-- **A text comes back** as it was. -/
theorem settled_text (text : Text) : settled text = text := by
  rw [settled, encoded_text, decode_bytes]

/-- **What comes back** is no longer than it was. -/
theorem length_settled_le (h : raw.IsEncodable) : raw.settled.length ≤ raw.length :=
  length_decodeFrom_le h (by simp)

end LaunchKit.RawText
