import Scaffold.Text.Quoted

/-!
# Reading bytes as text

The bytes of a file are text when they are the encoding of some characters. Other bytes hold
malformed pieces: a piece is the longest start of an encoded character that goes wrong at its end,
or a single byte that starts no character.

* `nextPiece?`: the first character of some bytes, or the first malformed piece and what is wrong.
* `decode`: the text, or where the first malformed piece lies.
* `decodeLossy`: the text with a replacement character for every malformed piece.
* `toByteArray_of_decode`, `decode_toByteArray`: a text that is decoded encodes to the same bytes again,
  and is read back from them.
-/

namespace Scaffold.Text.Utf8

/-! ## Pieces -/

/-- What is wrong with a malformed piece. -/
inductive Defect where
  /-- Its byte starts no character. -/
  | badStart
  /-- The byte after it does not go on with the character. -/
  | badContinuation
  /-- The bytes end in the middle of a character. -/
  | unexpectedEnd
  deriving DecidableEq, Repr

/-- The first piece of some bytes. -/
inductive Piece where
  | character (c : Char)
  | malformed (length : Nat) (defect : Defect)
  deriving DecidableEq, Repr

/-- What a first byte promises: how many bytes follow, between which bounds the next one lies, and
the bits of the character that it holds. -/
structure Lead where
  owed : Nat
  low : Nat
  high : Nat
  bits : Nat
  deriving DecidableEq, Repr

/-- The promise of a byte, if it may start a character. -/
def Lead.ofByte? (b : Nat) : Option Lead :=
  if b < 0x80 then some ⟨0, 0x80, 0xBF, b⟩
  else if b < 0xC2 then none
  else if b < 0xE0 then some ⟨1, 0x80, 0xBF, b - 0xC0⟩
  else if b = 0xE0 then some ⟨2, 0xA0, 0xBF, 0⟩
  else if b = 0xED then some ⟨2, 0x80, 0x9F, 0xD⟩
  else if b < 0xF0 then some ⟨2, 0x80, 0xBF, b - 0xE0⟩
  else if b = 0xF0 then some ⟨3, 0x90, 0xBF, 0⟩
  else if b < 0xF4 then some ⟨3, 0x80, 0xBF, b - 0xF0⟩
  else if b = 0xF4 then some ⟨3, 0x80, 0x8F, 4⟩
  else none

/-- Goes on with a character after `length` bytes of it, of which `owed` are still to come, the next
one between `low` and `high`. -/
def continuePiece (length low high bits : Nat) : Nat → List UInt8 → Piece × List UInt8
  | 0, bs => (.character (Char.ofNat bits), bs)
  | _ + 1, [] => (.malformed length .unexpectedEnd, [])
  | owed + 1, b :: bs =>
    if low ≤ b.toNat ∧ b.toNat ≤ high then
      continuePiece (length + 1) 0x80 0xBF (bits * 64 + (b.toNat - 0x80)) owed bs
    else
      (.malformed length .badContinuation, b :: bs)

/-- The first piece of some bytes, and the bytes behind it. -/
def nextPiece? : List UInt8 → Option (Piece × List UInt8)
  | [] => none
  | b :: bs =>
    match Lead.ofByte? b.toNat with
    | none => some (.malformed 1 .badStart, bs)
    | some lead => some (continuePiece 1 lead.low lead.high lead.bits lead.owed bs)

/-- Going on with a piece leaves no more bytes than there were. -/
theorem continuePiece_length_le (owed : Nat) (length low high bits : Nat) (bs : List UInt8) :
    (continuePiece length low high bits owed bs).2.length ≤ bs.length := by
  fun_induction continuePiece length low high bits owed bs <;> grind

/-- A piece uses up some of the bytes. -/
theorem nextPiece?_shorter {bs rest : List UInt8} {p : Piece}
    (h : nextPiece? bs = some (p, rest)) : rest.length < bs.length := by
  cases bs with
  | nil => simp [nextPiece?] at h
  | cons b bs =>
    simp only [nextPiece?] at h
    split at h
    · obtain ⟨-, rfl⟩ := Prod.mk.inj (Option.some.inj h)
      simp
    · rename_i lead _
      have hle := continuePiece_length_le lead.owed 1 lead.low lead.high lead.bits bs
      rw [Option.some.inj h] at hle
      simp only [List.length_cons] at hle ⊢
      omega

/-- All pieces of some bytes. -/
def pieces (bs : List UInt8) : List Piece :=
  match _h : nextPiece? bs with
  | none => []
  | some (p, rest) => p :: pieces rest
termination_by bs.length
decreasing_by exact nextPiece?_shorter _h

/-! ## Decoding -/

/-- Where bytes stop being text: the bytes before the malformed piece, its bytes, and its defect. -/
structure Malformed where
  position : Nat
  bytes : List UInt8
  defect : Defect
  deriving DecidableEq, Repr

/-- The first malformed piece of the bytes that come after `position` others. -/
def firstMalformed? (position : Nat) (bs : List UInt8) : Option Malformed :=
  match _h : nextPiece? bs with
  | none => none
  | some (.malformed length defect, _) => some ⟨position, bs.take length, defect⟩
  | some (.character _, rest) => firstMalformed? (position + (bs.length - rest.length)) rest
termination_by bs.length
decreasing_by exact nextPiece?_shorter _h

/-- The text that some bytes encode, or where they fail to encode one. -/
def decode (bytes : ByteArray) : Except Malformed String :=
  match String.fromUTF8? bytes with
  | some s => .ok s
  | none => .error ((firstMalformed? 0 bytes.data.toList).getD ⟨0, [], .badStart⟩)

/-- A text is encoded as the bytes that it was decoded from. -/
theorem toByteArray_of_decode {bytes : ByteArray} {s : String} (h : decode bytes = .ok s) :
    s.toByteArray = bytes := by
  unfold decode at h
  split at h
  · rename_i t ht
    obtain rfl : t = s := by simpa using h
    unfold String.fromUTF8? at ht
    split at ht
    · obtain rfl := Option.some.inj ht
      rfl
    · simp at ht
  · simp at h

/-- Bytes that are the encoding of some characters are text. -/
theorem exists_decode {bytes : ByteArray} (h : bytes.IsValidUTF8) :
    ∃ s, decode bytes = .ok s := by
  rw [decode, String.fromUTF8?, dif_pos h]
  exact ⟨_, rfl⟩

/-- Other bytes are not. -/
theorem exists_decode_error {bytes : ByteArray} (h : ¬ bytes.IsValidUTF8) :
    ∃ m, decode bytes = .error m := by
  rw [decode, String.fromUTF8?, dif_neg h]
  exact ⟨_, rfl⟩

/-- A text is read back from its bytes. -/
theorem decode_toByteArray (s : String) : decode s.toByteArray = .ok s := by
  obtain ⟨t, ht⟩ := exists_decode s.isValidUTF8
  rw [ht, String.toByteArray_inj.mp (toByteArray_of_decode ht)]

/-- The character that stands for a malformed piece. -/
def replacementCharacter : Char := '\uFFFD'

/-- The text of some bytes, with a replacement character for every malformed piece. -/
def decodeLossy (bs : List UInt8) : String :=
  String.ofList <| (pieces bs).map fun
    | .character c => c
    | .malformed _ _ => replacementCharacter

/-! ## Wording -/

/-- The wording of a defect. -/
def Defect.message : Defect → String
  | .badStart => "invalid start byte"
  | .badContinuation => "invalid continuation byte"
  | .unexpectedEnd => "unexpected end of data"

/-- The wording of a failure to decode: a single byte is shown, several are counted off. -/
def Malformed.message (m : Malformed) : String :=
  let place :=
    match m.bytes with
    | [b] =>
      "byte 0x" ++ String.ofList (hexDigits 2 b.toNat) ++ " in position " ++ toString m.position
    | bs =>
      "bytes in position " ++ toString m.position ++ "-" ++
        toString (m.position + bs.length - 1)
  "'utf-8' codec can't decode " ++ place ++ ": " ++ m.defect.message

end Scaffold.Text.Utf8
