import Mathlib.Algebra.Ring.Nat
import CppOptimizer.Common.Error

/-!
# CppOptimizer.Ipc.Protocol

The frame header of `ipc_protocol.cpp`: 16 bytes, little endian, checked field by field. A frame is a
header followed by as many payload bytes as it announces.
-/

namespace CppOptimizer
namespace Ipc

open Common

abbrev Bytes := List UInt8

/-- A literal of ASCII characters. -/
def ascii (s : String) : Bytes := s.toList.map fun c => UInt8.ofNat c.toNat

/-- Wide text: UTF-16 code units. -/
abbrev WideText := List UInt16

def kIpcMagic : UInt32 := 0x43504F50
def kIpcVersion : UInt8 := 1
def kMaxPayloadLength : UInt32 := 4096
def kIpcHeaderSize : Nat := 16

inductive IpcMessageType where
  | ping | ack | factsSnapshot | error
  deriving DecidableEq, Repr

def IpcMessageType.toByte : IpcMessageType → UInt8
  | .ping => 0x01
  | .ack => 0x02
  | .factsSnapshot => 0x03
  | .error => 0x04

def parseMessageType (value : UInt8) : Option IpcMessageType :=
  if value = 0x01 then some .ping
  else if value = 0x02 then some .ack
  else if value = 0x03 then some .factsSnapshot
  else if value = 0x04 then some .error
  else none

@[simp] theorem parseMessageType_toByte (type : IpcMessageType) :
    parseMessageType type.toByte = some type := by
  cases type <;> decide

structure IpcHeader where
  magic : UInt32 := kIpcMagic
  version : UInt8 := kIpcVersion
  type : UInt8 := IpcMessageType.ping.toByte
  reserved : UInt16 := 0
  payloadLength : UInt32 := 0
  requestId : UInt32 := 0
  deriving DecidableEq, Repr

def makeIpcHeader (type : IpcMessageType) (payloadLength requestId : UInt32) : IpcHeader :=
  { type := type.toByte, payloadLength := payloadLength, requestId := requestId }

def validateIpcHeader (header : IpcHeader) : Result Unit :=
  if header.magic ≠ kIpcMagic then
    .error (.validation "ValidateIpcHeader" "帧魔数不匹配，拒绝")
  else if header.version ≠ kIpcVersion then
    .error (.validation "ValidateIpcHeader" "不支持的协议版本")
  else if parseMessageType header.type = none then
    .error (.validation "ValidateIpcHeader" "未知消息类型，拒绝")
  else if header.reserved ≠ 0 then
    .error (.validation "ValidateIpcHeader" "预留字段非零，拒绝")
  else if header.payloadLength > kMaxPayloadLength then
    .error (.validation "ValidateIpcHeader" "载荷超过上限")
  else .ok ()

/-- A header the program builds itself can only fail by its length. -/
theorem validateIpcHeader_make {type : IpcMessageType} {payloadLength requestId : UInt32}
    (h : payloadLength ≤ kMaxPayloadLength) :
    validateIpcHeader (makeIpcHeader type payloadLength requestId) = .ok () := by
  have hlen : ¬ payloadLength > kMaxPayloadLength := by
    intro hgt
    exact absurd (UInt32.lt_of_lt_of_le hgt h) (UInt32.lt_irrefl _)
  simp [validateIpcHeader, makeIpcHeader, hlen]

def readU32LE (b0 b1 b2 b3 : UInt8) : UInt32 :=
  b0.toUInt32 ||| (b1.toUInt32 <<< 8) ||| (b2.toUInt32 <<< 16) ||| (b3.toUInt32 <<< 24)

def writeU32LE (value : UInt32) : Bytes :=
  [value.toUInt8, (value >>> 8).toUInt8, (value >>> 16).toUInt8, (value >>> 24).toUInt8]

def serializeHeader (header : IpcHeader) : Bytes :=
  writeU32LE header.magic ++
    [header.version, header.type, header.reserved.toUInt8, (header.reserved >>> 8).toUInt8] ++
    writeU32LE header.payloadLength ++ writeU32LE header.requestId

def parseHeader : Bytes → Result IpcHeader
  | [b0, b1, b2, b3, b4, b5, b6, b7, b8, b9, b10, b11, b12, b13, b14, b15] =>
    let header : IpcHeader :=
      { magic := readU32LE b0 b1 b2 b3
        version := b4
        type := b5
        reserved := b6.toUInt16 ||| (b7.toUInt16 <<< 8)
        payloadLength := readU32LE b8 b9 b10 b11
        requestId := readU32LE b12 b13 b14 b15 }
    match validateIpcHeader header with
    | .error e => .error e
    | .ok () => .ok header
  | _ => .error (.validation "ParseHeader" "帧头长度必须为 16 字节")

/-- `MakeFrame`: the header and the payload it announces. -/
def makeFrame (type : IpcMessageType) (requestId : UInt32) (payload : Bytes) : Bytes :=
  serializeHeader (makeIpcHeader type (UInt32.ofNat payload.length) requestId) ++ payload

/-! ## A header is read back -/

theorem or_shiftLeft {a k : Nat} (b : Nat) (h : a < 2 ^ k) : a ||| b <<< k = a + b * 2 ^ k := by
  rw [Nat.or_comm, Nat.shiftLeft_eq, Nat.mul_comm, ← Nat.two_pow_add_eq_or_of_lt h, Nat.add_comm,
    Nat.mul_comm]

/-- A byte stays within the word it is moved up in. -/
theorem shiftLeft_byte (b : UInt8) {k width : Nat} (h : 8 + k ≤ width) :
    b.toNat <<< k % 2 ^ width = b.toNat <<< k := by
  refine Nat.mod_eq_of_lt ?_
  rw [Nat.shiftLeft_eq]
  calc b.toNat * 2 ^ k < 2 ^ 8 * 2 ^ k := Nat.mul_lt_mul_of_pos_right b.toNat_lt (Nat.two_pow_pos k)
    _ = 2 ^ (8 + k) := (Nat.pow_add 2 8 k).symm
    _ ≤ 2 ^ width := Nat.pow_le_pow_right (by decide) h

theorem toNat_readU32LE (b0 b1 b2 b3 : UInt8) :
    (readU32LE b0 b1 b2 b3).toNat =
      b0.toNat + b1.toNat * 2 ^ 8 + b2.toNat * 2 ^ 16 + b3.toNat * 2 ^ 24 := by
  have h0 := b0.toNat_lt
  have h1 := b1.toNat_lt
  have h2 := b2.toNat_lt
  have h8 : UInt32.toNat 8 % 32 = 8 := rfl
  have h16 : UInt32.toNat 16 % 32 = 16 := rfl
  have h24 : UInt32.toNat 24 % 32 = 24 := rfl
  simp only [readU32LE, UInt32.toNat_or, UInt32.toNat_shiftLeft, UInt8.toNat_toUInt32, h8, h16, h24]
  rw [shiftLeft_byte b1 (by decide), shiftLeft_byte b2 (by decide), shiftLeft_byte b3 (by decide),
    or_shiftLeft b1.toNat h0, or_shiftLeft b2.toNat (by omega), or_shiftLeft b3.toNat (by omega)]

/-- The bytes that `writeU32LE` takes out of a value. -/
theorem toNat_bytes (v : UInt32) :
    v.toUInt8.toNat = v.toNat % 2 ^ 8 ∧ (v >>> 8).toUInt8.toNat = v.toNat / 2 ^ 8 % 2 ^ 8 ∧
      (v >>> 16).toUInt8.toNat = v.toNat / 2 ^ 16 % 2 ^ 8 ∧
      (v >>> 24).toUInt8.toNat = v.toNat / 2 ^ 24 % 2 ^ 8 := by
  simp [Nat.shiftRight_eq_div_pow]

theorem readU32LE_writeU32LE (v : UInt32) :
    readU32LE v.toUInt8 (v >>> 8).toUInt8 (v >>> 16).toUInt8 (v >>> 24).toUInt8 = v := by
  have hv := v.toNat_lt
  obtain ⟨h0, h1, h2, h3⟩ := toNat_bytes v
  apply UInt32.toNat_inj.mp
  rw [toNat_readU32LE, h0, h1, h2, h3]
  omega

theorem writeU32LE_readU32LE (b0 b1 b2 b3 : UInt8) :
    writeU32LE (readU32LE b0 b1 b2 b3) = [b0, b1, b2, b3] := by
  have hv := toNat_readU32LE b0 b1 b2 b3
  have hb0 := b0.toNat_lt
  have hb1 := b1.toNat_lt
  have hb2 := b2.toNat_lt
  have hb3 := b3.toNat_lt
  obtain ⟨h0, h1, h2, h3⟩ := toNat_bytes (readU32LE b0 b1 b2 b3)
  rw [hv] at h0 h1 h2 h3
  simp only [writeU32LE, List.cons.injEq, and_true]
  refine ⟨?_, ?_, ?_, ?_⟩
  all_goals
    apply UInt8.toNat_inj.mp
    omega

/-- The two bytes of the reserved field. -/
theorem toNat_reserved (b0 b1 : UInt8) :
    (b0.toUInt16 ||| b1.toUInt16 <<< 8).toNat = b0.toNat + b1.toNat * 2 ^ 8 := by
  have h0 := b0.toNat_lt
  have h8 : UInt16.toNat 8 % 16 = 8 := rfl
  simp only [UInt16.toNat_or, UInt16.toNat_shiftLeft, UInt8.toNat_toUInt16, h8]
  rw [shiftLeft_byte b1 (by decide), or_shiftLeft b1.toNat h0]

theorem read_write_reserved (v : UInt16) :
    v.toUInt8.toUInt16 ||| (v >>> 8).toUInt8.toUInt16 <<< 8 = v := by
  have hv := v.toNat_lt
  have h0 : v.toUInt8.toNat = v.toNat % 2 ^ 8 := by simp
  have h1 : (v >>> 8).toUInt8.toNat = v.toNat / 2 ^ 8 % 2 ^ 8 := by
    simp [Nat.shiftRight_eq_div_pow]
  apply UInt16.toNat_inj.mp
  rw [toNat_reserved, h0, h1]
  omega

theorem write_read_reserved (b0 b1 : UInt8) :
    (b0.toUInt16 ||| b1.toUInt16 <<< 8).toUInt8 = b0 ∧
      ((b0.toUInt16 ||| b1.toUInt16 <<< 8) >>> 8).toUInt8 = b1 := by
  have hb0 := b0.toNat_lt
  have hb1 := b1.toNat_lt
  have hv := toNat_reserved b0 b1
  constructor
  · apply UInt8.toNat_inj.mp
    rw [UInt16.toNat_toUInt8, hv]
    omega
  · apply UInt8.toNat_inj.mp
    have h8 : UInt16.toNat 8 % 16 = 8 := rfl
    rw [UInt16.toNat_toUInt8, UInt16.toNat_shiftRight, hv, h8, Nat.shiftRight_eq_div_pow]
    omega

@[simp] theorem length_serializeHeader (header : IpcHeader) :
    (serializeHeader header).length = kIpcHeaderSize := rfl

/-- The fields are read back; what is left is the check. -/
theorem parseHeader_serialize (header : IpcHeader) :
    parseHeader (serializeHeader header) = (validateIpcHeader header).map fun _ => header := by
  simp only [serializeHeader, writeU32LE, List.cons_append, List.nil_append, parseHeader,
    readU32LE_writeU32LE, read_write_reserved]
  cases validateIpcHeader header with
  | error e => rfl
  | ok u => rfl

/-- The header of a frame that is short enough. -/
theorem parseHeader_serializeHeader {type : IpcMessageType} {payloadLength requestId : UInt32}
    (h : payloadLength ≤ kMaxPayloadLength) :
    parseHeader (serializeHeader (makeIpcHeader type payloadLength requestId)) =
      .ok (makeIpcHeader type payloadLength requestId) := by
  rw [parseHeader_serialize, validateIpcHeader_make h]
  rfl

/-- Sixteen bytes are the serialisation of the fields read from them. -/
theorem eq_serializeHeader_of_parse {bytes : Bytes} {header : IpcHeader}
    (h : parseHeader bytes = .ok header) :
    validateIpcHeader header = .ok () ∧ bytes = serializeHeader header := by
  unfold parseHeader at h
  split at h
  · case _ b0 b1 b2 b3 b4 b5 b6 b7 b8 b9 b10 b11 b12 b13 b14 b15 =>
    dsimp only at h
    split at h
    · cases h
    · case _ hvalid =>
      cases h
      refine ⟨hvalid, ?_⟩
      obtain ⟨hlow, hhigh⟩ := write_read_reserved b6 b7
      simp only [serializeHeader, writeU32LE_readU32LE, hlow, hhigh, List.cons_append,
        List.nil_append]
  · cases h

/-- Valid headers are read back, and what is read is the serialisation of a valid header. -/
theorem header_codec :
    (∀ header, validateIpcHeader header = .ok () → parseHeader (serializeHeader header) = .ok header) ∧
      ∀ bytes header, parseHeader bytes = .ok header ↔
        validateIpcHeader header = .ok () ∧ bytes = serializeHeader header := by
  have hread : ∀ header, validateIpcHeader header = .ok () →
      parseHeader (serializeHeader header) = .ok header := by
    intro header hvalid
    rw [parseHeader_serialize, hvalid]
    rfl
  refine ⟨hread, fun bytes header => ⟨eq_serializeHeader_of_parse, ?_⟩⟩
  rintro ⟨hvalid, rfl⟩
  exact hread header hvalid

theorem header_codec_high_bytes :
    let header : IpcHeader := { type := 0x03, payloadLength := 4096, requestId := 0xFEDCBA98 }
    validateIpcHeader header = .ok () ∧ parseHeader (serializeHeader header) = .ok header := by
  intro header
  have hvalid : validateIpcHeader header = .ok () := by decide
  exact ⟨hvalid, header_codec.1 header hvalid⟩

end Ipc
end CppOptimizer
