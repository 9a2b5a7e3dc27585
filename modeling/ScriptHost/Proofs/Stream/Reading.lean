import ScriptHost.Proofs.Text.Utf8
import ScriptHost.Stream.Reading

/-!
# Reading texts

What a reader hands out is the same however it is cut and however often it is interrupted. A text
is read from it in one of two ways, and where the strict one succeeds both read the same: strict
reading is for the bytes of texts, and lossy reading does not change these.

- `Delivery.fault?`, `delivered`: whether a delivery is a failure, and all bytes of a reader.
- `readToEnd_eq`: what is read in the end.
- `decode_strict_eq_ok_iff`, `decode_encode`: strict decoding, and texts that are decoded again.
- `strict_read_iff_lossy_exact`: strict reading in terms of lossy reading.
-/

namespace ScriptHost

/-! ## All bytes of a reader -/

/-- The bytes of a delivery. -/
def Delivery.content : Delivery → List UInt8
  | .bytes b => b
  | .interrupted | .failure _ => []

/-- The error of a delivery that is a failure. -/
def Delivery.fault? : Delivery → Option IoError
  | .bytes _ | .interrupted => none
  | .failure e => some e

/-- All bytes that a reader hands out, one delivery after another. -/
def delivered (reader : List Delivery) : List UInt8 := reader.flatMap Delivery.content

/-- The first failure decides, and otherwise only what the deliveries amount to. -/
theorem readToEnd_eq (reader : List Delivery) :
    readToEnd reader =
      match reader.findSome? Delivery.fault? with
      | some e => .error e
      | none => .ok (delivered reader) := by
  induction reader with
  | nil => rfl
  | cons d reader ih =>
    cases d with
    | interrupted => exact ih
    | failure e => rfl
    | bytes b =>
      rw [readToEnd, ih]
      show _ = match reader.findSome? Delivery.fault? with
        | some e => Except.error e
        | none => Except.ok (b ++ delivered reader)
      cases reader.findSome? Delivery.fault? <;> rfl

namespace Decoding

theorem read_of_steady {reader : List Delivery} (steady : ∀ e, .failure e ∉ reader)
    (d : Decoding) : d.read reader = d.decode (delivered reader) := by
  have hnone : reader.findSome? Delivery.fault? = none := by
    rw [List.findSome?_eq_none_iff]
    intro x hx
    cases x with
    | bytes b => rfl
    | interrupted => rfl
    | failure e => exact absurd hx (steady e)
  rw [read, readToEnd_eq, hnone]

/-! ## Strict and lossy -/

/-- Strict decoding is for the bytes of texts. -/
theorem decode_strict_eq_ok_iff {bytes : List UInt8} {t : String} :
    strict.decode bytes = .ok t ↔ Text.encode t = bytes := by
  rw [← Text.decodeStrict_eq_ok_iff, decode]
  cases Text.decodeStrict bytes <;> simp [Except.mapError]

/-- A text is its own decoding. -/
theorem decode_encode (d : Decoding) (t : String) : d.decode (Text.encode t) = .ok t := by
  cases d with
  | lossy => exact congrArg Except.ok (Text.decodeLossy_encode t)
  | strict => exact decode_strict_eq_ok_iff.mpr rfl

theorem exists_decode_strict_iff {bytes : List UInt8} :
    (∃ u, strict.decode bytes = .ok u) ↔ Text.encode (Text.decodeLossy bytes) = bytes := by
  constructor
  · rintro ⟨u, hu⟩
    rw [← decode_strict_eq_ok_iff.mp hu, Text.decodeLossy_encode]
  · intro h
    exact ⟨_, decode_strict_eq_ok_iff.mpr h⟩

/-- If a reader does not fail, lossy reading gives the text in which each faulty stretch is
replaced. Strict reading succeeds just if this text has the bytes that were read, which is to say
that they are well-formed, and then gives the same text. Read again, the text stays as it is. -/
theorem strict_read_iff_lossy_exact (reader : List Delivery)
    (steady : ∀ e, .failure e ∉ reader) :
    ∃ t, lossy.read reader = .ok t
      ∧ (∀ u : String, Text.Repairs (delivered reader) u.toList ↔ u = t)
      ∧ ((∃ u, strict.read reader = .ok u) ↔ Text.encode t = delivered reader)
      ∧ (Text.encode t = delivered reader ↔ (delivered reader).toByteArray.IsValidUTF8)
      ∧ (∀ u, strict.read reader = .ok u → u = t ∧ Text.encode u = delivered reader)
      ∧ ∀ (d : Decoding) (again : List Delivery), (∀ e, .failure e ∉ again) →
          delivered again = Text.encode t → d.read again = .ok t := by
  have hstrict : ∀ u, strict.read reader = .ok u ↔ Text.encode u = delivered reader := by
    intro u
    rw [read_of_steady steady, decode_strict_eq_ok_iff]
  refine ⟨Text.decodeLossy (delivered reader), read_of_steady steady lossy, ?repairs, ?exact,
    ?valid, ?same, ?again⟩
  case repairs =>
    intro u
    rw [Text.repairs_iff]
    exact eq_comm
  case exact =>
    rw [read_of_steady steady]
    exact exists_decode_strict_iff
  case valid =>
    rw [Text.isValidUTF8_iff, ← exists_decode_strict_iff]
    exact exists_congr fun u => decode_strict_eq_ok_iff
  case same =>
    intro u hu
    have hbytes := (hstrict u).mp hu
    refine ⟨?_, hbytes⟩
    rw [← hbytes, Text.decodeLossy_encode]
  case again =>
    intro d again hagain hbytes
    rw [read_of_steady hagain, hbytes, decode_encode]

/-- A zero byte and a replacement character that was there before, cut in two. -/
theorem strict_read_iff_lossy_exact_replacement :
    let reader : List Delivery := [.bytes [0x61, 0x00, 0xEF], .interrupted, .bytes [0xBF, 0xBD]]
    (∀ e, .failure e ∉ reader) ∧ ∀ d : Decoding, d.read reader = .ok "a\x00\uFFFD" := by
  intro reader
  have steady : ∀ e, .failure e ∉ reader := by simp [reader]
  have hrepairs : Text.Repairs (delivered reader) "a\x00\uFFFD".toList :=
    .char 'a' (.char '\x00' (.char '\uFFFD' .nil))
  obtain ⟨t, -, ht, -, -, -, hagain⟩ := strict_read_iff_lossy_exact reader steady
  obtain rfl := (ht _).mp hrepairs
  exact ⟨steady, fun d => hagain d reader steady rfl⟩

end Decoding

end ScriptHost
